import DirectoryRecords.Proofs.Cuts
import DirectoryRecords.Proofs.DecimalNumbers
import DirectoryRecords.Proofs.SchemaRequests

/-!
# Connection identity — which connections share a schema

    A connection is identified by one text: the address of its server and the
    name that binds, with a word of its own for a connection that binds without
    a name. The text is taken apart from left to right. The scheme ends at the
    first colon and a host without colons at the next; the digits of the number
    end at a space; and what is left is the name, whatever it contains
    (`identity_eq_iff_principal`).

    So the identity tells servers apart, and it tells names apart but for one
    case: the word for no name may be given as a name (`principal_eq_iff`).
    What requests for other identities do to the cache was settled for runs of
    them; with it two connections have an entry in common exactly when they are
    `Alike`.
-/

namespace DirectoryRecords

open Text

/-- Different numbers are written differently. -/
theorem Decimal.write_injective : Function.Injective write := by
  intro n m h
  calc n = Nat.ofDigitChars 10 (write n) 0 := (ofDigitChars_write n).symm
    _ = Nat.ofDigitChars 10 (write m) 0 := by rw [h]
    _ = m := ofDigitChars_write m

namespace LdapSettings

variable {settings other : LdapSettings}

/-! ## Taking an identity apart -/

/-- What the address of a server starts with. -/
def scheme (useSsl : Bool) : Text :=
  if useSsl then "ldaps".toList else "ldap".toList

/-- The word that stands for no name. -/
def anonymous : Text := "anonymous"

/-- Who binds, as the identity shows it. -/
def principal (settings : LdapSettings) : Text :=
  if settings.bindDn.isEmpty then anonymous else settings.bindDn

/-- The identity with the marks at which it is taken apart. -/
theorem identity_eq (settings : LdapSettings) :
    settings.identity = scheme settings.useSsl ++ ':' :: ("//".toList ++ (settings.host ++
      ':' :: (Decimal.write settings.tcpPort.toNat ++ ' ' :: ("as ".toList ++
        settings.principal)))) := by
  simp only [identity, url, List.append_assoc, List.cons_append]
  rfl

theorem scheme_injective : Function.Injective scheme := fun one other =>
  (by decide : ∀ one other, scheme one = scheme other → one = other) one other

theorem colon_not_mem_scheme (useSsl : Bool) : ':' ∉ scheme useSsl := by
  cases useSsl with
  | false => decide
  | true => decide

theorem space_not_mem_write (n : Nat) : ' ' ∉ Decimal.write n :=
  fun hmem => nomatch Decimal.isDigit_of_mem_write hmem

/-- Two connections reach one server in one way. -/
structure SameServer (settings other : LdapSettings) : Prop where
  useSsl : settings.useSsl = other.useSsl
  host : settings.host = other.host
  tcpPort : settings.tcpPort = other.tcpPort

/-- The parts of an identity can be read off it. -/
theorem identity_eq_iff_principal (hhost : ':' ∉ settings.host) (hother : ':' ∉ other.host) :
    settings.identity = other.identity ↔
      SameServer settings other ∧ settings.principal = other.principal := by
  constructor
  · intro h
    rw [identity_eq, identity_eq] at h
    obtain ⟨hscheme, hrest⟩ :=
      eq_of_append_mark_eq h (colon_not_mem_scheme _) (colon_not_mem_scheme _)
    obtain ⟨hhosts, hrest⟩ :=
      eq_of_append_mark_eq (List.append_cancel_left hrest) hhost hother
    obtain ⟨hports, hrest⟩ :=
      eq_of_append_mark_eq hrest (space_not_mem_write _) (space_not_mem_write _)
    have hport : settings.tcpPort = other.tcpPort :=
      UInt16.toNat_inj.mp (Decimal.write_injective hports)
    exact ⟨⟨scheme_injective hscheme, hhosts, hport⟩, List.append_cancel_left hrest⟩
  · rintro ⟨⟨hssl, hhosts, hport⟩, hprincipal⟩
    rw [identity_eq, identity_eq, hssl, hhosts, hport, hprincipal]

/-! ## Who binds -/

/-- One of two connections binds without a name, and the other with the word for that as its
    name. -/
def Mistakable (settings other : LdapSettings) : Prop :=
  (settings.bindDn = [] ∧ other.bindDn = anonymous) ∨
    (settings.bindDn = anonymous ∧ other.bindDn = [])

theorem principal_of_nil (h : settings.bindDn = []) : settings.principal = anonymous := by
  rw [principal, h]
  rfl

theorem principal_of_ne_nil (h : settings.bindDn ≠ []) : settings.principal = settings.bindDn := by
  rw [principal, if_neg]
  rw [List.isEmpty_iff]
  exact h

/-- Who binds is told from others but for the one name that is the word for no name. -/
theorem principal_eq_iff :
    settings.principal = other.principal ↔
      settings.bindDn = other.bindDn ∨ Mistakable settings other := by
  by_cases hnone : settings.bindDn = []
  · by_cases hother : other.bindDn = []
    · rw [principal_of_nil hnone, principal_of_nil hother, hnone, hother]
      exact ⟨fun _ => .inl rfl, fun _ => rfl⟩
    · rw [principal_of_nil hnone, principal_of_ne_nil hother]
      constructor
      · exact fun h => .inr (.inl ⟨hnone, h.symm⟩)
      · rintro (h | ⟨-, h⟩ | ⟨-, h⟩)
        · exact absurd (h.symm.trans hnone) hother
        · exact h.symm
        · exact absurd h hother
  · by_cases hother : other.bindDn = []
    · rw [principal_of_ne_nil hnone, principal_of_nil hother]
      constructor
      · exact fun h => .inr (.inr ⟨h, hother⟩)
      · rintro (h | ⟨h, -⟩ | ⟨h, -⟩)
        · exact absurd (h.trans hother) hnone
        · exact absurd h hnone
        · exact h
    · rw [principal_of_ne_nil hnone, principal_of_ne_nil hother]
      constructor
      · exact .inl
      · rintro (h | ⟨h, -⟩ | ⟨-, h⟩)
        · exact h
        · exact absurd h hnone
        · exact absurd h hother

/-! ## One entry for both -/

/-- Two connections reach one server and bind with one name, or are `Mistakable` there. -/
def Alike (settings other : LdapSettings) : Prop :=
  SameServer settings other ∧ (settings.bindDn = other.bindDn ∨ Mistakable settings other)

theorem identity_eq_iff_alike (hhost : ':' ∉ settings.host) (hother : ':' ∉ other.host) :
    settings.identity = other.identity ↔ Alike settings other := by
  rw [identity_eq_iff_principal hhost hother, principal_eq_iff, Alike]

/-- **Which connections the identity tells apart.** For servers whose hosts have no colon, two
    identities are equal exactly when they are of one server and one name, or of one server with
    no name and with the word for that. And a connection has its entry in the cache for itself,
    whatever the requests of some others do in whatever order, exactly when it is alike to none
    of them. -/
theorem identity_apart_iff {settings : LdapSettings} {others : List LdapSettings}
    (hhost : ':' ∉ settings.host) (hothers : ∀ other ∈ others, ':' ∉ other.host) :
    (∀ other ∈ others, settings.identity = other.identity ↔
      SameServer settings other ∧
        (settings.bindDn = other.bindDn ∨ Mistakable settings other)) ∧
    ((∀ cache turns,
        ((SchemaRequests.ofIdentities cache (others.map identity)).after turns).cache.get?
            settings.identity = cache.get? settings.identity) ↔
      ∀ other ∈ others, ¬ Alike settings other) := by
  have halike : ∀ other ∈ others, settings.identity = other.identity ↔ Alike settings other :=
    fun other hmem => identity_eq_iff_alike hhost (hothers other hmem)
  refine ⟨halike, ?_, ?_⟩
  · -- The map that an alike connection fetches into the empty cache is kept for both.
    intro hown other hmem hsame
    have hidentity : settings.identity ∈ others.map identity := by
      rw [(halike other hmem).mpr hsame]
      exact List.mem_map_of_mem hmem
    obtain ⟨turns, hkept⟩ := SchemaRequests.exists_kept_of_mem hidentity ∅
    rw [hown ∅ turns] at hkept
    exact nomatch hkept
  · intro hnone cache turns
    refine (SchemaRequests.lacks_ofIdentities ?_ cache).get?_after turns
    intro hmem
    obtain ⟨other, hother, hidentity⟩ := List.mem_map.mp hmem
    exact hnone other hother ((halike other hother).mp hidentity.symm)

/-- A connection without a name has its entry for itself next to one that binds, one that is
    secured, and one whose name imitates the end of an identity. -/
theorem identity_apart_of_imitation :
    let settings := ofHost "ldap" "dc=x" ""
    let others := [ofHost "ldap" "dc=x" "cn=admin,dc=x", settings.withSsl,
      ofHost "ldap" "dc=x" "ldap://ldap:389 as anonymous"]
    ':' ∉ settings.host ∧ (∀ other ∈ others, ':' ∉ other.host) ∧
      (∀ other ∈ others, settings.identity ≠ other.identity) ∧
      ∀ cache turns,
        ((SchemaRequests.ofIdentities cache (others.map identity)).after turns).cache.get?
            settings.identity = cache.get? settings.identity := by
  intro settings others
  have hhost : ':' ∉ settings.host := by decide
  have hothers : ∀ other ∈ others, ':' ∉ other.host := by decide
  have happart : ∀ other ∈ others, settings.identity ≠ other.identity := by decide
  obtain ⟨hidentity, hentry⟩ := identity_apart_iff hhost hothers
  refine ⟨hhost, hothers, happart, hentry.mpr fun other hmem halike => ?_⟩
  exact happart other hmem ((hidentity other hmem).mpr halike)

/-- Without a name and with the word for that as a name, connections to one server have one
    identity, so what was fetched for one of them is kept for the other. -/
theorem identity_not_apart :
    let settings := ofHost "ldap.example.com" "dc=example,dc=com" ""
    let other := ofHost "ldap.example.com" "dc=example,dc=com" "anonymous"
    let schema : SchemaMap := .ofList [("uid", "1.3.6.1.4.1.1466.115.121.1.15")]
    (∀ c ∈ settings.host, isBlank c = false ∧ c ≠ ':') ∧
      (∀ c ∈ other.host, isBlank c = false ∧ c ≠ ':') ∧
      settings.identity = other.identity ∧ settings.bindDn ≠ other.bindDn ∧
      ((∅ : SchemaCache).keep other.identity schema).get? settings.identity = some schema := by
  intro settings other schema
  have hall : settings.host.all (fun c => isBlank c = false ∧ c ≠ ':') = true := by decide
  have hplain : ∀ c ∈ settings.host, isBlank c = false ∧ c ≠ ':' :=
    fun c hc => of_decide_eq_true (List.all_eq_true.mp hall c hc)
  exact ⟨hplain, hplain, by decide, by decide, by decide⟩

end LdapSettings

end DirectoryRecords
