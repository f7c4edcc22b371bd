import DirectoryRecords.Proofs.SettingsSources
import DirectoryRecords.Proofs.WrittenJson

/-!
# Restored settings — the same from their JSON and from their variables

    Settings are written with all of their fields, the password only if there
    is one. So what is written is settings of which all are given (`spelled`),
    and no default is left for either source to fill in (`settings_spelled`).
    What is read of an object and of variables is known for given settings of
    any kind; what is new here is the text in between. The object of given
    settings is a value of JSON as it stands in a text, so the text is read as
    the object (`wellFormed_object`).
-/

namespace DirectoryRecords

namespace LdapSettings

namespace Given

/-- Every field is a text, a truth value or a whole number. -/
theorem wellFormed_of_mem_fields {given : Given} {field : Text × Option Json}
    (hfield : field ∈ given.fields) {json : Json} (h : json ∈ field.2) : json.WellFormed := by
  have hstring (o : Option Text) : ∀ json ∈ o.map Json.string, json.WellFormed :=
    Json.wellFormed_map Json.wellFormed_string o
  have hbool (o : Option Bool) : ∀ json ∈ o.map Json.bool, json.WellFormed :=
    Json.wellFormed_map Json.wellFormed_bool o
  have hnat {α : Type} (toNat : α → Nat) (o : Option α) :
      ∀ json ∈ o.map fun word => Json.nat (toNat word), json.WellFormed :=
    Json.wellFormed_map (fun word => Json.wellFormed_nat (toNat word)) o
  have hall : ∀ field ∈ given.fields, ∀ json ∈ field.2, json.WellFormed := by
    simp only [fields, List.forall_mem_cons]
    exact ⟨hstring (some given.host), hnat _ given.tcpPort, hbool given.useSsl,
      hbool given.useStartTls, hstring (some given.baseDn), hstring given.bindDn,
      hstring given.bindPassword, hnat _ given.connectionTimeout, hnat _ given.searchTimeout,
      fun _ hfield => absurd hfield List.not_mem_nil⟩
  exact hall field hfield json h

/-- The object of given settings is one that is read as it is written. -/
theorem wellFormed_object (given : Given) : (Json.object (present given.fields)).WellFormed := by
  rw [Json.WellFormed, Json.allMembersWellFormed_iff]
  intro member hmember
  obtain ⟨field, hfield, hvalue⟩ := List.mem_filterMap.mp hmember
  obtain ⟨json, hjson, rfl⟩ := Option.map_eq_some_iff.mp hvalue
  exact wellFormed_of_mem_fields hfield hjson

end Given

/-- The settings as given ones: all of them, and the password if there is one. -/
def spelled (settings : LdapSettings) : Given where
  host := settings.host
  baseDn := settings.baseDn
  tcpPort := some settings.tcpPort
  useSsl := some settings.useSsl
  useStartTls := some settings.useStartTls
  bindDn := some settings.bindDn
  bindPassword := settings.bindPassword
  connectionTimeout := some settings.connectionTimeout
  searchTimeout := some settings.searchTimeout

theorem settings_spelled (settings : LdapSettings) (otherwise : UInt16) :
    settings.spelled.settings otherwise = settings := rfl

theorem toJson_eq (settings : LdapSettings) :
    settings.toJson = .object (present settings.spelled.fields) := by
  obtain ⟨host, tcpPort, useSsl, useStartTls, baseDn, bindDn, bindPassword, connectionTimeout,
    searchTimeout⟩ := settings
  cases bindPassword with
  | none => rfl
  | some password => rfl

/-- **Settings come back from what is written of them**: from the text of their JSON, and from
    variables that hold their values, among whatever other variables. -/
theorem restored (settings : LdapSettings) :
    (Json.read settings.toJson.write).bind ofJson? = some settings ∧
      ∀ vars : Variables, settings.spelled.HeldBy vars → ofVariables vars = .ok settings := by
  constructor
  · have hread := Json.read_write settings.spelled.wellFormed_object
    rw [toJson_eq, hread]
    exact Given.ofJson?_object (List.Perm.refl _)
  · intro vars hvars
    rw [Given.ofVariables_heldBy hvars, settings_spelled]

/-- Settings at the limits of their fields: empty texts, signs that JSON escapes, a password that is
    there and empty, and the largest numbers. -/
theorem restored_extremes :
    let settings : LdapSettings :=
      { host := "a\"b\\c\x07\n", tcpPort := 65535, useSsl := true, useStartTls := true, baseDn := []
        bindDn := [], bindPassword := some [], connectionTimeout := 18446744073709551615
        searchTimeout := 0 }
    let vars : Variables := fun name => List.lookup name
      [("DIRMAP_LDAP_HOST", settings.host), ("DIRMAP_LDAP_PORT", "65535"),
       ("DIRMAP_LDAP_USE_SSL", "true"), ("DIRMAP_LDAP_USE_STARTTLS", "true"),
       ("DIRMAP_LDAP_BASE_DN", []), ("DIRMAP_LDAP_BIND_DN", []),
       ("DIRMAP_LDAP_BIND_PASSWORD", []),
       ("DIRMAP_LDAP_CONNECT_TIMEOUT_SECS", "18446744073709551615"),
       ("DIRMAP_LDAP_SEARCH_TIMEOUT_SECS", "0"), ("HOME", "/root")]
    settings.spelled.HeldBy vars ∧ ofVariables vars = .ok settings ∧
      (Json.read settings.toJson.write).bind ofJson? = some settings := by
  intro settings vars
  have hvars : settings.spelled.HeldBy vars := by
    show ∀ binding ∈ settings.spelled.bindings, vars binding.1 = binding.2
    decide
  obtain ⟨hobject, hvariables⟩ := restored settings
  exact ⟨hvars, hvariables vars hvars, hobject⟩

end LdapSettings

end DirectoryRecords
