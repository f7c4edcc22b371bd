import DirectoryRecords.Ldap.Variables
import DirectoryRecords.Proofs.DecimalNumbers

/-!
# Settings from two sources — the same but for the number of a secure server

    Settings come from the fields of an object or from variables. Each source
    fills in defaults of its own for what is left out, so they are compared
    for settings of which any may be given or left out (`Given`):

    * fields and variables are lists of names with a value or none. As the
      names differ, the field of a name is the value that stands with it, in
      whatever order the members come (`fields?_object`);
    * a value that is given is read as it was written, and a value that is
      left out is the default (`orDefault_map`, `flag_boolWord`,
      `number_write`).

    Then every setting is the given one or a default on both sides. The
    defaults are the same in both but for the number of the server: variables
    that ask for a secured connection get that of a secure server, and an
    object that does gets that of a plain one.
-/

namespace DirectoryRecords

open Text

/-! ## Values that may be left out -/

/-- The values that are there, under their names. -/
def present {α : Type} (fields : List (Text × Option α)) : List (Text × α) :=
  fields.filterMap fun (name, value) => value.map (name, ·)

theorem present_cons {α : Type} (name : Text) (value : Option α)
    (rest : List (Text × Option α)) :
    present ((name, value) :: rest) = value.toList.map (name, ·) ++ present rest := by
  cases value with
  | none => rfl
  | some a => rfl

theorem filter_present_of_not_mem {α : Type} {fields : List (Text × Option α)} {name : Text}
    (h : name ∉ fields.map Prod.fst) : (present fields).filter (·.1 == name) = [] := by
  rw [List.filter_eq_nil_iff]
  intro binding hbinding hname
  obtain ⟨⟨key, value⟩, hfield, hvalue⟩ := List.mem_filterMap.mp hbinding
  obtain ⟨a, -, rfl⟩ := Option.map_eq_some_iff.mp hvalue
  refine h (List.mem_map.mpr ⟨(key, value), hfield, ?_⟩)
  exact eq_of_beq hname

/-- Where names are distinct, the only value under a name is its own. -/
theorem filter_present {α : Type} {fields : List (Text × Option α)}
    (hnodup : (fields.map Prod.fst).Nodup) {name : Text} {value : Option α}
    (h : (name, value) ∈ fields) :
    (present fields).filter (·.1 == name) = value.toList.map (name, ·) := by
  induction fields with
  | nil => exact nomatch h
  | cons first rest ih =>
      obtain ⟨key, held⟩ := first
      obtain ⟨hnew, hrest⟩ := List.nodup_cons.mp hnodup
      rw [present_cons, List.filter_append]
      rcases List.mem_cons.mp h with heq | hmem
      · obtain ⟨rfl, rfl⟩ := Prod.mk.inj heq
        have hown : (value.toList.map (name, ·)).filter (·.1 == name)
            = value.toList.map (name, ·) := by
          rw [List.filter_eq_self, List.forall_mem_map]
          exact fun _ _ => beq_self_eq_true name
        rw [hown, filter_present_of_not_mem hnew, List.append_nil]
      · have hkey : key ≠ name := by
          rintro rfl
          exact hnew (List.mem_map.mpr ⟨(key, value), hmem, rfl⟩)
        have hother : (held.toList.map (key, ·)).filter (·.1 == name) = [] := by
          rw [List.filter_eq_nil_iff, List.forall_mem_map]
          exact fun _ _ hname => hkey (eq_of_beq hname)
        rw [hother, ih hrest hmem, List.nil_append]

namespace Json

/-- A name that is left out or stands once has its value. -/
theorem member?_of_filter {members : List (Text × Json)} {name : Text} {value : Option Json}
    (h : members.filter (·.1 == name) = value.toList.map (name, ·)) :
    member? name members = some value := by
  rw [member?, h]
  cases value with
  | none => rfl
  | some json => rfl

/-- One value at most stands under a name, so the order of the members does not matter to it. -/
theorem member?_of_perm {fields : List (Text × Option Json)} {members : List (Text × Json)}
    (hnodup : (fields.map Prod.fst).Nodup) (h : members.Perm (present fields)) {name : Text}
    {value : Option Json} (hfield : (name, value) ∈ fields) :
    member? name members = some value := by
  have hperm := h.filter (·.1 == name)
  rw [filter_present hnodup hfield] at hperm
  refine member?_of_filter ?_
  cases value with
  | none => exact hperm.eq_nil
  | some json => exact hperm.eq_singleton

theorem fields?_of_member? {fields : List (Text × Option Json)} {members : List (Text × Json)}
    (h : ∀ field ∈ fields, member? field.1 members = some field.2) :
    fields? (fields.map Prod.fst) (.object members) = some (fields.map Prod.snd) := by
  show (fields.map Prod.fst).mapM (member? · members) = _
  induction fields with
  | nil => rfl
  | cons field rest ih =>
      obtain ⟨hfirst, hrest⟩ := List.forall_mem_cons.mp h
      rw [List.map_cons, List.mapM_cons, hfirst, ih hrest]
      rfl

/-- **The fields of an object are the values that are there**, in whatever order they stand. -/
theorem fields?_object {fields : List (Text × Option Json)} {members : List (Text × Json)}
    (hnodup : (fields.map Prod.fst).Nodup) (h : members.Perm (present fields)) :
    fields? (fields.map Prod.fst) (.object members) = some (fields.map Prod.snd) :=
  fields?_of_member? fun _ hfield => member?_of_perm hnodup h hfield

/-- A value that is left out is the default, and one that is given is read as it was written. -/
theorem orDefault_map {α : Type} {decode : Json → Option α} {encode : α → Json}
    (h : ∀ a, decode (encode a) = some a) (default : α) (given : Option α) :
    orDefault default decode (given.map encode) = some (given.getD default) := by
  cases given with
  | none => rfl
  | some a => exact h a

theorem optional_string (given : Option Text) :
    optional string? (given.map .string) = some given := by
  cases given with
  | none => rfl
  | some text => rfl

end Json

namespace Variables

/-- A truth value is read from its word. -/
theorem flag_boolWord {vars : Variables} {name : Text} {given : Option Bool}
    (h : vars name = given.map LdapSettings.boolWord) :
    vars.flag name = .ok (given.getD false) := by
  rw [flag, h]
  cases given with
  | none => rfl
  | some value =>
      cases value with
      | true => rfl
      | false => rfl

/-- A number that is within the limit is read from its digits. -/
theorem number_write {α : Type} {vars : Variables} {name : Text} {given : Option α}
    {toNat : α → Nat} (h : vars name = given.map fun a => Decimal.write (toNat a)) {limit : Nat}
    (hlimit : ∀ a, toNat a ≤ limit) (default : α) :
    vars.number limit (toNat default) name = .ok (toNat (given.getD default)) := by
  rw [number, h]
  cases given with
  | none => rfl
  | some a =>
      show (Decimal.read limit (Decimal.write (toNat a))).mapError _ = .ok (toNat a)
      rw [Decimal.read_write (hlimit a)]
      rfl

end Variables

namespace LdapSettings

/-! ## Given settings -/

/-- The settings that are given: the server and the base, and any of the others. -/
structure Given where
  host : Text
  baseDn : Text
  tcpPort : Option UInt16
  useSsl : Option Bool
  useStartTls : Option Bool
  bindDn : Option Text
  bindPassword : Option Text
  connectionTimeout : Option UInt64
  searchTimeout : Option UInt64
  deriving DecidableEq

namespace Given

/-- The given settings as fields of an object. -/
def fields (given : Given) : List (Text × Option Json) :=
  [("host", some (.string given.host)),
   ("port", given.tcpPort.map fun word => .nat word.toNat),
   ("use_ssl", given.useSsl.map .bool),
   ("use_starttls", given.useStartTls.map .bool),
   ("base_dn", some (.string given.baseDn)),
   ("bind_dn", given.bindDn.map .string),
   ("bind_password", given.bindPassword.map .string),
   ("connection_timeout_secs", given.connectionTimeout.map fun word => .nat word.toNat),
   ("search_timeout_secs", given.searchTimeout.map fun word => .nat word.toNat)]

theorem map_fst_fields (given : Given) : given.fields.map Prod.fst = fieldNames := rfl

/-- The given settings as variables: numbers in digits, truth values as words. -/
def bindings (given : Given) : List (Text × Option Text) :=
  [("DIRMAP_LDAP_HOST", some given.host),
   ("DIRMAP_LDAP_BASE_DN", some given.baseDn),
   ("DIRMAP_LDAP_PORT", given.tcpPort.map fun word => Decimal.write word.toNat),
   ("DIRMAP_LDAP_USE_SSL", given.useSsl.map boolWord),
   ("DIRMAP_LDAP_USE_STARTTLS", given.useStartTls.map boolWord),
   ("DIRMAP_LDAP_BIND_DN", given.bindDn),
   ("DIRMAP_LDAP_BIND_PASSWORD", given.bindPassword),
   ("DIRMAP_LDAP_CONNECT_TIMEOUT_SECS",
     given.connectionTimeout.map fun word => Decimal.write word.toNat),
   ("DIRMAP_LDAP_SEARCH_TIMEOUT_SECS",
     given.searchTimeout.map fun word => Decimal.write word.toNat)]

/-- The members of an object are the given settings and nothing else, in any order. -/
def IsObject (given : Given) (members : List (Text × Json)) : Prop :=
  members.Perm (present given.fields)

/-- The variables of the settings hold those that are given and no others. -/
def HeldBy (given : Given) (vars : Variables) : Prop :=
  ∀ binding ∈ given.bindings, vars binding.1 = binding.2

/-- The given settings with defaults for what is left out, of which that of the number is named. -/
def settings (given : Given) (otherwise : UInt16) : LdapSettings where
  host := given.host
  tcpPort := given.tcpPort.getD otherwise
  useSsl := given.useSsl.getD false
  useStartTls := given.useStartTls.getD false
  baseDn := given.baseDn
  bindDn := given.bindDn.getD []
  bindPassword := given.bindPassword
  connectionTimeout := given.connectionTimeout.getD defaultTimeout
  searchTimeout := given.searchTimeout.getD defaultTimeout

/-- The number that goes with the way in which the connection is to be secured. -/
def fittingPort (given : Given) : UInt16 :=
  if given.useSsl.getD false then securePort else plainPort

/-- **An object takes the number of a plain server where none is given.** -/
theorem ofJson?_object {given : Given} {members : List (Text × Json)}
    (h : given.IsObject members) : ofJson? (.object members) = some (given.settings plainPort) := by
  have hnodup : (given.fields.map Prod.fst).Nodup := by
    rw [map_fst_fields]
    decide
  have hfields := Json.fields?_object hnodup h
  rw [map_fst_fields] at hfields
  have hport := Json.orDefault_map word16?_nat plainPort given.tcpPort
  have hssl := Json.orDefault_map (fun _ => rfl : ∀ b, Json.bool? (.bool b) = some b) false
    given.useSsl
  have hstart := Json.orDefault_map (fun _ => rfl : ∀ b, Json.bool? (.bool b) = some b) false
    given.useStartTls
  have hbind := Json.orDefault_map (fun _ => rfl : ∀ text, Json.string? (.string text) = some text)
    [] given.bindDn
  have hpassword := Json.optional_string given.bindPassword
  have hconnection := Json.orDefault_map word64?_nat defaultTimeout given.connectionTimeout
  have hsearch := Json.orDefault_map word64?_nat defaultTimeout given.searchTimeout
  rw [ofJson?, hfields]
  simp only [fields, List.map_cons, List.map_nil]
  rw [hport, hssl, hstart, hbind, hpassword, hconnection, hsearch]
  rfl

/-- **Variables take the fitting number where none is given.** -/
theorem ofVariables_heldBy {given : Given} {vars : Variables} (h : given.HeldBy vars) :
    ofVariables vars = .ok (given.settings given.fittingPort) := by
  simp only [HeldBy, bindings, List.forall_mem_cons] at h
  obtain ⟨hhost, hbase, hport, hssl, hstart, hbind, hpassword, hconnection, hsearch, -⟩ := h
  have hhost : vars.required "DIRMAP_LDAP_HOST" = .ok given.host := by
    rw [Variables.required, hhost]
  have hbase : vars.required "DIRMAP_LDAP_BASE_DN" = .ok given.baseDn := by
    rw [Variables.required, hbase]
  have hssl := Variables.flag_boolWord hssl
  have hstart := Variables.flag_boolWord hstart
  have hport := Variables.number_write hport word16_le
  have hconnection := Variables.number_write hconnection word64_le defaultTimeout
  have hsearch := Variables.number_write hsearch word64_le defaultTimeout
  rw [ofVariables, hhost, hbase, hssl, hstart, hbind, hpassword, hconnection, hsearch]
  simp only [bind, Except.bind, hport, UInt16.ofNat_toNat, UInt64.ofNat_toNat]
  rfl

/-- The default number counts where no number is given. -/
theorem settings_eq_iff (given : Given) (port other : UInt16) :
    given.settings port = given.settings other ↔ (given.tcpPort = none → port = other) := by
  constructor
  · intro hsame hnone
    have hport := congrArg LdapSettings.tcpPort hsame
    simp only [settings, hnone, Option.getD_none] at hport
    exact hport
  · intro hport
    cases hgiven : given.tcpPort with
    | none => rw [hport hgiven]
    | some word =>
        rw [settings, settings, hgiven]
        rfl

theorem plainPort_eq_fittingPort_iff (given : Given) :
    plainPort = given.fittingPort ↔ given.useSsl ≠ some true := by
  rw [fittingPort]
  cases given.useSsl with
  | none => exact ⟨fun _ => nofun, fun _ => rfl⟩
  | some value =>
      cases value with
      | true => exact ⟨fun hport => absurd hport (by decide), fun hssl => absurd rfl hssl⟩
      | false => exact ⟨fun _ => nofun, fun _ => rfl⟩

/-- **Object and variables with the same given settings are both read**, with the same defaults but
    for the number, and so as the same settings unless the connection is to be secured and no number
    is given. -/
theorem sources_agree_iff {given : Given} {members : List (Text × Json)} {vars : Variables}
    (hmembers : given.IsObject members) (hvars : given.HeldBy vars) :
    ofJson? (.object members) = some (given.settings plainPort) ∧
      ofVariables vars = .ok (given.settings given.fittingPort) ∧
      (given.settings plainPort = given.settings given.fittingPort ↔
        ¬ (given.useSsl = some true ∧ given.tcpPort = none)) := by
  refine ⟨ofJson?_object hmembers, ofVariables_heldBy hvars, ?_⟩
  rw [settings_eq_iff, plainPort_eq_fittingPort_iff, not_and']

/-- A secured connection with a number of its own and a password, in an object with the members
    back to front and among variables of other programs. -/
theorem sources_agree_secured :
    let given : Given :=
      { host := "ldap", baseDn := "dc=x", tcpPort := some 1636, useSsl := some true,
        useStartTls := none, bindDn := none, bindPassword := some "pw",
        connectionTimeout := some 5, searchTimeout := none }
    let members : List (Text × Json) :=
      [("connection_timeout_secs", .nat 5), ("bind_password", .string "pw"),
       ("base_dn", .string "dc=x"), ("use_ssl", .bool true), ("port", .nat 1636),
       ("host", .string "ldap")]
    let vars : Variables := fun name => List.lookup name
      [("PATH", "/bin"), ("DIRMAP_LDAP_HOST", "ldap"), ("DIRMAP_LDAP_PORT", "1636"),
       ("DIRMAP_LDAP_USE_SSL", "true"), ("DIRMAP_LDAP_BASE_DN", "dc=x"),
       ("DIRMAP_LDAP_CONNECT_TIMEOUT_SECS", "5"), ("DIRMAP_LDAP_BIND_PASSWORD", "pw")]
    let settings : LdapSettings :=
      ⟨"ldap", 1636, true, false, "dc=x", [], some "pw", 5, 30⟩
    given.IsObject members ∧ given.HeldBy vars ∧
      ofJson? (.object members) = some settings ∧ ofVariables vars = .ok settings := by
  intro given members vars settings
  have hmembers : given.IsObject members := List.reverse_perm (present given.fields)
  have hvars : given.HeldBy vars := by
    show ∀ binding ∈ given.bindings, vars binding.1 = binding.2
    decide
  obtain ⟨hobject, hvariables, hagree⟩ := sources_agree_iff hmembers hvars
  rw [← hagree.mpr fun hboth => nomatch hboth.2] at hvariables
  exact ⟨hmembers, hvars, hobject, hvariables⟩

/-- Of a server that is to be reached over a secured connection, the object makes one at the number
    of a plain server, the variables one at that of a secure server. -/
theorem sources_differ_secured :
    let given : Given :=
      { host := "ldap", baseDn := "dc=x", tcpPort := none, useSsl := some true,
        useStartTls := none, bindDn := none, bindPassword := none,
        connectionTimeout := none, searchTimeout := none }
    let members : List (Text × Json) :=
      [("host", .string "ldap"), ("use_ssl", .bool true), ("base_dn", .string "dc=x")]
    let vars : Variables := fun name => List.lookup name
      [("DIRMAP_LDAP_HOST", "ldap"), ("DIRMAP_LDAP_BASE_DN", "dc=x"),
       ("DIRMAP_LDAP_USE_SSL", "true")]
    given.IsObject members ∧ given.HeldBy vars ∧
      ofJson? (.object members) = some ⟨"ldap", 389, true, false, "dc=x", [], none, 30, 30⟩ ∧
      ofVariables vars = .ok ⟨"ldap", 636, true, false, "dc=x", [], none, 30, 30⟩ ∧
      ofJson? (.object members) ≠ (ofVariables vars).toOption := by
  intro given members vars
  have hmembers : given.IsObject members := List.Perm.refl members
  have hvars : given.HeldBy vars := by
    show ∀ binding ∈ given.bindings, vars binding.1 = binding.2
    decide
  have hobject := ofJson?_object hmembers
  have hvariables := ofVariables_heldBy hvars
  refine ⟨hmembers, hvars, hobject, hvariables, ?_⟩
  rw [hobject, hvariables]
  intro hsame
  have hport : plainPort = securePort := congrArg LdapSettings.tcpPort (Option.some.inj hsame)
  exact absurd hport (by decide)

end Given

end LdapSettings

end DirectoryRecords
