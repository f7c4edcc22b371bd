import DirectoryRecords.Ldap.Settings

/-!
# Settings from variables — the environment of a process as a configuration

    Each setting has a variable of its own. Only the server and the base are
    required. Numbers are decimal and truth values are the words `true` and
    `false`; where securing the connection is asked for and no number is
    given, the number is that of a secure server. The variables are looked at
    in a fixed order, and the first fault found is the one reported.
-/

namespace DirectoryRecords

/-- What is wrong with the variables. -/
inductive VariableFault where
  | missing (name : Text)
  | invalid (name reason : Text)
  deriving DecidableEq

namespace VariableFault

/-- The wording of a fault. -/
def message : VariableFault → Text
  | missing name => "missing required environment variable: " ++ name
  | invalid name reason => "invalid value for " ++ name ++ ": " ++ reason

end VariableFault

/-- The values of variables by name. -/
abbrev Variables := Text → Option Text

namespace Variables

/-- The value of a variable that has to be there. -/
def required (vars : Variables) (name : Text) : Except VariableFault Text :=
  match vars name with
  | some value => .ok value
  | none => .error (.missing name)

/-- The truth value of a variable, false where it is not there. -/
def flag (vars : Variables) (name : Text) : Except VariableFault Bool :=
  match vars name with
  | none => .ok false
  | some value =>
    if value = "true".toList then .ok true
    else if value = "false".toList then .ok false
    else .error (.invalid name "provided string was not `true` or `false`")

/-- The number of a variable, `default` where it is not there. -/
def number (vars : Variables) (limit default : Nat) (name : Text) : Except VariableFault Nat :=
  match vars name with
  | none => .ok default
  | some value => (Decimal.read limit value).mapError fun fault => .invalid name fault.message

end Variables

namespace LdapSettings

/-- The settings that variables spell out. -/
def ofVariables (vars : Variables) : Except VariableFault LdapSettings := do
  let host ← vars.required "DIRMAP_LDAP_HOST"
  let baseDn ← vars.required "DIRMAP_LDAP_BASE_DN"
  let useSsl ← vars.flag "DIRMAP_LDAP_USE_SSL"
  let useStartTls ← vars.flag "DIRMAP_LDAP_USE_STARTTLS"
  let tcpPort ← vars.number (UInt16.size - 1)
    (if useSsl then securePort else plainPort).toNat "DIRMAP_LDAP_PORT"
  let connectionTimeout ← vars.number (UInt64.size - 1) defaultTimeout.toNat
    "DIRMAP_LDAP_CONNECT_TIMEOUT_SECS"
  let searchTimeout ← vars.number (UInt64.size - 1) defaultTimeout.toNat
    "DIRMAP_LDAP_SEARCH_TIMEOUT_SECS"
  return {
    host, useSsl, useStartTls, baseDn
    tcpPort := .ofNat tcpPort
    bindDn := (vars "DIRMAP_LDAP_BIND_DN").getD []
    bindPassword := vars "DIRMAP_LDAP_BIND_PASSWORD"
    connectionTimeout := .ofNat connectionTimeout
    searchTimeout := .ofNat searchTimeout }

end LdapSettings

end DirectoryRecords
