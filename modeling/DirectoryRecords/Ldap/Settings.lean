import DirectoryRecords.Dn.Basic
import DirectoryRecords.Json.Fields
import DirectoryRecords.Text.AsciiCase
import DirectoryRecords.Text.Decimal
import DirectoryRecords.Text.Quoted

/-!
# LDAP settings — how to reach a server and what lies below its base

    The settings of a connection: where the server is, whether and how the
    connection is secured, who binds, and how long to wait. Only the server,
    the base and the name that binds have no default.

    The identity of a connection, under which its schema is cached, is made
    of the server's address and the name that binds. A name is qualified by
    putting it below the base unless it ends with the base already.
-/

namespace DirectoryRecords

/-- The settings of a connection to an LDAP server. -/
structure LdapSettings where
  host : Text
  tcpPort : UInt16
  useSsl : Bool
  useStartTls : Bool
  baseDn : Text
  bindDn : Text
  bindPassword : Option Text
  connectionTimeout : UInt64
  searchTimeout : UInt64
  deriving DecidableEq

namespace LdapSettings

/-- The number of a server that speaks plainly. -/
def plainPort : UInt16 := 389

/-- The number of a server that is secured from the start. -/
def securePort : UInt16 := 636

/-- How many seconds to wait unless said otherwise. -/
def defaultTimeout : UInt64 := 30

/-- Settings with all defaults. -/
def ofHost (host baseDn bindDn : Text) : LdapSettings :=
  ⟨host, plainPort, false, false, baseDn, bindDn, none, defaultTimeout, defaultTimeout⟩

/-- The settings with a password. -/
def withPassword (settings : LdapSettings) (password : Text) : LdapSettings :=
  { settings with bindPassword := some password }

/-- The settings secured from the start; the number of a plain server becomes that of a secure
    one. -/
def withSsl (settings : LdapSettings) : LdapSettings :=
  { settings with
    useSsl := true
    tcpPort := if settings.tcpPort = plainPort then securePort else settings.tcpPort }

/-- The settings secured after connecting. -/
def withStartTls (settings : LdapSettings) : LdapSettings :=
  { settings with useStartTls := true }

/-- The settings with a time to wait for the connection. -/
def withTimeout (settings : LdapSettings) (seconds : UInt64) : LdapSettings :=
  { settings with connectionTimeout := seconds }

/-- The address of the server. -/
def url (settings : LdapSettings) : Text :=
  (if settings.useSsl then "ldaps".toList else "ldap".toList) ++ "://" ++ settings.host ++
    ':' :: Decimal.write settings.tcpPort.toNat

/-- The identity of the connection. -/
def identity (settings : LdapSettings) : Text :=
  settings.url ++ " as " ++
    if settings.bindDn.isEmpty then "anonymous".toList else settings.bindDn

/-- Whether a name ends with a base, both without white space around them. -/
def endsWithBase (base dn : Text) : Bool :=
  Text.agrees dn base || (',' :: Text.asciiLower base).isSuffixOf (Text.asciiLower dn)

/-- A name below the base: as it stands if it ends with the base, otherwise with the base put
    behind it. -/
def qualify (settings : LdapSettings) (dn : Text) : Text :=
  let dn := Text.trim dn
  let base := Text.trim settings.baseDn
  if endsWithBase base dn then dn else Dn.below base dn

/-- Accepts settings with a server and a base that are secured in at most one way. -/
def validate (settings : LdapSettings) : Except Error Unit :=
  if settings.host.isEmpty then .error (.invalidConfiguration "host is required")
  else if settings.baseDn.isEmpty then .error (.invalidConfiguration "base_dn is required")
  else if settings.useSsl && settings.useStartTls then
    .error (.invalidConfiguration "cannot use both SSL and STARTTLS")
  else .ok ()

/-! ## JSON and report -/

/-- What is shown in place of a password. -/
def mask : Text := "***REDACTED***"

/-- The settings with the password masked. -/
def redacted (settings : LdapSettings) : LdapSettings :=
  { settings with bindPassword := settings.bindPassword.map fun _ => mask }

/-- Settings are an object with all of their fields; the password is left out where there is
    none. -/
def toJson (settings : LdapSettings) : Json :=
  .object (
    [("host".toList, .string settings.host),
     ("port".toList, .nat settings.tcpPort.toNat),
     ("use_ssl".toList, .bool settings.useSsl),
     ("use_starttls".toList, .bool settings.useStartTls),
     ("base_dn".toList, .string settings.baseDn),
     ("bind_dn".toList, .string settings.bindDn)] ++
    settings.bindPassword.toList.map (("bind_password".toList, .string ·)) ++
    [("connection_timeout_secs".toList, .nat settings.connectionTimeout.toNat),
     ("search_timeout_secs".toList, .nat settings.searchTimeout.toNat)])

/-- The names of the fields in their order. -/
def fieldNames : List Text :=
  ["host", "port", "use_ssl", "use_starttls", "base_dn", "bind_dn", "bind_password",
   "connection_timeout_secs", "search_timeout_secs"]

/-- A plain whole number of sixteen bits. -/
def word16? (json : Json) : Option UInt16 :=
  (json.natural? (UInt16.size - 1)).map UInt16.ofNat

/-- A plain whole number of sixty-four bits. -/
def word64? (json : Json) : Option UInt64 :=
  (json.natural? (UInt64.size - 1)).map UInt64.ofNat

/-- The settings of a structure; all but the server and the base may be left out. -/
def ofJson? (json : Json) : Option LdapSettings :=
  match json.fields? fieldNames with
  | some [host, tcpPort, useSsl, useStartTls, baseDn, bindDn, bindPassword,
      connectionTimeout, searchTimeout] => do
    return {
      host := ← Json.required Json.string? host
      tcpPort := ← Json.orDefault plainPort word16? tcpPort
      useSsl := ← Json.orDefault false Json.bool? useSsl
      useStartTls := ← Json.orDefault false Json.bool? useStartTls
      baseDn := ← Json.required Json.string? baseDn
      bindDn := ← Json.orDefault [] Json.string? bindDn
      bindPassword := ← Json.optional Json.string? bindPassword
      connectionTimeout := ← Json.orDefault defaultTimeout word64? connectionTimeout
      searchTimeout := ← Json.orDefault defaultTimeout word64? searchTimeout }
  | _ => none

/-- The word for a truth value. -/
def boolWord : Bool → Text
  | true => "true"
  | false => "false"

/-- Settings as a report shows them, with the password masked. -/
def report (settings : LdapSettings) : Text :=
  "LdapConfig \x7b host: " ++ Text.quoted settings.host ++
    ", port: " ++ Decimal.write settings.tcpPort.toNat ++
    ", use_ssl: " ++ boolWord settings.useSsl ++
    ", use_starttls: " ++ boolWord settings.useStartTls ++
    ", base_dn: " ++ Text.quoted settings.baseDn ++
    ", bind_dn: " ++ Text.quoted settings.bindDn ++
    ", bind_password: " ++ Text.quotedOption settings.redacted.bindPassword ++
    ", connection_timeout_secs: " ++ Decimal.write settings.connectionTimeout.toNat ++
    ", search_timeout_secs: " ++ Decimal.write settings.searchTimeout.toNat ++ " \x7d"

end LdapSettings

end DirectoryRecords
