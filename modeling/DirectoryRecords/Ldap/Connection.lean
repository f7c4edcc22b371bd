import DirectoryRecords.Ldap.Settings

/-!
# LDAP connections — opened with valid settings, refused once disposed of

    A connection is made from settings that pass their check, and connects on
    first use. After it was disposed of, which may be done any number of
    times, every use of it is refused.
-/

namespace DirectoryRecords

/-- A connection that is in use or disposed of. -/
structure LdapConnection where
  settings : LdapSettings
  disposed : Bool
  deriving DecidableEq

namespace LdapConnection

/-- A connection with the given settings. -/
def ofSettings (settings : LdapSettings) : Except Error LdapConnection :=
  settings.validate.map fun _ => ⟨settings, false⟩

/-- The connection after it was disposed of. -/
def dispose (connection : LdapConnection) : LdapConnection :=
  { connection with disposed := true }

/-- What every use of a connection asks first. -/
def permit (connection : LdapConnection) : Except Error Unit :=
  if connection.disposed then
    .error (.invalidConfiguration "directory has been disposed")
  else .ok ()

/-- The identity of the connection. -/
def identity (connection : LdapConnection) : Text :=
  connection.settings.identity

/-- A connection as a report shows it. -/
def report (connection : LdapConnection) : Text :=
  "LdapDirectory \x7b config: " ++ connection.settings.report ++ ", .. \x7d"

end LdapConnection

end DirectoryRecords
