import DirectoryRecords.Text.Basic

/-!
# Errors — what can go wrong between a query and its records

    An error is a cause. Four causes come from talking to the directory and
    know the place that issued the call; the wording of these four takes that
    place as a parameter, so the causes themselves stay independent of it.
    They may also carry the text of a deeper error.
-/

namespace DirectoryRecords

/-- The kinds of change a directory can refuse. -/
inductive WriteKind where
  | add
  | modify
  | delete
  deriving DecidableEq, Repr

namespace WriteKind

/-- The word for a kind of change. -/
def word : WriteKind → Text
  | add => "add"
  | modify => "modify"
  | delete => "delete"

end WriteKind

/-- The causes of a failure. -/
inductive Error where
  /-- A query type that is none of the four. -/
  | invalidQueryType (value : Text)
  /-- A component of a distinguished name without an equals sign. -/
  | malformedDn (dn component : Text)
  /-- A search that matched no entry. -/
  | noResults
  | connectionFailed (message : Text) (cause : Option Text)
  | authenticationFailed
  | searchFailed (message : Text) (cause : Option Text)
  | readFailed (dn message : Text) (cause : Option Text)
  | writeFailed (kind : WriteKind) (dn message : Text) (cause : Option Text)
  | objectNotFound (dn : Text)
  | objectAlreadyExists (dn : Text)
  | schemaFetchFailed (message : Text)
  /-- An attribute that the schema does not define. -/
  | unknownAttribute (name : Text)
  | invalidConfiguration (message : Text)
  | invalidData (message : Text)
  deriving DecidableEq

namespace Error

/-- The code that classifies an error. -/
def code : Error → Text
  | invalidQueryType _ => "INVALID_QUERY_TYPE"
  | malformedDn _ _ => "MALFORMED_DN"
  | noResults => "NO_RESULTS"
  | connectionFailed _ _ => "CONNECTION_FAILED"
  | authenticationFailed => "AUTH_FAILED"
  | searchFailed _ _ => "SEARCH_FAILED"
  | readFailed _ _ _ => "READ_FAILED"
  | writeFailed _ _ _ _ => "WRITE_FAILED"
  | objectNotFound _ => "OBJECT_NOT_FOUND"
  | objectAlreadyExists _ => "OBJECT_EXISTS"
  | schemaFetchFailed _ => "SCHEMA_FETCH_FAILED"
  | unknownAttribute _ => "UNKNOWN_ATTRIBUTE"
  | invalidConfiguration _ => "INVALID_CONFIG"
  | invalidData _ => "INVALID_DATA"

/-- The wording of an error, where `place` names what issued the call that failed. -/
def message (place : Text) : Error → Text
  | invalidQueryType value => "invalid query type: '" ++ value ++ "'"
  | malformedDn dn component =>
    "malformed DN '" ++ dn ++ "': component '" ++ component ++ "' has no '=' separator"
  | noResults => "no results"
  | connectionFailed text _ => "connection failed at " ++ place ++ ": " ++ text
  | authenticationFailed => "authentication failed: invalid credentials"
  | searchFailed text _ => "search failed at " ++ place ++ ": " ++ text
  | readFailed dn text _ => "read of '" ++ dn ++ "' failed at " ++ place ++ ": " ++ text
  | writeFailed kind dn text _ =>
    kind.word ++ " of '" ++ dn ++ "' failed at " ++ place ++ ": " ++ text
  | objectNotFound dn => "object not found: " ++ dn
  | objectAlreadyExists dn => "object already exists: " ++ dn
  | schemaFetchFailed text => "schema fetch failed: " ++ text
  | unknownAttribute name =>
    "attribute '" ++ name ++ "' is not defined in the directory schema"
  | invalidConfiguration text => "invalid configuration: " ++ text
  | invalidData text => "invalid data: " ++ text

/-- Whether trying again may help: only a lost connection can come back. -/
def isTransient : Error → Bool
  | connectionFailed _ _ => true
  | _ => false

/-- Whether the error only says that nothing matched. -/
def isNoResults : Error → Bool
  | noResults => true
  | _ => false

/-- Whether the error knows the place that issued the failed call. -/
def hasPlace : Error → Bool
  | connectionFailed _ _ | searchFailed _ _ | readFailed _ _ _ | writeFailed _ _ _ _ => true
  | _ => false

/-- The text of the deeper error, if there is one. -/
def cause? : Error → Option Text
  | connectionFailed _ cause | searchFailed _ cause | readFailed _ _ cause
  | writeFailed _ _ _ cause => cause
  | _ => none

end Error

end DirectoryRecords
