import SqlPipeline.Value.Basic

/-!
What can go wrong. A library error has a cause, which fixes its kind and its message, and the
context of the request it belongs to. Faults are conditions outside of that taxonomy, and a request
that is cancelled is neither.
-/

namespace SqlPipeline

inductive ErrorKind where
  | configuration
  | transport
  | protocol
  | concurrencyViolation
  | unsupportedOperation
  | invalidState
  | invalidCast
  | parameterNotFound
  deriving DecidableEq, Repr

namespace ErrorKind

def name : ErrorKind -> Text
  | configuration => "configuration"
  | transport => "transport"
  | protocol => "protocol"
  | concurrencyViolation => "concurrency_violation"
  | unsupportedOperation => "unsupported_operation"
  | invalidState => "invalid_state"
  | invalidCast => "invalid_cast"
  | parameterNotFound => "parameter_not_found"

end ErrorKind

inductive Cause where
  | connectionStringEmpty
  | connectionStringParts
  | addressEmpty
  | tokenEmpty
  | addressInvalid (url reason : Text)
  | addressNotHttp (url : Text)
  | environmentIncomplete
  | requestFailed (reason : Text)
  | badStatus (status : Nat) (phrase : Text)
  | unreadableBody
  | notAnObject
  | serverError (message : Text)
  | missingResults
  | unexpectedResponse
  | scalarUnreadable (reason : Text)
  | cellUnreadable (ordinal : Nat) (reason : Text)
  | rowMissing (key version : Value) (keyText : Text) (versionText? : Option Text)
  | rowChanged (key version : Value) (keyText : Text)
  | databaseFixed (name : Text)
  | cancelUnsupported
  | commandEmpty
  | blockingCall
  | transactionDisposed
  | transactionCommitted
  | transactionRolledBack
  | readerClosed
  | noCurrentResult
  | noCurrentRow
  | notCastable (typeName target : Text)
  | stampUnreadable (shown : Text)
  | offsetStampUnreadable (shown : Text)
  | nullCell (ordinal : Int) (column target : Text)
  | notConvertible (typeName shown target : Text)
  | guidUnreadable (shown : Text)
  | parameterMissing (name : Text)

namespace Cause

def kind : Cause -> ErrorKind
  | connectionStringEmpty => .configuration
  | connectionStringParts => .configuration
  | addressEmpty => .configuration
  | tokenEmpty => .configuration
  | addressInvalid _ _ => .configuration
  | addressNotHttp _ => .configuration
  | environmentIncomplete => .configuration
  | requestFailed _ => .transport
  | badStatus _ _ => .transport
  | unreadableBody => .transport
  | notAnObject => .protocol
  | serverError _ => .protocol
  | missingResults => .protocol
  | unexpectedResponse => .protocol
  | scalarUnreadable _ => .protocol
  | cellUnreadable _ _ => .protocol
  | rowMissing _ _ _ _ => .concurrencyViolation
  | rowChanged _ _ _ => .concurrencyViolation
  | databaseFixed _ => .unsupportedOperation
  | cancelUnsupported => .unsupportedOperation
  | commandEmpty => .invalidState
  | blockingCall => .invalidState
  | transactionDisposed => .invalidState
  | transactionCommitted => .invalidState
  | transactionRolledBack => .invalidState
  | readerClosed => .invalidState
  | noCurrentResult => .invalidState
  | noCurrentRow => .invalidState
  | notCastable _ _ => .invalidCast
  | stampUnreadable _ => .invalidCast
  | offsetStampUnreadable _ => .invalidCast
  | nullCell _ _ _ => .invalidCast
  | notConvertible _ _ _ => .invalidCast
  | guidUnreadable _ => .invalidCast
  | parameterMissing _ => .parameterNotFound

def expectedForm : Text :=
  "Expected format: '<baseUrl>;<bearerToken>'."

def recordText (keyText : Text) : Option Text -> Text
  | none => "The record with ID '" ++ keyText ++ "' was not found."
  | some version =>
      "The record with ID '" ++ keyText ++ "' and version " ++ version ++ " was not found."

def message : Cause -> Text
  | connectionStringEmpty => "Connection string cannot be empty. " ++ expectedForm
  | connectionStringParts =>
      "Connection string must include both base address and Bearer token. " ++ expectedForm
  | addressEmpty => "Base address cannot be empty. " ++ expectedForm
  | tokenEmpty => "Bearer token cannot be empty. " ++ expectedForm
  | addressInvalid url reason => "Invalid base address '" ++ url ++ "': " ++ reason
  | addressNotHttp url =>
      "Base address must be an absolute http(s) URL, got '" ++ url ++ "'. " ++ expectedForm
  | environmentIncomplete =>
      "LIBSQL_URL and LIBSQL_AUTH_TOKEN must both be set when no connection string is given."
  | requestFailed reason => "HTTP request failed: " ++ reason
  | badStatus status phrase =>
      "HTTP request failed with status code " ++ Text.decimal status ++ ": " ++ phrase
  | unreadableBody => "Failed to parse JSON response: the body is not a JSON document"
  | notAnObject => "Invalid response format: expected a JSON object"
  | serverError message => "Error in SQL execution: " ++ message
  | missingResults => "Invalid response format: missing 'results' property"
  | unexpectedResponse => "Unexpected response format: the body is not a pipeline response"
  | scalarUnreadable reason => "Error parsing scalar value: " ++ reason
  | cellUnreadable ordinal reason =>
      "Error parsing column value at index " ++ Text.decimal ordinal ++ ": " ++ reason
  | rowMissing _ _ keyText versionText? => recordText keyText versionText?
  | rowChanged _ _ keyText =>
      "The record with ID '" ++ keyText ++ "' was modified or deleted by another process."
  | databaseFixed name => "Changing the database to '" ++ name ++ "' is not supported over HTTP."
  | cancelUnsupported =>
      "Command cancellation is not supported; cancel the awaiting task instead."
  | commandEmpty => "Command text is empty."
  | blockingCall =>
      "Blocking call made from a running event loop; await the async method instead."
  | transactionDisposed => "The transaction has been disposed."
  | transactionCommitted => "The transaction has already been committed."
  | transactionRolledBack => "The transaction has already been rolled back."
  | readerClosed => "The reader is closed."
  | noCurrentResult => "The reader has no current result."
  | noCurrentRow => "No current row; call read() first."
  | notCastable typeName target =>
      "Unable to cast object of type '" ++ typeName ++ "' to type '" ++ target ++ "'."
  | stampUnreadable shown => "Unable to parse string '" ++ shown ++ "' as a valid datetime."
  | offsetStampUnreadable shown =>
      "Unable to parse string '" ++ shown ++ "' as a valid datetime offset."
  | nullCell ordinal column target =>
      "Column " ++ Text.ofInt ordinal ++ " ('" ++ column ++ "') is NULL and cannot be read as "
        ++ target ++ "."
  | notConvertible typeName shown target =>
      "Unable to convert value of type '" ++ typeName ++ "' (" ++ shown ++ ") to " ++ target ++ "."
  | guidUnreadable shown => "Unrecognized Guid format value: " ++ shown
  | parameterMissing name => "Parameter " ++ name ++ " not found in parameters collection"

/-- The key of the row that a concurrency violation is about. -/
def key? : Cause -> Option Value
  | rowMissing key _ _ _ => some key
  | rowChanged key _ _ => some key
  | _ => none

/-- The version that was expected of that row. -/
def version? : Cause -> Option Value
  | rowMissing _ version _ _ => some version
  | rowChanged _ version _ => some version
  | _ => none

end Cause

structure LibraryError where
  cause : Cause
  sql? : Option Text
  status? : Option Nat
  responseBody? : Option Text
  requestBody? : Option Text

namespace LibraryError

def ofCause (cause : Cause) : LibraryError := ⟨cause, none, none, none, none⟩

def ofSql (cause : Cause) (sql : Text) : LibraryError := ⟨cause, some sql, none, none, none⟩

def kind (error : LibraryError) : ErrorKind := error.cause.kind

def message (error : LibraryError) : Text := error.cause.message

end LibraryError

inductive Fault where
  /-- Content that cannot be used, such as an integer too long to be written. -/
  | badContent
  | badBlob (reason : Text)
  | badSpan (text : Text)
  | badGuid (typeName : Text)
  | malformedJson
  | invalidResponse
  | undecodable
  | unencodable
  | outOfRange
  /-- Content that is nested too deep to be read. -/
  | tooDeep
  | wrongType
  /-- A decimal that is not a number, where numbers are compared. -/
  | incomparable
  | noMember
  /-- An address that cannot be posted to. -/
  | badAddress
  /-- A connection that is open without a transport. -/
  | noTransport
  | badIndex
  | noColumn (name : Text)
  | noParameter (name : Text)
  deriving DecidableEq, Repr

namespace Fault

/-- A fault of what a value holds, as opposed to its size, its type or a position. -/
def isContent : Fault -> Bool
  | badContent => true
  | badBlob _ => true
  | badSpan _ => true
  | badGuid _ => true
  | malformedJson => true
  | invalidResponse => true
  | undecodable => true
  | unencodable => true
  | _ => false

def message? : Fault -> Option Text
  | badBlob reason => some ("Malformed Base64 blob value: " ++ reason)
  | badSpan text => some ("Unable to parse '" ++ text ++ "' as a time span")
  | badGuid typeName => some ("Unrecognized GUID value of type '" ++ typeName ++ "'")
  | noColumn name => some ("Column '" ++ name ++ "' not found.")
  | noParameter name => some ("Parameter '" ++ name ++ "' not found.")
  | _ => none

end Fault

inductive Failure where
  | library (error : LibraryError)
  | fault (fault : Fault)
  | canceled (sql : Text)

abbrev Outcome := Except Failure

namespace Failure

def cause (cause : Cause) : Failure := library (.ofCause cause)

def canceledMessage : Text := "The database operation was canceled."

end Failure

def Fault.lift : Except Fault α -> Outcome α
  | .ok x => .ok x
  | .error fault => .error (.fault fault)

/-- The text of a value, unless it holds an integer that is too long to be written. -/
def orTooLong : Option Text -> Except Fault Text
  | some text => .ok text
  | none => .error .badContent

end SqlPipeline
