import SqlPipeline.ConnectionString
import SqlPipeline.Environment

/-!
Connections. Opening one does not speak to the server; it only makes the transport that requests
are sent through.
-/

namespace SqlPipeline

inductive ConnectionState where
  | closed
  | opened
  deriving DecidableEq, Repr

def ConnectionState.name : ConnectionState -> Text
  | closed => "closed"
  | opened => "open"

/-- Sends requests to the address of a connection string. -/
structure Transport where
  string : ConnectionString
  deriving DecidableEq, Repr

structure Connection where
  string : ConnectionString
  /-- The timeout that commands start with. -/
  timeout : Value
  state : ConnectionState
  transport? : Option Transport
  /-- The number of the transaction that was begun last, unless the connection was closed since. -/
  transaction? : Option Nat

namespace Connection

def database : Text := "LibSQL"

def dataSource : Text := "LibSQL HTTP API"

def serverVersion : Text := "2"

def standardTimeout : Value := .real (.ofInt 30)

def make (string : ConnectionString) (timeout : Value) : Connection :=
  ⟨string, timeout, .closed, none, none⟩

def url (connection : Connection) : Text :=
  connection.string.url

def opened (connection : Connection) : Connection :=
  if connection.state = .opened then connection
  else { connection with state := .opened, transport? := some ⟨connection.string⟩ }

def closed (connection : Connection) : Connection :=
  if connection.state = .closed then connection
  else { connection with state := .closed, transport? := none }

/-- A connection to the same database, for reading only. -/
def readOnly (connection : Connection) : Connection :=
  make connection.string.readOnly connection.timeout

def inspect (connection : Connection) : Text :=
  "Connection(" ++ Text.quoted connection.string.display ++ ", state=" ++ connection.state.name
    ++ ")"

/-- The address alone selects the database. -/
def changeDatabase (_ : Connection) (name : Text) : Outcome Unit :=
  .error (.cause (.databaseFixed name))

def ofText (string : Text) (timeout : Value) : Outcome Connection :=
  match ConnectionString.parse string with
  | .ok string => .ok (make string timeout)
  | .error cause => .error (.cause cause)

/-- The given connection string, or the one that the environment makes when none is given. -/
def stringOr (environment : Environment) : Option Text -> Except Cause Text
  | some (c :: rest) => .ok (c :: rest)
  | _ => environment.connectionString

def timeoutOr (environment : Environment) : Option Value -> Except Fault Value
  | none | some .null => environment.timeout.map .real
  | some timeout => .ok timeout

def orCause : Except Cause α -> Outcome α
  | .ok x => .ok x
  | .error cause => .error (.cause cause)

/-- An open connection; what is not given comes from the environment. -/
def create (environment : Environment) (string? : Option Text) (timeout? : Option Value) :
    Outcome Connection := do
  let string ← orCause (stringOr environment string?)
  let timeout ← Fault.lift (timeoutOr environment timeout?)
  .ok (← ofText string timeout).opened

end Connection
end SqlPipeline
