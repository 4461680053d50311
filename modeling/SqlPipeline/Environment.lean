import SqlPipeline.Failure
import SqlPipeline.Number.RealText

/-!
Settings from environment variables. The address and the token count as missing when they are
empty; the other settings have defaults for when they are not there at all.
-/

namespace SqlPipeline

/-- The values of the variables that are set. -/
structure Environment where
  url? : Option Text
  token? : Option Text
  timeout? : Option Text
  logLevel? : Option Text
  deriving DecidableEq, Repr

namespace Environment

def given (setting? : Option Text) : Option Text :=
  setting?.filter fun s => !s.isEmpty

def url (environment : Environment) : Option Text :=
  given environment.url?

def token (environment : Environment) : Option Text :=
  given environment.token?

/-- The connection string that the address and the token make. -/
def connectionString (environment : Environment) : Except Cause Text :=
  match environment.url, environment.token with
  | some url, some token => .ok (url ++ ';' :: token)
  | _, _ => .error .environmentIncomplete

/-- The timeout in seconds. -/
def timeout (environment : Environment) : Except Fault Binary64 :=
  match Numeral.real? (environment.timeout?.getD "30".toList) with
  | some seconds => .ok seconds
  | none => .error .badContent

def logLevel (environment : Environment) : Text :=
  environment.logLevel?.getD "WARNING".toList

end Environment
end SqlPipeline
