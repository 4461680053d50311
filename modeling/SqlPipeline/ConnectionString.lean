import SqlPipeline.Failure
import SqlPipeline.Text.Quoted
import SqlPipeline.Url.Basic

/-!
Connection strings: an address and a token with a semicolon between them. The token may be marked
as such, and an address of the database's own scheme stands for one over HTTPS.
-/

namespace SqlPipeline

structure ConnectionString where
  url : Text
  token : Text
  deriving DecidableEq, Repr

namespace ConnectionString

def isBlank (s : Text) : Bool :=
  (Text.trim s).isEmpty

/-- The two parts of a text; a blank third part is passed over. -/
def parts? (s : Text) : Option (Text × Text) :=
  match List.splitOn ';' (Text.trim s) with
  | [address, token] => some (address, token)
  | [address, token, last] => if isBlank last then some (address, token) else none
  | _ => none

def withoutSlashes (s : Text) : Text :=
  (s.reverse.dropWhile (· = '/')).reverse

def tokenMark : Text := "token="

def ownScheme : Text := "libsql://"

/-- Cuts off a beginning that is there in some letter case. -/
def afterMark? (mark s : Text) : Option Text :=
  if mark.isPrefixOf (Text.lower s) then some (s.drop mark.length) else none

def readToken (s : Text) : Text :=
  let token := Text.trim s
  match afterMark? tokenMark token with
  | some rest => Text.trim rest
  | none => token

def withWebScheme (url : Text) : Text :=
  match afterMark? ownScheme url with
  | some rest => "https://" ++ rest
  | none => url

def checkUrl (url : Text) : Except Cause Unit :=
  match Url.ofText? url with
  | none => .error (.addressInvalid url "the address cannot be read")
  | some parsed => if parsed.isWeb then .ok () else .error (.addressNotHttp url)

def ofParts (address token : Text) : Except Cause ConnectionString := do
  let url := withoutSlashes (Text.trim address)
  let token := readToken token
  if url.isEmpty then .error .addressEmpty
  else if token.isEmpty then .error .tokenEmpty
  else
    checkUrl (withWebScheme url)
    .ok ⟨withWebScheme url, token⟩

def parse (s : Text) : Except Cause ConnectionString :=
  if isBlank s then .error .connectionStringEmpty
  else
    match parts? s with
    | none => .error .connectionStringParts
    | some (address, token) => ofParts address token

/-- The same database, for reading only. -/
def readOnly (string : ConnectionString) : ConnectionString :=
  { string with url := string.url ++ (if string.url.elem '?' then '&' else '?') :: "mode=ro" }

/-- The full text, with the token. -/
def render (string : ConnectionString) : Text :=
  string.url ++ ';' :: string.token

/-- The text that may be shown, in which the token is hidden. -/
def display (string : ConnectionString) : Text :=
  string.url ++ ";token=***"

def inspect (string : ConnectionString) : Text :=
  "ConnectionString(url=" ++ Text.quoted string.url ++ ")"

end ConnectionString
end SqlPipeline
