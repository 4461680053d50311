import SqlPipeline.Bytes.Base64
import SqlPipeline.ConnectionString

/-!
What is sent to a server and what comes back. A POST carries its authorization: the token of the
connection string, or the credentials that the address itself carries.
-/

namespace SqlPipeline
namespace Http

structure Post where
  target : Url
  authorization : Text
  /-- The seconds to wait, null for no limit. -/
  timeout : Value
  body : Text

inductive Answer where
  | response (status : Nat) (body : Text)
  | failed (reason : Text)
  | canceled
  deriving DecidableEq, Repr

def bearer (token : Text) : Text :=
  "Bearer " ++ token

def basic (name password : Text) : Text :=
  "Basic " ++ Base64.encode (Utf8.encode (name ++ ':' :: password))

def authorizationOf (url : Url) (token : Text) : Text :=
  match url.credentials? with
  | some (name, password) => basic name password
  | none => bearer token

namespace Post

def url (post : Post) : Text :=
  post.target.text

/-- Whether an answer is lost because it is a response to a target that none can be filed under. -/
def loses (post : Post) : Answer -> Bool
  | .response _ _ => !post.target.isAnswerable
  | _ => false

/-- The POST of a body. A token or a host that is not ASCII cannot be sent. -/
def make (string : ConnectionString) (timeout : Value) (body : Text) : Except Fault Post :=
  match Url.ofText? string.url with
  | none => .error .badAddress
  | some url =>
      let target := url.target
      if !target.isReachable then .error .badAddress
      else if (target.host ++ string.token).all Text.isAscii then
        .ok ⟨target, authorizationOf target string.token, timeout, body⟩
      else .error .unencodable

end Post
end Http
end SqlPipeline
