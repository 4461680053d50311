import SqlPipeline.Number.Numeral
import SqlPipeline.Url.Host

/-!
Addresses: reading one into its components, each of which is brought to its written form, and
writing it again.
-/

namespace SqlPipeline

structure Url where
  scheme : Text
  user : Text
  host : Text
  port? : Option Int
  path : Text
  query? : Option Text
  fragment? : Option Text
  deriving DecidableEq, Repr

namespace Url

def longest : Nat := 65536

def isControl (c : Char) : Bool :=
  c < ' ' || c = '\x7f'

def isSchemeChar (c : Char) : Bool :=
  Text.isAsciiLetter c || Text.isAsciiDigit c || c = '+' || c = '.' || c = '-'

/-- The scheme before a colon, which may be empty, and the text after the colon. -/
def splitScheme (s : Text) : Text × Text :=
  match s.head?, s.dropWhile isSchemeChar with
  | some first, ':' :: rest =>
      if Text.isAsciiLetter first || first = ':' then (s.takeWhile isSchemeChar, rest) else ([], s)
  | _, _ => ([], s)

def endsAuthority (c : Char) : Bool :=
  c = '/' || c = '?' || c = '#'

def endsPath (c : Char) : Bool :=
  c = '?' || c = '#'

/-- The authority after two slashes. -/
def splitAuthority (s : Text) : Text × Text :=
  match s with
  | '/' :: '/' :: rest =>
      (rest.takeWhile fun c => !endsAuthority c, rest.dropWhile fun c => !endsAuthority c)
  | s => ([], s)

def splitQuery (s : Text) : Option Text × Text :=
  match s with
  | '?' :: rest => (some (rest.takeWhile (· ≠ '#')), rest.dropWhile (· ≠ '#'))
  | s => (none, s)

def fragmentOf? : Text -> Option Text
  | '#' :: rest => some rest
  | _ => none

/-- The text after the last of a mark, which is the whole text when there is none. -/
def afterLast (mark : Char) (s : Text) : Text :=
  (s.reverse.takeWhile (· ≠ mark)).reverse

def beforeLast (mark : Char) (s : Text) : Text :=
  ((s.reverse.dropWhile (· ≠ mark)).drop 1).reverse

/-- A host, in brackets or up to a colon, and the text after it. -/
def splitHost (s : Text) : Text × Text :=
  if s.head? = some '[' && s.elem ']' then (beforeLast ']' s ++ [']'], afterLast ']' s)
  else (s.takeWhile (· ≠ ':'), s.dropWhile (· ≠ ':'))

def withoutColon : Text -> Text
  | ':' :: rest => rest
  | s => s

def standardPort? (scheme : Text) : Option Int :=
  if scheme = "ftp".toList then some 21
  else if scheme = "http".toList ∨ scheme = "ws".toList then some 80
  else if scheme = "https".toList ∨ scheme = "wss".toList then some 443
  else none

/-- A port; an empty one and the standard one of the scheme count as none given. -/
def readPort? (scheme s : Text) : Option (Option Int) :=
  if s.isEmpty then some none
  else (Numeral.integer? s).map fun n => if standardPort? scheme = some n then none else some n

/-- One segment after those before it; a segment of two dots takes the one before it back. -/
def addSegment (segments : List Text) (segment : Text) : List Text :=
  if segment = ['.'] then segments
  else if segment = ['.', '.'] then if segments = [[]] then segments else segments.dropLast
  else segments ++ [segment]

def normalPath (path : Text) : Text :=
  let segments := List.splitOn '/' path
  if segments.contains ['.'] || segments.contains ['.', '.'] then
    List.intercalate ['/'] (segments.foldl addSegment [])
  else path

def hasAuthority (url : Url) : Bool :=
  !url.user.isEmpty || !url.host.isEmpty || url.port?.isSome

/-- What a path may start with depends on what stands before it. -/
def isPathValid (url : Url) : Bool :=
  if url.hasAuthority then url.path.isEmpty || url.path.head? = some '/'
  else !url.scheme.isEmpty || (!"//".toList.isPrefixOf url.path && url.path.head? ≠ some ':')

def finish (url : Url) : Url :=
  let path :=
    if url.scheme.isEmpty && !url.hasAuthority then url.path else normalPath url.path
  { url with path := encode isPathChar path }

def ofParts? (scheme authority path : Text) (query? fragment? : Option Text) : Option Url := do
  let (host, rest) := splitHost (afterLast '@' authority)
  let url : Url := {
    scheme := scheme.map Char.toLower
    user := encode isUserChar (beforeLast '@' authority)
    host := ← Host.ofText? host
    port? := ← readPort? scheme (withoutColon rest)
    path := path
    query? := query?.map (encode isQueryChar)
    fragment? := fragment?.map (encode isFragmentChar) }
  if url.isPathValid then some url.finish else none

def ofText? (s : Text) : Option Url :=
  if longest < s.length || s.any isControl then none
  else
    let (scheme, rest) := splitScheme s
    let (authority, rest) := splitAuthority rest
    let path := rest.takeWhile fun c => !endsPath c
    let (query?, rest) := splitQuery (rest.dropWhile fun c => !endsPath c)
    ofParts? scheme authority path query? (fragmentOf? rest)

def isWeb (url : Url) : Bool :=
  url.scheme = "http".toList || url.scheme = "https".toList

def schemeText (url : Url) : Text :=
  if url.scheme.isEmpty then [] else url.scheme ++ [':']

def userText (url : Url) : Text :=
  if url.user.isEmpty then [] else url.user ++ ['@']

def hostText (url : Url) : Text :=
  if url.host.elem ':' then '[' :: url.host ++ [']'] else url.host

def portText : Option Int -> Text
  | none => []
  | some port => ':' :: Text.ofInt port

def authorityText (url : Url) : Text :=
  url.userText ++ url.hostText ++ portText url.port?

def marked (mark : Char) : Option Text -> Text
  | none => []
  | some s => mark :: s

def text (url : Url) : Text :=
  let authority := url.authorityText
  url.schemeText ++ (if authority.isEmpty then [] else '/' :: '/' :: authority) ++ url.path
    ++ marked '?' url.query? ++ marked '#' url.fragment?

/-- Where a request is sent: the address itself, or without a host only what is asked for there. -/
def target (url : Url) : Url :=
  if !url.scheme.isEmpty && !url.host.isEmpty then url
  else
    { scheme := [], user := [], host := [], port? := none
      path := '/' :: url.path.dropWhile (· = '/'), query? := url.query?, fragment? := none }

/-- Whether a request can go to a target: one without a host has to keep the lengths of an address
in its parts as they are written. -/
def isReachable (target : Url) : Bool :=
  !target.host.isEmpty || (target.path.length ≤ longest && (target.query?.getD []).length ≤ longest)

/-- Whether a host ends at its first closing bracket, or goes on there with a port. -/
def isClosedOnce (host : Text) : Bool :=
  match host.dropWhile (· ≠ ']') with
  | [] => true
  | _ :: rest => (host.takeWhile (· ≠ ']')).getLast? ≠ some '%' && rest.head? = some ':'

/-- Whether a response can be filed under the address that it comes from, which has to be absolute
and to have a clear host. -/
def isAnswerable (target : Url) : Bool :=
  !target.host.isEmpty && isClosedOnce target.host

/-- The name and the password that an address carries. -/
def credentials? (url : Url) : Option (Text × Text) :=
  let name := decode (url.user.takeWhile (· ≠ ':'))
  let password := decode ((url.user.dropWhile (· ≠ ':')).drop 1)
  if name.isEmpty && password.isEmpty then none else some (name, password)

end Url
end SqlPipeline
