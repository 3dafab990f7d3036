import RequestFlow.Url.Host

/-!
Contract: URLs of web requests.

Owns: the parts of a URL and its written form, and the pairs of its query.

The parts are held as they are written, percent escapes included. The path is
the list of its segments and has at least one.

Does not own: reading (`Url.Parser`).
-/

namespace RequestFlow

inductive WebScheme where
  | http
  | https
deriving DecidableEq, Repr

namespace WebScheme

def word : WebScheme → String
  | .http => "http"
  | .https => "https"

/-- The port that need not be written. -/
def defaultPort : WebScheme → Nat
  | .http => 80
  | .https => 443

end WebScheme

/-- The user information of a URL. -/
structure UserInfo where
  name : String
  password : Option String
deriving DecidableEq, Repr

/-- A URL of a web request. The port is there only when it is not the default. -/
structure WebUrl where
  scheme : WebScheme
  user : Option UserInfo
  host : Host
  port : Option Nat
  path : List String
  query : Option String
  fragment : Option String
deriving DecidableEq, Repr

def UserInfo.toString (user : UserInfo) : String :=
  match user.password with
  | some password => user.name ++ ":" ++ password
  | none => user.name

namespace WebUrl

/-- A text in front of an optional part, or nothing. -/
def marked (mark : String) : Option String → String
  | some text => mark ++ text
  | none => ""

def pathText (path : List String) : String :=
  "/" ++ String.intercalate "/" path

def toString (url : WebUrl) : String :=
  let user :=
    match url.user with
    | some user => user.toString ++ "@"
    | none => ""
  url.scheme.word ++ "://" ++ user ++ url.host.toString ++
    marked ":" (url.port.map Text.natText) ++ pathText url.path ++ marked "?" url.query ++
    marked "#" url.fragment

/-- The decoded pairs of the query. -/
def queryPairs (url : WebUrl) : List (String × String) :=
  match url.query with
  | some query => Percent.pairs query.toList
  | none => []

/-- Gives a URL a query, an empty one if it has none. -/
def openQuery (url : WebUrl) : WebUrl :=
  { url with query := some (url.query.getD "") }

/-- Adds a pair at the end of the query. -/
def appendPair (url : WebUrl) (name value : String) : WebUrl :=
  { url with
    query := some (String.ofList (Percent.appendPair (url.query.getD "").toList name value)) }

end WebUrl

/-- A URL of any scheme. Of one that is not for the web only the scheme and the
query are kept. -/
inductive Url where
  | web (url : WebUrl)
  | other (scheme : String) (query : Option String)
deriving DecidableEq, Repr

namespace Url

def scheme : Url → String
  | .web url => url.scheme.word
  | .other scheme _ => scheme

def queryPairs : Url → List (String × String)
  | .web url => url.queryPairs
  | .other _ (some query) => Percent.pairs query.toList
  | .other _ none => []

end Url

end RequestFlow
