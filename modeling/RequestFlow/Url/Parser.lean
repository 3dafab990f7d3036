import RequestFlow.Url.Basic

/-!
Contract: URLs from texts.

Owns: the cut of a text at its marks, and the reading of scheme, user, host,
port, path, query and fragment from the pieces.

Control characters and blanks around a text are dropped, and tabs and line breaks
within it. The fragment starts at the first `#`, the query at the first `?` before
it. Web schemes take backslashes for slashes and any number of slashes before the
host.
-/

namespace RequestFlow.Url

/-! ## Cuts -/

def isControlOrBlank (char : Char) : Bool := char.toNat ≤ 0x20

def isTabOrBreak (char : Char) : Bool :=
  char == '\t' || char == '\n' || char == '\r'

/-- A text without what does not count in it. -/
def cleaned (text : List Char) : List Char :=
  (((text.dropWhile isControlOrBlank).reverse.dropWhile isControlOrBlank).reverse).filter
    fun char => !isTabOrBreak char

def isSchemeChar (char : Char) : Bool :=
  Text.isAlphanumeric char || char == '+' || char == '-' || char == '.'

/-- The scheme before the first colon, in lower case, and the text after it. -/
def cutScheme (text : List Char) : Option (String × List Char) :=
  match Text.cut ':' text with
  | some (scheme, rest) =>
      if scheme.head?.any Text.isLetter && scheme.all isSchemeChar then
        some (Text.lower (String.ofList scheme), rest)
      else none
  | none => none

/-- A text cut at an optional mark. -/
def cutAt (mark : Char) (text : List Char) : List Char × Option (List Char) :=
  match Text.cut mark text with
  | some (before, after) => (before, some after)
  | none => (text, none)

/-- What stands behind the scheme: the address, the query and the fragment. -/
structure Pieces where
  address : List Char
  query : Option (List Char)
  fragment : Option (List Char)

def Pieces.ofText (text : List Char) : Pieces :=
  let (front, fragment) := cutAt '#' text
  let (address, query) := cutAt '?' front
  ⟨address, query, fragment⟩

/-- The text before and after the last `@`. -/
def cutUser (authority : List Char) : Option (List Char) × List Char :=
  let host := (authority.reverse.takeWhile (· != '@')).reverse
  if host.length == authority.length then (none, authority)
  else (some (authority.take (authority.length - host.length - 1)), host)

/-- The host and the text of the port, which starts at a colon outside brackets. -/
def cutPort : (inBrackets : Bool) → List Char → List Char × Option (List Char)
  | _, [] => ([], none)
  | inBrackets, char :: rest =>
      if char == ':' && !inBrackets then ([], some rest)
      else
        let inside := if char == '[' then true else if char == ']' then false else inBrackets
        let (host, port) := cutPort inside rest
        (char :: host, port)

/-! ## User and port -/

def encodeUser (text : List Char) : String :=
  String.ofList (Percent.encode (Percent.keepsBut Percent.userSet) text)

/-- The user information of an authority. An empty password counts as none, and
without a name and a password there is no user. -/
def user? (text : List Char) : Option UserInfo :=
  let (name, password) := cutAt ':' text
  let password := password.filter fun password => !password.isEmpty
  if name.isEmpty && password.isNone then none
  else some ⟨encodeUser name, password.map encodeUser⟩

def maxPort : Nat := 65535

/-- The port that digits write; no digits at all write none. -/
def port? (digits : List Char) : Except UrlError (Option Nat) :=
  if digits.isEmpty then .ok none
  else if digits.all Text.isDigit && Text.digitsValue digits ≤ maxPort then
    .ok (some (Text.digitsValue digits))
  else .error .invalidPort

/-! ## Paths -/

/-- A segment that stands for its own directory, in plain or escaped form. -/
def isSingleDot (segment : List Char) : Bool :=
  [".", "%2e"].contains (Text.lower (String.ofList segment))

/-- A segment that stands for the directory around it. -/
def isDoubleDot (segment : List Char) : Bool :=
  ["..", ".%2e", "%2e.", "%2e%2e"].contains (Text.lower (String.ofList segment))

def encodeSegment (segment : List Char) : String :=
  String.ofList (Percent.encode (Percent.keepsBut Percent.pathSet) segment)

/-- Walks along written segments with the segments so far, the last one first. A
dot segment at the end leaves an empty segment. -/
def walk : (done : List String) → List (List Char) → List String
  | done, [] => done
  | done, segment :: rest =>
      if isDoubleDot segment then
        if rest.isEmpty then "" :: done.drop 1 else walk (done.drop 1) rest
      else if isSingleDot segment then
        if rest.isEmpty then "" :: done else walk done rest
      else walk (encodeSegment segment :: done) rest

def isSlash (char : Char) : Bool := char == '/' || char == '\\'

/-- The segments of a path that is empty or starts with a slash. -/
def segments (path : List Char) : List String :=
  (walk [] (Text.pieces isSlash (path.drop 1))).reverse

/-! ## URLs -/

/-- A host with its port and user, and the path behind them. -/
structure Authority where
  user : Option UserInfo
  host : Host
  port : Option Nat
  path : List Char

/-- Reads the address of a URL whose scheme knows domain names. -/
def readAuthority (address : List Char) : Except UrlError Authority := do
  let address := address.dropWhile isSlash
  let authority := address.takeWhile fun char => !isSlash char
  let path := address.dropWhile fun char => !isSlash char
  let (userText, hostText) := cutUser authority
  let (host, portText) := cutPort false hostText
  if host.isEmpty then .error .emptyHost
  else
    let host ← Host.read host
    let port ← port? (portText.getD [])
    .ok ⟨userText.bind user?, host, port, path⟩

def readWeb (scheme : WebScheme) (pieces : Pieces) : Except UrlError WebUrl := do
  let authority ← readAuthority pieces.address
  .ok
    { scheme := scheme
      user := authority.user
      host := authority.host
      port := authority.port.filter (· != scheme.defaultPort)
      path := segments authority.path
      query := pieces.query.map fun query =>
        String.ofList (Percent.encode (Percent.keepsBut Percent.querySet) query)
      fragment := pieces.fragment.map fun fragment =>
        String.ofList (Percent.encode (Percent.keepsBut Percent.fragmentSet) fragment) }

/-- A letter and a colon or a bar, which name a drive and no host. -/
def isDrive : List Char → Bool
  | [letter, mark] => Text.isLetter letter && (mark == ':' || mark == '|')
  | _ => false

/-- Checks the address of a file: it may have a host behind two slashes. -/
def checkFile (address : List Char) : Except UrlError Unit :=
  match address with
  | first :: second :: rest =>
      if isSlash first && isSlash second then
        let host := rest.takeWhile fun char => !isSlash char
        if host.isEmpty || isDrive host then .ok () else (Host.read host).map fun _ => ()
      else .ok ()
  | _ => .ok ()

/-- Checks the digits of a port up to a backslash, where the path starts. -/
def checkPort (text : List Char) : Except UrlError Unit :=
  (port? (text.takeWhile (· != '\\'))).map fun _ => ()

/-- Checks the address of an unknown scheme. It has an authority behind two
slashes, which may be empty unless a user or a port needs a host. -/
def checkOpaque (pieces : Pieces) : Except UrlError Unit :=
  match pieces.address with
  | '/' :: '/' :: rest => do
      let authority := rest.takeWhile (· != '/')
      let more := authority.length < rest.length || pieces.query.isSome || pieces.fragment.isSome
      let (userText, hostText) := cutUser authority
      let (host, portText) := cutPort false hostText
      if userText == some [] && hostText.isEmpty && more then .error .emptyHost
      else
        Host.checkOpaque host
        if host.isEmpty && portText.isSome then .error .emptyHost
        else
          checkPort (portText.getD [])
          if host.isEmpty && (userText.bind user?).isSome then .error .emptyHost else .ok ()
  | _ => .ok ()

/-- The schemes besides those of the web whose hosts are domain names. -/
def namedSchemes : List String := ["ftp", "ws", "wss"]

/-- Reads a text as a URL. -/
def parse (text : String) : Except UrlError Url :=
  match cutScheme (cleaned text.toList) with
  | none => .error .relative
  | some (scheme, rest) => do
      let pieces := Pieces.ofText rest
      let query := pieces.query.map String.ofList
      if scheme == WebScheme.http.word then .ok (.web (← readWeb .http pieces))
      else if scheme == WebScheme.https.word then .ok (.web (← readWeb .https pieces))
      else if namedSchemes.contains scheme then
        let _ ← readAuthority pieces.address
        .ok (.other scheme query)
      else if scheme == "file" then
        checkFile pieces.address
        .ok (.other scheme query)
      else
        checkOpaque pieces
        .ok (.other scheme query)

end RequestFlow.Url
