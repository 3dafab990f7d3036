import RequestFlow.Url.Idna.Domain
import RequestFlow.Url.Percent

/-!
Contract: the hosts of URLs.

Owns: numeric addresses in their many spellings and their one written form, and
the reading of a host as an address or a domain name.

A name whose last part is a number is taken for a numeric address. Its parts may
be decimal, octal or hexadecimal, and the last one fills the bytes that are left.
-/

namespace RequestFlow

/-- Why a text is no URL. -/
inductive UrlError where
  | relative
  | emptyHost
  | invalidPort
  | invalidIpv4
  | invalidIpv6
  | invalidName
  | invalidHostChar
deriving DecidableEq, Repr

def UrlError.message : UrlError → String
  | .relative => "relative URL without a base"
  | .emptyHost => "empty host"
  | .invalidPort => "invalid port number"
  | .invalidIpv4 => "invalid IPv4 address"
  | .invalidIpv6 => "invalid IPv6 address"
  | .invalidName => "invalid international domain name"
  | .invalidHostChar => "invalid domain character"

/-- A host: a name, four bytes as one number, or eight pieces of sixteen bits. -/
inductive Host where
  | name (text : String)
  | ipv4 (address : Nat)
  | ipv6 (pieces : List Nat)
deriving DecidableEq, Repr

namespace Host

/-! ## Addresses of four bytes -/

/-- Digits of a base, none at all counting as zero. -/
def digitsOf? (base : Nat) (digits : List Char) : Option Nat :=
  digits.foldl (fun value? digit => do
    let value ← value?
    let next ← Text.hexValue? digit
    if next < base then some (value * base + next) else none) (some 0)

/-- A part of a numeric address. A zero in front of more digits makes it octal. -/
def part? : List Char → Option Nat
  | [] => none
  | '0' :: 'x' :: digits => digitsOf? 16 digits
  | '0' :: 'X' :: digits => digitsOf? 16 digits
  | ['0'] => some 0
  | '0' :: digits => digitsOf? 8 digits
  | digits => digitsOf? 10 digits

/-- The parts of a name, without an empty one at the end. -/
def parts (name : List Char) : List (List Char) :=
  let all := Text.pieces (· == '.') name
  if all.getLast? == some [] then all.dropLast else all

/-- Whether a name is to be read as a numeric address. -/
def endsInNumber (name : List Char) : Bool :=
  match (parts name).getLast? with
  | none => false
  | some last => (!last.isEmpty && last.all Text.isDigit) || (part? last).isSome

/-- The address that parts make up: all but the last one are bytes. -/
def ipv4OfParts? (numbers : List Nat) : Option Nat :=
  match numbers.getLast? with
  | none => none
  | some last =>
      let bytes := numbers.dropLast
      if bytes.any (255 < ·) || 1 <<< (8 * (4 - bytes.length)) ≤ last then none
      else some (bytes.zipIdx.foldl (fun address (byte, index) =>
        address + byte <<< (8 * (3 - index))) last)

def readIpv4 (name : List Char) : Except UrlError Nat :=
  let written := parts name
  if 4 < written.length then .error .invalidIpv4
  else
    match (written.mapM part?).bind ipv4OfParts? with
    | some address => .ok address
    | none => .error .invalidIpv4

def ipv4Text (address : Nat) : String :=
  String.intercalate "." ([3, 2, 1, 0].map fun place =>
    Text.natText (address >>> (8 * place) % 256))

/-! ## Addresses of sixteen bytes -/

/-- A decimal number up to 255 without zeros in front. -/
def byte? (digits : List Char) : Option Nat :=
  match digits with
  | [] => none
  | '0' :: _ :: _ => none
  | _ =>
      if digits.all Text.isDigit && Text.digitsValue digits ≤ 255 then
        some (Text.digitsValue digits)
      else none

/-- The last two pieces, written as an address of four bytes. -/
def embeddedIpv4? (text : List Char) : Option (List Nat) := do
  let bytes ← (Text.pieces (· == '.') text).mapM byte?
  match bytes with
  | [one, two, three, four] => some [one * 256 + two, three * 256 + four]
  | _ => none

/-- A piece of one to four hexadecimal digits. -/
def piece? (digits : List Char) : Option Nat :=
  if digits.isEmpty || 4 < digits.length then none else digitsOf? 16 digits

/-- The pieces between colons; the last one may be an address of four bytes when
`isEnd` holds. No text at all has no pieces. -/
def ipv6Pieces? (isEnd : Bool) (text : List Char) : Option (List Nat) :=
  if text.isEmpty then some []
  else do
    let written := Text.pieces (· == ':') text
    let last := written.getLastD []
    if isEnd && last.contains '.' then
      let front ← written.dropLast.mapM piece?
      some (front ++ (← embeddedIpv4? last))
    else written.mapM piece?

/-- Reads an address. Two colons in a row stand, once, for pieces of zero. -/
def readIpv6 (text : List Char) : Except UrlError (List Nat) :=
  let pieces? : Option (List Nat) :=
    match Text.cutPair ':' ':' text with
    | some (front, back) => do
        let front ← ipv6Pieces? false front
        let back ← ipv6Pieces? true back
        let count := front.length + back.length
        if count ≤ 7 then some (front ++ List.replicate (8 - count) 0 ++ back) else none
    | none => do
        let pieces ← ipv6Pieces? true text
        if pieces.length == 8 then some pieces else none
  match pieces? with
  | some pieces => .ok pieces
  | none => .error .invalidIpv6

/-- The length of the run of zeros that a list starts with. -/
def zerosAhead (pieces : List Nat) : Nat :=
  (pieces.takeWhile (· == 0)).length

/-- The start and length of the longest run of zeros, the first one of equals. -/
def longestZeros : (index : Nat) → List Nat → Nat × Nat
  | _, [] => (0, 0)
  | index, piece :: rest =>
      let here := zerosAhead (piece :: rest)
      let (start, length) := longestZeros (index + 1) rest
      if length ≤ here then (index, here) else (start, length)

def hexText (pieces : List Nat) : String :=
  String.intercalate ":" (pieces.map fun piece => String.ofList (Text.natDigits 16 piece))

/-- The written form: the longest run of at least two zeros is left out. -/
def ipv6Text (pieces : List Nat) : String :=
  let (start, length) := longestZeros 0 pieces
  if length < 2 then hexText pieces
  else hexText (pieces.take start) ++ "::" ++ hexText (pieces.drop (start + length))

/-! ## Hosts -/

def toString : Host → String
  | .name text => text
  | .ipv4 address => ipv4Text address
  | .ipv6 pieces => "[" ++ ipv6Text pieces ++ "]"

/-- The text between brackets, if a text that starts with one ends with the other. -/
def bracketed? (text : List Char) : Option (Except UrlError (List Char)) :=
  match text with
  | '[' :: rest =>
      if rest.getLast? == some ']' then some (.ok rest.dropLast) else some (.error .invalidIpv6)
  | _ => none

/-- Reads the host of a URL whose scheme knows domain names. -/
def read (text : List Char) : Except UrlError Host :=
  match bracketed? text with
  | some inner => do .ok (.ipv6 (← readIpv6 (← inner)))
  | none =>
      match Idna.toAscii? (Text.ofBytes (Percent.decode text)) with
      | none => .error .invalidName
      | some [] => .error .emptyHost
      | some ascii =>
          if endsInNumber ascii then (readIpv4 ascii).map .ipv4
          else .ok (.name (String.ofList ascii))

/-- The characters that no host may hold. -/
def isHostForbidden (char : Char) : Bool :=
  ['\x00', '\t', '\n', '\r', ' ', '#', '/', ':', '<', '>', '?', '@', '[', '\\', ']', '^',
    '|'].contains char

/-- Checks the host of a URL whose scheme is unknown: it stands for itself. -/
def checkOpaque (text : List Char) : Except UrlError Unit :=
  match bracketed? text with
  | some inner => do
      let _ ← readIpv6 (← inner)
      .ok ()
  | none => if text.any isHostForbidden then .error .invalidHostChar else .ok ()

end Host

end RequestFlow
