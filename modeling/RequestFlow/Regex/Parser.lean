import RequestFlow.Regex.Basic

/-!
Contract: the texts of regular expressions.

Owns: characters and their escapes, sets in brackets with their operators,
groups, flags, alternatives and repetitions.

Flags hold from the place where they stand to the end of the group around it. A
text that is no expression has no reading.
-/

namespace RequestFlow.Regex

/-- How characters and borders are read. -/
structure Flags where
  caseless : Bool
  multiline : Bool
  dotAll : Bool
  returns : Bool
deriving DecidableEq, Repr

/-- Lines may end with a carriage return; all else is off. -/
def Flags.standard : Flags := ⟨false, false, false, true⟩

/-! ## Escapes -/

/-- What an escape stands for. -/
inductive Escaped where
  | char (value : Char)
  | set (chars : CharSet)
  | border (condition : Border)

def charOfCode? (code : Nat) : Option Char :=
  if code < 0xD800 || (0xE000 ≤ code && code < 0x110000) then some (Char.ofNat code) else none

def hexCode? (digits : List Char) : Option Nat :=
  if digits.isEmpty then none
  else digits.foldlM (fun code digit => do
    some (code * 16 + (← Text.hexValue? digit))) 0

/-- A code of so many digits, or of any number of digits in braces. -/
def readCode (count : Nat) (text : List Char) : Option (Escaped × List Char) := do
  let (digits, rest) ←
    match text with
    | '\x7b' :: rest => Text.cut '\x7d' rest
    | _ =>
        if (text.take count).length == count then some (text.take count, text.drop count)
        else none
  some (.char (← charOfCode? (← hexCode? digits)), rest)

/-- The name of a category: one letter, or a name in braces. A caret before the
name in braces turns the category round. -/
def readCategory (text : List Char) : Option (CharSet × List Char) := do
  let (turned, name, rest) ←
    match text with
    | '\x7b' :: '^' :: rest =>
        (Text.cut '\x7d' rest).map fun (name, behind) => (true, String.ofList name, behind)
    | '\x7b' :: rest =>
        (Text.cut '\x7d' rest).map fun (name, behind) => (false, String.ofList name, behind)
    | char :: rest => some (false, char.toString, rest)
    | [] => none
  if Category.isName name then
    let set := CharSet.category name
    some (if turned then .complement set else set, rest)
  else none

def controlEscapes : List (Char × Nat) :=
  [('a', 7), ('f', 12), ('t', 9), ('n', 10), ('r', 13), ('v', 11)]

/-- ASCII characters that stand for themselves behind a backslash. -/
def isEscapable (char : Char) : Bool :=
  char.toNat < 0x80 && !Text.isAlphanumeric char && char != '<' && char != '>'

def readWordBorder (text : List Char) : Escaped × List Char :=
  match Text.after? ['\x7b', 's', 't', 'a', 'r', 't', '\x7d'] text,
      Text.after? ['\x7b', 'e', 'n', 'd', '\x7d'] text with
  | some rest, _ => (.border .wordStart, rest)
  | none, some rest => (.border .wordEnd, rest)
  | none, none => (.border .word, text)

/-- The escape after a backslash. -/
def readEscape : List Char → Option (Escaped × List Char)
  | [] => none
  | 'x' :: rest => readCode 2 rest
  | 'u' :: rest => readCode 4 rest
  | 'U' :: rest => readCode 8 rest
  | 'd' :: rest => some (.set .digits, rest)
  | 'D' :: rest => some (.set (.complement .digits), rest)
  | 's' :: rest => some (.set .blanks, rest)
  | 'S' :: rest => some (.set (.complement .blanks), rest)
  | 'w' :: rest => some (.set .wordChars, rest)
  | 'W' :: rest => some (.set (.complement .wordChars), rest)
  | 'p' :: rest => (readCategory rest).map fun (set, rest) => (.set set, rest)
  | 'P' :: rest => (readCategory rest).map fun (set, rest) => (.set (.complement set), rest)
  | 'A' :: rest => some (.border .textStart, rest)
  | 'z' :: rest => some (.border .textEnd, rest)
  | 'b' :: rest => some (readWordBorder rest)
  | 'B' :: rest => some (.border .noWord, rest)
  | '<' :: rest => some (.border .wordStart, rest)
  | '>' :: rest => some (.border .wordEnd, rest)
  | char :: rest =>
      match controlEscapes.lookup char with
      | some code => some (.char (Char.ofNat code), rest)
      | none => if isEscapable char then some (.char char, rest) else none

/-! ## Sets in brackets -/

inductive SetOperator where
  | both
  | without
  | different

def SetOperator.apply : SetOperator → CharSet → CharSet → CharSet
  | .both, left, right => .both left right
  | .without, left, right => .without left right
  | .different, left, right => .either (.without left right) (.without right left)

/-- The named sets of ASCII characters. -/
def asciiSets : List (String × CharSet) :=
  let lower := CharSet.range 'a' 'z'
  let upper := CharSet.range 'A' 'Z'
  let digit := CharSet.range '0' '9'
  [("alnum", .union [digit, upper, lower]), ("alpha", .union [upper, lower]),
    ("ascii", .range (Char.ofNat 0) (Char.ofNat 0x7F)), ("blank", .ofChars ['\t', ' ']),
    ("cntrl", .union [.range (Char.ofNat 0) (Char.ofNat 0x1F), .one (Char.ofNat 0x7F)]),
    ("digit", digit), ("graph", .range '!' '~'), ("lower", lower), ("print", .range ' ' '~'),
    ("punct", .union [.range '!' '/', .range ':' '@', .range '[' '\x60', .range '\x7b' '~']),
    ("space", .union [.range '\t' '\r', .one ' ']), ("upper", upper),
    ("word", .union [digit, upper, lower, .one '_']),
    ("xdigit", .union [digit, .range 'A' 'F', .range 'a' 'f'])]

/-- A named set after its opening bracket, such as `:alpha:` and a closing bracket. -/
def readAsciiSet (text : List Char) : Option (CharSet × List Char) := do
  let (name, rest) ← Text.cutPair ':' ']' (← Text.after? [':'] text)
  match name with
  | '^' :: name => some (.complement (← asciiSets.lookup (String.ofList name)), rest)
  | _ => some (← asciiSets.lookup (String.ofList name), rest)

def readSetItem : List Char → Option (Escaped × List Char)
  | [] => none
  | '\\' :: rest => readEscape rest
  | char :: rest => some (.char char, rest)

/-- A character, an escaped set, or a range of characters. -/
def readSetRange (text : List Char) : Option (CharSet × List Char) := do
  let (first, rest) ← readSetItem text
  let alone : Option (CharSet × List Char) :=
    match first with
    | .char value => some (.one value, rest)
    | .set chars => some (chars, rest)
    | .border _ => none
  match rest with
  | '-' :: ']' :: _ => alone
  | '-' :: '-' :: _ => alone
  | '-' :: rest => do
      match first, ← readSetItem rest with
      | .char first, (.char last, rest) =>
          if first ≤ last then some (.range first last, rest) else none
      | _, _ => none
  | _ => alone

/-- Applies the operator that waits for its right side. -/
def combine (waiting : Option (SetOperator × CharSet)) (items : CharSet) : CharSet :=
  match waiting with
  | some (operator, left) => operator.apply left items
  | none => items

/-- Hyphens, and then a closing bracket if there were none, are the first
members of a set. -/
def leadingMembers (text : List Char) : CharSet × List Char :=
  match text with
  | ']' :: rest => (.one ']', rest)
  | '-' :: _ => (.one '-', text.dropWhile (· == '-'))
  | _ => (.empty, text)

mutual

/-- A set after its opening bracket. -/
def readSet (flags : Flags) : (fuel : Nat) → List Char → Option (CharSet × List Char)
  | 0, _ => none
  | fuel + 1, text => do
      let (turned, text) :=
        match text with
        | '^' :: rest => (true, rest)
        | _ => (false, text)
      let (members, text) := leadingMembers text
      let (set, rest) ← readSetRest flags fuel none members text
      let cased := if flags.caseless then CharSet.caseless set else set
      some (if turned then .complement cased else cased, rest)

/-- The rest of a set, after some members and an operator that may wait. -/
def readSetRest (flags : Flags) : (fuel : Nat) → Option (SetOperator × CharSet) → CharSet →
    List Char → Option (CharSet × List Char)
  | 0, _, _, _ => none
  | fuel + 1, waiting, items, text =>
      match text with
      | [] => none
      | ']' :: rest => some (combine waiting items, rest)
      | '&' :: '&' :: rest =>
          readSetRest flags fuel (some (.both, combine waiting items)) .empty rest
      | '-' :: '-' :: rest =>
          readSetRest flags fuel (some (.without, combine waiting items)) .empty rest
      | '~' :: '~' :: rest =>
          readSetRest flags fuel (some (.different, combine waiting items)) .empty rest
      | '[' :: rest => do
          let (inner, rest) ← readAsciiSet rest <|> readSet flags fuel rest
          readSetRest flags fuel waiting (.either items inner) rest
      | text => do
          let (item, rest) ← readSetRange text
          readSetRest flags fuel waiting (.either items item) rest

end

/-! ## Groups and repetitions -/

def Flags.change (flags : Flags) (on : Bool) : Char → Option Flags
  | 'i' => some { flags with caseless := on }
  | 'm' => some { flags with multiline := on }
  | 's' => some { flags with dotAll := on }
  | 'R' => some { flags with returns := on }
  | 'U' => some flags
  | _ => none

/-- The flags of a group; those after a hyphen are turned off. -/
def Flags.changeAll (flags : Flags) (on : Bool) : List Char → Option Flags
  | [] => some flags
  | '-' :: rest => if on && !rest.isEmpty then flags.changeAll false rest else none
  | char :: rest => do (← flags.change on char).changeAll on rest

/-- The name of a group: letters, digits and a few marks after a first letter. -/
def isGroupName (name : List Char) : Bool :=
  match name with
  | [] => false
  | first :: rest =>
      let isFirst (char : Char) := char == '_' || Category.contains "L" char
      isFirst first && rest.all fun char =>
        isFirst char || Text.isDigit char || ['.', '[', ']'].contains char

/-- What an opening parenthesis begins. -/
inductive GroupStart where
  | group (flags : Flags)
  | directive (flags : Flags)

def readGroupName (flags : Flags) (text : List Char) : Option (GroupStart × List Char) := do
  let (name, rest) ← Text.cut '>' text
  if isGroupName name then some (.group flags, rest) else none

/-- The text after an opening parenthesis, up to the group's own expression. -/
def readGroupStart (flags : Flags) : List Char → Option (GroupStart × List Char)
  | '?' :: 'P' :: '<' :: rest => readGroupName flags rest
  | '?' :: '<' :: rest => readGroupName flags rest
  | '?' :: ':' :: rest => some (.group flags, rest)
  | '?' :: rest => do
      let isEnd (char : Char) := char == ':' || char == ')'
      let names := rest.takeWhile fun char => !isEnd char
      let changed ← if names.isEmpty || !names.Nodup then none else flags.changeAll true names
      match rest.dropWhile fun char => !isEnd char with
      | ':' :: rest => some (.group changed, rest)
      | ')' :: rest => some (.directive changed, rest)
      | _ => none
  | text => some (.group flags, text)

/-- The largest count of a repetition. -/
def maxCount : Nat := 0xffffffff

/-- A count between optional blanks. -/
def readCount (text : List Char) : Option (Nat × List Char) :=
  let text := Text.trimStart text
  let digits := text.takeWhile Text.isDigit
  let count := Text.digitsValue digits
  if digits.isEmpty || count > maxCount then none
  else some (count, Text.trimStart (text.dropWhile Text.isDigit))

/-- The counts of a repetition after its opening brace. -/
def readCounts (text : List Char) : Option ((Nat × Option Nat) × List Char) := do
  let (least, rest) ← readCount text
  match rest with
  | '\x7d' :: rest => some ((least, some least), rest)
  | ',' :: '\x7d' :: rest => some ((least, none), rest)
  | ',' :: rest => do
      match ← readCount rest with
      | (most, '\x7d' :: rest) =>
          if least ≤ most then some ((least, some most), rest) else none
      | _ => none
  | _ => none

/-- The counts of a repetition, when one follows; `none` for a broken one. A
question mark after it bears only on which match is preferred. -/
def readRepetition (text : List Char) : Option (Option (Nat × Option Nat) × List Char) := do
  let (counts, rest) ←
    match text with
    | '*' :: rest => some (some (0, none), rest)
    | '+' :: rest => some (some (1, none), rest)
    | '?' :: rest => some (some (0, some 1), rest)
    | '\x7b' :: rest => (readCounts rest).map fun (counts, rest) => (some counts, rest)
    | _ => some (none, text)
  some (counts, if counts.isSome then Text.dropMark '?' rest else rest)

/-! ## Expressions -/

def Flags.single (flags : Flags) (char : Char) : Regex :=
  .member (if flags.caseless then .caseless (.one char) else .one char)

def Flags.dot (flags : Flags) : Regex :=
  .member (if flags.dotAll then .all
    else .complement (.ofChars (if flags.returns then ['\r', '\n'] else ['\n'])))

def Flags.caret (flags : Flags) : Regex :=
  .border (if !flags.multiline then .textStart
    else if flags.returns then .lineStart else .feedStart)

def Flags.dollar (flags : Flags) : Regex :=
  .border (if !flags.multiline then .textEnd
    else if flags.returns then .lineEnd else .feedEnd)

def Flags.escaped (flags : Flags) : Escaped → Regex
  | .char value => flags.single value
  | .set chars => .member (if flags.caseless then .caseless chars else chars)
  | .border condition => .border condition

/-- Appends the part that a repetition could still change. -/
def close (before : Regex) : Option Regex → Regex
  | some last => .sequence before last
  | none => before

mutual

/-- Alternatives, up to the end of a group or of the text. -/
def readChoice : (fuel : Nat) → Flags → List Char → Option (Regex × List Char)
  | 0, _, _ => none
  | fuel + 1, flags, text => do
      let (first, flags, rest) ← readSequence fuel flags .nothing none text
      match rest with
      | '|' :: rest => do
          let (second, rest) ← readChoice fuel flags rest
          some (.choice first second, rest)
      | _ => some (first, rest)

/-- The parts of one alternative, and the flags at its end. The last part is
kept apart, for a repetition may follow it. -/
def readSequence : (fuel : Nat) → Flags → Regex → Option Regex → List Char →
    Option (Regex × Flags × List Char)
  | 0, _, _, _, _ => none
  | fuel + 1, flags, before, last, text => do
      match ← readRepetition text with
      | (some (least, most), rest) =>
          readSequence fuel flags before (some (.repeated (← last) least most)) rest
      | (none, _) =>
          match text with
          | [] => some (close before last, flags, text)
          | ')' :: _ => some (close before last, flags, text)
          | '|' :: _ => some (close before last, flags, text)
          | '(' :: rest => do
              match ← readGroupStart flags rest with
              | (.directive changed, rest) =>
                  readSequence fuel changed (close before last) none rest
              | (.group inner, rest) => do
                  match ← readChoice fuel inner rest with
                  | (body, ')' :: rest) =>
                      readSequence fuel flags (close before last) (some body) rest
                  | _ => none
          | '[' :: rest => do
              let (set, rest) ← readSet flags fuel rest
              readSequence fuel flags (close before last) (some (.member set)) rest
          | '.' :: rest => readSequence fuel flags (close before last) (some flags.dot) rest
          | '^' :: rest => readSequence fuel flags (close before last) (some flags.caret) rest
          | '$' :: rest => readSequence fuel flags (close before last) (some flags.dollar) rest
          | '\\' :: rest => do
              let (found, rest) ← readEscape rest
              readSequence fuel flags (close before last) (some (flags.escaped found)) rest
          | char :: rest =>
              readSequence fuel flags (close before last) (some (flags.single char)) rest

end

/-- The expression that a text writes. Every call takes a character or goes into
or out of a group, so the fuel is never used up. -/
def parse? (text : String) : Option Regex := do
  let chars := text.toList
  match ← readChoice (3 * chars.length + 3) .standard chars with
  | (regex, []) => some regex
  | _ => none

end RequestFlow.Regex
