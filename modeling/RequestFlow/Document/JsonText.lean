import RequestFlow.Document.Node

/-!
Contract: the tree of a JSON text.

Owns: the JSON grammar with its blanks, literals and escapes, the place and kind
of every defect, and the limit of nested containers.

A reading of a value gives its node and the text after it; there is no text
after a node that ends in a fault, because reading stops there.
-/

namespace RequestFlow.Document.JsonText

/-- The blanks between JSON tokens. -/
def isBlank (char : Char) : Bool :=
  char == ' ' || char == '\n' || char == '\t' || char == '\r'

def dropBlanks (text : List Char) : List Char :=
  text.dropWhile isBlank

/-- A node and the text after it, if the reading goes on. -/
structure Reading where
  node : Node
  rest? : Option (List Char)

def stop (fault : Fault) : Reading :=
  ⟨.fault fault, none⟩

/-- A word such as `true`, of which the first letter was seen. -/
def readWord (node : Node) : (word text : List Char) → Reading
  | [], text => ⟨node, some text⟩
  | _ :: _, [] => stop .truncated
  | expected :: word, char :: text =>
      if char == expected then readWord node word text else stop .malformed

/-! ## Numbers -/

/-- The digits after an exponent mark, at least one. -/
def readExponent (literal : Decimal.Literal) (text : List Char) :
    Except Fault (Decimal.Literal × List Char) :=
  let (negative, text) :=
    match text with
    | '+' :: rest => (false, rest)
    | '-' :: rest => (true, rest)
    | _ => (false, text)
  match text with
  | [] => .error .cutNumber
  | first :: _ =>
      if !Text.isDigit first then .error .malformed
      else
        .ok (⟨literal.negative, literal.whole, literal.fraction,
          some (negative, text.takeWhile Text.isDigit)⟩, text.dropWhile Text.isDigit)

def readExponent? (literal : Decimal.Literal) (text : List Char) :
    Except Fault (Decimal.Literal × List Char) :=
  match text with
  | 'e' :: rest => readExponent literal rest
  | 'E' :: rest => readExponent literal rest
  | _ => .ok (literal, text)

/-- The parts of a number: no leading zeros, digits on both sides of a point. -/
def readLiteral (negative : Bool) (text : List Char) :
    Except Fault (Decimal.Literal × List Char) :=
  let whole := text.takeWhile Text.isDigit
  let rest := text.dropWhile Text.isDigit
  match whole with
  | [] => if text.isEmpty then .error .cutNumber else .error .malformed
  | '0' :: _ :: _ => .error .malformed
  | _ =>
    match rest with
    | '.' :: rest =>
        let fraction := rest.takeWhile Text.isDigit
        if fraction.isEmpty then
          if rest.isEmpty then .error .cutNumber else .error .malformed
        else readExponent? ⟨negative, whole, fraction, none⟩ (rest.dropWhile Text.isDigit)
    | _ => readExponent? ⟨negative, whole, [], none⟩ rest

def readNumber (negative : Bool) (text : List Char) : Reading :=
  match readLiteral negative text with
  | .error fault => stop fault
  | .ok (literal, rest) =>
      match literal.value? with
      | some value => ⟨.number value, some rest⟩
      | none => ⟨.unfit, some rest⟩

/-! ## Strings -/

/-- The value of four hexadecimal digits. -/
def hexUnit? (one two three four : Char) : Option Nat := do
  let one ← Text.hexValue? one
  let two ← Text.hexValue? two
  let three ← Text.hexValue? three
  let four ← Text.hexValue? four
  some (((one * 16 + two) * 16 + three) * 16 + four)

def simpleEscape? : Char → Option Char
  | '"' => some '"'
  | '\\' => some '\\'
  | '/' => some '/'
  | 'b' => some (Char.ofNat 8)
  | 'f' => some (Char.ofNat 12)
  | 'n' => some '\n'
  | 'r' => some '\r'
  | 't' => some '\t'
  | _ => none

/-- The units of a string up to its closing quote, one number per character or
per escaped unit. Escaped halves of surrogate pairs are still apart. A fault
carries the units before it. -/
def readUnits : List Char → List Nat → Except (Defect × List Nat) (List Nat × List Char)
  | [], units => .error (.truncated, units)
  | '"' :: rest, units => .ok (units.reverse, rest)
  | '\\' :: 'u' :: one :: two :: three :: four :: rest, units =>
      match hexUnit? one two three four with
      | some unit => readUnits rest (unit :: units)
      | none => .error (.malformed, units)
  | '\\' :: 'u' :: _, units => .error (.truncated, units)
  | ['\\'], units => .error (.truncated, units)
  | '\\' :: escaped :: rest, units =>
      match simpleEscape? escaped with
      | some char => readUnits rest (char.toNat :: units)
      | none => .error (.malformed, units)
  | char :: rest, units =>
      if char.toNat < 0x20 then .error (.malformed, units)
      else readUnits rest (char.toNat :: units)

def isHighHalf (unit : Nat) : Bool := 0xD800 ≤ unit && unit < 0xDC00

def isLowHalf (unit : Nat) : Bool := 0xDC00 ≤ unit && unit < 0xE000

/-- Joins surrogate pairs; `none` when a half stands alone. -/
def joinPairs : List Nat → Option (List Char)
  | [] => some []
  | [unit] => if isHighHalf unit || isLowHalf unit then none else some [Char.ofNat unit]
  | first :: second :: rest =>
      if isHighHalf first then
        if isLowHalf second then
          let code := 0x10000 + (first - 0xD800) * 0x400 + (second - 0xDC00)
          (joinPairs rest).map (Char.ofNat code :: ·)
        else none
      else if isLowHalf first then none
      else (joinPairs (second :: rest)).map (Char.ofNat first :: ·)

/-- Whether a reading of a broken string still hopes for the other half of a pair. -/
def waitsForHalf (units : List Nat) : Bool :=
  match units with
  | last :: before => isHighHalf last && (joinPairs before.reverse).isSome
  | [] => false

/-- A string after its opening quote. -/
def readString (text : List Char) : Reading :=
  match readUnits text [] with
  | .ok (units, rest) =>
      match joinPairs units with
      | some chars => ⟨.string (String.ofList chars), some rest⟩
      | none => ⟨.unfit, some rest⟩
  | .error (.malformed, _) => stop .malformed
  | .error (.truncated, units) =>
      if (joinPairs units.reverse).isSome || waitsForHalf units then stop .truncated
      else stop .cutGarbled

/-! ## Containers -/

/-- How many containers may be nested. -/
def maxDepth : Nat := 127

/-- Marks the first container beyond the limit. -/
def limitDepth (depth : Nat) (reading : Reading) : Reading :=
  if depth == maxDepth then ⟨.deep reading.node, reading.rest?⟩ else reading

mutual

/-- Reads a value inside `depth` open containers. Each level of nesting takes at
least one character, so a `fuel` above the length of the text is never used up. -/
def readValue : (fuel depth : Nat) → List Char → Reading
  | 0, _, _ => stop .malformed
  | fuel + 1, depth, text =>
      match dropBlanks text with
      | [] => stop .truncated
      | 'n' :: rest => readWord .null ['u', 'l', 'l'] rest
      | 't' :: rest => readWord (.bool true) ['r', 'u', 'e'] rest
      | 'f' :: rest => readWord (.bool false) ['a', 'l', 's', 'e'] rest
      | '"' :: rest => readString rest
      | '-' :: rest => readNumber true rest
      | '[' :: rest =>
          let (items, ending, rest?) := readItems fuel (depth + 1) true rest
          limitDepth depth ⟨.sequence items ending, rest?⟩
      | '\x7b' :: rest =>
          let (fields, ending, rest?) := readFields fuel (depth + 1) true rest
          limitDepth depth ⟨.mapping fields ending, rest?⟩
      | char :: rest =>
          if Text.isDigit char then readNumber false (char :: rest) else stop .malformed

/-- Reads the items of a sequence up to its end. -/
def readItems : (fuel depth : Nat) → (first : Bool) → List Char →
    List Node × Option Fault × Option (List Char)
  | 0, _, _, _ => ([], some .malformed, none)
  | fuel + 1, depth, first, text =>
      let item (text : List Char) :=
        let reading := readValue fuel depth text
        match reading.rest? with
        | none => ([reading.node], none, none)
        | some rest =>
            let (items, ending, rest?) := readItems fuel depth false rest
            (reading.node :: items, ending, rest?)
      match dropBlanks text with
      | [] => ([], some .truncated, none)
      | ']' :: rest => ([], none, some rest)
      | ',' :: rest =>
          if first then item (',' :: rest)
          else
            match dropBlanks rest with
            | [] => ([.fault .truncated], none, none)
            | ']' :: _ => ([.fault .malformed], none, none)
            | rest => item rest
      | char :: rest =>
          if first then item (char :: rest) else ([], some .malformed, none)

/-- Reads the fields of a mapping up to its end. -/
def readFields : (fuel depth : Nat) → (first : Bool) → List Char →
    List (Node × Node) × Option Fault × Option (List Char)
  | 0, _, _, _ => ([], some .malformed, none)
  | fuel + 1, depth, first, text =>
      let field (text : List Char) :=
        let key := readString text
        match key.rest? with
        | none =>
            match key.node with
            | .fault fault => ([], some fault, none)
            | _ => ([], some .malformed, none)
        | some rest =>
            match dropBlanks rest with
            | [] => ([(key.node, .fault .truncated)], none, none)
            | ':' :: rest =>
                let reading := readValue fuel depth rest
                match reading.rest? with
                | none => ([(key.node, reading.node)], none, none)
                | some rest =>
                    let (fields, ending, rest?) := readFields fuel depth false rest
                    ((key.node, reading.node) :: fields, ending, rest?)
            | _ => ([(key.node, .fault .malformed)], none, none)
      match dropBlanks text with
      | [] => ([], some .truncated, none)
      | '\x7d' :: rest => ([], none, some rest)
      | ',' :: rest =>
          if first then ([], some .malformed, none)
          else
            match dropBlanks rest with
            | [] => ([], some .truncated, none)
            | '"' :: rest => field rest
            | _ => ([], some .malformed, none)
      | '"' :: rest => if first then field rest else ([], some .malformed, none)
      | _ => ([], some .malformed, none)

end

/-- A document: its tree, and whether anything but blanks follows it. -/
structure Parsed where
  root : Node
  trailing : Bool

/-- The tree of a whole text. -/
def parse (text : String) : Parsed :=
  let chars := text.toList
  let reading := readValue (2 * chars.length + 2) 0 chars
  match reading.rest? with
  | none => ⟨reading.node, false⟩
  | some rest => ⟨reading.node, !(dropBlanks rest).isEmpty⟩

/-- Runs a typed reading over a text; what follows the value is noticed last. -/
def decode {α : Type} (reading : Node → Except DecodeError α) (text : String) :
    Except DecodeError α := do
  let parsed := parse text
  let value ← reading parsed.root
  if parsed.trailing then .error .malformed else .ok value

/-- The JSON value of a text. -/
def toJson (text : String) : Except DecodeError Json :=
  decode Node.toJson text

end RequestFlow.Document.JsonText
