import RequestFlow.Document.JsonText
import RequestFlow.JsonPath.Basic

/-!
Contract: the texts of JSON paths.

Owns: names, quoted texts, integers, slices, literals, conditions with their
functions, and the types of the functions' arguments.

A path starts with a dollar sign and is read to the end of its text. Blanks may
stand before a step and between the parts of a bracket or condition, but not
around the path, nor inside a step with a point.
-/

namespace RequestFlow.JsonPath

open Document.JsonText (dropBlanks)

/-- Reads a value from the start of a text and gives the rest of it. -/
abbrev Reader (α : Type) := List Char → Option (α × List Char)

/-- The rest after an expected text. -/
def expect (text : List Char) : Reader Unit := fun source =>
  (Text.after? text source).map fun rest => ((), rest)

/-! ## Names, texts and numbers -/

def isNameFirst (char : Char) : Bool :=
  Text.isLetter char || char == '_' || char.toNat ≥ 0x80

def isNameChar (char : Char) : Bool :=
  isNameFirst char || Text.isDigit char

/-- A name without quotes. -/
def readName : Reader String
  | [] => none
  | first :: rest =>
      if isNameFirst first then
        some (String.ofList (first :: rest.takeWhile isNameChar), rest.dropWhile isNameChar)
      else none

/-- The character that an escape stands for. Of the two quotes only the one
around the text may be escaped. -/
def escaped? (quote char : Char) : Option Char :=
  if char == quote then some quote
  else if char == '"' then none
  else Document.JsonText.simpleEscape? char

/-- The units of a text up to its closing quote. -/
def readUnits (quote : Char) : List Char → Option (List Nat × List Char)
  | [] => none
  | '\\' :: 'u' :: one :: two :: three :: four :: rest => do
      let unit ← Document.JsonText.hexUnit? one two three four
      let (units, rest) ← readUnits quote rest
      some (unit :: units, rest)
  | '\\' :: char :: rest => do
      let found ← escaped? quote char
      let (units, rest) ← readUnits quote rest
      some (found.toNat :: units, rest)
  | char :: rest =>
      if char == quote then some ([], rest)
      else if char.toNat < 0x20 || char == '\\' then none
      else do
        let (units, rest) ← readUnits quote rest
        some (char.toNat :: units, rest)

def isQuote (char : Char) : Bool := char == '"' || char == '\''

/-- A text in single or double quotes. -/
def readQuoted : Reader String
  | [] => none
  | quote :: rest =>
      if isQuote quote then do
        let (units, rest) ← readUnits quote rest
        some (String.ofList (← Document.JsonText.joinPairs units), rest)
      else none

/-- The largest magnitude of an integer. -/
def maxInteger : Nat := 0x1fffffffffffff

/-- Decimal digits without leading zeros. -/
def readDigits (text : List Char) : Option (List Char × List Char) :=
  match text with
  | '0' :: rest => some (['0'], rest)
  | _ =>
      let digits := text.takeWhile Text.isDigit
      if digits.isEmpty then none else some (digits, text.dropWhile Text.isDigit)

/-- An integer; minus zero is none. -/
def readInteger (text : List Char) : Option (Int × List Char) := do
  let (negative, text) :=
    match text with
    | '-' :: rest => (true, rest)
    | _ => (false, text)
  let (digits, rest) ← readDigits text
  let value := Text.digitsValue digits
  if value > maxInteger || (negative && value == 0) then none
  else some (if negative then -(value : Int) else value, rest)

/-- A number with an optional fraction and exponent. -/
def readNumber (text : List Char) : Option (Json × List Char) := do
  let (negative, text) :=
    match text with
    | '-' :: rest => (true, rest)
    | _ => (false, text)
  let (whole, _) ← readDigits text
  if whole.length != (text.takeWhile Text.isDigit).length then none
  else
    match Document.JsonText.readLiteral negative text with
    | .ok (literal, rest) => some (.number (← literal.value?), rest)
    | .error _ => none

def readLiteral (text : List Char) : Option (Json × List Char) :=
  match text with
  | [] => none
  | char :: _ =>
      if isQuote char then (readQuoted text).map fun (value, rest) => (.string value, rest)
      else if char == '-' || Text.isDigit char then readNumber text
      else
        [("true", Json.bool true), ("false", .bool false), ("null", .null)].findSome? fun
          (word, value) => (Text.after? word.toList text).map fun rest => (value, rest)

/-! ## Steps -/

/-- What a level of nesting reads through the level below. -/
structure Inner where
  condition : Reader Condition
  argument : Reader Operand

def optional {α : Type} (reader : Reader α) (text : List Char) : Option α × List Char :=
  match reader text with
  | some (value, rest) => (some value, rest)
  | none => (none, text)

/-- The rest of a slice, after its first colon. -/
def readSliceRest (start : Option Int) (text : List Char) : Slice × List Char :=
  let (stop, afterStop) := optional readInteger (dropBlanks text)
  match dropBlanks afterStop with
  | ':' :: rest =>
      let (step, afterStep) := optional readInteger (dropBlanks rest)
      (⟨start, stop, step.getD 1⟩, afterStep)
  | _ => (⟨start, stop, 1⟩, afterStop)

/-- An index, or a slice if a colon follows. -/
def readPositions (text : List Char) : Option (Selector × List Char) :=
  let (start, rest) := optional readInteger text
  match dropBlanks rest with
  | ':' :: afterColon =>
      let (slice, rest) := readSliceRest start afterColon
      some (.slice slice, rest)
  | _ => start.map fun index => (.element index, rest)

def readSelector (inner : Inner) (text : List Char) : Option (Selector × List Char) :=
  match text with
  | [] => none
  | '*' :: rest => some (.wildcard, rest)
  | '?' :: rest =>
      (inner.condition (dropBlanks rest)).map fun (condition, rest) => (.filter condition, rest)
  | char :: _ =>
      if isQuote char then (readQuoted text).map fun (name, rest) => (.member name, rest)
      else readPositions text

/-- The selectors of a bracket after its opening or after a comma. -/
def readSelectors (inner : Inner) : (fuel : Nat) → Reader (List Selector)
  | 0, _ => none
  | fuel + 1, text => do
      let (selector, rest) ← readSelector inner (dropBlanks text)
      match dropBlanks rest with
      | ']' :: rest => some ([selector], rest)
      | ',' :: rest => do
          let (selectors, rest) ← readSelectors inner fuel rest
          some (selector :: selectors, rest)
      | _ => none

/-- The selectors of a step: a bracket, a wildcard or a name. -/
def readChoice (inner : Inner) (bracket bare : Bool) (text : List Char) :
    Option (List Selector × List Char) :=
  match text with
  | '[' :: rest => if bracket then readSelectors inner text.length rest else none
  | '*' :: rest => if bare then some ([.wildcard], rest) else none
  | _ =>
      if bare then (readName text).map fun (name, rest) => ([.member name], rest) else none

/-- A step, which starts with a bracket, a point or two points. -/
def readStep (inner : Inner) (text : List Char) : Option (Step × List Char) :=
  match text with
  | '.' :: '.' :: rest =>
      (readChoice inner true true rest).map fun (selectors, rest) => (.descendant selectors, rest)
  | '.' :: rest =>
      (readChoice inner false true rest).map fun (selectors, rest) => (.child selectors, rest)
  | _ => (readChoice inner true false text).map fun (selectors, rest) => (.child selectors, rest)

/-- As many steps as there are, each behind optional blanks. -/
def readSteps (reader : Reader Step) : (fuel : Nat) → List Char → List Step × List Char
  | 0, text => ([], text)
  | fuel + 1, text =>
      match reader (dropBlanks text) with
      | some (step, rest) =>
          let (steps, rest) := readSteps reader fuel rest
          (step :: steps, rest)
      | none => ([], text)

def readOrigin : Reader Origin
  | '$' :: rest => some (.document, rest)
  | '@' :: rest => some (.current, rest)
  | _ => none

def readQuery (reader : Reader Step) (text : List Char) :
    Option ((Origin × List Step) × List Char) := do
  let (origin, rest) ← readOrigin text
  let (steps, rest) := readSteps reader rest.length rest
  some ((origin, steps), rest)

/-- A name with a point, or a name or index alone in a bracket without blanks. -/
def readSingularStep (text : List Char) : Option (Step × List Char) :=
  match text with
  | '.' :: rest => (readName rest).map fun (name, rest) => (.child [.member name], rest)
  | '[' :: rest => do
      let (selector, rest) ←
        ((readQuoted rest).map fun (name, rest) => (Selector.member name, rest)) <|>
          ((readInteger rest).map fun (index, rest) => (Selector.element index, rest))
      let (_, rest) ← expect [']'] rest
      some (.child [selector], rest)
  | _ => none

/-! ## Functions -/

def isFunctionChar (char : Char) : Bool :=
  ('a' ≤ char && char ≤ 'z') || char == '_' || Text.isDigit char

/-- The name before an opening parenthesis. -/
def readFunctionName (text : List Char) : Option (String × List Char) :=
  match text.dropWhile isFunctionChar with
  | '(' :: rest => some (String.ofList (text.takeWhile isFunctionChar), rest)
  | _ => none

/-- The closing parenthesis behind a value. -/
def closing {α : Type} (value : α) (text : List Char) : Option (α × List Char) :=
  (expect [')'] (dropBlanks text)).map fun ((), rest) => (value, rest)

/-- The argument of a function of nodes. -/
def readNodes (inner : Inner) (text : List Char) :
    Option ((Origin × List Step) × List Char) := do
  let (query, rest) ← readQuery (readStep inner) (dropBlanks text)
  closing query rest

/-- A function that gives a value: the length of a value, or the number or the
only one of some nodes. -/
def readValueFunction (inner : Inner) (text : List Char) : Option (Operand × List Char) := do
  let (name, rest) ← readFunctionName text
  match name with
  | "length" => do
      let (operand, rest) ← inner.argument (dropBlanks rest)
      closing (.length operand) rest
  | "count" =>
      (readNodes inner rest).map fun ((origin, steps), rest) => (.count origin steps, rest)
  | "value" =>
      (readNodes inner rest).map fun ((origin, steps), rest) => (.onlyNode origin steps, rest)
  | _ => none

/-- The argument of a function of values: a literal, a path to one node at most,
or a function that gives a value. -/
def readArgument (inner : Inner) (text : List Char) : Option (Operand × List Char) :=
  match readOrigin text with
  | some _ => do
      let ((origin, steps), rest) ← readQuery (readStep inner) text
      if steps.all Step.isSingular then some (.onlyNode origin steps, rest) else none
  | none =>
      match readLiteral text with
      | some (value, rest) => some (.literal value, rest)
      | none => readValueFunction inner text

/-- The two arguments of a function that compares a text with a pattern. -/
def readTextFunction (inner : Inner) (text : List Char) : Option (Condition × List Char) := do
  let (name, rest) ← readFunctionName text
  let whole ← [("match", true), ("search", false)].lookup name
  let (subject, rest) ← inner.argument (dropBlanks rest)
  let (_, rest) ← expect [','] (dropBlanks rest)
  let (pattern, rest) ← inner.argument (dropBlanks rest)
  closing (.textMatches whole subject pattern) rest

/-! ## Conditions -/

def comparisons : List (List Char × Comparison) :=
  [(['=', '='], .equal), (['!', '='], .different), (['<', '='], .atMost),
    (['>', '='], .atLeast), (['<'], .below), (['>'], .above)]

def readComparison (text : List Char) : Option (Comparison × List Char) :=
  comparisons.findSome? fun (sign, comparison) =>
    (Text.after? sign text).map fun rest => (comparison, rest)

/-- One side of a comparison. -/
def readOperand (inner : Inner) (text : List Char) : Option (Operand × List Char) :=
  match readOrigin text with
  | some _ => (readQuery readSingularStep text).map fun ((origin, steps), rest) =>
      (.onlyNode origin steps, rest)
  | none =>
      match readLiteral text with
      | some (value, rest) => some (.literal value, rest)
      | none => readValueFunction inner text

def readCompared (inner : Inner) (text : List Char) : Option (Condition × List Char) := do
  let (left, rest) ← readOperand inner text
  let (comparison, rest) ← readComparison (dropBlanks rest)
  let (right, rest) ← readOperand inner (dropBlanks rest)
  some (.compared left comparison right, rest)

/-- A test that is no comparison: nodes that occur, or a text that matches. -/
def readTest (inner : Inner) (text : List Char) : Option (Condition × List Char) :=
  match readOrigin text with
  | some _ => (readQuery (readStep inner) text).map fun ((origin, steps), rest) =>
      (.occurs origin steps, rest)
  | none => readTextFunction inner text

def readParentheses (inner : Inner) (text : List Char) : Option (Condition × List Char) := do
  let (_, rest) ← expect ['('] text
  let (condition, rest) ← inner.condition (dropBlanks rest)
  closing condition rest

/-- A condition without operators between conditions. -/
def readBasic (inner : Inner) (text : List Char) : Option (Condition × List Char) :=
  match text with
  | '!' :: rest =>
      let rest := dropBlanks rest
      (readParentheses inner rest <|> readTest inner rest).map fun (condition, rest) =>
        (.negated condition, rest)
  | '(' :: _ => readParentheses inner text
  | _ => readCompared inner text <|> readTest inner text

/-- Further conditions behind an operator, joined from the left. -/
def readJoined (operator : List Char) (join : Condition → Condition → Condition)
    (reader : Reader Condition) : (fuel : Nat) → Condition → Reader Condition
  | 0, left, text => some (left, text)
  | fuel + 1, left, text =>
      match Text.after? operator (dropBlanks text) with
      | none => some (left, text)
      | some rest => do
          let (right, rest) ← reader (dropBlanks rest)
          readJoined operator join reader fuel (join left right) rest

def readConjunction (inner : Inner) (text : List Char) : Option (Condition × List Char) := do
  let (first, rest) ← readBasic inner text
  readJoined ['&', '&'] .both (readBasic inner) rest.length first rest

def readDisjunction (inner : Inner) (text : List Char) : Option (Condition × List Char) := do
  let (first, rest) ← readConjunction inner text
  readJoined ['|', '|'] .either (readConjunction inner) rest.length first rest

/-! ## Paths -/

/-- The readers for so many levels of nesting. -/
def level : Nat → Inner
  | 0 => ⟨fun _ => none, fun _ => none⟩
  | depth + 1 =>
      let inner := level depth
      ⟨readDisjunction inner, readArgument inner⟩

/-- A text writes no path: where it could not be read any further, the first
character being at position one. -/
structure PathError where
  position : Nat
deriving DecidableEq, Repr

def PathError.message (error : PathError) : String :=
  "at position " ++ Text.natText error.position ++ ", no step of a path can be read"

/-- The path that a text writes. Each level of nesting takes a character, so as
many levels as there are characters are enough. -/
def parse (text : String) : Except PathError (List Step) :=
  let chars := text.toList
  match readQuery (readStep (level chars.length)) chars with
  | some ((.document, steps), []) => .ok steps
  | some ((.document, _), rest) => .error ⟨chars.length - rest.length + 1⟩
  | _ => .error ⟨1⟩

end RequestFlow.JsonPath
