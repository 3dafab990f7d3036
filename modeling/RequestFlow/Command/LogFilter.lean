import RequestFlow.Text.Ascii
import RequestFlow.Text.Blank
import RequestFlow.Text.Split

/-!
Contract: the filters of diagnostic messages.

Owns: the check of a filter, which is a list of directives between commas. A
directive is a level, a target, or both with an equals sign between them; a span
with fields may stand in brackets behind the target.

Does not own: the messages themselves.
-/

namespace RequestFlow.LogFilter

inductive FilterError where
  | level
  | directive
deriving DecidableEq, Repr

def FilterError.message : FilterError → String
  | .level =>
      "error parsing level filter: expected one of \"off\", \"error\", \"warn\", \"info\", " ++
        "\"debug\", \"trace\", or a number 0-5"
  | .directive => "invalid filter directive"

def levelWords : List String := ["error", "warn", "info", "debug", "trace", "off"]

/-- The highest level that has a number. -/
def maxLevel : Nat := 5

/-- Whether a text is a level: nothing, a word in any letter case, or a number. -/
def isLevel (text : List Char) : Bool :=
  let digits := Text.dropMark '+' text
  text.isEmpty || levelWords.any (Text.sameIgnoringCase (String.ofList text)) ||
    (!digits.isEmpty && digits.all Text.isDigit && Text.digitsValue digits ≤ maxLevel)

/-- The place within a directive, with the text of the part that is being read. -/
inductive Progress where
  | start
  | target
  | span
  | field (isEmpty : Bool)
  | fields
  | afterSpan
  | level (text : List Char)

/-- A first character that cannot begin a target: neither a letter or digit nor
one of a few marks. Beyond ASCII all characters may. -/
def isBadStart (char : Char) : Bool :=
  char.toNat < 0x80 && !Text.isAlphanumeric char && !(char == '-' || char == ':' || char == '_')

/-- Reads one character of a directive. -/
def step : Progress → Char → Except FilterError Progress
  | .start, '[' => .ok .span
  | .start, char => if isBadStart char then .error .directive else .ok .target
  | .target, '=' => .ok (.level [])
  | .target, '[' => .ok .span
  | .target, _ => .ok .target
  | .span, ']' => .ok .afterSpan
  | .span, '\x7b' => .ok (.field true)
  | .span, _ => .ok .span
  | .field isEmpty, '\x7d' => if isEmpty then .error .directive else .ok .fields
  | .field _, _ => .ok (.field false)
  | .fields, ']' => .ok .afterSpan
  | .fields, _ => .error .directive
  | .afterSpan, '=' => .ok (.level [])
  | .afterSpan, _ => .error .directive
  | .level text, char => .ok (.level (text ++ [char]))

/-- What is left to check at the end of a directive. -/
def finish : Progress → Except FilterError Unit
  | .target | .afterSpan => .ok ()
  | .level text => if isLevel text then .ok () else .error .level
  | .start | .span | .field _ | .fields => .error .directive

def checkDirective (text : List Char) : Except FilterError Unit := do
  finish (← (Text.trim text).foldlM step .start)

/-- Checks a filter. Empty directives are passed over. -/
def check (filter : String) : Except FilterError Unit :=
  ((Text.pieces (· == ',') filter.toList).filter fun piece => !piece.isEmpty).forM checkDirective

/-- The error for a filter given on the command line. -/
def invalid (filter : String) (error : FilterError) : String :=
  "invalid log level '" ++ filter ++ "': " ++ error.message

end RequestFlow.LogFilter
