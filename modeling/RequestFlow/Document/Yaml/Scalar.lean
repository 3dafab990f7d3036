import RequestFlow.Text.Ascii

/-!
Contract: the texts of YAML scalars.

Owns: blanks and line breaks, the folding of line breaks, and the reading of
plain, quoted and block scalars from the characters they start at.

Every reading gives the text of the scalar and the characters after it, and
fails where the scalar is not well formed. Carriage returns and line feeds,
alone or together, and the next-line character count as one line feed.

Does not own: where a scalar may stand (`Yaml.Token`).
-/

namespace RequestFlow.Document.Yaml

/-- A space or a tab. -/
def isBlank (char : Char) : Bool :=
  char == ' ' || char == '\t'

def isBreak (char : Char) : Bool :=
  char == '\r' || char == '\n' || char.toNat == 0x85 || char.toNat == 0x2028 ||
    char.toNat == 0x2029

/-- Whether a word has ended: at a blank, a break or the end of the text. -/
def wordEnds : List Char → Bool
  | [] => true
  | char :: _ => isBlank char || isBreak char

/-- Whether a line has ended. -/
def lineEnds : List Char → Bool
  | [] => true
  | char :: _ => isBreak char

/-- The characters of anchors, tag handles and directives. -/
def isNameChar (char : Char) : Bool :=
  Text.isAlphanumeric char || char == '_' || char == '-'

/-- The line feed that a break stands for. Line and paragraph separators stay. -/
def breakText (char : Char) : Char :=
  if char.toNat == 0x2028 || char.toNat == 0x2029 then char else '\n'

/-- One line break and the text after it. -/
def takeBreak : List Char → Option (Char × List Char)
  | '\r' :: '\n' :: rest => some ('\n', rest)
  | char :: rest => if isBreak char then some (breakText char, rest) else none
  | [] => none

/-- The marks `---` and `...`, which count at the start of a line only. -/
def isDocumentMark : List Char → Bool
  | '-' :: '-' :: '-' :: rest => wordEnds rest
  | '.' :: '.' :: '.' :: rest => wordEnds rest
  | _ => false

/-! ## Gaps between the words of a scalar -/

/-- The blanks and breaks between two words, with the column behind them. Blanks
count only before the first break. `indented` fails when a tab stands where the
indentation should be. -/
structure Gap where
  blanks : List Char
  first : Option Char
  further : List Char
  broken : Bool
  column : Nat
  indented : Bool

namespace Gap

def start (column : Nat) : Gap := ⟨[], none, [], false, column, true⟩

/-- A gap whose first line break is escaped and leaves no trace. -/
def afterEscape : Gap := ⟨[], none, [], true, 0, true⟩

def addBreak (gap : Gap) (char : Char) : Gap :=
  if gap.broken then { gap with further := gap.further ++ [char], column := 0 }
  else { gap with blanks := [], first := some char, broken := true, column := 0 }

def addBlank (indent : Nat) (gap : Gap) (char : Char) : Gap :=
  if gap.broken then
    { gap with
      column := gap.column + 1
      indented := gap.indented && !(char == '\t' && gap.column < indent) }
  else { gap with blanks := gap.blanks ++ [char], column := gap.column + 1 }

/-- What a gap leaves in the text: its blanks, or one space for a single break
and the further breaks for more. -/
def text (gap : Gap) : List Char :=
  if !gap.broken then gap.blanks
  else
    match gap.first with
    | some '\n' => if gap.further.isEmpty then [' '] else gap.further
    | some char => char :: gap.further
    | none => gap.further

end Gap

/-- Reads on in a gap. -/
def readGap (indent : Nat) : Gap → List Char → Gap × List Char
  | gap, '\r' :: '\n' :: rest => readGap indent (gap.addBreak '\n') rest
  | gap, char :: rest =>
      if isBreak char then readGap indent (gap.addBreak (breakText char)) rest
      else if isBlank char then readGap indent (gap.addBlank indent char) rest
      else (gap, char :: rest)
  | gap, [] => (gap, [])

/-! ## Plain scalars -/

/-- A plain scalar with what follows it. `broken` tells that a line break
stands directly behind it. -/
structure PlainScalar where
  text : List Char
  rest : List Char
  broken : Bool

def isFlowIndicator (char : Char) : Bool :=
  char == ',' || char == '[' || char == ']' || char == '\x7b' || char == '\x7d'

/-- A word of a plain scalar. It ends before a colon at the end of a word, and in
flow context before a flow indicator; there a colon may not stand before one. -/
def plainWord (inFlow : Bool) : List Char → Option (List Char × List Char)
  | [] => some ([], [])
  | char :: rest =>
      if isBlank char || isBreak char then some ([], char :: rest)
      else if inFlow && char == ':' && (rest.head?.any fun next =>
          isFlowIndicator next || next == '?') then none
      else if (char == ':' && wordEnds rest) || (inFlow && isFlowIndicator char) then
        some ([], char :: rest)
      else do
        let (word, rest) ← plainWord inFlow rest
        some (char :: word, rest)

/-- Reads a plain scalar word by word. `gap` is what precedes the next word, and
`indent` the column that further lines have to reach outside flow context. -/
def readPlain (inFlow : Bool) (indent : Nat) :
    (fuel : Nat) → (gap : Gap) → List Char → Option PlainScalar
  | 0, _, _ => none
  | fuel + 1, gap, text =>
      if (gap.column == 0 && isDocumentMark text) || text.head? == some '#' then
        some ⟨[], text, gap.broken⟩
      else do
        let (word, rest) ← plainWord inFlow text
        let before := if word.isEmpty then [] else gap.text
        let column := gap.column + word.length
        if !wordEnds rest || rest.isEmpty then
          some ⟨before ++ word, rest, word.isEmpty && gap.broken⟩
        else
          let (next, rest) := readGap indent (Gap.start column) rest
          if !next.indented then none
          else if !inFlow && next.column < indent then some ⟨before ++ word, rest, next.broken⟩
          else do
            let more ← readPlain inFlow indent fuel next rest
            some { more with text := before ++ word ++ more.text }

/-! ## Quoted scalars -/

/-- The character of a one-letter escape. -/
def simpleEscape? : Char → Option Char
  | '0' => some '\x00'
  | 'a' => some '\x07'
  | 'b' => some '\x08'
  | 't' => some '\t'
  | '\t' => some '\t'
  | 'n' => some '\n'
  | 'v' => some '\x0b'
  | 'f' => some '\x0c'
  | 'r' => some '\r'
  | 'e' => some '\x1b'
  | ' ' => some ' '
  | '"' => some '"'
  | '/' => some '/'
  | '\\' => some '\\'
  | 'N' => some '\u0085'
  | '_' => some '\u00a0'
  | 'L' => some '\u2028'
  | 'P' => some '\u2029'
  | _ => none

/-- The number of hexadecimal digits that an escape calls for. -/
def escapeDigits? : Char → Option Nat
  | 'x' => some 2
  | 'u' => some 4
  | 'U' => some 8
  | _ => none

/-- A character by its code, which may not be half of a surrogate pair. -/
def charOfCode? (code : Nat) : Option Char :=
  if code.isValidChar then some (Char.ofNat code) else none

def hexNumber? (digits : List Char) : Option Nat :=
  digits.foldl (fun value? digit => do
    let value ← value?
    let next ← Text.hexValue? digit
    some (value * 16 + next)) (some 0)

/-- The character of an escape, given the text behind the backslash. -/
def readEscape : List Char → Option (Char × List Char)
  | [] => none
  | mark :: rest =>
      match simpleEscape? mark with
      | some char => some (char, rest)
      | none => do
          let count ← escapeDigits? mark
          let digits := rest.take count
          if digits.length < count then none
          else do
            let char ← charOfCode? (← hexNumber? digits)
            some (char, rest.drop count)

/-- How the words of a quoted scalar end: at the closing quote, in a gap, or at
an escaped line break. -/
inductive WordEnd where
  | closed
  | gap
  | escapedBreak
deriving DecidableEq

/-- A word of a scalar in double quotes. -/
def doubleQuotedWord : (fuel : Nat) → List Char → Option (List Char × WordEnd × List Char)
  | 0, _ => none
  | fuel + 1, text =>
      match text with
      | [] => some ([], .gap, [])
      | '"' :: rest => some ([], .closed, rest)
      | '\\' :: rest =>
          match takeBreak rest with
          | some (_, rest) => some ([], .escapedBreak, rest)
          | none => do
              let (char, rest) ← readEscape rest
              let (word, ending, rest) ← doubleQuotedWord fuel rest
              some (char :: word, ending, rest)
      | char :: rest =>
          if isBlank char || isBreak char then some ([], .gap, text)
          else do
            let (word, ending, rest) ← doubleQuotedWord fuel rest
            some (char :: word, ending, rest)

/-- A word of a scalar in single quotes, where a quote is written twice. -/
def singleQuotedWord : List Char → Option (List Char × WordEnd × List Char)
  | [] => some ([], .gap, [])
  | '\'' :: '\'' :: rest => do
      let (word, ending, rest) ← singleQuotedWord rest
      some ('\'' :: word, ending, rest)
  | char :: rest =>
      if char == '\'' then some ([], .closed, rest)
      else if isBlank char || isBreak char then some ([], .gap, char :: rest)
      else do
        let (word, ending, rest) ← singleQuotedWord rest
        some (char :: word, ending, rest)

/-- Reads a quoted scalar behind its opening quote. A document mark inside it and
the end of the text before its closing quote are errors. -/
def readQuoted (double : Bool) : (fuel column : Nat) → List Char → Option (List Char × List Char)
  | 0, _, _ => none
  | fuel + 1, column, text =>
      if (column == 0 && isDocumentMark text) || text.isEmpty then none
      else do
        let (word, ending, rest) ←
          if double then doubleQuotedWord (text.length + 1) text else singleQuotedWord text
        match ending with
        | .closed => some (word, rest)
        | .gap =>
            let (gap, rest) := readGap 0 (Gap.start (column + 1)) rest
            let (more, rest) ← readQuoted double fuel gap.column rest
            some (word ++ gap.text ++ more, rest)
        | .escapedBreak =>
            let (gap, rest) := readGap 0 Gap.afterEscape rest
            let (more, rest) ← readQuoted double fuel gap.column rest
            some (word ++ gap.text ++ more, rest)

/-! ## Block scalars -/

/-- What becomes of the line breaks at the end of a block scalar. -/
inductive Chomping where
  | strip
  | clip
  | keep
deriving DecidableEq

/-- The header of a block scalar: the chomping and an indentation, if one is given. -/
structure BlockHeader where
  chomping : Chomping
  indentation : Option Nat

def chomping? : Char → Option Chomping
  | '+' => some .keep
  | '-' => some .strip
  | _ => none

/-- The two marks of a header, in either order. A zero is no indentation. -/
def readBlockHeader (text : List Char) : Option (BlockHeader × List Char) :=
  let digit? : List Char → Option (Option Nat × List Char)
    | char :: rest =>
        if !Text.isDigit char then some (none, char :: rest)
        else if char == '0' then none
        else some (some (Text.digitValue char), rest)
    | [] => some (none, [])
  let sign? : List Char → Chomping × List Char
    | char :: rest =>
        match chomping? char with
        | some chomping => (chomping, rest)
        | none => (.clip, char :: rest)
    | [] => (.clip, [])
  if text.head?.any Text.isDigit then do
    let (indentation, rest) ← digit? text
    let (chomping, rest) := sign? rest
    some (⟨chomping, indentation⟩, rest)
  else do
    let (chomping, rest) := sign? text
    if chomping == .clip then some (⟨.clip, none⟩, rest)
    else
      let (indentation, rest) ← digit? rest
      some (⟨chomping, indentation⟩, rest)

/-- Skips blanks and a comment, up to the end of the line. -/
def skipToLineEnd (text : List Char) : Option (List Char) :=
  let rest := text.dropWhile isBlank
  let rest := if rest.head? == some '#' then rest.dropWhile (!isBreak ·) else rest
  if lineEnds rest then some rest else none

/-- Empty lines before the next line of a block scalar: their breaks, the
indentation found on the way, the column reached and the text from there. A tab
may not stand within the indentation. -/
structure BlockLead where
  breaks : List Char
  deepest : Nat
  column : Nat
  rest : List Char

/-- Skips the spaces of an indentation; without a known one all spaces belong to it. -/
def skipIndentation (indent : Option Nat) : (column : Nat) → List Char → Nat × List Char
  | column, ' ' :: rest =>
      if indent.all (column < ·) then skipIndentation indent (column + 1) rest
      else (column, ' ' :: rest)
  | column, text => (column, text)

def readBlockLead (indent : Option Nat) : (fuel deepest : Nat) → List Char → Option BlockLead
  | 0, _, _ => none
  | fuel + 1, deepest, text =>
      let (column, rest) := skipIndentation indent 0 text
      let deepest := max deepest column
      if indent.all (column < ·) && rest.head? == some '\t' then none
      else
        match takeBreak rest with
        | none => some ⟨[], deepest, column, rest⟩
        | some (char, rest) => do
            let lead ← readBlockLead indent fuel deepest rest
            some { lead with breaks := char :: lead.breaks }

/-- The state of a block scalar between two lines: the text so far, the break
that ended the last line, the empty lines after it, and whether that line
started with a blank. -/
structure BlockState where
  text : List Char
  lineBreak : List Char
  emptyLines : List Char
  indentedLine : Bool

/-- Adds a line. Folding joins two lines with a space unless one of them starts
with a blank or empty lines stand between them. -/
def BlockState.addLine (literal : Bool) (state : BlockState) (line : List Char) : List Char :=
  let startsBlank := line.head?.any isBlank
  let joined :=
    if !literal && state.lineBreak.head? == some '\n' && !state.indentedLine && !startsBlank then
      if state.emptyLines.isEmpty then [' '] else []
    else state.lineBreak
  state.text ++ joined ++ state.emptyLines ++ line

/-- Reads the lines of a block scalar at its indentation. -/
def readBlockLines (literal : Bool) (indent : Nat) :
    (fuel column : Nat) → BlockState → List Char → Option (BlockState × List Char)
  | 0, _, _, _ => none
  | fuel + 1, column, state, text =>
      if column != indent || text.isEmpty then some (state, text)
      else
        let line := text.takeWhile (!isBreak ·)
        let rest := text.dropWhile (!isBreak ·)
        let added := state.addLine literal line
        let indentedLine := line.head?.any isBlank
        match takeBreak rest with
        | none => some (⟨added, [], [], indentedLine⟩, rest)
        | some (char, rest) => do
            let lead ← readBlockLead (some indent) (rest.length + 1) 0 rest
            readBlockLines literal indent fuel lead.column
              ⟨added, [char], lead.breaks, indentedLine⟩ lead.rest

/-- Reads a block scalar behind its mark. `parent` is the indentation around it,
which the scalar's own one has to exceed when it is not given. -/
def readBlock (literal : Bool) (parent : Int) (text : List Char) :
    Option (List Char × List Char) := do
  let (header, rest) ← readBlockHeader text
  let rest ← skipToLineEnd rest
  let rest :=
    match takeBreak rest with
    | some (_, rest) => rest
    | none => rest
  let given := header.indentation.map fun count => (max parent 0).toNat + count
  let lead ← readBlockLead given (rest.length + 1) 0 rest
  let indent := given.getD (max (max lead.deepest (parent + 1).toNat) 1)
  let (state, rest) ← readBlockLines literal indent (rest.length + 1) lead.column
    ⟨[], [], lead.breaks, false⟩ lead.rest
  let tail :=
    match header.chomping with
    | .strip => []
    | .clip => state.lineBreak
    | .keep => state.lineBreak ++ state.emptyLines
  some (state.text ++ tail, rest)

end RequestFlow.Document.Yaml
