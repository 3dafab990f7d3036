import RequestFlow.Document.Yaml.Scalar
import RequestFlow.Text.Split

/-!
Contract: the tokens of a YAML text.

Owns: the recognition of indicators, anchors, tags, directives and scalars, and
the tokens that indentation stands for: the start of a block sequence or mapping
where a line goes deeper, and an end where it comes back.

A key of a mapping may be written without a mark. Whether a token is one is known
only when a colon follows, so the place of the latest candidate is kept for every
level of flow nesting, and the key token is put there afterwards. A candidate
stays one on its own line only, within 1024 characters. In block context a
candidate at the current indentation has to be a key.

Does not own: the order in which tokens may follow one another (`Yaml.Tree`).
-/

namespace RequestFlow.Document.Yaml

inductive Token where
  | version (major minor : Nat)
  | tagHandle (handle uri : String)
  | documentStart
  | documentEnd
  | blockSequence
  | blockMapping
  | blockEnd
  | flowSequence
  | flowSequenceEnd
  | flowMapping
  | flowMappingEnd
  | entry
  | flowEntry
  | key
  | value
  | alias (name : String)
  | anchor (name : String)
  | tag (handle suffix : String)
  | scalar (text : String) (plain : Bool)
deriving DecidableEq, Repr

/-- Where reading stands: the text ahead, the characters behind, and line and
column, both from zero. -/
structure Cursor where
  rest : List Char
  index : Nat
  line : Nat
  column : Nat

namespace Cursor

/-- Moves over `count` characters. -/
def advance : (count : Nat) → Cursor → Cursor
  | 0, cursor => cursor
  | count + 1, cursor =>
      match cursor.rest with
      | [] => cursor
      | '\r' :: '\n' :: rest =>
          advance count ⟨'\n' :: rest, cursor.index + 1, cursor.line, cursor.column⟩
      | char :: rest =>
          if isBreak char then advance count ⟨rest, cursor.index + 1, cursor.line + 1, 0⟩
          else advance count ⟨rest, cursor.index + 1, cursor.line, cursor.column + 1⟩

/-- Moves to where only `rest` is ahead. -/
def moveTo (rest : List Char) (cursor : Cursor) : Cursor :=
  advance (cursor.rest.length - rest.length) cursor

end Cursor

/-- A token that may turn out to be a key. `place` counts the tokens before it. -/
structure KeyCandidate where
  place : Nat
  required : Bool
  cursor : Cursor

/-- The longest text of a key that is not marked. -/
def maxKeyLength : Nat := 1024

/-- The state of the recognition. `candidates` has an entry for the block context
and one for every open flow collection, the innermost first; `indents` holds the
indentations around the current one; `tokens` has the last token first. -/
structure Scan where
  cursor : Cursor
  candidate : Option KeyCandidate
  outer : List (Option KeyCandidate)
  indent : Int
  indents : List Int
  keyAllowed : Bool
  tokens : List Token

namespace Scan

def start (text : List Char) : Scan :=
  ⟨⟨text, 0, 0, 0⟩, none, [], -1, [], true, []⟩

def inFlow (scan : Scan) : Bool := !scan.outer.isEmpty

def column (scan : Scan) : Int := scan.cursor.column

def push (token : Token) (scan : Scan) : Scan :=
  { scan with tokens := token :: scan.tokens }

/-- Puts a token behind the first `place` ones. -/
def insertAt (place : Nat) (token : Token) (scan : Scan) : Scan :=
  let behind := scan.tokens.length - place
  { scan with tokens := scan.tokens.take behind ++ token :: scan.tokens.drop behind }

def moveTo (rest : List Char) (scan : Scan) : Scan :=
  { scan with cursor := scan.cursor.moveTo rest }

def skip (count : Nat) (scan : Scan) : Scan :=
  { scan with cursor := scan.cursor.advance count }

def allowKey (allowed : Bool) (scan : Scan) : Scan :=
  { scan with keyAllowed := allowed }

/-! ## Candidates for keys -/

/-- Drops the candidate of the current level, which fails if it had to be a key. -/
def dropCandidate (scan : Scan) : Option Scan :=
  match scan.candidate with
  | some candidate => if candidate.required then none else some { scan with candidate := none }
  | none => some scan

/-- Makes the next token a candidate, where a key may stand. -/
def saveCandidate (scan : Scan) : Option Scan :=
  if !scan.keyAllowed then some scan
  else do
    let scan ← scan.dropCandidate
    let required := !scan.inFlow && scan.indent == scan.column
    some { scan with candidate := some ⟨scan.tokens.length, required, scan.cursor⟩ }

/-- Whether a candidate can no longer be a key at the current place. -/
def isStale (scan : Scan) (candidate : KeyCandidate) : Bool :=
  candidate.cursor.line < scan.cursor.line ||
    candidate.cursor.index + maxKeyLength < scan.cursor.index

/-- Drops a stale candidate, which fails if it had to be a key. -/
def refresh (scan : Scan) : Option KeyCandidate → Option (Option KeyCandidate)
  | some candidate =>
      if scan.isStale candidate then
        if candidate.required then none else some none
      else some (some candidate)
  | none => some none

/-- Drops the stale candidates of all levels. -/
def dropStale (scan : Scan) : Option Scan := do
  let candidate ← scan.refresh scan.candidate
  let outer ← scan.outer.mapM scan.refresh
  some { scan with candidate := candidate, outer := outer }

/-! ## Indentation -/

/-- Opens a block collection where the column lies deeper than the indentation.
The token goes to `place`, or to the end. -/
def openBlock (column : Int) (place : Option Nat) (token : Token) (scan : Scan) : Scan :=
  if scan.inFlow || column ≤ scan.indent then scan
  else
    let deeper := { scan with indent := column, indents := scan.indent :: scan.indents }
    match place with
    | some place => deeper.insertAt place token
    | none => deeper.push token

/-- The indentations that remain at a column, and how many block collections end. -/
def closeIndents (column : Int) : (indent : Int) → List Int → Int × List Int × Nat
  | indent, [] => (indent, [], 0)
  | indent, around :: more =>
      if indent ≤ column then (indent, around :: more, 0)
      else
        let (indent, indents, ended) := closeIndents column around more
        (indent, indents, ended + 1)

/-- Ends the block collections that lie deeper than a column. -/
def closeBlocks (column : Int) (scan : Scan) : Scan :=
  if scan.inFlow then scan
  else
    let (indent, indents, ended) := closeIndents column scan.indent scan.indents
    { scan with
      indent := indent
      indents := indents
      tokens := List.replicate ended Token.blockEnd ++ scan.tokens }

/-! ## Blanks, comments and lines -/

/-- Moves to the next token. Tabs count as blanks where no key may start, and a
line break in block context makes room for a key. -/
def skipBlanks : (fuel : Nat) → Scan → Scan
  | 0, scan => scan
  | fuel + 1, scan =>
      let tabs := scan.inFlow || !scan.keyAllowed
      let rest := scan.cursor.rest
      let rest :=
        if scan.cursor.index == 0 && rest.head? == some '\uFEFF' then rest.drop 1 else rest
      let rest := rest.dropWhile fun char => char == ' ' || (tabs && char == '\t')
      let rest := if rest.head? == some '#' then rest.dropWhile (!isBreak ·) else rest
      match takeBreak rest with
      | some (_, behind) =>
          let moved := scan.moveTo behind
          skipBlanks fuel (if scan.inFlow then moved else moved.allowKey true)
      | none => scan.moveTo rest

/-! ## Single tokens -/

/-- Directives and document marks end all block collections. -/
def endBlocks (scan : Scan) : Option Scan := do
  let scan ← (scan.closeBlocks (-1)).dropCandidate
  some (scan.allowKey false)

/-- Digits of a version number, at most nine. -/
def versionNumber (text : List Char) : Option (Nat × List Char) :=
  let digits := text.takeWhile Text.isDigit
  if digits.isEmpty || 9 < digits.length then none
  else some (Text.digitsValue digits, text.drop digits.length)

/-- The handle of a tag: an exclamation mark, or a name between two. Without the
second one it is the start of the tag's own name. -/
def readHandle : List Char → Option (List Char × List Char)
  | '!' :: rest =>
      let name := rest.takeWhile isNameChar
      match rest.dropWhile isNameChar with
      | '!' :: rest => some ('!' :: name ++ ['!'], rest)
      | rest => some ('!' :: name, rest)
  | _ => none

def isUriChar (verbatim : Bool) (char : Char) : Bool :=
  isNameChar char || ";/?:@&=+$.!~*'()".toList.contains char ||
    (verbatim && [',', '[', ']'].contains char)

/-- The bytes of percent escapes in a row. -/
def escapedBytes : List Char → Option (List UInt8 × List Char)
  | '%' :: high :: low :: rest => do
      let high ← Text.hexValue? high
      let low ← Text.hexValue? low
      let (bytes, rest) ← escapedBytes rest
      some (UInt8.ofNat (high * 16 + low) :: bytes, rest)
  | '%' :: _ => none
  | text => some ([], text)

/-- The characters of a tag's name, with percent escapes undone. -/
def readUri (verbatim : Bool) : (fuel : Nat) → List Char → Option (List Char × List Char)
  | 0, _ => none
  | fuel + 1, text =>
      match text with
      | '%' :: _ => do
          let (bytes, rest) ← escapedBytes text
          let decoded ← String.fromUTF8? (ByteArray.mk bytes.toArray)
          let (more, rest) ← readUri verbatim fuel rest
          some (decoded.toList ++ more, rest)
      | char :: rest =>
          if isUriChar verbatim char then do
            let (more, rest) ← readUri verbatim fuel rest
            some (char :: more, rest)
          else some ([], text)
      | [] => some ([], [])

def readDirective (text : List Char) : Option (Token × List Char) := do
  let name := text.takeWhile isNameChar
  let rest := text.drop name.length
  if name.isEmpty || !wordEnds rest then none
  else
    let rest := rest.dropWhile isBlank
    match String.ofList name with
    | "YAML" => do
        let (major, rest) ← versionNumber rest
        let rest ← Text.after? ['.'] rest
        let (minor, rest) ← versionNumber rest
        some (.version major minor, rest)
    | "TAG" => do
        let (handle, rest) ← readHandle rest
        if handle != ['!'] && handle.getLast? != some '!' then none
        else if !rest.head?.any isBlank then none
        else
          let rest := rest.dropWhile isBlank
          let (uri, behind) ← readUri true (rest.length + 1) rest
          if uri.isEmpty || !wordEnds behind then none
          else some (.tagHandle (String.ofList handle) (String.ofList uri), behind)
    | _ => none

def fetchDirective (scan : Scan) : Option Scan := do
  let scan ← scan.endBlocks
  let (token, rest) ← readDirective (scan.cursor.rest.drop 1)
  let rest ← skipToLineEnd rest
  some ((scan.moveTo rest).push token)

/-- The indicators that may stand directly behind an anchor. -/
def endsAnchor (char : Char) : Bool :=
  ['?', ':', ',', ']', '\x7d', '%', '@', '\x60'].contains char

/-- The name of an anchor or alias. -/
def readAnchor (text : List Char) : Option (String × List Char) :=
  let name := text.takeWhile isNameChar
  let rest := text.drop name.length
  if name.isEmpty || !(wordEnds rest || rest.head?.any endsAnchor) then none
  else some (String.ofList name, rest)

/-- A tag with its handle. A name without a handle belongs to the handle `!`, and
the mark `!` alone is a name without any handle. -/
def readTag (inFlow : Bool) (text : List Char) : Option (Token × List Char) := do
  let ends (rest : List Char) : Bool :=
    wordEnds rest || (inFlow && rest.head? == some ',')
  match text with
  | '!' :: '<' :: verbatim =>
      let (uri, behind) ← readUri true (verbatim.length + 1) verbatim
      let behind ← Text.after? ['>'] behind
      if uri.isEmpty || !ends behind then none
      else some (.tag "" (String.ofList uri), behind)
  | _ =>
      let (handle, rest) ← readHandle text
      let (suffix, behind) ← readUri false (rest.length + 1) rest
      if !ends behind then none
      else if 1 < handle.length && handle.getLast? == some '!' then
        if suffix.isEmpty then none
        else some (.tag (String.ofList handle) (String.ofList suffix), behind)
      else
        let name := handle.drop 1 ++ suffix
        if name.isEmpty then some (.tag "" "!", behind)
        else some (.tag "!" (String.ofList name), behind)

def fetchDocumentMark (token : Token) (scan : Scan) : Option Scan := do
  let scan ← scan.endBlocks
  some ((scan.skip 3).push token)

def fetchFlowStart (token : Token) (scan : Scan) : Option Scan := do
  let scan ← scan.saveCandidate
  let inner := { scan with candidate := none, outer := scan.candidate :: scan.outer }
  some (((inner.allowKey true).skip 1).push token)

def fetchFlowEnd (token : Token) (scan : Scan) : Option Scan := do
  let scan ← scan.dropCandidate
  let left :=
    match scan.outer with
    | candidate :: outer => { scan with candidate := candidate, outer := outer }
    | [] => scan
  some (((left.allowKey false).skip 1).push token)

def fetchFlowEntry (scan : Scan) : Option Scan := do
  let scan ← scan.dropCandidate
  some (((scan.allowKey true).skip 1).push .flowEntry)

def fetchEntry (scan : Scan) : Option Scan := do
  if !scan.inFlow && !scan.keyAllowed then none
  else
    let scan ← (scan.openBlock scan.column none .blockSequence).dropCandidate
    some (((scan.allowKey true).skip 1).push .entry)

def fetchKey (scan : Scan) : Option Scan := do
  if !scan.inFlow && !scan.keyAllowed then none
  else
    let scan ← (scan.openBlock scan.column none .blockMapping).dropCandidate
    some (((scan.allowKey !scan.inFlow).skip 1).push .key)

/-- A value's mark makes the candidate a key. Without a candidate it stands for
itself, and a key may follow in block context. -/
def fetchValue (scan : Scan) : Option Scan :=
  match scan.candidate with
  | some candidate =>
      let marked := (scan.insertAt candidate.place .key).openBlock candidate.cursor.column
        (some candidate.place) .blockMapping
      some ((({ marked with candidate := none }.allowKey false).skip 1).push .value)
  | none =>
      if !scan.inFlow && !scan.keyAllowed then none
      else
        let opened := scan.openBlock scan.column none .blockMapping
        some (((opened.allowKey !scan.inFlow).skip 1).push .value)

def fetchAnchor (token : String → Token) (scan : Scan) : Option Scan := do
  let scan ← scan.saveCandidate
  let (name, rest) ← readAnchor (scan.cursor.rest.drop 1)
  some (((scan.allowKey false).moveTo rest).push (token name))

def fetchTag (scan : Scan) : Option Scan := do
  let scan ← scan.saveCandidate
  let (token, rest) ← readTag scan.inFlow scan.cursor.rest
  some (((scan.allowKey false).moveTo rest).push token)

def fetchBlock (literal : Bool) (scan : Scan) : Option Scan := do
  let scan ← scan.dropCandidate
  let (text, rest) ← readBlock literal scan.indent (scan.cursor.rest.drop 1)
  some (((scan.allowKey true).moveTo rest).push (.scalar (String.ofList text) false))

def fetchQuoted (double : Bool) (scan : Scan) : Option Scan := do
  let scan ← scan.saveCandidate
  let behind := scan.cursor.rest.drop 1
  let (text, rest) ← readQuoted double (behind.length + 1) (scan.cursor.column + 1) behind
  some (((scan.allowKey false).moveTo rest).push (.scalar (String.ofList text) false))

def fetchPlain (scan : Scan) : Option Scan := do
  let scan ← scan.saveCandidate
  let text := scan.cursor.rest
  let read ← readPlain scan.inFlow (scan.indent + 1).toNat (text.length + 1)
    (Gap.start scan.cursor.column) text
  some (((scan.allowKey read.broken).moveTo read.rest).push
    (.scalar (String.ofList read.text) true))

/-- The characters that no plain scalar starts with. -/
def isIndicator (char : Char) : Bool :=
  ['-', '?', ':', ',', '[', ']', '\x7b', '\x7d', '#', '&', '*', '!', '|', '>', '\'', '"', '%',
    '@', '\x60'].contains char

/-- Whether a plain scalar starts here. A dash, a question mark or a colon starts
one when a word follows directly. -/
def startsPlain (inFlow : Bool) : List Char → Bool
  | [] => false
  | char :: rest =>
      !(isBlank char || isBreak char || isIndicator char) ||
        (char == '-' && !rest.head?.any isBlank) ||
        (!inFlow && (char == '?' || char == ':') && !wordEnds rest)

/-- Reads the token at the cursor. -/
def fetch (scan : Scan) : Option Scan :=
  let text := scan.cursor.rest
  let endsWord := wordEnds (text.drop 1)
  match text with
  | [] => none
  | char :: _ =>
      if scan.cursor.column == 0 && char == '%' then scan.fetchDirective
      else if scan.cursor.column == 0 && isDocumentMark text then
        scan.fetchDocumentMark (if char == '-' then .documentStart else .documentEnd)
      else if char == '[' then scan.fetchFlowStart .flowSequence
      else if char == '\x7b' then scan.fetchFlowStart .flowMapping
      else if char == ']' then scan.fetchFlowEnd .flowSequenceEnd
      else if char == '\x7d' then scan.fetchFlowEnd .flowMappingEnd
      else if char == ',' then scan.fetchFlowEntry
      else if char == '-' && endsWord then scan.fetchEntry
      else if char == '?' && (scan.inFlow || endsWord) then scan.fetchKey
      else if char == ':' && (scan.inFlow || endsWord) then scan.fetchValue
      else if char == '*' then scan.fetchAnchor .alias
      else if char == '&' then scan.fetchAnchor .anchor
      else if char == '!' then scan.fetchTag
      else if char == '|' && !scan.inFlow then scan.fetchBlock true
      else if char == '>' && !scan.inFlow then scan.fetchBlock false
      else if char == '\'' then scan.fetchQuoted false
      else if char == '"' then scan.fetchQuoted true
      else if startsPlain scan.inFlow text then scan.fetchPlain
      else none

/-- Reads all tokens. Every step takes at least one character. -/
def run : (fuel : Nat) → Scan → Option (List Token)
  | 0, _ => none
  | fuel + 1, scan => do
      let next := scan.skipBlanks (scan.cursor.rest.length + 1)
      let next ← next.dropStale
      let next := next.closeBlocks next.column
      if next.cursor.rest.isEmpty then
        let ended ← (next.closeBlocks (-1)).dropCandidate
        some ended.tokens.reverse
      else
        let next ← next.fetch
        run fuel next

end Scan

/-- The characters that may occur in a document. -/
def isAllowed (char : Char) : Bool :=
  let code := char.toNat
  code == 9 || code == 10 || code == 13 || (0x20 ≤ code && code ≤ 0x7E) || code == 0x85 ||
    (0xA0 ≤ code && code ≤ 0xFFFD) || 0x10000 ≤ code

/-- The tokens of a text, if it is made of tokens. A byte order mark in front is
skipped. -/
def tokens? (text : String) : Option (List Token) :=
  let chars := Text.dropMark '\uFEFF' text.toList
  if chars.all isAllowed then (Scan.start chars).run (chars.length + 1) else none

end RequestFlow.Document.Yaml
