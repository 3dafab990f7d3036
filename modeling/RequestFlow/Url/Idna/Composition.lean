import RequestFlow.Url.Idna.CompositionTable
import RequestFlow.Text.CharTable

/-!
Contract: the composed form of texts in domain names.

Owns: canonical decomposition, the order of combining marks, and composition, by
which two spellings of one text become the same. The syllables of Hangul are
computed from their letters; all else comes from the table.
-/

namespace RequestFlow.Idna

open CharTable

/-! ## Hangul -/

def syllableBase : Nat := 0xAC00
def leadBase : Nat := 0x1100
def vowelBase : Nat := 0x1161
def tailBase : Nat := 0x11A7
def leadCount : Nat := 19
def vowelCount : Nat := 21
def tailCount : Nat := 28

def isSyllable (code : Nat) : Bool :=
  syllableBase ≤ code && code < syllableBase + leadCount * vowelCount * tailCount

/-- The letters of a syllable: two, and a third one if it has a tail. -/
def syllableLetters (code : Nat) : List Nat :=
  let index := code - syllableBase
  let tail := index % tailCount
  [leadBase + index / (vowelCount * tailCount),
    vowelBase + index % (vowelCount * tailCount) / tailCount] ++
    if tail == 0 then [] else [tailBase + tail]

/-- A syllable from a lead and a vowel, or from a syllable without a tail and a tail. -/
def syllable? (first second : Nat) : Option Nat :=
  if leadBase ≤ first && first < leadBase + leadCount &&
      vowelBase ≤ second && second < vowelBase + vowelCount then
    some (syllableBase +
      ((first - leadBase) * vowelCount + (second - vowelBase)) * tailCount)
  else if isSyllable first && (first - syllableBase) % tailCount == 0 &&
      tailBase < second && second < tailBase + tailCount then
    some (first + (second - tailBase))
  else none

/-! ## Decomposition -/

/-- A character composed of two. -/
structure Composite where
  code : Nat
  first : Nat
  second : Nat

def composites : List Composite :=
  (rows CompositionTable.pairs).filterMap fun
    | [code] :: [first] :: [second] :: _ => some ⟨code, first, second⟩
    | _ => none

/-- The most steps that a decomposition takes. -/
def maxSteps : Nat := 4

def decomposeCode : (steps : Nat) → Nat → List Nat
  | 0, code => [code]
  | steps + 1, code =>
      if isSyllable code then syllableLetters code
      else
        match composites.find? (·.code == code) with
        | some composite => decomposeCode steps composite.first ++ [composite.second]
        | none => [code]

structure ClassRange where
  range : CharRange
  combiningClass : Nat

def classRanges : List ClassRange :=
  (rows CompositionTable.combiningClasses).filterMap fun
    | [first] :: [last] :: [combiningClass] :: _ => some ⟨⟨first, last⟩, combiningClass⟩
    | _ => none

/-- The combining class of a code; zero for all that is not reordered. -/
def combiningClass (code : Nat) : Nat :=
  match classRanges.find? fun entry => entry.range.first ≤ code && code ≤ entry.range.last with
  | some entry => entry.combiningClass
  | none => 0

/-- A code with its combining class. -/
structure Ranked where
  code : Nat
  rank : Nat

/-- Puts a mark before the marks of a higher class that a text starts with. -/
def insertMark (mark : Ranked) : List Ranked → List Ranked
  | [] => [mark]
  | other :: rest =>
      if other.rank != 0 && other.rank < mark.rank then other :: insertMark mark rest
      else mark :: other :: rest

/-- Sorts the marks between two starters by class; equal classes keep their order. -/
def sortMarks (text : List Ranked) : List Ranked :=
  text.foldr (fun next sorted =>
    if next.rank == 0 then next :: sorted else insertMark next sorted) []

/-! ## Composition -/

def composePair? (first second : Nat) : Option Nat :=
  match syllable? first second with
  | some code => some code
  | none => (composites.find? fun entry =>
      entry.first == first && entry.second == second).map Composite.code

/-- The state of a composition: the finished text with the last code first, the
starter that marks may still join, and the codes after it with the last one first. -/
structure Composing where
  finished : List Nat
  starter : Option Nat
  pending : List Ranked

namespace Composing

def codes (state : Composing) : List Nat :=
  state.pending.map Ranked.code ++ state.starter.toList ++ state.finished

/-- Adds a code. It joins the starter unless a code between them blocks it: one
of the same or a higher class, or a starter. -/
def add (state : Composing) (next : Ranked) : Composing :=
  let blocked :=
    match state.pending.head? with
    | some last => last.rank == 0 || next.rank ≤ last.rank
    | none => false
  let joined? :=
    if blocked then none else state.starter.bind fun starter => composePair? starter next.code
  match joined? with
  | some joined => { state with starter := some joined }
  | none =>
      if next.rank == 0 then ⟨state.codes, some next.code, []⟩
      else { state with pending := next :: state.pending }

end Composing

/-- The composed form of a text. -/
def compose (text : List Char) : List Char :=
  let decomposed := text.flatMap fun char => decomposeCode maxSteps char.toNat
  let ranked := sortMarks (decomposed.map fun code => ⟨code, combiningClass code⟩)
  let composed := ranked.foldl Composing.add ⟨[], none, []⟩
  composed.codes.reverse.map Char.ofNat

end RequestFlow.Idna
