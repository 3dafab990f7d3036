import RequestFlow.Text.Category

/-!
Contract: regular expressions and the texts they match.

Owns: sets of characters, the expressions over them, and the match.

An expression is a function on marked places of a text. A place is marked when an
earlier part of the expression can end there, and the expression moves the marks
to the places where it can end itself. Every operator of expressions is then an
operation on marks, and no match ever backtracks.
-/

namespace RequestFlow

inductive CharSet where
  | range (first last : Char)
  | category (name : String)
  | either (left right : CharSet)
  | both (left right : CharSet)
  | without (left right : CharSet)
  | complement (inner : CharSet)
  | caseless (inner : CharSet)
deriving DecidableEq, Repr

namespace CharSet

/-- The other case of an ASCII letter; other characters stay. -/
def otherCase (char : Char) : Char :=
  if Text.asciiLower char != char then Text.asciiLower char else Text.asciiUpper char

def contains : CharSet → Char → Bool
  | .range first last, char => first ≤ char && char ≤ last
  | .category name, char => Category.contains name char
  | .either left right, char => left.contains char || right.contains char
  | .both left right, char => left.contains char && right.contains char
  | .without left right, char => left.contains char && !right.contains char
  | .complement inner, char => !inner.contains char
  | .caseless inner, char => inner.contains char || inner.contains (otherCase char)

def one (char : Char) : CharSet := .range char char

def empty : CharSet := .range 'b' 'a'

def all : CharSet := .complement empty

def union (sets : List CharSet) : CharSet :=
  sets.foldl CharSet.either empty

def ofChars (chars : List Char) : CharSet :=
  union (chars.map one)

def digits : CharSet := .category "Nd"

def blanks : CharSet :=
  union [.range '\t' '\r', ofChars [' ', '\u0085', '\u2028', '\u2029'], .category "Zs"]

/-- Letters, marks, digits, connectors, joiners and letters in circles or squares. -/
def wordChars : CharSet :=
  union [.category "L", .category "M", .category "Nd", .category "Nl", .category "Pc",
    .range '\u200C' '\u200D', .range '\u24B6' '\u24E9',
    .range (Char.ofNat 0x1F130) (Char.ofNat 0x1F149),
    .range (Char.ofNat 0x1F150) (Char.ofNat 0x1F169),
    .range (Char.ofNat 0x1F170) (Char.ofNat 0x1F189)]

end CharSet

/-- The conditions on a place that use up no character. -/
inductive Border where
  | textStart
  | textEnd
  | lineStart
  | lineEnd
  | feedStart
  | feedEnd
  | wordStart
  | wordEnd
  | word
  | noWord
deriving DecidableEq, Repr

inductive Regex where
  | nothing
  | member (set : CharSet)
  | border (condition : Border)
  | sequence (first second : Regex)
  | choice (left right : Regex)
  | repeated (body : Regex) (least : Nat) (most : Option Nat)
deriving DecidableEq, Repr

namespace Regex

/-! ## Places -/

/-- The characters around a place. -/
structure Place where
  before : Option Char
  after : Option Char

/-- All places of a text, one more than it has characters. -/
def places (before : Option Char) : List Char → List Place
  | [] => [⟨before, none⟩]
  | first :: rest => ⟨before, some first⟩ :: places (some first) rest

def Place.isWordBefore (place : Place) : Bool :=
  place.before.any CharSet.wordChars.contains

def Place.isWordAfter (place : Place) : Bool :=
  place.after.any CharSet.wordChars.contains

/-- Whether a place satisfies a condition. Lines end with a line feed, a carriage
return, or both in a row, between which no line ends or starts; the conditions on
feeds know the line feed only. -/
def Border.holds (condition : Border) (place : Place) : Bool :=
  match condition with
  | .textStart => place.before.isNone
  | .textEnd => place.after.isNone
  | .lineStart => place.before.isNone || place.before == some '\n' ||
      (place.before == some '\r' && place.after != some '\n')
  | .lineEnd => place.after.isNone || place.after == some '\r' ||
      (place.after == some '\n' && place.before != some '\r')
  | .feedStart => place.before.isNone || place.before == some '\n'
  | .feedEnd => place.after.isNone || place.after == some '\n'
  | .wordStart => !place.isWordBefore && place.isWordAfter
  | .wordEnd => place.isWordBefore && !place.isWordAfter
  | .word => place.isWordBefore != place.isWordAfter
  | .noWord => place.isWordBefore == place.isWordAfter

/-! ## Marks -/

/-- One truth value for each place of a text. -/
abbrev Marks := List Bool

/-- Moves marks over characters that satisfy a test. -/
def advance (test : Char → Bool) (text : List Char) (marks : Marks) : Marks :=
  false :: List.zipWith (fun mark char => mark && test char) marks text

def keep (condition : Border) (text : List Char) (marks : Marks) : Marks :=
  List.zipWith (fun mark place => mark && Border.holds condition place) marks
    (places none text)

def union (left right : Marks) : Marks :=
  List.zipWith (· || ·) left right

/-- Adds what a step reaches, at most so many times. -/
def spread (step : Marks → Marks) : Nat → Marks → Marks
  | 0, marks => marks
  | times + 1, marks =>
      let more := union marks (step marks)
      if more == marks then marks else spread step times more

/-- Takes a step so many times. Steps that no longer change the marks are left out. -/
def times (step : Marks → Marks) : Nat → Marks → Marks
  | 0, marks => marks
  | count + 1, marks =>
      let next := step marks
      if next == marks then marks else times step count next

/-- The places where an expression can end, for the places where it may start. -/
def run (text : List Char) : Regex → Marks → Marks
  | .nothing, marks => marks
  | .member set, marks => advance set.contains text marks
  | .border condition, marks => keep condition text marks
  | .sequence first second, marks => run text second (run text first marks)
  | .choice left right, marks => union (run text left marks) (run text right marks)
  | .repeated body least most, marks =>
      let start := times (run text body) least marks
      match most with
      | none => spread (run text body) text.length start
      | some most => spread (run text body) (most - least) start

/-- Whether an expression matches a whole text. -/
def matchesAll (regex : Regex) (text : List Char) : Bool :=
  (regex.run text (true :: text.map fun _ => false)).getLastD false

/-- Whether an expression matches some part of a text. -/
def matchesPart (regex : Regex) (text : List Char) : Bool :=
  (regex.run text (true :: text.map fun _ => true)).any id

end Regex

end RequestFlow
