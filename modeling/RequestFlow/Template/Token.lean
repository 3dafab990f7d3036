import RequestFlow.Json.Basic
import RequestFlow.Text.Ascii
import RequestFlow.Text.Blank
import RequestFlow.Text.Split

/-!
Contract: texts with tokens.

A token is a variable name between double braces, with blanks allowed around the
name. Everything else is literal text: an opening pair that is not closed, or
that encloses no name, stays as it is, and the search goes on right behind it.

Owns: names, segments, the split of a text into segments, and the tokens of a
JSON value.

Does not own: the values of variables.
-/

namespace RequestFlow

namespace VariableName

def isNameChar (char : Char) : Bool :=
  Text.isAlphanumeric char || char == '_' || char == '$' || char == '.' || char == '-'

/-- A name is not empty and holds letters, digits, `_`, `$`, `.` and `-` only. -/
def isValidChars (name : List Char) : Bool :=
  !name.isEmpty && name.all isNameChar

def isValid (name : String) : Bool :=
  isValidChars name.toList

end VariableName

/-- A piece of a template. `source` is a token as it was written, braces and
blanks included. -/
inductive Segment where
  | literal (text : String)
  | token (name source : String)
deriving DecidableEq, Repr

namespace Template

/-- What stands between the braces of a token and what comes behind it. -/
structure Enclosed where
  inner : List Char
  rest : List Char

theorem cutPair_length {first second : Char} {text before after : List Char}
    (found : Text.cutPair first second text = some (before, after)) :
    text.length = before.length + 2 + after.length := by
  induction text generalizing before with
  | nil => simp [Text.cutPair] at found
  | cons one rest inductionHypothesis =>
      cases rest with
      | nil => simp [Text.cutPair] at found
      | cons two rest =>
          simp only [Text.cutPair] at found
          split at found
          · simp only [Option.some.injEq, Prod.mk.injEq] at found
            obtain ⟨rfl, rfl⟩ := found
            simp only [List.length_cons, List.length_nil]
            omega
          · simp only [Option.map_eq_some_iff, Prod.mk.injEq, Prod.exists] at found
            obtain ⟨shorter, behind, foundLater, rfl, rfl⟩ := found
            have step := inductionHypothesis foundLater
            simp only [List.length_cons] at step ⊢
            omega

/-- The token that an opening pair starts, given the text behind the pair. -/
def enclosed? (text : List Char) : Option Enclosed :=
  match Text.cutPair '\x7d' '\x7d' text with
  | some (inner, rest) =>
      if VariableName.isValidChars (Text.trim inner) then some ⟨inner, rest⟩ else none
  | none => none

theorem enclosed_rest_length {text : List Char} {found : Enclosed}
    (isToken : enclosed? text = some found) : found.rest.length < text.length := by
  unfold enclosed? at isToken
  split at isToken
  · rename_i inner rest cutFound
    split at isToken
    · simp only [Option.some.injEq] at isToken
      subst isToken
      have lengths := cutPair_length cutFound
      simp only
      omega
    · simp at isToken
  · simp at isToken

/-- The literal that the characters read so far make up, the last one first. -/
def literal (pending : List Char) : List Segment :=
  if pending.isEmpty then [] else [.literal (String.ofList pending.reverse)]

def openPair : List Char := ['\x7b', '\x7b']

def closePair : List Char := ['\x7d', '\x7d']

/-- Splits a text into segments; `pending` holds the literal read so far, the
last character first. -/
def scan (text pending : List Char) : List Segment :=
  match text with
  | [] => literal pending
  | [char] => literal (char :: pending)
  | first :: second :: rest =>
      if first == '\x7b' && second == '\x7b' then
        match isToken : enclosed? rest with
        | some found =>
            have : found.rest.length < rest.length := enclosed_rest_length isToken
            literal pending ++
              .token (String.ofList (Text.trim found.inner))
                (String.ofList (openPair ++ found.inner ++ closePair)) ::
              scan found.rest []
        | none => scan rest (second :: first :: pending)
      else scan (second :: rest) (first :: pending)
termination_by text.length

/-- The segments of a text. -/
def parse (text : String) : List Segment :=
  scan text.toList []

/-- The name of a token segment. -/
def tokenName? : Segment → Option String
  | .literal _ => none
  | .token name _ => some name

/-- The token names of a template in order, repeated ones included. -/
def tokens (segments : List Segment) : List String :=
  segments.filterMap tokenName?

/-- The token name when a text is one token and nothing else. -/
def single? : List Segment → Option String
  | [.token name _] => some name
  | _ => none

end Template

namespace Json

mutual

/-- The token names in the strings of a value, members in key order. Keys are
not templates. -/
def tokens : Json → List String
  | .string text => Template.tokens (Template.parse text)
  | .array items => tokensOfItems items
  | .object members => tokensOfMembers members
  | .null | .bool _ | .number _ => []

def tokensOfItems : List Json → List String
  | [] => []
  | item :: rest => tokens item ++ tokensOfItems rest

def tokensOfMembers : List (String × Json) → List String
  | [] => []
  | (_, value) :: rest => tokens value ++ tokensOfMembers rest

end

end Json

end RequestFlow
