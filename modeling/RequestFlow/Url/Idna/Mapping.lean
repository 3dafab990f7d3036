import RequestFlow.Url.Idna.MappingTable
import RequestFlow.Text.CharTable

/-!
Contract: the mapping of the characters of domain names.

Owns: what becomes of each character. ASCII capitals become small letters and
other ASCII characters stay; beyond ASCII a character stays, is dropped, is
replaced, or has no place in a domain name.
-/

namespace RequestFlow.Idna

open CharTable

def validRanges : List CharRange := ranges MappingTable.valid

def ignoredRanges : List CharRange := ranges MappingTable.ignored

/-- A run of characters that are replaced by one character each. -/
structure ReplacedRun where
  first : Nat
  target : Nat
  count : Nat
  step : Nat

def ReplacedRun.ofRow : Row → ReplacedRun
  | [first] :: [target] :: [count] :: [step] :: _ => ⟨first, target, count, step⟩
  | [first] :: [target] :: [count] :: _ => ⟨first, target, count, 1⟩
  | [first] :: [target] :: _ => ⟨first, target, 1, 1⟩
  | _ => ⟨0, 0, 0, 1⟩

/-- The replacement of a code within a run. -/
def ReplacedRun.target? (run : ReplacedRun) (code : Nat) : Option Nat :=
  let offset := code - run.first
  if run.first ≤ code && offset % run.step == 0 && offset / run.step < run.count then
    some (run.target + offset)
  else none

def replacedRuns : List ReplacedRun :=
  (rows MappingTable.replacedByOne).map ReplacedRun.ofRow

/-- Codes with the codes that replace them. -/
def longReplacements : List (Nat × List Nat) :=
  (rows MappingTable.replacedByMore).filterMap fun
    | [code] :: targets :: _ => some (code, targets)
    | _ => none

/-- A character that stays as it is. -/
def isValid (char : Char) : Bool :=
  if char.toNat < 0x80 then !('A' ≤ char && char ≤ 'Z') else isIn validRanges char

/-- What stands for a character in a mapped domain name; `none` when it may not
occur at all. -/
def mapChar (char : Char) : Option (List Char) :=
  if char.toNat < 0x80 then some [Text.asciiLower char]
  else if isIn validRanges char then some [char]
  else if isIn ignoredRanges char then some []
  else
    match replacedRuns.findSome? (·.target? char.toNat) with
    | some target => some [Char.ofNat target]
    | none => (longReplacements.lookup char.toNat).map fun targets => targets.map Char.ofNat

/-- Maps every character of a text. -/
def mapChars (text : List Char) : Option (List Char) :=
  (text.mapM mapChar).map List.flatten

end RequestFlow.Idna
