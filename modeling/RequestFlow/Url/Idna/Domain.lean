import RequestFlow.Url.Idna.Composition
import RequestFlow.Url.Idna.Mapping
import RequestFlow.Url.Idna.PropertyTable
import RequestFlow.Url.Idna.Punycode

/-!
Contract: domain names in ASCII.

Owns: the checks on the labels of a domain name, and the passage from a name of
any characters to one of letters, digits and hyphens.

A name is mapped and composed as a whole, then cut into labels at its points. A
label beyond ASCII is written behind `xn--`; a label that already stands behind
that mark has to be what an encoding gives. Labels may be empty or long.
-/

namespace RequestFlow.Idna

open CharTable

/-! ## Marks, joining and direction -/

def markRanges : List CharRange := ranges PropertyTable.marks
def joiningBothRanges : List CharRange := ranges PropertyTable.joiningBoth
def joiningLeftRanges : List CharRange := ranges PropertyTable.joiningLeft
def joiningRightRanges : List CharRange := ranges PropertyTable.joiningRight
def transparentRanges : List CharRange := ranges PropertyTable.transparent
def rightToLeftRanges : List CharRange := ranges PropertyTable.rightToLeft
def arabicNumberRanges : List CharRange := ranges PropertyTable.arabicNumbers
def europeanNumberRanges : List CharRange := ranges PropertyTable.europeanNumbers
def neutralRanges : List CharRange := ranges PropertyTable.neutral
def nonspacingRanges : List CharRange := ranges PropertyTable.nonspacing

/-- The combining class of the marks that suppress a vowel. -/
def viramaClass : Nat := 9

def nonJoiner : Char := '\u200c'

def joiner : Char := '\u200d'

/-- Whether a letter before, the last one first, and a letter behind join across
a place. -/
def joinsAcross (before after : List Char) : Bool :=
  let pass (text : List Char) : List Char := text.dropWhile (isIn transparentRanges)
  ((pass before).head?.any fun char =>
      isIn joiningLeftRanges char || isIn joiningBothRanges char) &&
    ((pass after).head?.any fun char =>
      isIn joiningRightRanges char || isIn joiningBothRanges char)

/-- A joiner stands behind a virama only; a non-joiner also between letters that
would join. `before` has the last character first. -/
def joinersAreValid : (before after : List Char) → Bool
  | _, [] => true
  | before, char :: after =>
      let behindVirama := before.head?.any fun last => combiningClass last.toNat == viramaClass
      let fits :=
        if char == joiner then behindVirama
        else if char == nonJoiner then behindVirama || joinsAcross before after
        else true
      fits && joinersAreValid (char :: before) after

/-- The writing direction of a character, as far as labels are concerned. -/
inductive Direction where
  | left
  | right
  | arabicNumber
  | europeanNumber
  | neutral
  | nonspacing
  | other
deriving DecidableEq, Repr

def asciiDirection (char : Char) : Direction :=
  if Text.isDigit char then .europeanNumber
  else if Text.isLetter char then .left
  else if char.toNat ≤ 0x20 && [9, 10, 11, 12, 13, 28, 29, 30, 31, 32].contains char.toNat then
    .other
  else .neutral

def direction (char : Char) : Direction :=
  if char.toNat < 0x80 then asciiDirection char
  else if isIn rightToLeftRanges char then .right
  else if isIn nonspacingRanges char then .nonspacing
  else if isIn arabicNumberRanges char then .arabicNumber
  else if isIn europeanNumberRanges char then .europeanNumber
  else if isIn neutralRanges char then .neutral
  else .left

/-- Whether a label holds anything that runs from right to left. -/
def runsRight (label : List Char) : Bool :=
  label.any fun char => [Direction.right, .arabicNumber].contains (direction char)

/-- The rules for a label of a name in which some label runs from right to left.
Its first letter gives its direction; the rest has to agree with it, and what
stands before the marks at its end has to be a letter or a number. -/
def directionIsValid (label : List Char) : Bool :=
  let directions := label.map direction
  let last := (directions.reverse.dropWhile (· == .nonspacing)).head?
  let among (choices : List Direction) (found : Direction) : Bool := choices.contains found
  match directions.head? with
  | none => true
  | some .left =>
      directions.all (among [.left, .europeanNumber, .neutral, .nonspacing]) &&
        last.any (among [.left, .europeanNumber])
  | some .right =>
      directions.all (among [.right, .arabicNumber, .europeanNumber, .neutral, .nonspacing]) &&
        last.any (among [.right, .arabicNumber, .europeanNumber]) &&
        !(directions.contains .arabicNumber && directions.contains .europeanNumber)
  | some _ => false

/-! ## Labels -/

def encodedMark : List Char := ['x', 'n', '-', '-']

/-- A label may not start with a mark, and joiners stand where they belong. -/
def labelIsValid (label : List Char) : Bool :=
  !label.head?.any (isIn markRanges) && joinersAreValid [] label

/-- A label in both of its forms. -/
structure Label where
  ascii : List Char
  unicode : List Char

/-- The label that a mapped text stands for. Behind the mark of an encoding
there has to be an encoding of a valid, composed text that needs one. -/
def label? (text : List Char) : Option Label :=
  match Text.after? encodedMark text with
  | some encoded =>
      if !encoded.all Punycode.isAscii then none
      else do
        let decoded ← Punycode.decode encoded
        if !decoded.all Punycode.isAscii && decoded.all isValid && compose decoded == decoded &&
            labelIsValid decoded then
          some ⟨text, decoded⟩
        else none
  | none =>
      if text.all Punycode.isAscii then some ⟨text, text⟩
      else if labelIsValid text then some ⟨encodedMark ++ Punycode.encode text, text⟩
      else none

/-! ## Names -/

/-- The ASCII characters that no domain name may hold. -/
def isForbidden (char : Char) : Bool :=
  char.toNat ≤ 0x20 || char.toNat == 0x7F || "%#/:<>?@[\\]^|".toList.contains char

/-- The ASCII form of a domain name, if it has one. -/
def toAscii? (name : List Char) : Option (List Char) := do
  let composed := compose (← mapChars name)
  if composed.any isForbidden then none
  else
    let labels ← (Text.pieces (· == '.') composed).mapM label?
    let unicode := labels.map Label.unicode
    if unicode.any runsRight && !unicode.all directionIsValid then none
    else some (List.intercalate ['.'] (labels.map Label.ascii))

end RequestFlow.Idna
