import RequestFlow.Text.CategoryTable
import RequestFlow.Text.CharTable

/-!
Contract: the general categories of characters.

Owns: the names of the categories and the membership of a character in one. A
category has a name of two letters; one letter names all categories that begin
with it.
-/

namespace RequestFlow.Category

open CharTable

/-- The characters from one code to another in equal steps. -/
structure Run where
  first : Nat
  last : Nat
  step : Nat
deriving DecidableEq, Repr

def Run.ofRow : Row → Run
  | [first] :: [last] :: [step] :: _ => ⟨first, last, step⟩
  | row => ⟨(CharRange.ofRow row).first, (CharRange.ofRow row).last, 1⟩

def Run.contains (run : Run) (char : Char) : Bool :=
  let code := char.toNat
  run.first ≤ code && code ≤ run.last && (code - run.first) % run.step == 0

def runs (text : String) : List Run :=
  (rows text).map Run.ofRow

/-- The categories by their names. -/
def tables : List (String × List Run) :=
  [("Lu", runs CategoryTable.capitals), ("Ll", runs CategoryTable.smallLetters),
    ("Lt", runs CategoryTable.titleLetters), ("Lm", runs CategoryTable.modifierLetters),
    ("Lo", runs CategoryTable.otherLetters), ("Mn", runs CategoryTable.nonspacingMarks),
    ("Mc", runs CategoryTable.spacingMarks), ("Me", runs CategoryTable.enclosingMarks),
    ("Nd", runs CategoryTable.decimalDigits), ("Nl", runs CategoryTable.letterNumbers),
    ("No", runs CategoryTable.otherNumbers), ("Pc", runs CategoryTable.connectors),
    ("Pd", runs CategoryTable.dashes), ("Ps", runs CategoryTable.openings),
    ("Pe", runs CategoryTable.closings), ("Pi", runs CategoryTable.initialQuotes),
    ("Pf", runs CategoryTable.finalQuotes), ("Po", runs CategoryTable.otherPunctuation),
    ("Sm", runs CategoryTable.mathSymbols), ("Sc", runs CategoryTable.currencySymbols),
    ("Sk", runs CategoryTable.modifierSymbols), ("So", runs CategoryTable.otherSymbols),
    ("Zs", runs CategoryTable.spaces), ("Zl", runs CategoryTable.lineSeparators),
    ("Zp", runs CategoryTable.paragraphSeparators), ("Cc", runs CategoryTable.controls),
    ("Cf", runs CategoryTable.formats), ("Co", runs CategoryTable.privateUse)]

/-- The category without a table: characters that stand for nothing. -/
def unassigned : String := "Cn"

def isListed (char : Char) : Bool :=
  tables.any fun table => table.2.any fun run => run.contains char

/-- Whether a name of a category starts with a text. -/
def startsWith (text name : String) : Bool :=
  (Text.after? text.toList name.toList).isSome

/-- Whether a text names a category. -/
def isName (name : String) : Bool :=
  (name.length == 1 || name.length == 2) &&
    (startsWith name unassigned || tables.any fun table => startsWith name table.1)

def contains (name : String) (char : Char) : Bool :=
  (tables.any fun table => startsWith name table.1 && table.2.any fun run => run.contains char) ||
    (startsWith name unassigned && !isListed char)

end RequestFlow.Category
