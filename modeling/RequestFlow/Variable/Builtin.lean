import RequestFlow.Json.Basic
import RequestFlow.Text.Ascii
import RequestFlow.Variable.Scope

/-!
Contract: the built-in variables.

Owns: the names of the built-ins and how their values are made from a moment and
a supply of random numbers. They are made once, when a stack is seeded, so that
all stages of a run see the same values.

Does not own: the clock and the source of random numbers.
-/

namespace RequestFlow.Builtin

/-- What the built-ins are made from: the time since the start of 1970, and
random numbers of the stated sizes. -/
structure Source where
  seconds : Nat
  milliseconds : Nat
  uuidBits : Nat
  int32 : Int
  uint32 : Nat
  uint64 : Nat
  letters : List Nat

/-! ## Dates -/

structure Date where
  year : Nat
  month : Nat
  day : Nat
deriving DecidableEq, Repr

def isLeapYear (year : Nat) : Bool :=
  year % 4 == 0 && (year % 100 != 0 || year % 400 == 0)

def daysOfYear (year : Nat) : Nat :=
  if isLeapYear year then 366 else 365

def monthLengths (year : Nat) : List Nat :=
  [31, if isLeapYear year then 29 else 28, 31, 30, 31, 30, 31, 31, 30, 31, 30, 31]

/-- The year and the day within it, counting years from `year`. -/
def splitYears : (fuel year days : Nat) → Nat × Nat
  | 0, year, days => (year, days)
  | fuel + 1, year, days =>
      if days < daysOfYear year then (year, days)
      else splitYears fuel (year + 1) (days - daysOfYear year)

/-- The month and the day within it, counting months from `month`. -/
def splitMonths : (month days : Nat) → List Nat → Nat × Nat
  | month, days, [] => (month, days)
  | month, days, length :: rest =>
      if days < length then (month, days) else splitMonths (month + 1) (days - length) rest

/-- The date of a day, counted from the first of January 1970. -/
def dateOfDay (day : Nat) : Date :=
  let (year, days) := splitYears (day / 365 + 1) 1970 day
  let (month, days) := splitMonths 1 days (monthLengths year)
  ⟨year, month, days + 1⟩

/-- A number in decimal digits, filled up with zeros. -/
def padded (width value : Nat) : String :=
  let digits := Text.natDigits 10 value
  String.ofList (List.replicate (width - digits.length) '0' ++ digits)

/-- A moment in universal time with milliseconds. -/
def timestampText (seconds milliseconds : Nat) : String :=
  let date := dateOfDay (seconds / 86400)
  let second := seconds % 86400
  padded 4 date.year ++ "-" ++ padded 2 date.month ++ "-" ++ padded 2 date.day ++ "T" ++
    padded 2 (second / 3600) ++ ":" ++ padded 2 (second / 60 % 60) ++ ":" ++
    padded 2 (second % 60) ++ "." ++ padded 3 milliseconds ++ "Z"

/-! ## Random texts -/

/-- A random identifier of version 4: six of the bits are fixed. -/
def uuidText (bits : Nat) : String :=
  let group (digits shift : Nat) : Nat := (bits >>> shift) % (1 <<< (4 * digits))
  let hex (width value : Nat) : String :=
    let digits := Text.natDigits 16 value
    String.ofList (List.replicate (width - digits.length) '0' ++ digits)
  hex 8 (group 8 96) ++ "-" ++ hex 4 (group 4 80) ++ "-" ++
    hex 4 (0x4000 + group 3 64) ++ "-" ++ hex 4 (0x8000 + group 4 48 % 0x4000) ++ "-" ++
    hex 12 (group 12 0)

def alphabet : List Char :=
  "ABCDEFGHIJKLMNOPQRSTUVWXYZabcdefghijklmnopqrstuvwxyz0123456789".toList

def lettersText (picks : List Nat) : String :=
  String.ofList (picks.map fun pick => alphabet.getD (pick % alphabet.length) 'A')

/-! ## The scope -/

def scopeId : String := "functions"

/-- The number of characters of a random text. -/
def randomTextLength : Nat := 20

/-- The built-in variables with their values. -/
def values (source : Source) : Dict Json :=
  Dict.ofList [("$uuid", .string (uuidText source.uuidBits)),
    ("$timestamp", Json.ofNat source.seconds),
    ("$timestamp3339", .string (timestampText source.seconds source.milliseconds)),
    ("$randomint", Json.ofInt source.int32),
    ("$randomuint", Json.ofNat source.uint32),
    ("$randomString", .string (lettersText source.letters)),
    ("$random", .string (Text.natText source.uint64))]

def scope (source : Source) : Scope :=
  Scope.plain scopeId (values source)

end RequestFlow.Builtin
