import RequestFlow.Dict
import RequestFlow.Text.Blank
import RequestFlow.Text.Split

/-!
Contract: files of environment variables.

Owns: the lines `KEY=VALUE` of such a file. Blank lines and lines that start with
a number sign are passed over, and so are lines without an equals sign. One pair
of quotes around a value is taken off.
-/

namespace RequestFlow.EnvFile

/-- The text between two quotes of one kind. -/
def quoted? (quote : Char) : List Char → Option (List Char)
  | [] => none
  | first :: rest =>
      if first == quote && rest.getLast? == some quote then some rest.dropLast else none

def unquoted (value : List Char) : List Char :=
  match quoted? '"' value, quoted? '\'' value with
  | some inner, _ => inner
  | none, some inner => inner
  | none, none => value

/-- The variable that a line sets. -/
def entry? (line : List Char) : Option (String × String) :=
  match Text.trim line with
  | [] => none
  | '#' :: _ => none
  | text =>
      (Text.cut '=' text).map fun (key, value) =>
        (String.ofList (Text.trim key), String.ofList (unquoted (Text.trim value)))

/-- The variables of a file; of several lines for one key the last one counts. -/
def parse (text : String) : Dict String :=
  Dict.ofList ((Text.lines text.toList).filterMap entry?)

end RequestFlow.EnvFile
