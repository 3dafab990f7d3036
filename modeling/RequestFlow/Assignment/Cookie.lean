import RequestFlow.Text.Blank
import RequestFlow.Text.Split

/-!
Contract: reading a cookie from a header.

Owns: the search for the value of a name in the texts of `Cookie` and
`Set-Cookie` headers.

Semicolons stand between the pairs of one cookie text, commas between joined
texts. Both are taken for separators, so that every cookie of a joined header is
found; pieces without an equals sign are passed over.
-/

namespace RequestFlow.Cookie

def isSeparator (char : Char) : Bool := char == ';' || char == ','

/-- The name and value of a piece, without the blanks around them. -/
def pair? (piece : List Char) : Option (List Char × List Char) :=
  (Text.cut '=' (Text.trim piece)).map fun (name, value) => (Text.trim name, Text.trim value)

/-- The pairs of a header, in order. -/
def pairs (header : List Char) : List (List Char × List Char) :=
  (Text.pieces isSeparator header).filterMap pair?

/-- The value of the first pair with a name. -/
def value? (header name : String) : Option String :=
  ((pairs header.toList).find? fun pair => pair.1 == name.toList).map fun pair =>
    String.ofList pair.2

end RequestFlow.Cookie
