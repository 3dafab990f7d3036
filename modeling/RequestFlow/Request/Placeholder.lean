import RequestFlow.Json.Printer
import RequestFlow.Template.Token
import RequestFlow.Url.Percent

/-!
Contract: the placeholders of URL templates.

A placeholder is a name in single braces. It is replaced by the value of the path
parameter of that name, escaped so that it stays one segment. Double braces
belong to tokens and are copied with all they enclose; braces that are not closed
are copied with the rest of the text.
-/

namespace RequestFlow.Placeholder

theorem cut_length {mark : Char} {text before after : List Char}
    (found : Text.cut mark text = some (before, after)) :
    text.length = before.length + 1 + after.length := by
  unfold Text.cut at found
  induction text generalizing before with
  | nil => simp [Text.cutWhere] at found
  | cons char rest inductionHypothesis =>
      simp only [Text.cutWhere] at found
      split at found
      · simp only [Option.some.injEq, Prod.mk.injEq] at found
        obtain ⟨rfl, rfl⟩ := found
        simp only [List.length_cons, List.length_nil]
        omega
      · simp only [Option.map_eq_some_iff, Prod.mk.injEq, Prod.exists] at found
        obtain ⟨shorter, behind, foundLater, rfl, rfl⟩ := found
        have step := inductionHypothesis foundLater
        simp only [List.length_cons] at step ⊢
        omega

/-- What is behind a mark is shorter than the text. -/
theorem cut_shortens {mark : Char} {text before after : List Char}
    (found : Text.cut mark text = some (before, after)) : after.length < text.length := by
  have lengths := cut_length found
  omega

theorem cutPair_shortens {first second : Char} {text before after : List Char}
    (found : Text.cutPair first second text = some (before, after)) :
    after.length < text.length := by
  have lengths := Template.cutPair_length found
  omega

/-- A placeholder as it is written. -/
def source (name : List Char) : List Char :=
  '\x7b' :: name ++ ['\x7d']

/-- What a placeholder becomes: itself when there is no parameter of its name. -/
def value (parameters : Dict Json) (name : List Char) : List Char :=
  match parameters.get? (String.ofList name) with
  | some found => (Percent.component found.plainText).toList
  | none => source name

/-- Replaces the placeholders of a text. -/
def fillChars (parameters : Dict Json) (text : List Char) : List Char :=
  match text with
  | [] => []
  | '\x7b' :: '\x7b' :: rest =>
      match isToken : Text.cutPair '\x7d' '\x7d' rest with
      | some (inner, behind) =>
          have : behind.length < rest.length := cutPair_shortens isToken
          Template.openPair ++ inner ++ Template.closePair ++ fillChars parameters behind
      | none => text
  | '\x7b' :: rest =>
      match isPlaceholder : Text.cut '\x7d' rest with
      | some (name, behind) =>
          have : behind.length < rest.length := cut_shortens isPlaceholder
          value parameters name ++ fillChars parameters behind
      | none => text
  | char :: rest => char :: fillChars parameters rest
termination_by text.length

def fill (parameters : Dict Json) (text : String) : String :=
  String.ofList (fillChars parameters text.toList)

end RequestFlow.Placeholder
