import RequestFlow.Command.EnvFile
import RequestFlow.Proofs.Dict
import RequestFlow.Proofs.Text.Cut

/-!
Contract: what a file of variables sets.

Owns: the settings of a text line by line, which do not depend on how its lines end; the file
of two texts with a line end between them; and lines with values in quotes, which set exactly
the values that stand between the quotes.

Does not own: the variables of the process that a file is put over
(`Proofs.Variable.Precedence`).
-/

namespace RequestFlow.EnvFile

open Text

/-! ## Lines -/

/-- What the lines of a text set, in order. -/
def settings (text : List Char) : List (String × String) :=
  (lines text).filterMap entry?

/-- Blanks around a line do not count. -/
theorem entry?_congr {left right : List Char} (same : trim left = trim right) :
    entry? left = entry? right := by
  unfold entry?
  rw [same]

theorem entry?_append_return (line : List Char) : entry? (line ++ ['\r']) = entry? line := by
  apply entry?_congr
  have trimmed := trim_append_blanks line (rfl : [].all isBlank = true)
    (by decide : ['\r'].all isBlank = true)
  simpa using trimmed

theorem entry?_dropReturn (line : List Char) : entry? (dropReturn line) = entry? line := by
  unfold dropReturn
  split
  case h_1 before ends =>
    have split : line = before.reverse ++ ['\r'] := by
      simpa using congrArg List.reverse ends
    rw [split, entry?_append_return]
  case h_2 => rfl

/-- An empty piece sets nothing, and neither does the return that ends a line. So the lines of
a text set what its pieces set. -/
theorem settings_eq (text : List Char) :
    settings text = (pieces (· == '\n') text).filterMap entry? := by
  have dropped (ends : List (List Char)) :
      (ends.map dropReturn).filterMap entry? = ends.filterMap entry? := by
    rw [List.filterMap_map]
    exact congrArg (List.filterMap · ends) (funext entry?_dropReturn)
  have isSome : pieces (· == '\n') text ≠ [] := pieces_ne_nil text
  unfold settings lines
  rw [← List.dropLast_concat_getLast isSome]
  generalize (pieces (· == '\n') text).dropLast = before
  generalize (pieces (· == '\n') text).getLast isSome = last
  cases last with
  | nil => simp [dropped, entry?, trim, trimStart, trimEnd]
  | cons char rest => simp [-List.filterMap_map, dropped]

/-- A line end divides what a text sets. -/
theorem settings_append (front rest : List Char) :
    settings (front ++ '\n' :: rest) = settings front ++ settings rest := by
  have divided : pieces (· == '\n') (front ++ '\n' :: rest) =
      pieces (· == '\n') front ++ pieces (· == '\n') rest :=
    @pieces_append (· == '\n') '\n' (beq_self_eq_true '\n') front rest
  rw [settings_eq, settings_eq, settings_eq, divided, List.filterMap_append]

theorem settings_of_notMem {line : List Char} (single : '\n' ∉ line) :
    settings line = [line].filterMap entry? := by
  have whole : pieces (· == '\n') line = [line] :=
    pieces_eq_singleton fun char member => beq_false_of_ne fun same => single (same ▸ member)
  rw [settings_eq, whole]

/-- A line sets what it sets without the return that ends it. -/
theorem settings_append_return {line : List Char} (single : '\n' ∉ line) :
    settings (line ++ ['\r']) = settings line := by
  have singleReturn : '\n' ∉ line ++ ['\r'] := by simp [single]
  rw [settings_of_notMem single, settings_of_notMem singleReturn, List.filterMap_cons,
    List.filterMap_cons, entry?_append_return]

/-- A line with a line end behind it is read apart from the rest. -/
theorem settings_line {line : List Char} (single : '\n' ∉ line) {ending : String}
    (ends : ending = "\n" ∨ ending = "\r\n") (rest : List Char) :
    settings (line ++ ending.toList ++ rest) = settings line ++ settings rest := by
  rcases ends with rfl | rfl
  · have split : line ++ "\n".toList ++ rest = line ++ '\n' :: rest := by simp
    rw [split, settings_append]
  · have split : line ++ "\r\n".toList ++ rest = line ++ ['\r'] ++ '\n' :: rest := by simp
    rw [split, settings_append, settings_append_return single]

/-! ## Values in quotes -/

/-- A key that can stand in front of an equals sign as it is. -/
structure IsKey (key : String) : Prop where
  noEquals : '=' ∉ key.toList
  oneLine : '\n' ∉ key.toList
  trimmed : trim key.toList = key.toList
  noComment : key.toList.head? ≠ some '#'

/-- The line that sets a key to a value in quotes. -/
def quotedLine (setting : String × String) : String :=
  setting.1 ++ "=\"" ++ setting.2 ++ "\""

theorem toList_quotedLine (setting : String × String) :
    (quotedLine setting).toList =
      setting.1.toList ++ '=' :: '"' :: (setting.2.toList ++ ['"']) := by
  simp [quotedLine]

/-- Exactly the outer quotes are taken off, and no blank between them. -/
theorem unquoted_trim_quoted (value : List Char) :
    unquoted (trim ('"' :: (value ++ ['"']))) = value := by
  have whole : trim ('"' :: (value ++ ['"'])) = '"' :: (value ++ ['"']) := by
    simp [trim, trimStart, trimEnd, isBlank]
  rw [whole]
  simp [unquoted, quoted?]

/-- The line is not blank and not a comment, because its key starts none, and its first equals
sign is the one behind the key. -/
theorem entry?_quotedLine {setting : String × String} (isKey : IsKey setting.1) :
    entry? (quotedLine setting).toList = some setting := by
  obtain ⟨key, value⟩ := setting
  rw [toList_quotedLine]
  generalize quote : '"' :: (value.toList ++ ['"']) = behind
  have solidEnd : trimEnd behind = behind := by
    simp [← quote, trimEnd, isBlank]
  have whole : trim (key.toList ++ '=' :: behind) = key.toList ++ '=' :: behind := by
    rw [trim_append_cons rfl, trimStart_eq_self isKey.trimmed, solidEnd]
  have sides : cut '=' (key.toList ++ '=' :: behind) = some (key.toList, behind) :=
    cut_of_notMem behind isKey.noEquals
  have inner : unquoted (trim behind) = value.toList := by
    rw [← quote, unquoted_trim_quoted]
  unfold entry?
  rw [whole]
  split
  case h_1 blank => simp at blank
  case h_2 rest comment =>
    have noComment := isKey.noComment
    cases front : key.toList with
    | nil => simp [front] at comment
    | cons first more =>
        have isMark : first = '#' := by simpa [front] using congrArg List.head? comment
        simp [front, isMark] at noComment
  case h_3 => simp [sides, isKey.trimmed, inner]

theorem settings_quotedLine {setting : String × String} (isKey : IsKey setting.1)
    (oneLine : '\n' ∉ setting.2.toList) : settings (quotedLine setting).toList = [setting] := by
  have single : '\n' ∉ (quotedLine setting).toList := by
    simp [toList_quotedLine, isKey.oneLine, oneLine]
  rw [settings_of_notMem single, List.filterMap_cons_some (entry?_quotedLine isKey),
    List.filterMap_nil]

/-- Lines with values in quotes set these values, whether they end with a line feed or with a
return before it, and whether or not the last one ends. -/
theorem settings_quotedLines {given : List (String × String)}
    (wellFormed : ∀ setting ∈ given, IsKey setting.1 ∧ '\n' ∉ setting.2.toList)
    {ending last : String} (ends : ending = "\n" ∨ ending = "\r\n")
    (lastEnds : last = "" ∨ last = ending) :
    settings (String.intercalate ending (given.map quotedLine) ++ last).toList = given := by
  have lastLine {line : List Char} (single : '\n' ∉ line) :
      settings (line ++ last.toList) = settings line := by
    rcases lastEnds with rfl | rfl
    · simp
    · have nothing : settings [] = [] := rfl
      simpa [nothing] using settings_line single ends []
  induction given with
  | nil => exact lastLine List.not_mem_nil
  | cons setting rest inductionHypothesis =>
      obtain ⟨⟨isKey, oneLine⟩, restWellFormed⟩ := List.forall_mem_cons.1 wellFormed
      have single : '\n' ∉ (quotedLine setting).toList := by
        simp [toList_quotedLine, isKey.oneLine, oneLine]
      have first := settings_quotedLine isKey oneLine
      have others := inductionHypothesis restWellFormed
      cases rest with
      | nil =>
          rw [List.map_singleton, String.intercalate_singleton, String.toList_append,
            lastLine single, first]
      | cons next more =>
          rw [List.map_cons, List.map_cons, String.intercalate_cons_cons, String.append_assoc,
            String.toList_append, String.toList_append, settings_line single ends, first,
            ← List.map_cons, others]
          rfl

/-! ## Files -/

/-- Two texts with a line end between them set what the first one sets, overlaid by what the
second one sets. Lines with values in quotes give each key the value of its last line, and there
is no other key. -/
theorem files_compose_and_carry_values :
    (∀ first second : String,
      parse (first ++ "\n" ++ second) = (parse first).overlay (parse second)) ∧
    ∀ given : List (String × String),
      (∀ setting ∈ given, IsKey setting.1 ∧ '\n' ∉ setting.2.toList) →
      ∀ ending last : String, ending = "\n" ∨ ending = "\r\n" → last = "" ∨ last = ending →
        ∀ key value,
          (parse (String.intercalate ending (given.map quotedLine) ++ last)).get? key =
              some value ↔
            ∃ before after, given = before ++ (key, value) :: after ∧
              key ∉ after.map Prod.fst := by
  constructor
  · intro first second
    have divided : (first ++ "\n" ++ second).toList = first.toList ++ '\n' :: second.toList := by
      simp
    show Dict.ofList (settings (first ++ "\n" ++ second).toList) =
      (Dict.ofList (settings first.toList)).overlay (Dict.ofList (settings second.toList))
    rw [divided, settings_append, Dict.ofList_append]
  · intro given wellFormed ending last ends lastEnds key value
    show (Dict.ofList (settings _)).get? key = some value ↔ _
    rw [settings_quotedLines wellFormed ends lastEnds, Dict.get?_ofList_eq_some_iff]

/-- A key that is set twice, to quotes and marks and blanks, and a value without a key. -/
def quotedSettings : List (String × String) :=
  [("token", "first"), ("token", " \"#=' "), ("", "\r")]

theorem quotedSettings_last_token :
    (∀ setting ∈ quotedSettings, IsKey setting.1 ∧ '\n' ∉ setting.2.toList) ∧
      (parse (String.intercalate "\r\n" (quotedSettings.map quotedLine) ++ "\r\n")).get?
        "token" = some " \"#=' " := by
  have wellFormed : ∀ setting ∈ quotedSettings, IsKey setting.1 ∧ '\n' ∉ setting.2.toList := by
    simp only [quotedSettings, List.forall_mem_cons, List.not_mem_nil, false_implies,
      implies_true, and_true]
    exact ⟨⟨⟨by decide, by decide, by decide, by decide⟩, by decide⟩,
      ⟨⟨by decide, by decide, by decide, by decide⟩, by decide⟩,
      ⟨⟨by decide, by decide, by decide, by decide⟩, by decide⟩⟩
  refine ⟨wellFormed, ?_⟩
  rw [files_compose_and_carry_values.2 quotedSettings wellFormed "\r\n" "\r\n" (.inr rfl)
    (.inr rfl)]
  exact ⟨[("token", "first")], [("", "\r")], rfl, by decide⟩

end RequestFlow.EnvFile
