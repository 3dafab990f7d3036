import RequestFlow.Assignment.Evaluation
import RequestFlow.Proofs.Json.Pointer
import RequestFlow.Proofs.Validation.Checked

/-!
Contract: what the check of an assignment rule keeps from failing at an exchange.

Owns: which errors the evaluation of a rule can end in; what the check asks of a rule; and the
comparison of the two notions of an absent path.

A path that has to be a name may not be left out. For the evaluation an empty one is left out
too, and for the check it is not.
-/

namespace RequestFlow

namespace AssignmentRule

/-! ## Errors of an evaluation -/

/-- The value is read by a name: of a header or a cookie, or of what only a request has. -/
def ReadsByName (rule : AssignmentRule) : Prop :=
  rule.part = .header ∨ rule.part = .cookie ∨
    rule.side = .request ∧ (rule.part = .query ∨ rule.part = .path)

/-- An error that a rule can end in, and what it takes for it. -/
inductive FailsWith (rule : AssignmentRule) : AssignmentError → Prop where
  | missingPath (byName : rule.ReadsByName) (absent : rule.path? = none) :
      FailsWith rule (.missingPath rule.part)
  | notFound {name : String} (byName : rule.ReadsByName) (given : rule.path? = some name) :
      FailsWith rule (.notFound rule.part name rule.side)
  | responseOnly (side : rule.side = .request) : FailsWith rule (.responseOnly rule.part)
  | requestOnly (side : rule.side = .response) : FailsWith rule (.requestOnly rule.part)
  | emptyBody (isBody : rule.part = .body) : FailsWith rule (.emptyBody rule.side)
  | bodyNotJson (isBody : rule.part = .body) (given : rule.path?.isSome) :
      FailsWith rule (.bodyNotJson rule.side)
  | invalidJsonPath {path : String} {error : JsonPath.PathError} (isBody : rule.part = .body)
      (given : rule.path? = some path) (isQuery : path.toList.head? = some '$')
      (unread : JsonPath.parse path = .error error) :
      FailsWith rule (.invalidJsonPath path error)
  | noMatch {path : String} (isBody : rule.part = .body) (given : rule.path? = some path)
      (isQuery : path.toList.head? = some '$') : FailsWith rule (.noMatch path)
  | pointer {path : String} {error : PointerError} (isBody : rule.part = .body)
      (given : rule.path? = some path) (isPointer : path.toList.head? ≠ some '$')
      (unread : Pointer.parse path = .error error) : FailsWith rule (.pointer error)
  | nowhere {path : String} {pointer : Pointer} {segment : String} (isBody : rule.part = .body)
      (given : rule.path? = some path) (read : Pointer.parse path = .ok pointer) :
      FailsWith rule (.pointer (.notFound pointer.toString segment))

section Errors

variable {rule : AssignmentRule} {exchange : Exchange} {failure : AssignmentError}

theorem path?_eq_none_iff : rule.path? = none ↔ rule.path = none ∨ rule.path = some "" := by
  rw [path?, Option.filter_eq_none_iff]
  cases rule.path with
  | none => simp
  | some path => simp

theorem failsWith_of_named {find : String → Option Json} (byName : rule.ReadsByName)
    (failed : rule.named find = .error failure) : rule.FailsWith failure := by
  unfold named at failed
  split at failed
  case h_1 absent =>
    cases failed
    exact .missingPath byName absent
  case h_2 name given =>
    split at failed
    case h_1 => cases failed
    case h_2 =>
      cases failed
      exact .notFound byName given

theorem failsWith_of_valueAt {path : String} {value : Json} (isBody : rule.part = .body)
    (given : rule.path? = some path) (failed : valueAt value path = .error failure) :
    rule.FailsWith failure := by
  unfold valueAt at failed
  split at failed
  case h_1 rest starts =>
    have isQuery : path.toList.head? = some '$' := by rw [starts, List.head?_cons]
    split at failed
    case h_1 error unread =>
      cases failed
      exact .invalidJsonPath isBody given isQuery unread
    case h_2 =>
      split at failed
      case h_1 => cases failed
      case h_2 =>
        cases failed
        exact .noMatch isBody given isQuery
  case h_2 otherwise =>
    split at failed
    case h_1 error unread =>
      cases failed
      refine .pointer isBody given (fun isQuery => ?_) unread
      obtain ⟨rest, starts⟩ := List.head?_eq_some_iff.1 isQuery
      exact otherwise rest starts
    case h_2 pointer read =>
      cases looked : pointer.lookup value with
      | ok found =>
          rw [looked] at failed
          cases failed
      | error error =>
          obtain ⟨-, segment, -, -, -, -, -, rfl⟩ := Pointer.walk_eq_error_iff.1 looked
          rw [looked] at failed
          cases failed
          exact .nowhere isBody given read

theorem failsWith_of_bodyValue {body : String} (isBody : rule.part = .body)
    (failed : bodyValue body rule.path? rule.side = .error failure) :
    rule.FailsWith failure := by
  unfold bodyValue at failed
  split at failed
  case isTrue =>
    cases failed
    exact .emptyBody isBody
  case isFalse =>
    split at failed
    case h_1 => cases failed
    case h_2 => cases failed
    case h_3 given _ =>
      cases failed
      exact .bodyNotJson isBody (Option.isSome_of_eq_some given)
    case h_4 given _ => exact failsWith_of_valueAt isBody given failed

theorem evaluate_of_readsByName (byName : rule.ReadsByName) :
    ∃ find, rule.evaluate exchange = rule.named find := by
  obtain ⟨name, side, part, path⟩ := rule
  rcases byName with rfl | rfl | ⟨rfl, rfl | rfl⟩ <;> exact ⟨_, rfl⟩

theorem failsWith_of_evaluate (failed : rule.evaluate exchange = .error failure) :
    rule.FailsWith failure := by
  obtain ⟨name, side, part, path⟩ := rule
  cases part with
  | body => exact failsWith_of_bodyValue rfl failed
  | header => exact failsWith_of_named (.inl rfl) failed
  | cookie => exact failsWith_of_named (.inr (.inl rfl)) failed
  | query =>
      cases side with
      | request => exact failsWith_of_named (.inr (.inr ⟨rfl, .inl rfl⟩)) failed
      | response =>
          cases failed
          exact .requestOnly rfl
  | path =>
      cases side with
      | request => exact failsWith_of_named (.inr (.inr ⟨rfl, .inr rfl⟩)) failed
      | response =>
          cases failed
          exact .requestOnly rfl
  | statusCode =>
      cases side with
      | request =>
          cases failed
          exact .responseOnly rfl
      | response => cases failed

/-- A path is missed where a name is read and the path is left out or empty. -/
theorem evaluate_eq_missingPath_iff {part : MessagePart} :
    rule.evaluate exchange = .error (.missingPath part) ↔
      rule.ReadsByName ∧ rule.path? = none ∧ part = rule.part := by
  constructor
  · intro failed
    cases failsWith_of_evaluate failed with
    | missingPath byName absent => exact ⟨byName, absent, rfl⟩
  · rintro ⟨byName, absent, rfl⟩
    obtain ⟨find, named⟩ := evaluate_of_readsByName byName
    rw [named, AssignmentRule.named, absent]

end Errors

/-! ## Checked rules -/

/-- What the check of a rule asks for, apart from where problems would be reported. -/
structure Checked (rule : AssignmentRule) : Prop where
  name : VariableName.isValid rule.name = true
  path : rule.part ≠ .body → rule.part ≠ .statusCode → rule.path ≠ none
  pointer : rule.part = .body → ∀ path, rule.path = some path → path.toList.head? ≠ some '$' →
    ∃ pointer, Pointer.parse path = .ok pointer

theorem assignmentRule_eq_nil_iff {location : String} {rule : AssignmentRule} :
    Validation.assignmentRule location rule = [] ↔ rule.Checked := by
  rw [Validation.assignmentRule, List.append_eq_nil_iff, Validation.variableName,
    require_eq_nil_iff]
  obtain ⟨name, side, part, path⟩ := rule
  constructor
  · rintro ⟨valid, quiet⟩
    refine ⟨valid, ?_, ?_⟩
    · rintro notBody notStatus (rfl : path = none)
      cases part with
      | body => exact notBody rfl
      | statusCode => exact notStatus rfl
      | _ => cases quiet
    · rintro (rfl : part = .body) path (rfl : _ = some path) isPointer
      simp only [beq_iff_eq, isPointer, if_false] at quiet
      cases parsed : Pointer.parse path with
      | ok pointer => exact ⟨pointer, rfl⟩
      | error error => simp [parsed] at quiet
  · rintro ⟨valid, given, pointer⟩
    refine ⟨valid, ?_⟩
    cases part with
    | statusCode => rfl
    | body =>
        cases path with
        | none => rfl
        | some path =>
            show (if _ then _ else _) = []
            split
            case isTrue => rfl
            case isFalse isPointer =>
              obtain ⟨pointer, parsed⟩ := pointer rfl path rfl (by simpa using isPointer)
              rw [parsed]
    | _ =>
        cases path with
        | none => exact absurd rfl (given nofun nofun)
        | some path => rfl

section Accepted

variable {rule : AssignmentRule}

/-- The check and the evaluation agree on where a path is a name; of its two ways to be left
out, the check knows one. -/
theorem Checked.path?_eq_none_iff (checked : rule.Checked) (byName : rule.ReadsByName) :
    rule.path? = none ↔ rule.path = some "" := by
  have given : rule.path ≠ none := by
    apply checked.path <;> intro part <;> simp [ReadsByName, part] at byName
  rw [AssignmentRule.path?_eq_none_iff, or_iff_right given]

/-- The pointers of checked rules can be read. -/
theorem Checked.pointer_notFound (checked : rule.Checked) {error : PointerError}
    (fails : rule.FailsWith (.pointer error)) :
    ∃ pointer segment, error = .notFound pointer segment := by
  cases fails with
  | pointer isBody given isPointer unread =>
      obtain ⟨pointer, read⟩ :=
        checked.pointer isBody _ (Option.filter_eq_some_iff.1 given).1 isPointer
      cases unread.symm.trans read
  | nowhere => exact ⟨_, _, rfl⟩

/-- At any exchange, a rule that the check accepts misses its path just if it reads by a name
and the path is empty; and its path is never a text that is no pointer. -/
theorem accepted_misses_empty_path {location : String}
    (accepted : Validation.assignmentRule location rule = []) (exchange : Exchange) :
    (∀ part, rule.evaluate exchange = .error (.missingPath part) ↔
      rule.ReadsByName ∧ rule.path = some "" ∧ part = rule.part) ∧
    rule.evaluate exchange ≠ .error (.pointer .noLeadingSlash) ∧
    rule.evaluate exchange ≠ .error (.pointer .badEscape) := by
  have checked := assignmentRule_eq_nil_iff.1 accepted
  refine ⟨fun part => ?_, fun failed => ?_, fun failed => ?_⟩
  · rw [evaluate_eq_missingPath_iff]
    refine and_congr_right fun byName => ?_
    rw [checked.path?_eq_none_iff byName]
  · obtain ⟨pointer, segment, other⟩ := checked.pointer_notFound (failsWith_of_evaluate failed)
    cases other
  · obtain ⟨pointer, segment, other⟩ := checked.pointer_notFound (failsWith_of_evaluate failed)
    cases other

end Accepted

/-- A request without headers, and a response with one. -/
def tagged : Exchange where
  template := ⟨"GET", "http://host/", .none, none⟩
  request := ⟨"GET", "http://host/", ∅, none⟩
  response := ⟨200, Dict.ofList [("etag", "7")], ""⟩

/-- A header that the request does not have is not found; its name is not missed. -/
theorem requestTag_not_missed :
    Validation.assignmentRule "$" ⟨"tag", .request, .header, some "etag"⟩ = [] ∧
      evaluate ⟨"tag", .request, .header, some "etag"⟩ tagged =
        .error (.notFound .header "etag" .request) ∧
      ∀ part, evaluate ⟨"tag", .request, .header, some "etag"⟩ tagged ≠
        .error (.missingPath part) := by
  have accepted :
      Validation.assignmentRule "$" ⟨"tag", .request, .header, some "etag"⟩ = [] := by decide
  refine ⟨accepted, by decide, fun part missed => ?_⟩
  obtain ⟨-, isEmpty, -⟩ := ((accepted_misses_empty_path accepted tagged).1 part).1 missed
  exact absurd isEmpty (by decide)

/-- The check accepts an empty name of a header, and the evaluation misses it. -/
theorem unnamedTag_accepted_and_missed :
    Validation.assignmentRule "$" ⟨"tag", .response, .header, some ""⟩ = [] ∧
      evaluate ⟨"tag", .response, .header, some ""⟩ tagged = .error (.missingPath .header) := by
  decide

end AssignmentRule

end RequestFlow
