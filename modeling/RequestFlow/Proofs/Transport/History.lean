import Mathlib.Data.List.Induction
import RequestFlow.Proofs.Transport.Step

/-!
Contract: the histories of a live transport.

Owns: histories, which are lists of steps in any order; the state after a history, and what
of it the history tells at once; and when a request waits, told from the steps since it was
made and from nothing else.

Does not own: that the state after a history knows who waits (`Proofs.Transport.Life`).
-/

namespace RequestFlow.Live

/-! ## States after histories -/

namespace State

def run (state : State) (steps : List Step) : State := steps.foldl step state

@[simp] theorem run_nil (state : State) : state.run [] = state := rfl

@[simp] theorem run_cons (state : State) (step : Step) (steps : List Step) :
    state.run (step :: steps) = (state.step step).run steps := rfl

/-- The state after a history. -/
def after (timeout : Option Nat) (history : List Step) : State := (start timeout).run history

theorem after_append (timeout : Option Nat) (before later : List Step) :
    after timeout (before ++ later) = (after timeout before).run later :=
  List.foldl_append

end State

/-- How much time goes by in some steps. -/
def elapsed : List Step → Nat
  | [] => 0
  | step :: steps => step.time + elapsed steps

@[simp] theorem elapsed_nil : elapsed [] = 0 := rfl

@[simp] theorem elapsed_cons (step : Step) (steps : List Step) :
    elapsed (step :: steps) = step.time + elapsed steps := rfl

@[simp] theorem elapsed_append (first second : List Step) :
    elapsed (first ++ second) = elapsed first + elapsed second := by
  induction first with
  | nil => exact (Nat.zero_add _).symm
  | cons step rest inductionHypothesis =>
      rw [List.cons_append, elapsed_cons, inductionHypothesis, elapsed_cons, Nat.add_assoc]

/-- What a state tells of its history. -/
structure State.Follows (timeout : Option Nat) (history : List Step) (state : State) : Prop where
  timeout : state.timeout = timeout
  now : state.now = elapsed history
  isClosed : state.isClosed = true ↔ .close ∈ history
  length : state.sendings.length = history.count .send

theorem State.after_follows (timeout : Option Nat) (history : List Step) :
    State.Follows timeout history (State.after timeout history) := by
  induction history using List.reverseRecOn with
  | nil => exact ⟨rfl, rfl, by simp [after, start], rfl⟩
  | append_singleton history step inductionHypothesis =>
      obtain ⟨sameTimeout, now, isClosed, length⟩ := inductionHypothesis
      rw [after_append]
      show State.Follows timeout (history ++ [step]) ((after timeout history).step step)
      refine ⟨?_, ?_, ?_, ?_⟩
      · rw [timeout_step, sameTimeout]
      · rw [now_step, now, elapsed_append, elapsed_cons, elapsed_nil, Nat.add_zero]
      · rw [isClosed_step, Bool.or_eq_true, isClosed, beq_iff_eq, List.mem_append,
          List.mem_singleton, eq_comm (a := step)]
      · rw [length_step, length, List.count_append]

/-! ## One request, seen alone -/

/-- How a step ends a request that waits: a reply for it comes in, its sender finds its
time over, or its sender gives up. The request has waited for the given time. -/
def Step.ending? (timeout : Option Nat) (number waited : Nat) : Step → Option Sending
  | .deliver other reply => if other = number then some (.settled reply) else none
  | .look other =>
      if other = number ∧ ∃ limit ∈ timeout, limit ≤ waited then
        some (.settled (.failure .timeout))
      else none
  | .cancel other => if other = number then some .cancelled else none
  | .send | .elapse _ | .close => none

/-- None of the steps since a request was made has ended it. -/
def Undecided (timeout : Option Nat) (number : Nat) (since : List Step) : Prop :=
  ∀ first step rest, since = first ++ step :: rest →
    step.ending? timeout number (elapsed first) = none

/-- The request with a number is made after some steps of a history, and before the
others. -/
structure MadeAt (history : List Step) (number : Nat) (before since : List Step) : Prop where
  split : history = before ++ .send :: since
  place : before.count .send = number

/-- A request waits: it was handed out, and nothing has ended it since. -/
def Waits (timeout : Option Nat) (history : List Step) (number : Nat) : Prop :=
  ∃ before since, MadeAt history number before since ∧ .close ∉ before ∧
    Undecided timeout number since

section Undecided

variable {timeout : Option Nat} {number : Nat}

theorem undecided_nil : Undecided timeout number [] := by
  intro first step rest split
  simp at split

/-- With one more step a request stays undecided unless the step ends it. -/
theorem undecided_concat_iff {steps : List Step} {step : Step} :
    Undecided timeout number (steps ++ [step]) ↔
      Undecided timeout number steps ∧ step.ending? timeout number (elapsed steps) = none := by
  constructor
  · intro undecided
    refine ⟨fun first other rest split => ?_, undecided steps step [] rfl⟩
    exact undecided first other (rest ++ [step]) (by rw [split]; simp)
  · rintro ⟨undecided, last⟩ first other rest split
    rcases List.eq_nil_or_concat rest with rfl | ⟨between, final, rfl⟩
    · obtain ⟨rfl, same⟩ := List.append_inj' split rfl
      cases same
      exact last
    · rw [List.concat_eq_append, ← List.cons_append, ← List.append_assoc] at split
      obtain ⟨same, -⟩ := List.append_inj' split rfl
      exact undecided first other between same

/-- The steps that end a request, and what becomes of it. -/
theorem ending?_eq_some {step : Step} {waited : Nat} {ending : Sending}
    (ends : step.ending? timeout number waited = some ending) :
    (∃ reply, step = .deliver number reply ∧ ending = .settled reply) ∨
      (step = .look number ∧ (∃ limit ∈ timeout, limit ≤ waited) ∧
        ending = .settled (.failure .timeout)) ∨
      (step = .cancel number ∧ ending = .cancelled) := by
  cases step with
  | deliver other reply =>
      simp only [Step.ending?, Option.ite_none_right_eq_some, Option.some.injEq] at ends
      obtain ⟨rfl, rfl⟩ := ends
      exact .inl ⟨reply, rfl, rfl⟩
  | look other =>
      simp only [Step.ending?, Option.ite_none_right_eq_some, Option.some.injEq] at ends
      obtain ⟨⟨rfl, late⟩, rfl⟩ := ends
      exact .inr (.inl ⟨rfl, late, rfl⟩)
  | cancel other =>
      simp only [Step.ending?, Option.ite_none_right_eq_some, Option.some.injEq] at ends
      obtain ⟨rfl, rfl⟩ := ends
      exact .inr (.inr ⟨rfl, rfl⟩)
  | send => cases ends
  | elapse time => cases ends
  | close => cases ends

theorem ending?_ne_waiting {step : Step} {waited : Nat} {ending : Sending}
    (ends : step.ending? timeout number waited = some ending) (deadline : Option Nat) :
    ending ≠ .waiting deadline := by
  rintro rfl
  rcases ending?_eq_some ends with ⟨reply, -, impossible⟩ | ⟨-, -, impossible⟩ | ⟨-, impossible⟩
  · cases impossible
  · cases impossible
  · cases impossible

end Undecided

theorem MadeAt.concat {history before since : List Step} {number : Nat}
    (made : MadeAt history number before since) (step : Step) :
    MadeAt (history ++ [step]) number before (since ++ [step]) where
  split := by rw [made.split]; simp
  place := made.place

theorem MadeAt.known {history before since : List Step} {number : Nat}
    (made : MadeAt history number before since) : number < history.count .send := by
  rw [made.split, List.count_append, List.count_cons_self, made.place]
  omega

/-- A request is made at one place only. -/
theorem MadeAt.unique {history before since otherBefore otherSince : List Step} {number : Nat}
    (made : MadeAt history number before since)
    (other : MadeAt history number otherBefore otherSince) :
    before = otherBefore ∧ since = otherSince := by
  -- If one place stood behind the other, it would have more requests before it.
  have notBehind : ∀ {before since otherBefore otherSince : List Step},
      MadeAt history number before since → MadeAt history number otherBefore otherSince →
      ∀ between, before = otherBefore ++ between → between = [] := by
    intro before since otherBefore otherSince made other between longer
    have rest := other.split
    rw [made.split, longer, List.append_assoc, List.append_cancel_left_eq] at rest
    cases between with
    | nil => rfl
    | cons step between =>
        obtain ⟨rfl, -⟩ := List.cons_eq_cons.1 rest
        have places := made.place
        rw [longer, List.count_append, List.count_cons_self, other.place] at places
        omega
  have same := made.split.symm.trans other.split
  rcases List.append_eq_append_iff.1 same with ⟨between, longer, -⟩ | ⟨between, longer, -⟩
  · obtain rfl := notBehind other made between longer
    rw [longer, List.append_nil] at same ⊢
    exact ⟨rfl, (List.cons_eq_cons.1 (List.append_cancel_left same)).2⟩
  · obtain rfl := notBehind made other between longer
    rw [longer, List.append_nil] at same ⊢
    exact ⟨rfl, (List.cons_eq_cons.1 (List.append_cancel_left same)).2⟩

end RequestFlow.Live
