import Mathlib.Data.List.Perm.Subperm
import RequestFlow.Proofs.Transport.Life

/-!
Contract: what the table of a live transport holds.

Owns: the requests that the table has after a history, and the exact condition under which
their number is that of the requests that wait. A request whose sender gave up keeps its
entry until a reply for it comes in; all others lose theirs when they end.
-/

namespace RequestFlow.Live

open State

/-- The sender of a request gave up while it waited, and no reply for it came in since. -/
def Abandoned (timeout : Option Nat) (history : List Step) (number : Nat) : Prop :=
  ∃ before since, history = before ++ .cancel number :: since ∧ Waits timeout before number ∧
    ∀ reply, .deliver number reply ∉ since

namespace State

def isWaiting (state : State) (number : Nat) : Bool :=
  match state.sending? number with
  | some (.waiting _) => true
  | _ => false

/-- The numbers of the requests that wait. -/
def waiting (state : State) : List Nat :=
  (List.range state.sendings.length).filter state.isWaiting

theorem mem_waiting {state : State} {number : Nat} :
    number ∈ state.waiting ↔ ∃ deadline, state.sending? number = some (.waiting deadline) := by
  have isWaiting_iff : state.isWaiting number = true ↔
      ∃ deadline, state.sending? number = some (.waiting deadline) := by
    unfold isWaiting
    split
    · next deadline found => simp [found]
    · next notWaiting => simpa using notWaiting
  rw [waiting, List.mem_filter, isWaiting_iff, List.mem_range]
  constructor
  · rintro ⟨-, waits⟩
    exact waits
  · rintro ⟨deadline, found⟩
    exact ⟨lt_length_of_sending? found, deadline, found⟩

/-! ## Requests that were given up -/

section Cancelled

variable {state : State} {number : Nat}

/-- The entry of a request that was given up is taken away by a reply for it only. -/
theorem mem_table_step_cancelled (found : state.sending? number = some .cancelled)
    (step : Step) :
    number ∈ (state.step step).table ↔
      number ∈ state.table ∧ ∀ reply, step ≠ .deliver number reply := by
  cases step with
  | send =>
      have known := lt_length_of_sending? found
      have registered : number ∈ state.register.table ↔ number ∈ state.table := by
        show number ∈ state.table ++ [state.sendings.length] ↔ _
        rw [List.mem_append, List.mem_singleton]
        exact or_iff_left (Nat.ne_of_lt known)
      show number ∈ state.post.1.table ↔ _
      unfold post
      split
      · show number ∈ (state.register.forget state.sendings.length).table ↔ _
        rw [mem_table_forget, registered]
        simp [Nat.ne_of_lt known]
      · show number ∈ state.register.table ↔ _
        rw [registered]
        simp
  | deliver other reply =>
      show number ∈ (state.deliver other reply).1.table ↔ _
      by_cases same : number = other
      · subst same
        have gone : number ∉ (state.deliver number reply).1.table := by
          unfold deliver
          split
          · simp only [found]
            rw [mem_table_forget]
            exact fun kept => kept.2 rfl
          · next noEntry => exact fun entry => noEntry (List.contains_iff_mem.2 entry)
        exact iff_of_false gone fun both => both.2 reply rfl
      · rw [mem_table_deliver_of_ne same]
        simp [Ne.symm same]
  | look other =>
      have different : number = other → state.isOverdue other = false := by
        rintro rfl
        exact isOverdue_eq_false _ _ (by simp [found])
      show number ∈ (state.expireOne other).table ↔ _
      unfold expireOne
      split
      · next overdue =>
        show number ∈ (state.forget other).table ↔ _
        have notSame : number ≠ other := fun same => by simp [different same] at overdue
        rw [mem_table_forget]
        simp [notSame]
      · simp
  | cancel other =>
      show number ∈ (state.cancel other).table ↔ _
      unfold cancel
      split
      · show number ∈ state.table ↔ _
        simp
      · simp
  | elapse time =>
      show number ∈ state.table ↔ _
      simp
  | close =>
      show number ∈ state.table ↔ _
      simp

theorem mem_table_run_cancelled (found : state.sending? number = some .cancelled)
    (steps : List Step) :
    number ∈ (state.run steps).table ↔
      number ∈ state.table ∧ ∀ reply, .deliver number reply ∉ steps := by
  induction steps generalizing state with
  | nil => simp
  | cons step rest inductionHypothesis =>
      have next := sending?_step_ended found (by simp) step
      rw [run_cons, inductionHypothesis next, mem_table_step_cancelled found, and_assoc]
      simp only [List.mem_cons, not_or, forall_and, ne_comm (a := step), ne_eq]

end Cancelled

end State

/-! ## Entries after a history -/

section Entries

variable {timeout : Option Nat} {history : List Step} {number : Nat}

theorem Waits.mem_table (waits : Waits timeout history number) :
    number ∈ (after timeout history).table := by
  obtain ⟨deadline, found⟩ := waits_iff.1 waits
  exact (consistent_after timeout history).waiting number deadline found

theorem sending?_cancel_of_waits (waits : Waits timeout history number) :
    ((after timeout history).step (.cancel number)).sending? number = some .cancelled := by
  obtain ⟨deadline, found⟩ := waits_iff.1 waits
  show ((after timeout history).cancel number).sending? number = _
  rw [cancel]
  simp only [found]
  rw [sending?_change, if_pos rfl, found]
  rfl

theorem Abandoned.sending? (abandoned : Abandoned timeout history number) :
    (after timeout history).sending? number = some .cancelled := by
  obtain ⟨before, since, rfl, waits, -⟩ := abandoned
  rw [after_append, run_cons]
  exact sending?_run_ended (sending?_cancel_of_waits waits) (by simp) since

theorem Abandoned.mem_table (abandoned : Abandoned timeout history number) :
    number ∈ (after timeout history).table := by
  obtain ⟨before, since, rfl, waits, noReply⟩ := abandoned
  have entry : number ∈ ((after timeout before).step (.cancel number)).table := by
    obtain ⟨deadline, found⟩ := waits_iff.1 waits
    show number ∈ ((after timeout before).cancel number).table
    rw [cancel]
    simp only [found]
    exact waits.mem_table
  rw [after_append, run_cons, mem_table_run_cancelled (sending?_cancel_of_waits waits)]
  exact ⟨entry, noReply⟩

/-- An entry is that of a request that waits or was given up. -/
theorem waits_or_abandoned (entry : number ∈ (after timeout history).table) :
    Waits timeout history number ∨ Abandoned timeout history number := by
  have consistent := consistent_after timeout history
  have known := consistent.bounded number entry
  rw [(after_follows timeout history).length] at known
  obtain ⟨before, since, sending, made, found, life⟩ := exists_life timeout known
  cases life with
  | refused closed => exact absurd entry (consistent.settled number _ found)
  | waits opened undecided => exact .inl ⟨before, since, made, opened, undecided⟩
  | @ended opened first rest step _ split undecided ends =>
      right
      have waits : Waits timeout (before ++ .send :: first) number :=
        ⟨before, first, ⟨rfl, made.place⟩, opened, undecided⟩
      have whole : history = (before ++ .send :: first) ++ step :: rest := by
        rw [made.split, split, List.append_assoc, List.cons_append]
      rcases ending?_eq_some ends with ⟨reply, -, rfl⟩ | ⟨-, -, rfl⟩ | ⟨rfl, -⟩
      · exact absurd entry (consistent.settled number _ found)
      · exact absurd entry (consistent.settled number _ found)
      · refine ⟨_, rest, whole, waits, ?_⟩
        rw [whole, after_append, run_cons,
          mem_table_run_cancelled (sending?_cancel_of_waits waits)] at entry
        exact entry.2

theorem mem_table_iff :
    number ∈ (after timeout history).table ↔
      number ∈ (after timeout history).waiting ∨ Abandoned timeout history number := by
  rw [mem_waiting, ← waits_iff]
  constructor
  · exact waits_or_abandoned
  · rintro (waits | abandoned)
    · exact waits.mem_table
    · exact abandoned.mem_table

/-- The table is as long as the list of requests that wait exactly when none was given up
and left without a reply. -/
theorem pending_eq_iff :
    (after timeout history).pending = (after timeout history).waiting.length ↔
      ∀ number, ¬ Abandoned timeout history number := by
  have distinct : (after timeout history).waiting.Nodup := List.nodup_range.filter _
  have covered : (after timeout history).waiting ⊆ (after timeout history).table :=
    fun number waits => mem_table_iff.2 (.inl waits)
  constructor
  · intro sameLength number abandoned
    have same : (after timeout history).waiting.Perm (after timeout history).table :=
      (List.subperm_of_subset distinct covered).perm_of_length_le (Nat.le_of_eq sameLength)
    have waits : number ∈ (after timeout history).waiting := same.mem_iff.2 abandoned.mem_table
    obtain ⟨deadline, found⟩ := mem_waiting.1 waits
    rw [abandoned.sending?] at found
    cases found
  · intro none
    refine List.Perm.length_eq ((List.perm_ext_iff_of_nodup ?_ distinct).2 fun number => ?_)
    · exact (consistent_after timeout history).nodup
    · rw [mem_table_iff]
      exact or_iff_left (none number)

end Entries

/-! ## When all senders have looked at the clock -/

/-- The senders of the first requests look at the clock. -/
def looks (count : Nat) : List Step := (List.range count).map .look

theorem expire_after (timeout : Option Nat) (history : List Step) :
    (after timeout history).expire =
      after timeout (history ++ looks (after timeout history).sendings.length) := by
  rw [after_append, looks, run, List.foldl_map]
  rfl

/-- Looking at the clock does not concern requests that were given up. -/
theorem abandoned_looks_iff {timeout : Option Nat} {history : List Step} {number count : Nat} :
    Abandoned timeout (history ++ looks count) number ↔ Abandoned timeout history number := by
  have looksOnly : ∀ step ∈ looks count, ∃ other, step = .look other := by
    intro step member
    obtain ⟨other, -, rfl⟩ := List.mem_map.1 member
    exact ⟨other, rfl⟩
  constructor
  · rintro ⟨before, since, split, waits, noReply⟩
    rcases List.append_eq_append_iff.1 split with ⟨between, -, rest⟩ | ⟨between, longer, rest⟩
    · obtain ⟨other, impossible⟩ := looksOnly (.cancel number) (by rw [rest]; simp)
      cases impossible
    · cases between with
      | nil =>
          obtain ⟨other, impossible⟩ := looksOnly (.cancel number) (by
            rw [List.nil_append] at rest
            rw [← rest]
            exact List.mem_cons_self)
          cases impossible
      | cons step between =>
          obtain ⟨rfl, rfl⟩ := List.cons_eq_cons.1 rest
          exact ⟨before, between, longer, waits, fun reply member =>
            noReply reply (List.mem_append_left _ member)⟩
  · rintro ⟨before, since, rfl, waits, noReply⟩
    refine ⟨before, since ++ looks count, by simp, waits, fun reply member => ?_⟩
    rcases List.mem_append.1 member with old | new
    · exact noReply reply old
    · obtain ⟨other, impossible⟩ := looksOnly _ new
      cases impossible

/-- Once all senders have looked at the clock, the table has the requests that wait and
those that were given up and left without a reply. So it counts the requests that wait
exactly when there are none of the latter. -/
theorem pending_eq_waiting_iff (timeout : Option Nat) (history : List Step) :
    let state := (after timeout history).expire
    (∀ number, number ∈ state.table ↔
        number ∈ state.waiting ∨ Abandoned timeout history number) ∧
      (state.pending = state.waiting.length ↔ ∀ number, ¬ Abandoned timeout history number) := by
  intro state
  have looked : state = after timeout (history ++ looks (after timeout history).sendings.length) :=
    expire_after timeout history
  refine ⟨fun number => ?_, ?_⟩
  · rw [looked, mem_table_iff, abandoned_looks_iff]
  · rw [looked, pending_eq_iff]
    exact forall_congr' fun number => not_congr abandoned_looks_iff

/-- A request whose sender gives up is in the table although no request waits. -/
theorem pending_after_cancel :
    let state := (after none [.send, .cancel 0]).expire
    state.pending = 1 ∧ state.waiting = [] := by decide

end RequestFlow.Live
