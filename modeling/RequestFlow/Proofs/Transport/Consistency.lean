import RequestFlow.Proofs.Transport.History

/-!
Contract: the table and the requests of a live transport stay in step.

Owns: the invariant that ties the table to what became of the requests, and the proof that
every step keeps it.
-/

namespace RequestFlow.Live.State

/-- The table has the number of every request that waits and of none that is settled, each
once, and of no request that was not made. -/
structure Consistent (state : State) : Prop where
  nodup : state.table.Nodup
  bounded : ∀ number ∈ state.table, number < state.sendings.length
  waiting : ∀ number deadline, state.sending? number = some (.waiting deadline) →
    number ∈ state.table
  settled : ∀ number reply, state.sending? number = some (.settled reply) →
    number ∉ state.table
  handedOut : ∀ number ∈ state.handedOut, number < state.sendings.length

theorem consistent_start (timeout : Option Nat) : (start timeout).Consistent where
  nodup := List.nodup_nil
  bounded := by simp [start]
  waiting := by simp [start, sending?]
  settled := by simp [start, sending?]
  handedOut := by simp [start]

namespace Consistent

variable {state : State}

theorem register (consistent : state.Consistent) : state.register.Consistent := by
  have fresh : state.sendings.length ∉ state.table := fun member =>
    Nat.lt_irrefl _ (consistent.bounded _ member)
  have longer := state.length_register
  refine ⟨?_, ?_, ?_, ?_, ?_⟩
  · refine List.nodup_append.2 ⟨consistent.nodup, by simp, fun number member new isNew => ?_⟩
    rintro rfl
    exact fresh (List.mem_singleton.1 isNew ▸ member)
  · intro number member
    rw [longer]
    rcases List.mem_append.1 member with old | last
    · exact Nat.lt_succ_of_lt (consistent.bounded number old)
    · rw [List.mem_singleton.1 last]
      exact Nat.lt_succ_self _
  · intro number deadline found
    have bound := lt_length_of_sending? found
    rcases Nat.lt_or_eq_of_le (Nat.le_of_lt_succ (longer ▸ bound)) with before | last
    · rw [sending?_register state number before] at found
      exact List.mem_append_left _ (consistent.waiting number deadline found)
    · exact List.mem_append_right _ (List.mem_singleton.2 last)
  · intro number reply found
    have bound := lt_length_of_sending? found
    rcases Nat.lt_or_eq_of_le (Nat.le_of_lt_succ (longer ▸ bound)) with before | last
    · rw [sending?_register state number before] at found
      intro member
      rcases List.mem_append.1 member with old | new
      · exact consistent.settled number reply found old
      · exact Nat.ne_of_lt before (List.mem_singleton.1 new)
    · rw [last, sending?_register_new] at found
      cases found
  · intro number member
    rw [longer]
    exact Nat.lt_succ_of_lt (consistent.handedOut number member)

/-- Whatever ends a request with a result also takes its entry away. -/
theorem settle (consistent : state.Consistent) (number : Nat) (reply : Reply) :
    ((state.change number (.settled reply)).forget number).Consistent := by
  have sameLength := (state.sameAround_settle number reply).length
  refine ⟨consistent.nodup.filter _, ?_, ?_, ?_, ?_⟩
  · intro other member
    rw [sameLength]
    exact consistent.bounded other ((mem_table_forget _ _ _).1 member).1
  · intro other deadline found
    change (state.change number (.settled reply)).sending? other = _ at found
    rw [sending?_change] at found
    split at found
    · obtain ⟨_, -, impossible⟩ := Option.map_eq_some_iff.1 found
      cases impossible
    · next different =>
      exact (mem_table_forget _ _ _).2 ⟨consistent.waiting other deadline found, different⟩
  · intro other result found member
    obtain ⟨kept, different⟩ := (mem_table_forget _ _ _).1 member
    change (state.change number (.settled reply)).sending? other = _ at found
    rw [sending?_change, if_neg different] at found
    exact consistent.settled other result found kept
  · intro other member
    rw [sameLength]
    exact consistent.handedOut other member

/-- The entry of a request that does not wait may be taken away. -/
theorem forget (consistent : state.Consistent) {number : Nat}
    (notWaiting : ∀ deadline, state.sending? number ≠ some (.waiting deadline)) :
    (state.forget number).Consistent where
  nodup := consistent.nodup.filter _
  bounded := fun other member =>
    consistent.bounded other ((mem_table_forget _ _ _).1 member).1
  waiting := by
    intro other deadline found
    refine (mem_table_forget _ _ _).2 ⟨consistent.waiting other deadline found, ?_⟩
    rintro rfl
    exact notWaiting deadline found
  settled := fun other reply found member =>
    consistent.settled other reply found ((mem_table_forget _ _ _).1 member).1
  handedOut := consistent.handedOut

theorem cancelled (consistent : state.Consistent) (number : Nat) :
    (state.change number .cancelled).Consistent := by
  have sameLength := (state.sameAround_change number .cancelled).length
  refine ⟨consistent.nodup, ?_, ?_, ?_, ?_⟩
  · intro other member
    rw [sameLength]
    exact consistent.bounded other member
  · intro other deadline found
    rw [sending?_change] at found
    split at found
    · obtain ⟨_, -, impossible⟩ := Option.map_eq_some_iff.1 found
      cases impossible
    · exact consistent.waiting other deadline found
  · intro other reply found
    rw [sending?_change] at found
    split at found
    · obtain ⟨_, -, impossible⟩ := Option.map_eq_some_iff.1 found
      cases impossible
    · exact consistent.settled other reply found
  · intro other member
    rw [sameLength]
    exact consistent.handedOut other member

theorem post (consistent : state.Consistent) : state.post.1.Consistent := by
  unfold State.post
  split
  · exact consistent.register.settle _ _
  · have registered := consistent.register
    refine ⟨registered.nodup, registered.bounded, registered.waiting, registered.settled, ?_⟩
    intro number member
    show number < state.register.sendings.length
    rcases List.mem_append.1 member with old | last
    · exact registered.handedOut number old
    · rw [length_register, List.mem_singleton.1 last]
      exact Nat.lt_succ_self _

theorem deliver (consistent : state.Consistent) (number : Nat) (reply : Reply) :
    (state.deliver number reply).1.Consistent := by
  unfold State.deliver
  split
  · split
    · exact consistent.settle number reply
    · next notWaiting => exact consistent.forget fun deadline found => notWaiting deadline found
  · exact consistent

theorem expireOne (consistent : state.Consistent) (number : Nat) :
    (state.expireOne number).Consistent := by
  unfold State.expireOne
  split
  · exact consistent.settle number _
  · exact consistent

theorem cancel (consistent : state.Consistent) (number : Nat) :
    (state.cancel number).Consistent := by
  unfold State.cancel
  split
  · exact consistent.cancelled number
  · exact consistent

theorem step (consistent : state.Consistent) (step : Step) : (state.step step).Consistent := by
  cases step with
  | send => exact consistent.post
  | deliver number reply => exact consistent.deliver number reply
  | look number => exact consistent.expireOne number
  | cancel number => exact consistent.cancel number
  | elapse time =>
      exact ⟨consistent.nodup, consistent.bounded, consistent.waiting, consistent.settled,
        consistent.handedOut⟩
  | close =>
      exact ⟨consistent.nodup, consistent.bounded, consistent.waiting, consistent.settled,
        consistent.handedOut⟩

theorem run (consistent : state.Consistent) (steps : List Step) :
    (state.run steps).Consistent := by
  induction steps generalizing state with
  | nil => exact consistent
  | cons step rest inductionHypothesis => exact inductionHypothesis (consistent.step step)

end Consistent

theorem consistent_after (timeout : Option Nat) (history : List Step) :
    (after timeout history).Consistent :=
  (consistent_start timeout).run history

end RequestFlow.Live.State
