import RequestFlow.Proofs.Transport.Life

/-!
Contract: replies reach the requests they are for, once.

Owns: when a delivery is taken and what it changes, and how a request ends that no reply
was taken for. Senders, deliveries, the clock and the way out take their steps in any order.
-/

namespace RequestFlow.Live

open State

/-- A reply for a request was taken at some place of a history. -/
def Handed (timeout : Option Nat) (history : List Step) (number : Nat) : Prop :=
  ∃ before reply later, history = before ++ .deliver number reply :: later ∧
    ((after timeout before).deliver number reply).2 = true

/-- What holds of deliveries and results after a history. -/
structure Routed (timeout : Option Nat) (history : List Step) : Prop where
  /-- A reply is taken exactly when its request waits. -/
  taken_iff : ∀ number reply,
    ((after timeout history).deliver number reply).2 = true ↔ Waits timeout history number
  /-- The reply that is taken is the result of its request, whatever happens later. -/
  result : ∀ number reply later, ((after timeout history).deliver number reply).2 = true →
    (after timeout (history ++ .deliver number reply :: later)).sending? number =
      some (.settled reply)
  /-- A delivery concerns no other request, and no entry of another one. -/
  others : ∀ number reply other, other ≠ number →
    ((after timeout history).deliver number reply).1.sending? other =
        (after timeout history).sending? other ∧
      (other ∈ ((after timeout history).deliver number reply).1.table ↔
        other ∈ (after timeout history).table)
  /-- After a reply that was taken no further one is taken for the same request. -/
  once : ∀ number reply later again, ((after timeout history).deliver number reply).2 = true →
    ((after timeout (history ++ .deliver number reply :: later)).deliver number again).2 = false
  /-- A reply that is not taken changes what became of no request. -/
  refused : ∀ number reply, ((after timeout history).deliver number reply).2 = false →
    ((after timeout history).deliver number reply).1.sendings = (after timeout history).sendings
  /-- A request without a reply times out only when there is a limit, and all replies for it
  came after the limit. -/
  timedOut : ∀ number, ¬ Handed timeout history number →
    (after timeout history).sending? number = some (.settled (.failure .timeout)) →
    ∃ limit before since, timeout = some limit ∧ MadeAt history number before since ∧
      ∀ first reply rest, since = first ++ .deliver number reply :: rest →
        limit ≤ elapsed first
  /-- A request without a reply ends with the error of a closed way out only when it could
  not be handed out. It never is, and it has no entry. -/
  refusedOut : ∀ number, ¬ Handed timeout history number →
    (after timeout history).sending? number = some (.settled (.failure .channelClosed)) →
    (∃ before since, MadeAt history number before since ∧ (after timeout before).post.2 = false) ∧
      number ∉ (after timeout history).handedOut ∧ number ∉ (after timeout history).table
  /-- A request without a reply has no other result. -/
  unanswered : ∀ number reply, ¬ Handed timeout history number →
    (after timeout history).sending? number = some (.settled reply) →
    reply = .failure .timeout ∨ reply = .failure .channelClosed

/-! ## Taken replies -/

section Taken

variable {timeout : Option Nat} {history : List Step} {number : Nat} {reply : Reply}

theorem taken_iff_waits :
    ((after timeout history).deliver number reply).2 = true ↔ Waits timeout history number := by
  rw [deliver_taken_iff, waits_iff]
  constructor
  · rintro ⟨-, waits⟩
    exact waits
  · rintro ⟨deadline, waits⟩
    exact ⟨(consistent_after timeout history).waiting number deadline waits, deadline, waits⟩

theorem sending?_of_taken (taken : ((after timeout history).deliver number reply).2 = true)
    (later : List Step) :
    (after timeout (history ++ .deliver number reply :: later)).sending? number =
      some (.settled reply) := by
  obtain ⟨entry, deadline, waits⟩ := (deliver_taken_iff _ _ _).1 taken
  have settled :
      ((after timeout history).step (.deliver number reply)).sending? number =
        some (.settled reply) := by
    show ((after timeout history).deliver number reply).1.sending? number = _
    rw [deliver, if_pos (List.contains_iff_mem.2 entry)]
    simp only [waits]
    show ((after timeout history).change number (.settled reply)).sending? number = _
    rw [sending?_change, if_pos rfl, waits]
    rfl
  rw [after_append, run_cons]
  exact sending?_run_ended settled (by simp) later

/-- A reply is taken for a request that a history ends by a delivery to it. -/
theorem handed_of_undecided {before first rest : List Step}
    (made : MadeAt history number before (first ++ .deliver number reply :: rest))
    (opened : .close ∉ before) (undecided : Undecided timeout number first) :
    Handed timeout history number := by
  refine ⟨before ++ .send :: first, reply, rest, ?_, ?_⟩
  · rw [made.split, List.append_assoc, List.cons_append]
  · exact taken_iff_waits.2 ⟨before, first, ⟨rfl, made.place⟩, opened, undecided⟩

end Taken

/-! ## Requests without a reply -/

section Unanswered

variable {timeout : Option Nat} {history : List Step} {number : Nat} {reply : Reply}

/-- How a request ends without a reply: it could not be handed out, or its sender found its
time over before a reply came. -/
theorem unanswered_cases (unanswered : ¬ Handed timeout history number)
    (found : (after timeout history).sending? number = some (.settled reply)) :
    ∃ before since, MadeAt history number before since ∧
      ((.close ∈ before ∧ reply = .failure .channelClosed) ∨
        ∃ limit first rest, timeout = some limit ∧ since = first ++ .look number :: rest ∧
          Undecided timeout number first ∧ limit ≤ elapsed first ∧ reply = .failure .timeout) := by
  have known := lt_length_of_sending? found
  rw [(after_follows timeout history).length] at known
  obtain ⟨before, since, sending, made, same, life⟩ := exists_life timeout known
  obtain rfl : sending = .settled reply := Option.some.inj (same.symm.trans found)
  refine ⟨before, since, made, ?_⟩
  cases life with
  | refused closed => exact .inl ⟨closed, rfl⟩
  | @ended opened first rest step _ split undecided ends =>
      subst split
      rcases ending?_eq_some ends with ⟨taken, rfl, -⟩ | ⟨rfl, ⟨limit, limited, late⟩, same⟩ |
        ⟨-, impossible⟩
      · exact absurd (handed_of_undecided made opened undecided) unanswered
      · cases same
        exact .inr ⟨limit, first, rest, limited, rfl, undecided, late, rfl⟩
      · cases impossible

/-- Replies for a request come no earlier than the step that ends it without one. -/
theorem elapsed_le_of_undecided {first rest early late : List Step} {step : Step}
    (undecided : Undecided timeout number first)
    (split : first ++ step :: rest = early ++ .deliver number reply :: late) :
    elapsed first ≤ elapsed early := by
  rcases List.append_eq_append_iff.1 split with ⟨between, longer, -⟩ | ⟨between, longer, same⟩
  · rw [longer, elapsed_append]
    exact Nat.le_add_right _ _
  · cases between with
    | nil => exact Nat.le_of_eq (by rw [longer, List.append_nil])
    | cons other between =>
        obtain ⟨rfl, -⟩ := List.cons_eq_cons.1 same
        have ends := undecided early (.deliver number reply) between longer
        rw [Step.ending?, if_pos rfl] at ends
        cases ends

theorem mem_handedOut_run {state : State} (known : number < state.sendings.length)
    (steps : List Step) : number ∈ (state.run steps).handedOut ↔ number ∈ state.handedOut := by
  induction steps generalizing state with
  | nil => rfl
  | cons step rest inductionHypothesis =>
      have stillKnown : number < (state.step step).sendings.length := by
        rw [length_step]
        exact Nat.lt_add_right _ known
      exact (inductionHypothesis stillKnown).trans (mem_handedOut_step known step)

/-- A request that could not be handed out never is. -/
theorem not_mem_handedOut {before since : List Step} (made : MadeAt history number before since)
    (closed : .close ∈ before) : number ∉ (after timeout history).handedOut := by
  have account := after_follows timeout before
  have isNew : number = (after timeout before).sendings.length := by
    rw [account.length, made.place]
  have known : number < ((after timeout before).step .send).sendings.length := by
    rw [length_step, isNew]
    exact Nat.lt_succ_self _
  have notHandedOut : ((after timeout before).step .send).handedOut =
      (after timeout before).handedOut := by
    show (after timeout before).post.1.handedOut = _
    rw [post, if_pos (account.isClosed.2 closed)]
    rfl
  rw [made.split, after_append, run_cons, mem_handedOut_run known, notHandedOut]
  intro member
  exact Nat.ne_of_lt ((consistent_after timeout before).handedOut number member) isNew

end Unanswered

/-- However sends, deliveries, the clock, senders who give up and the closing of the way out
take turns, replies reach the requests they are for, once, and a request without a reply
ends only for want of one. -/
theorem replies_routed (timeout : Option Nat) (history : List Step) : Routed timeout history where
  taken_iff number reply := taken_iff_waits
  result number reply later taken := sending?_of_taken taken later
  others number reply other different :=
    ⟨sending?_deliver_of_ne different reply, mem_table_deliver_of_ne different reply⟩
  once number reply later again taken := by
    have settled := sending?_of_taken taken later
    rw [← Bool.not_eq_true, deliver_taken_iff]
    rintro ⟨-, deadline, waits⟩
    rw [settled] at waits
    cases waits
  refused number reply notTaken := sendings_deliver_refused notTaken
  timedOut number unanswered found := by
    obtain ⟨before, since, made, ⟨-, impossible⟩ | ⟨limit, first, rest, limited, split, undecided,
      late, -⟩⟩ := unanswered_cases unanswered found
    · cases impossible
    · refine ⟨limit, before, since, limited, made, fun early reply later replied => ?_⟩
      exact Nat.le_trans late (elapsed_le_of_undecided undecided (split.symm.trans replied))
  refusedOut number unanswered found := by
    obtain ⟨before, since, made, ⟨closed, -⟩ | ⟨_, _, _, _, _, _, _, impossible⟩⟩ :=
      unanswered_cases unanswered found
    · refine ⟨⟨before, since, made, ?_⟩, not_mem_handedOut made closed, ?_⟩
      · rw [post, if_pos ((after_follows timeout before).isClosed.2 closed)]
      · exact (consistent_after timeout history).settled number _ found
    · cases impossible
  unanswered number reply unanswered found := by
    obtain ⟨before, since, made, ⟨-, rfl⟩ | ⟨_, _, _, _, _, _, _, rfl⟩⟩ :=
      unanswered_cases unanswered found
    · exact .inr rfl
    · exact .inl rfl

end RequestFlow.Live
