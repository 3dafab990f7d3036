import RequestFlow.Transport.Live

/-!
Contract: the steps of a live transport.

Owns: the steps that senders, the clock and the outside world take, in any order; and what
each of them changes and leaves as it is.

A sender looks at the clock in a step of its own. So a reply may come in after the time of a
request is over, and before its sender has noticed.
-/

namespace RequestFlow.Live

/-- What happens to a live transport: a request is made, a reply is brought in, time goes
by, a sender looks at the clock, a sender gives up, or the way out is closed. -/
inductive Step where
  | send
  | deliver (number : Nat) (reply : Reply)
  | elapse (time : Nat)
  | look (number : Nat)
  | cancel (number : Nat)
  | close
deriving DecidableEq, Repr

namespace State

def step (state : State) : Step → State
  | .send => state.post.1
  | .deliver number reply => (state.deliver number reply).1
  | .elapse time => state.elapse time
  | .look number => state.expireOne number
  | .cancel number => state.cancel number
  | .close => state.close

end State

/-- How much time goes by in a step. -/
def Step.time : Step → Nat
  | .elapse time => time
  | .send | .deliver .. | .look _ | .cancel _ | .close => 0

namespace State

/-! ## What a step changes -/

section Changes

variable (state : State) (number other : Nat)

theorem sending?_change (sending : Sending) :
    (state.change number sending).sending? other =
      if other = number then (state.sending? other).map fun _ => sending
      else state.sending? other := by
  show (state.sendings.set number sending)[other]? = _
  rw [List.getElem?_set']
  by_cases same : number = other
  · rw [if_pos same, if_pos same.symm]
    rfl
  · rw [if_neg same, if_neg (Ne.symm same)]
    rfl

theorem mem_table_forget :
    other ∈ (state.forget number).table ↔ other ∈ state.table ∧ other ≠ number := by
  simp only [forget, List.mem_filter, bne_iff_ne, ne_eq]

theorem lt_length_of_sending? {state : State} {number : Nat} {sending : Sending}
    (found : state.sending? number = some sending) : number < state.sendings.length :=
  (List.getElem?_eq_some_iff.1 found).1

theorem length_register : state.register.sendings.length = state.sendings.length + 1 :=
  List.length_append

theorem sending?_register (earlier : other < state.sendings.length) :
    state.register.sending? other = state.sending? other :=
  List.getElem?_append_left earlier

theorem sending?_register_new :
    state.register.sending? state.sendings.length =
      some (.waiting (state.timeout.map (state.now + ·))) := by
  simp [register, sending?]

/-- A new request changes no earlier one. -/
theorem sending?_post (earlier : other < state.sendings.length) :
    state.post.1.sending? other = state.sending? other := by
  unfold post
  split
  · show (state.register.change state.sendings.length _).sending? other = _
    rw [sending?_change, if_neg (Nat.ne_of_lt earlier), sending?_register state other earlier]
  · exact sending?_register state other earlier

/-- A new request waits, or ends at once with the error of a closed way out. -/
theorem sending?_post_new :
    state.post.1.sending? state.sendings.length =
      some (if state.isClosed then .settled (.failure .channelClosed)
        else .waiting (state.timeout.map (state.now + ·))) := by
  unfold post
  split
  · show (state.register.change state.sendings.length _).sending? state.sendings.length = _
    rw [sending?_change, if_pos rfl, sending?_register_new]
    rfl
  · exact state.sending?_register_new

theorem length_post : state.post.1.sendings.length = state.sendings.length + 1 := by
  unfold post
  split
  · exact List.length_set.trans state.length_register
  · exact state.length_register

theorem isOverdue_iff {deadline : Option Nat}
    (found : state.sending? number = some (.waiting deadline)) :
    state.isOverdue number = true ↔ ∃ time ∈ deadline, time ≤ state.now := by
  unfold isOverdue
  rw [found]
  cases deadline <;> simp

theorem isOverdue_eq_false (notWaiting : ∀ deadline, state.sending? number ≠ some (.waiting deadline)) :
    state.isOverdue number = false := by
  unfold isOverdue
  split
  · next found => exact absurd found (notWaiting _)
  · rfl

/-- A reply is taken by a request that waits and has an entry. -/
theorem deliver_taken_iff (reply : Reply) :
    (state.deliver number reply).2 = true ↔
      number ∈ state.table ∧ ∃ deadline, state.sending? number = some (.waiting deadline) := by
  unfold deliver
  split
  · next entry =>
    rw [List.contains_iff_mem] at entry
    split
    · next deadline found => simp [entry, found]
    · next notWaiting => simpa using fun _ deadline found => notWaiting deadline found
  · next noEntry =>
    rw [List.contains_iff_mem] at noEntry
    simp [noEntry]

/-- A reply that is not taken changes nothing but the table. -/
theorem sendings_deliver_refused {state : State} {number : Nat} {reply : Reply}
    (refused : (state.deliver number reply).2 = false) :
    (state.deliver number reply).1.sendings = state.sendings := by
  unfold deliver at refused ⊢
  split
  · next entry =>
    split
    · next deadline found =>
      rw [if_pos entry] at refused
      simp only [found] at refused
      cases refused
    · rfl
  · rfl

variable {state number other}

theorem sending?_deliver_of_ne (different : other ≠ number) (reply : Reply) :
    (state.deliver number reply).1.sending? other = state.sending? other := by
  unfold deliver
  split
  · split
    · show (state.change number (.settled reply)).sending? other = _
      rw [sending?_change, if_neg different]
    · rfl
  · rfl

theorem mem_table_deliver_of_ne (different : other ≠ number) (reply : Reply) :
    other ∈ (state.deliver number reply).1.table ↔ other ∈ state.table := by
  have kept : other ∈ (state.forget number).table ↔ other ∈ state.table := by
    rw [mem_table_forget]
    exact and_iff_left different
  unfold deliver
  split
  · split
    · exact kept
    · exact kept
  · rfl

theorem sending?_expireOne_of_ne (different : other ≠ number) :
    (state.expireOne number).sending? other = state.sending? other := by
  unfold expireOne
  split
  · show (state.change number (.settled (.failure .timeout))).sending? other = _
    rw [sending?_change, if_neg different]
  · rfl

theorem sending?_cancel_of_ne (different : other ≠ number) :
    (state.cancel number).sending? other = state.sending? other := by
  unfold cancel
  split
  · rw [sending?_change, if_neg different]
  · rfl

end Changes

/-! ## What a step leaves as it is -/

/-- One state comes from another by a step about a request that was made. -/
structure SameAround (before after : State) : Prop where
  timeout : after.timeout = before.timeout
  now : after.now = before.now
  isClosed : after.isClosed = before.isClosed
  handedOut : after.handedOut = before.handedOut
  length : after.sendings.length = before.sendings.length

section Frame

variable (state : State) (number : Nat)

theorem sameAround_change (sending : Sending) : SameAround state (state.change number sending) :=
  ⟨rfl, rfl, rfl, rfl, List.length_set⟩

theorem sameAround_settle (reply : Reply) :
    SameAround state ((state.change number (.settled reply)).forget number) :=
  ⟨rfl, rfl, rfl, rfl, List.length_set⟩

theorem sameAround_deliver (reply : Reply) : SameAround state (state.deliver number reply).1 := by
  unfold deliver
  split
  · split
    · exact sameAround_settle state number reply
    · exact ⟨rfl, rfl, rfl, rfl, rfl⟩
  · exact ⟨rfl, rfl, rfl, rfl, rfl⟩

theorem sameAround_expireOne : SameAround state (state.expireOne number) := by
  unfold expireOne
  split
  · exact sameAround_settle state number _
  · exact ⟨rfl, rfl, rfl, rfl, rfl⟩

theorem sameAround_cancel : SameAround state (state.cancel number) := by
  unfold cancel
  split
  · exact sameAround_change state number _
  · exact ⟨rfl, rfl, rfl, rfl, rfl⟩

theorem post_same :
    state.post.1.timeout = state.timeout ∧ state.post.1.now = state.now ∧
      state.post.1.isClosed = state.isClosed := by
  unfold post
  split
  · exact ⟨rfl, rfl, rfl⟩
  · exact ⟨rfl, rfl, rfl⟩

theorem timeout_step (step : Step) : (state.step step).timeout = state.timeout := by
  cases step with
  | send => exact state.post_same.1
  | deliver number reply => exact (state.sameAround_deliver number reply).timeout
  | look number => exact (state.sameAround_expireOne number).timeout
  | cancel number => exact (state.sameAround_cancel number).timeout
  | elapse time => rfl
  | close => rfl

theorem now_step (step : Step) : (state.step step).now = state.now + step.time := by
  cases step with
  | send => exact state.post_same.2.1
  | deliver number reply => exact (state.sameAround_deliver number reply).now
  | look number => exact (state.sameAround_expireOne number).now
  | cancel number => exact (state.sameAround_cancel number).now
  | elapse time => rfl
  | close => rfl

theorem isClosed_step (step : Step) :
    (state.step step).isClosed = (state.isClosed || step == .close) := by
  cases step with
  | send => exact state.post_same.2.2.trans (Bool.or_false _).symm
  | deliver number reply =>
      exact (state.sameAround_deliver number reply).isClosed.trans (Bool.or_false _).symm
  | look number => exact (state.sameAround_expireOne number).isClosed.trans (Bool.or_false _).symm
  | cancel number => exact (state.sameAround_cancel number).isClosed.trans (Bool.or_false _).symm
  | elapse time => exact (Bool.or_false _).symm
  | close => exact (Bool.or_true _).symm

theorem length_step (step : Step) :
    (state.step step).sendings.length = state.sendings.length + [step].count .send := by
  cases step with
  | send => exact state.length_post
  | deliver number reply => exact (state.sameAround_deliver number reply).length
  | look number => exact (state.sameAround_expireOne number).length
  | cancel number => exact (state.sameAround_cancel number).length
  | elapse time => rfl
  | close => rfl

/-- A request that was made is handed out then or never. -/
theorem mem_handedOut_step {state : State} {number : Nat} (made : number < state.sendings.length)
    (step : Step) : number ∈ (state.step step).handedOut ↔ number ∈ state.handedOut := by
  cases step with
  | send =>
      show number ∈ state.post.1.handedOut ↔ _
      unfold post
      split
      · rfl
      · show number ∈ state.handedOut ++ [state.sendings.length] ↔ _
        rw [List.mem_append, List.mem_singleton]
        exact or_iff_left (Nat.ne_of_lt made)
  | deliver other reply =>
      exact iff_of_eq (congrArg (number ∈ ·) (state.sameAround_deliver other reply).handedOut)
  | look other =>
      exact iff_of_eq (congrArg (number ∈ ·) (state.sameAround_expireOne other).handedOut)
  | cancel other =>
      exact iff_of_eq (congrArg (number ∈ ·) (state.sameAround_cancel other).handedOut)
  | elapse time => rfl
  | close => rfl

end Frame

end State

end RequestFlow.Live
