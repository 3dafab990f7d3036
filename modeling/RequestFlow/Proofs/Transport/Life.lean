import RequestFlow.Proofs.Transport.Consistency

/-!
Contract: what becomes of a request is told by the steps since it was made.

Owns: the step lemma for one request, which waits or has ended; its life in a history; and
that the requests that wait by the state are those that wait by the history. Other requests
have no part in it.
-/

namespace RequestFlow.Live

namespace State

/-! ## One step -/

variable {state : State} {number : Nat}

/-- What ended stays as it ended. -/
theorem sending?_step_ended {sending : Sending} (found : state.sending? number = some sending)
    (ended : ∀ deadline, sending ≠ .waiting deadline) (step : Step) :
    (state.step step).sending? number = some sending := by
  have notWaiting : ∀ deadline, state.sending? number ≠ some (.waiting deadline) := by
    intro deadline waiting
    exact ended deadline (Option.some.inj (found.symm.trans waiting))
  rw [← found]
  cases step with
  | send => exact sending?_post _ _ (lt_length_of_sending? found)
  | deliver other reply =>
      by_cases same : number = other
      · subst same
        have refused : (state.deliver number reply).2 = false := by
          rw [← Bool.not_eq_true, deliver_taken_iff]
          rintro ⟨-, deadline, waits⟩
          exact notWaiting deadline waits
        exact congrArg (·[number]?) (sendings_deliver_refused refused)
      · exact sending?_deliver_of_ne same reply
  | look other =>
      by_cases same : number = other
      · subst same
        show (state.expireOne number).sending? number = _
        rw [expireOne, if_neg]
        rw [isOverdue_eq_false _ _ notWaiting]
        exact Bool.false_ne_true
      · exact sending?_expireOne_of_ne same
  | cancel other =>
      by_cases same : number = other
      · subst same
        show (state.cancel number).sending? number = _
        unfold cancel
        split
        · next deadline waits => exact absurd waits (notWaiting deadline)
        · rfl
      · exact sending?_cancel_of_ne same
  | elapse time => rfl
  | close => rfl

theorem sending?_run_ended {sending : Sending} (found : state.sending? number = some sending)
    (ended : ∀ deadline, sending ≠ .waiting deadline) (steps : List Step) :
    (state.run steps).sending? number = some sending := by
  induction steps generalizing state with
  | nil => exact found
  | cons step rest inductionHypothesis =>
      exact inductionHypothesis (sending?_step_ended found ended step)

/-- A step ends a request that waits, or leaves it waiting, and it takes no more to say
which than the time the request has waited. -/
theorem sending?_step_waiting (consistent : state.Consistent) {timeout : Option Nat}
    {made waited : Nat} (now : state.now = made + waited)
    (found : state.sending? number = some (.waiting (timeout.map (made + ·)))) (step : Step) :
    (state.step step).sending? number =
      some ((step.ending? timeout number waited).getD (.waiting (timeout.map (made + ·)))) := by
  cases step with
  | send => exact (sending?_post _ _ (lt_length_of_sending? found)).trans found
  | deliver other reply =>
      show (state.deliver other reply).1.sending? number = _
      by_cases same : other = number
      · subst same
        have entry := consistent.waiting other _ found
        rw [Step.ending?, if_pos rfl, deliver, if_pos (List.contains_iff_mem.2 entry)]
        simp only [found]
        show (state.change other (.settled reply)).sending? other = _
        rw [sending?_change, if_pos rfl, found]
        rfl
      · rw [Step.ending?, if_neg same, sending?_deliver_of_ne (Ne.symm same), found]
        rfl
  | look other =>
      show (state.expireOne other).sending? number = _
      by_cases same : other = number
      · subst same
        have overdue : state.isOverdue other = true ↔ ∃ limit ∈ timeout, limit ≤ waited := by
          rw [isOverdue_iff _ _ found, now]
          simp only [Option.mem_def, Option.map_eq_some_iff, exists_exists_and_eq_and,
            Nat.add_le_add_iff_left]
        by_cases late : ∃ limit ∈ timeout, limit ≤ waited
        · rw [Step.ending?, if_pos ⟨rfl, late⟩, expireOne, if_pos (overdue.2 late)]
          show (state.change other (.settled (.failure .timeout))).sending? other = _
          rw [sending?_change, if_pos rfl, found]
          rfl
        · rw [Step.ending?, if_neg (fun both => late both.2), expireOne,
            if_neg (fun yes => late (overdue.1 yes)), found]
          rfl
      · rw [Step.ending?, if_neg (fun both => same both.1),
          sending?_expireOne_of_ne (Ne.symm same), found]
        rfl
  | cancel other =>
      show (state.cancel other).sending? number = _
      by_cases same : other = number
      · subst same
        rw [Step.ending?, if_pos rfl, cancel]
        simp only [found]
        rw [sending?_change, if_pos rfl, found]
        rfl
      · rw [Step.ending?, if_neg same, sending?_cancel_of_ne (Ne.symm same), found]
        rfl
  | elapse time => exact found
  | close => exact found

end State

open State

/-! ## Histories -/

/-- What became of a request that is made after some steps: it could not be handed out, it
waits, or the first step to end it has ended it. -/
inductive Life (timeout : Option Nat) (number : Nat) (before since : List Step) :
    Sending → Prop where
  | refused (closed : .close ∈ before) :
      Life timeout number before since (.settled (.failure .channelClosed))
  | waits (opened : .close ∉ before) (undecided : Undecided timeout number since) :
      Life timeout number before since (.waiting (timeout.map (elapsed before + ·)))
  | ended (opened : .close ∉ before) {first rest : List Step} {step : Step} {ending : Sending}
      (split : since = first ++ step :: rest) (undecided : Undecided timeout number first)
      (ends : step.ending? timeout number (elapsed first) = some ending) :
      Life timeout number before since ending

/-- Every request of a history is made at some place of it, and its life is the one that
the steps since then tell. -/
theorem exists_life (timeout : Option Nat) {history : List Step} {number : Nat}
    (known : number < history.count .send) :
    ∃ before since sending, MadeAt history number before since ∧
      (after timeout history).sending? number = some sending ∧
      Life timeout number before since sending := by
  induction history using List.reverseRecOn with
  | nil => simp at known
  | append_singleton history step inductionHypothesis =>
      have account := after_follows timeout history
      rw [after_append]
      by_cases earlier : number < history.count .send
      · obtain ⟨before, since, sending, made, found, life⟩ := inductionHypothesis earlier
        cases life with
        | refused closed =>
            exact ⟨before, since ++ [step], _, made.concat step,
              sending?_step_ended found (by simp) step, .refused closed⟩
        | waits opened undecided =>
            have now : (after timeout history).now = elapsed before + elapsed since := by
              rw [account.now, made.split, elapsed_append, elapsed_cons]
              exact congrArg _ (Nat.zero_add _)
            refine ⟨before, since ++ [step], _, made.concat step,
              sending?_step_waiting (consistent_after timeout history) now found step, ?_⟩
            cases ends : step.ending? timeout number (elapsed since) with
            | none => exact .waits opened (undecided_concat_iff.2 ⟨undecided, ends⟩)
            | some ending => exact .ended opened rfl undecided ends
        | @ended opened first rest other _ split undecided ends =>
            have longer : since ++ [step] = first ++ other :: (rest ++ [step]) := by
              rw [split, List.append_assoc, List.cons_append]
            exact ⟨before, since ++ [step], _, made.concat step,
              sending?_step_ended found (ending?_ne_waiting ends) step,
              .ended opened longer undecided ends⟩
      · obtain rfl : step = .send := by
          by_contra other
          rw [List.count_append, List.count_singleton, if_neg (by simpa using other)] at known
          exact earlier known
        have last : number = history.count .send := by
          rw [List.count_append, List.count_singleton_self] at known
          omega
        subst last
        have found := (after timeout history).sending?_post_new
        rw [account.length, account.timeout, account.now] at found
        refine ⟨history, [], _, ⟨rfl, rfl⟩, found, ?_⟩
        split
        · next closed => exact .refused (account.isClosed.1 closed)
        · next opened =>
          exact .waits (fun closed => opened (account.isClosed.2 closed))
            undecided_nil

/-- A request waits by the state exactly when it waits by the history. -/
theorem waits_iff {timeout : Option Nat} {history : List Step} {number : Nat} :
    Waits timeout history number ↔
      ∃ deadline, (after timeout history).sending? number = some (.waiting deadline) := by
  constructor
  · rintro ⟨before, since, made, opened, undecided⟩
    obtain ⟨otherBefore, otherSince, sending, otherMade, found, life⟩ :=
      exists_life timeout made.known
    obtain ⟨rfl, rfl⟩ := otherMade.unique made
    cases life with
    | refused closed => exact absurd closed opened
    | waits _ _ => exact ⟨_, found⟩
    | ended _ split _ ends =>
        rw [undecided _ _ _ split] at ends
        cases ends
  · rintro ⟨deadline, found⟩
    have known := lt_length_of_sending? found
    rw [(after_follows timeout history).length] at known
    obtain ⟨before, since, sending, made, same, life⟩ := exists_life timeout known
    obtain rfl : sending = .waiting deadline := Option.some.inj (same.symm.trans found)
    cases life with
    | waits opened undecided => exact ⟨before, since, made, opened, undecided⟩
    | ended _ _ _ ends => exact absurd rfl (ending?_ne_waiting ends deadline)

end RequestFlow.Live
