import RequestFlow.Proofs.Report.Cursor

/-!
Contract: what a report lists stays listed, whatever events follow.

Owns: lists that keep what they have in its place and change at most the newest entry; what a
later report still has of an earlier one, to any depth of acquisitions; and that every step of a
report is of this kind, so that a run never loses a playbook or a request, nor puts them in
another order.

Does not own: the steps themselves (`Proofs.Report.Cursor`).

A place is counted from the oldest entry, since lists have the newest first. An acquisition has
no list of its own: it waits with the playbook until the next request takes it. So a playbook
has one list of acquisitions for each request and one more for the request that is to come,
and a request that starts turns this one into its own and adds an empty one.
-/

namespace RequestFlow

/-! ## Lists that keep what they have -/

/-- What the old list has at a place, the new one still has there; only the newest entry may
have become one that it goes on to. -/
def Keeps {Entry : Type} (GoesOn : Entry → Entry → Prop) (old new : List Entry) : Prop :=
  ∀ (place : Nat) (entry : Entry), old.reverse[place]? = some entry →
    ∃ now, new.reverse[place]? = some now ∧ GoesOn entry now ∧
      (place + 1 < old.length → now = entry)

namespace Keeps

variable {Entry : Type} {GoesOn : Entry → Entry → Prop}

theorem refl (same : ∀ entry, GoesOn entry entry) (entries : List Entry) :
    Keeps GoesOn entries entries :=
  fun _ entry there => ⟨entry, there, same entry, fun _ => rfl⟩

theorem length_le {old new : List Entry} (keeps : Keeps GoesOn old new) :
    old.length ≤ new.length := by
  apply Nat.le_of_not_lt
  intro shorter
  have bound : new.length < old.reverse.length := by
    rw [List.length_reverse]
    omega
  obtain ⟨now, beyond, -⟩ := keeps new.length _ (List.getElem?_eq_getElem bound)
  simp at beyond

theorem trans (compose : ∀ ⦃first next last⦄, GoesOn first next → GoesOn next last →
      GoesOn first last) ⦃first next last : List Entry⦄
    (toNext : Keeps GoesOn first next) (toLast : Keeps GoesOn next last) :
    Keeps GoesOn first last := by
  intro place entry there
  obtain ⟨between, stillThere, goesOn, stays⟩ := toNext place entry there
  obtain ⟨now, thereNow, goesFurther, staysFurther⟩ := toLast place between stillThere
  refine ⟨now, thereNow, compose goesOn goesFurther, fun notNewest => ?_⟩
  have stillNotNewest : place + 1 < next.length := Nat.lt_of_lt_of_le notNewest toNext.length_le
  exact (staysFurther stillNotNewest).trans (stays notNewest)

/-- The newest entry has the last place, and the others keep theirs. -/
theorem reverse_cons_eq_some_iff {newest entry : Entry} {earlier : List Entry} {place : Nat} :
    (newest :: earlier).reverse[place]? = some entry ↔
      earlier.reverse[place]? = some entry ∨ place = earlier.length ∧ newest = entry := by
  rw [List.reverse_cons]
  by_cases bound : place < earlier.reverse.length
  · have notLast : place ≠ earlier.length := by
      rw [List.length_reverse] at bound
      omega
    simp [List.getElem?_append_left bound, notLast]
  · have beyond : earlier.reverse.length ≤ place := Nat.le_of_not_lt bound
    rw [List.getElem?_append_right beyond, List.getElem?_eq_none beyond,
      List.getElem?_singleton, List.length_reverse]
    rw [List.length_reverse] at beyond
    have isLast : place - earlier.length = 0 ↔ place = earlier.length := by omega
    simp [isLast]

theorem push (same : ∀ entry, GoesOn entry entry) (newest : Entry) (entries : List Entry) :
    Keeps GoesOn entries (newest :: entries) :=
  fun _ entry there =>
    ⟨entry, reverse_cons_eq_some_iff.2 (.inl there), same entry, fun _ => rfl⟩

theorem newest (same : ∀ entry, GoesOn entry entry) {old new : Entry} (goesOn : GoesOn old new)
    (earlier : List Entry) : Keeps GoesOn (old :: earlier) (new :: earlier) := by
  intro place entry there
  rcases reverse_cons_eq_some_iff.1 there with before | ⟨last, rfl⟩
  · exact ⟨entry, reverse_cons_eq_some_iff.2 (.inl before), same entry, fun _ => rfl⟩
  · refine ⟨new, reverse_cons_eq_some_iff.2 (.inr ⟨last, rfl⟩), goesOn, fun notNewest => ?_⟩
    rw [List.length_cons] at notNewest
    omega

end Keeps

/-! ## What a later report still has -/

/-- A request is the same one, with the acquisitions that it took when it started. -/
structure RequestReport.Continues (old new : RequestReport) : Prop where
  target : new.facts.target = old.facts.target
  auth : new.auth = old.auth

/-- An acquisition is the same one, and if it was finished then nothing has changed in it. -/
structure AuthReport.Continues (Inner : RunReport → RunReport → Prop) (old new : AuthReport) :
    Prop where
  name : new.name = old.name
  settled : old.finished = true → new = old
  run : Inner old.run new.run

/-- The acquisitions for each request, and before them those for the request to come. -/
def PlaybookReport.acquisitions (playbook : PlaybookReport) : List (List AuthReport) :=
  playbook.pending :: playbook.requests.map RequestReport.auth

structure PlaybookReport.Continues (Inner : RunReport → RunReport → Prop)
    (old new : PlaybookReport) : Prop where
  name : new.name = old.name
  requests : Keeps RequestReport.Continues old.requests new.requests
  acquisitions : Keeps (Keeps (AuthReport.Continues Inner)) old.acquisitions new.acquisitions

/-- The new report has all playbooks of the old one in their places, they have all requests in
their places, and so it is in the runs of acquisitions, to a depth. -/
def RunReport.Continues : (depth : Nat) → (old new : RunReport) → Prop
  | 0, _, _ => True
  | depth + 1, old, new =>
      Keeps (PlaybookReport.Continues (RunReport.Continues depth)) old.playbooks new.playbooks

theorem RequestReport.Continues.refl (request : RequestReport) : request.Continues request :=
  ⟨rfl, rfl⟩

theorem RequestReport.Continues.trans ⦃first next last : RequestReport⦄
    (toNext : first.Continues next) (toLast : next.Continues last) : first.Continues last :=
  ⟨toLast.target.trans toNext.target, toLast.auth.trans toNext.auth⟩

section Inner

variable {Inner : RunReport → RunReport → Prop}

theorem AuthReport.Continues.refl (same : ∀ run, Inner run run) (auth : AuthReport) :
    auth.Continues Inner auth :=
  ⟨rfl, fun _ => rfl, same auth.run⟩

theorem AuthReport.Continues.trans
    (compose : ∀ ⦃first next last⦄, Inner first next → Inner next last → Inner first last)
    ⦃first next last : AuthReport⦄ (toNext : first.Continues Inner next)
    (toLast : next.Continues Inner last) : first.Continues Inner last where
  name := toLast.name.trans toNext.name
  settled isOver := by
    have same : next = first := toNext.settled isOver
    rw [← same] at isOver ⊢
    exact toLast.settled isOver
  run := compose toNext.run toLast.run

theorem PlaybookReport.Continues.refl (same : ∀ run, Inner run run) (playbook : PlaybookReport) :
    playbook.Continues Inner playbook where
  name := rfl
  requests := .refl RequestReport.Continues.refl _
  acquisitions := .refl (Keeps.refl (AuthReport.Continues.refl same)) _

theorem PlaybookReport.Continues.trans
    (compose : ∀ ⦃first next last⦄, Inner first next → Inner next last → Inner first last)
    ⦃first next last : PlaybookReport⦄ (toNext : first.Continues Inner next)
    (toLast : next.Continues Inner last) : first.Continues Inner last where
  name := toLast.name.trans toNext.name
  requests := .trans RequestReport.Continues.trans toNext.requests toLast.requests
  acquisitions := .trans (Keeps.trans (AuthReport.Continues.trans compose))
    toNext.acquisitions toLast.acquisitions

/-- The acquisitions that wait have gone on, or there are more of them. -/
theorem PlaybookReport.Continues.of_pending (same : ∀ run, Inner run run)
    {old new : List AuthReport} (waiting : Keeps (AuthReport.Continues Inner) old new)
    (name : String) (status : ReportStatus) (requests : List RequestReport) :
    (PlaybookReport.mk name status requests old).Continues Inner
      (.mk name status requests new) where
  name := rfl
  requests := .refl RequestReport.Continues.refl requests
  acquisitions := .newest (Keeps.refl (AuthReport.Continues.refl same)) waiting _

end Inner

namespace RunReport

theorem Continues.refl (depth : Nat) (report : RunReport) : Continues depth report report := by
  induction depth generalizing report with
  | zero => trivial
  | succ depth inductionHypothesis =>
      exact Keeps.refl (PlaybookReport.Continues.refl inductionHypothesis) report.playbooks

theorem Continues.trans {depth : Nat} ⦃first next last : RunReport⦄
    (toNext : Continues depth first next) (toLast : Continues depth next last) :
    Continues depth first last := by
  induction depth generalizing first next last with
  | zero => trivial
  | succ depth inductionHypothesis =>
      exact Keeps.trans (PlaybookReport.Continues.trans inductionHypothesis) toNext toLast

/-! ## Every step keeps what is listed -/

section Inner

variable {Inner : RunReport → RunReport → Prop}

theorem keeps_startRequest (same : ∀ run, Inner run run) (target : Option Target)
    (playbooks : List PlaybookReport) :
    Keeps (PlaybookReport.Continues Inner) playbooks (startRequest target playbooks) := by
  have samePlaybook := PlaybookReport.Continues.refl same
  cases playbooks with
  | nil => exact .refl samePlaybook []
  | cons playbook earlier =>
      obtain ⟨name, status, requests, pending⟩ := playbook
      apply Keeps.newest samePlaybook
      -- The list for the request to come is now that of a request, with an empty one before it.
      exact {
        name := rfl
        requests := .push RequestReport.Continues.refl _ requests
        acquisitions := .push (Keeps.refl (AuthReport.Continues.refl same)) [] _ }

theorem keeps_recordFacts (same : ∀ run, Inner run run) (event : Event)
    (playbooks : List PlaybookReport) :
    Keeps (PlaybookReport.Continues Inner) playbooks (recordFacts event playbooks) := by
  have samePlaybook := PlaybookReport.Continues.refl same
  fun_cases recordFacts event playbooks with
  | case1 name status facts auth requests pending earlier =>
      have request : RequestReport.Continues (.mk facts auth) (.mk (facts.record event) auth) :=
        ⟨by cases event <;> rfl, rfl⟩
      apply Keeps.newest samePlaybook
      exact {
        name := rfl
        requests := .newest RequestReport.Continues.refl request requests
        acquisitions := .refl (Keeps.refl (AuthReport.Continues.refl same)) _ }
  | case2 => exact .refl samePlaybook _

theorem keeps_close (same : ∀ run, Inner run run) (status : ReportStatus)
    (playbooks : List PlaybookReport) :
    Keeps (PlaybookReport.Continues Inner) playbooks (close status playbooks) := by
  have samePlaybook := PlaybookReport.Continues.refl same
  cases playbooks with
  | nil => exact .refl samePlaybook []
  | cons playbook earlier =>
      cases playbook
      apply Keeps.newest samePlaybook
      exact {
        name := rfl
        requests := .refl RequestReport.Continues.refl _
        acquisitions := .refl (Keeps.refl (AuthReport.Continues.refl same)) _ }

theorem keeps_applyHere (same : ∀ run, Inner run run) (playbooks : List PlaybookReport)
    (event : Event) :
    Keeps (PlaybookReport.Continues Inner) playbooks (applyHere playbooks event).playbooks := by
  have samePlaybook := PlaybookReport.Continues.refl same
  cases event with
  | playbookStarted name => exact .push samePlaybook _ playbooks
  | authStarted auth =>
      cases playbooks with
      | nil => exact .refl samePlaybook []
      | cons playbook earlier =>
          obtain ⟨name, status, requests, pending⟩ := playbook
          have oneMore := Keeps.push (AuthReport.Continues.refl same) (.mk auth false empty) pending
          exact .newest samePlaybook (.of_pending same oneMore name status requests) earlier
  | authFinished auth => exact .refl samePlaybook playbooks
  | requestStarted target => exact keeps_startRequest same target playbooks
  | playbookFinished name => exact keeps_close same .finished playbooks
  | playbookAborted name => exact keeps_close same .aborted playbooks
  | _ => exact keeps_recordFacts same _ playbooks

/-- Only the acquisition that is open has gone on. -/
theorem keeps_opened (same : ∀ run, Inner run run) {auth : String} {finished : Bool}
    {run after : RunReport} (goesOn : Inner run after) (name : String) (status : ReportStatus)
    (requests : List RequestReport) (pending : List AuthReport) (earlier : List PlaybookReport) :
    Keeps (PlaybookReport.Continues Inner)
      (.mk name status requests (.mk auth false run :: pending) :: earlier)
      (.mk name status requests (.mk auth finished after :: pending) :: earlier) := by
  have wentOn : AuthReport.Continues Inner (.mk auth false run) (.mk auth finished after) :=
    ⟨rfl, (fun isOver => nomatch isOver), goesOn⟩
  have waiting := Keeps.newest (AuthReport.Continues.refl same) wentOn pending
  exact .newest (PlaybookReport.Continues.refl same)
    (.of_pending same waiting name status requests) earlier

end Inner

theorem Advances.continues {event : Event} {report after : RunReport}
    (advances : Advances event report after) (depth : Nat) :
    Continues depth report after := by
  induction advances generalizing depth with
  | here =>
      cases depth with
      | zero => trivial
      | succ depth => exact keeps_applyHere (Continues.refl depth) _ event
  | finishes innermost ends =>
      cases depth with
      | zero => trivial
      | succ depth =>
          have same := Continues.refl depth
          exact keeps_opened same (same _) _ _ _ _ _
  | inside stays advances inductionHypothesis =>
      cases depth with
      | zero => trivial
      | succ depth =>
          exact keeps_opened (Continues.refl depth) (inductionHypothesis depth) _ _ _ _ _

theorem continues_foldl {report : RunReport} (kept : report.KeptThroughout) (events : List Event)
    (depth : Nat) : Continues depth report (events.foldl apply report) := by
  induction events generalizing report with
  | nil => exact .refl depth report
  | cons event rest inductionHypothesis =>
      have advances := advances_apply kept event
      have later := inductionHypothesis (advances.keptThroughout kept)
      exact Continues.trans (advances.continues depth) later

/-- Whatever the events are, and after each part of them: in the report and in every run of an
acquisition in it, a cursor that names an acquisition has it as the newest one that waits with
the newest playbook, under its name and not finished. So no event makes the step forget a cursor:
it changes the innermost open run or ends its acquisition, and nothing else. And the report goes
on to have every playbook and every request in its place, at every depth. -/
theorem cursor_kept_and_entries_stay (events : List Event) :
    (∀ run, (ofEvents events).Contains run → run.CursorKept ∧
      ∀ event, Advances event run (run.apply event)) ∧
    ∀ (more : List Event) (depth : Nat),
      Continues depth (ofEvents events) (ofEvents (events ++ more)) := by
  have kept := keptThroughout_ofEvents events
  refine ⟨fun run contains => ⟨kept run contains, ?_⟩, fun more depth => ?_⟩
  · have within : run.KeptThroughout := kept.of_contains contains
    exact advances_apply within
  · rw [ofEvents, ofEvents, List.foldl_append]
    exact continues_foldl kept more depth

end RunReport

end RequestFlow
