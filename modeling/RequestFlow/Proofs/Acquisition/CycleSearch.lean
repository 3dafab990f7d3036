import Mathlib.Data.List.Chain
import Mathlib.Data.List.Nodup
import Mathlib.Data.List.Perm.Subperm
import Mathlib.Logic.Relation
import RequestFlow.Proofs.Dict
import RequestFlow.Validation.Acquisition

/-!
Contract: what the search for acquisition cycles guarantees.

Owns: the steps of a graph of names and the cycles in it; the search as a relation that sets no
bound to its depth, and that every search of that kind ends; and what is reported: cycles of the
graph, no start twice, and a cycle of every strongly connected part that has one.

A name that was followed is done or reported afterwards. So when a name on a cycle is left, the
next name on that cycle is reported, or it was left before. The search of a strongly connected
part with a cycle therefore cannot come to its end without a report.

Does not own: what the steps of the graph stand for (`Proofs.Acquisition.Dependency`).
-/

namespace RequestFlow.Validation

open Relation

/-! ## Graphs -/

/-- One step of a graph. -/
def Edge (graph : Dict (List String)) (name next : String) : Prop :=
  next ∈ (graph.get? name).getD []

theorem Edge.mem_keys {graph : Dict (List String)} {name next : String}
    (edge : Edge graph name next) : name ∈ graph.keys := by
  rw [Dict.mem_keys_iff]
  cases found : graph.get? name with
  | none => simp [Edge, found] at edge
  | some nexts => rfl

/-- Two names lie in one strongly connected part of a graph. -/
def Connected (graph : Dict (List String)) (name other : String) : Prop :=
  ReflTransGen (Edge graph) name other ∧ ReflTransGen (Edge graph) other name

theorem Connected.trans {graph : Dict (List String)} {name between other : String}
    (first : Connected graph name between) (second : Connected graph between other) :
    Connected graph name other :=
  ⟨first.1.trans second.1, second.2.trans first.2⟩

/-- A path through a graph that comes back to its start. -/
structure Cycle (graph : Dict (List String)) where
  start : String
  inner : List String
  steps : (start :: (inner ++ [start])).IsChain (Edge graph)

namespace Cycle

variable {graph : Dict (List String)}

def names (cycle : Cycle graph) : List String :=
  cycle.start :: cycle.inner

/-- The report of a cycle prints its names, from the start to the start. -/
def violation (cycle : Cycle graph) : Violation :=
  ⟨"$.authenticationDetails." ++ cycle.start,
    "credential acquisition cycle: " ++
      String.intercalate " -> " (cycle.names ++ [cycle.start])⟩

theorem reaches (cycle : Cycle graph) :
    (cycle.names ++ [cycle.start]).Pairwise (TransGen (Edge graph)) :=
  (cycle.steps.imp fun _ _ edge => TransGen.single edge).pairwise

theorem comes_back (cycle : Cycle graph) : TransGen (Edge graph) cycle.start cycle.start := by
  have toStart := (List.pairwise_append.1 cycle.reaches).2.2
  exact toStart cycle.start List.mem_cons_self cycle.start List.mem_cons_self

/-- A cycle lies in one strongly connected part. -/
theorem connected_of_mem (cycle : Cycle graph) {name : String} (member : name ∈ cycle.names) :
    Connected graph cycle.start name := by
  obtain ⟨onward, -, toStart⟩ := List.pairwise_append.1 cycle.reaches
  have back := (toStart name member cycle.start List.mem_cons_self).to_reflTransGen
  rcases List.mem_cons.1 member with isStart | later
  · exact ⟨isStart ▸ .refl, back⟩
  · exact ⟨((List.pairwise_cons.1 onward).1 name later).to_reflTransGen, back⟩

end Cycle

/-! ## Searches -/

/-- A cycle is closed by a step from the end of the trail onto a name on it. -/
def CycleSearch.report (search : CycleSearch) (trail : List String) (name : String) :
    CycleSearch :=
  { search with
    reported := name :: search.reported
    violations := search.violations ++
      [⟨"$.authenticationDetails." ++ name,
        "credential acquisition cycle: " ++ cycleText trail name⟩] }

def CycleSearch.leave (search : CycleSearch) (name : String) : CycleSearch :=
  { search with done := name :: search.done }

/-- A search that follows names one after the other from the end of a trail, as deep as the
graph leads. It is a search that ends, since it is a finite derivation. -/
inductive Follows (graph : Dict (List String)) :
    List String → List String → CycleSearch → CycleSearch → Prop where
  | nil {trail : List String} {search : CycleSearch} : Follows graph trail [] search search
  | passes {trail names : List String} {name : String} {search found : CycleSearch}
      (known : name ∈ search.done ∨ name ∈ trail ∧ name ∈ search.reported)
      (rest : Follows graph trail names search found) :
      Follows graph trail (name :: names) search found
  | closes {trail names : List String} {name : String} {search found : CycleSearch}
      (undone : name ∉ search.done) (onTrail : name ∈ trail) (fresh : name ∉ search.reported)
      (rest : Follows graph trail names (search.report trail name) found) :
      Follows graph trail (name :: names) search found
  | enters {trail names : List String} {name : String} {search between found : CycleSearch}
      (undone : name ∉ search.done) (offTrail : name ∉ trail)
      (inside : Follows graph (name :: trail) ((graph.get? name).getD []) search between)
      (rest : Follows graph trail names (between.leave name) found) :
      Follows graph trail (name :: names) search found

section Search

variable {graph : Dict (List String)} {trail names : List String}
  {search found other : CycleSearch}

/-- A search ends in one way. -/
theorem Follows.unique (follows : Follows graph trail names search found)
    (again : Follows graph trail names search other) : other = found := by
  induction follows generalizing other with
  | nil =>
      cases again
      rfl
  | passes known rest inductionHypothesis =>
      cases again with
      | passes _ again => exact inductionHypothesis again
      | closes undone _ fresh _ => simp [undone, fresh] at known
      | enters undone offTrail _ _ => simp [undone, offTrail] at known
  | closes undone onTrail fresh rest inductionHypothesis =>
      cases again with
      | passes known _ => simp [undone, fresh] at known
      | closes _ _ _ again => exact inductionHypothesis again
      | enters _ offTrail _ _ => exact absurd onTrail offTrail
  | enters undone offTrail inside rest insideUnique restUnique =>
      cases again with
      | passes known _ => simp [undone, offTrail] at known
      | closes _ onTrail _ _ => exact absurd onTrail offTrail
      | enters _ _ insideAgain restAgain =>
          have same := insideUnique insideAgain
          exact restUnique (same ▸ restAgain)

/-- A bounded search is the whole search when its bound leaves room: the trail holds names with
steps only, each once, so it never gets longer than the graph. -/
theorem follows_foldl (fuel : Nat) (trail names : List String) (search : CycleSearch)
    (room : graph.size + 1 < fuel + trail.length) (distinct : trail.Nodup)
    (known : names ≠ [] → trail ⊆ graph.keys) :
    Follows graph trail names search (names.foldl (followGraph graph fuel trail) search) := by
  induction fuel generalizing trail names search with
  | zero =>
      have empty : names = [] := by
        apply Decidable.byContradiction
        intro some
        have short : trail.length ≤ graph.keys.length :=
          (List.subperm_of_subset distinct (known some)).length_le
        have sameSize : graph.keys.length = graph.size := by simp [Dict.keys, Dict.size]
        omega
      rw [empty]
      exact .nil
  | succ fuel inductionHypothesis =>
      induction names generalizing search with
      | nil => exact .nil
      | cons name names namesHypothesis =>
          have trailKnown := known (List.cons_ne_nil name names)
          have later (search : CycleSearch) := namesHypothesis search fun _ => trailKnown
          rw [List.foldl_cons]
          by_cases isDone : name ∈ search.done
          · have step : followGraph graph (fuel + 1) trail search name = search := by
              simp [followGraph, isDone]
            rw [step]
            exact .passes (.inl isDone) (later search)
          by_cases onTrail : name ∈ trail
          · by_cases isReported : name ∈ search.reported
            · have step : followGraph graph (fuel + 1) trail search name = search := by
                simp [followGraph, isDone, onTrail, isReported]
              rw [step]
              exact .passes (.inr ⟨onTrail, isReported⟩) (later search)
            · have step : followGraph graph (fuel + 1) trail search name =
                  search.report trail name := by
                simp [followGraph, isDone, onTrail, isReported, CycleSearch.report]
              rw [step]
              exact .closes isDone onTrail isReported (later _)
          · have step : followGraph graph (fuel + 1) trail search name =
                (((graph.get? name).getD []).foldl (followGraph graph fuel (name :: trail))
                  search).leave name := by
              simp [followGraph, isDone, onTrail, CycleSearch.leave]
            have deeper : graph.size + 1 < fuel + (name :: trail).length := by
              rw [List.length_cons]
              omega
            have nextKnown : (graph.get? name).getD [] ≠ [] → name :: trail ⊆ graph.keys := by
              intro some
              obtain ⟨next, edge⟩ := List.exists_mem_of_ne_nil _ some
              exact List.cons_subset.2 ⟨Edge.mem_keys edge, trailKnown⟩
            have inside := inductionHypothesis (name :: trail) ((graph.get? name).getD [])
              search deeper (List.nodup_cons.2 ⟨onTrail, distinct⟩) nextKnown
            rw [step]
            exact .enters isDone onTrail inside (later _)

/-! ## What is reported -/

/-- A step from the end of a trail onto the trail closes a cycle. -/
theorem exists_cycle {name : String} (onTrail : name ∈ trail)
    (led : (trail.reverse ++ [name]).IsChain (Edge graph)) :
    ∃ cycle : Cycle graph, cycle.start = name ∧
      ∀ search : CycleSearch,
        (search.report trail name).violations = search.violations ++ [cycle.violation] := by
  obtain ⟨before, inner, split, absent⟩ :=
    List.eq_append_cons_of_mem (List.mem_reverse.2 onTrail)
  have path : trail.reverse.dropWhile (· != name) = name :: inner := by
    rw [split, List.dropWhile_append_of_pos]
    · simp
    · intro other member
      exact bne_iff_ne.2 fun same => absent (same ▸ member)
  have steps : (name :: (inner ++ [name])).IsChain (Edge graph) := by
    rw [split, List.append_assoc] at led
    exact (List.isChain_append.1 led).2.1
  refine ⟨⟨name, inner, steps⟩, rfl, fun search => ?_⟩
  rw [CycleSearch.report, cycleText, path]
  rfl

/-- What a search has reported so far is cycles of the graph, and no start twice. -/
structure Sound (graph : Dict (List String)) (search : CycleSearch) : Prop where
  reports : ∃ cycles : List (Cycle graph), search.violations = cycles.map Cycle.violation ∧
    search.reported.reverse = cycles.map Cycle.start
  distinct : search.reported.Nodup

theorem Sound.report {name : String} (sound : Sound graph search) (onTrail : name ∈ trail)
    (led : (trail.reverse ++ [name]).IsChain (Edge graph)) (fresh : name ∉ search.reported) :
    Sound graph (search.report trail name) := by
  obtain ⟨cycles, violations, starts⟩ := sound.reports
  obtain ⟨cycle, isStart, added⟩ := exists_cycle onTrail led
  constructor
  · refine ⟨cycles ++ [cycle], ?_, ?_⟩
    · rw [added, violations, List.map_append, List.map_singleton]
    · rw [CycleSearch.report, List.reverse_cons, starts, List.map_append, List.map_singleton,
        isStart]
  · exact List.nodup_cons.2 ⟨fresh, sound.distinct⟩

/-- Names are followed from the end of a path, so that every report is of a cycle. -/
theorem Follows.sound (follows : Follows graph trail names search found)
    (led : ∀ name ∈ names, (trail.reverse ++ [name]).IsChain (Edge graph))
    (sound : Sound graph search) : Sound graph found := by
  induction follows with
  | nil => exact sound
  | passes _ _ inductionHypothesis =>
      exact inductionHypothesis (List.forall_mem_cons.1 led).2 sound
  | closes _ onTrail fresh _ inductionHypothesis =>
      obtain ⟨ledHere, ledLater⟩ := List.forall_mem_cons.1 led
      exact inductionHypothesis ledLater (sound.report onTrail ledHere fresh)
  | @enters trail names name _ between _ _ _ _ _ insideSound restSound =>
      obtain ⟨ledHere, ledLater⟩ := List.forall_mem_cons.1 led
      have ledInside : ∀ next ∈ (graph.get? name).getD [],
          ((name :: trail).reverse ++ [next]).IsChain (Edge graph) := by
        intro next edge
        rw [List.reverse_cons, List.isChain_append]
        refine ⟨ledHere, .singleton next, ?_⟩
        intro last isLast first isFirst
        obtain rfl : name = last := by simpa using isLast
        obtain rfl : next = first := by simpa using isFirst
        exact edge
      have between := insideSound ledInside sound
      exact restSound ledLater ⟨between.reports, between.distinct⟩

/-! ## What is not missed -/

theorem Follows.grows (follows : Follows graph trail names search found) :
    search.done ⊆ found.done ∧ search.reported ⊆ found.reported := by
  induction follows with
  | nil => exact ⟨List.Subset.refl _, List.Subset.refl _⟩
  | passes _ _ inductionHypothesis => exact inductionHypothesis
  | closes _ _ _ _ inductionHypothesis =>
      exact ⟨inductionHypothesis.1, List.Subset.trans (List.subset_cons_self _ _)
        inductionHypothesis.2⟩
  | enters _ _ _ _ inside rest =>
      have left := List.Subset.trans (List.subset_cons_self _ _) rest.1
      exact ⟨List.Subset.trans inside.1 left, List.Subset.trans inside.2 rest.2⟩

theorem Follows.done_or_reported (follows : Follows graph trail names search found) :
    ∀ name ∈ names, name ∈ found.done ∨ name ∈ found.reported := by
  induction follows with
  | nil => simp
  | passes known rest inductionHypothesis =>
      refine List.forall_mem_cons.2 ⟨?_, inductionHypothesis⟩
      rcases known with isDone | ⟨-, isReported⟩
      · exact .inl (rest.grows.1 isDone)
      · exact .inr (rest.grows.2 isReported)
  | closes _ _ _ rest inductionHypothesis =>
      exact List.forall_mem_cons.2
        ⟨.inr (rest.grows.2 List.mem_cons_self), inductionHypothesis⟩
  | enters _ _ _ rest _ inductionHypothesis =>
      exact List.forall_mem_cons.2
        ⟨.inl (rest.grows.1 List.mem_cons_self), inductionHypothesis⟩

/-- Every name that is done and lies on a cycle has a reported one in its part of the graph. -/
def Covers (graph : Dict (List String)) (search : CycleSearch) : Prop :=
  ∀ name ∈ search.done, TransGen (Edge graph) name name →
    ∃ start ∈ search.reported, Connected graph name start

/-- The next name on a cycle is reported itself or has a report in its part of the graph. -/
theorem Covers.of_cycle (covers : Covers graph search) {name : String}
    (met : ∀ next ∈ (graph.get? name).getD [], next ∈ search.done ∨ next ∈ search.reported)
    (cycle : TransGen (Edge graph) name name) :
    ∃ start ∈ search.reported, Connected graph name start := by
  obtain ⟨next, edge, back⟩ := TransGen.head'_iff.1 cycle
  have connected : Connected graph name next := ⟨.single edge, back⟩
  rcases met next edge with isDone | isReported
  · have nextCycle : TransGen (Edge graph) next next := TransGen.tail' back edge
    obtain ⟨start, isReported, fromNext⟩ := covers next isDone nextCycle
    exact ⟨start, isReported, connected.trans fromNext⟩
  · exact ⟨next, isReported, connected⟩

theorem Follows.covers (follows : Follows graph trail names search found)
    (covers : Covers graph search) : Covers graph found := by
  induction follows with
  | nil => exact covers
  | passes _ _ inductionHypothesis => exact inductionHypothesis covers
  | closes _ _ _ _ inductionHypothesis =>
      apply inductionHypothesis
      intro name isDone cycle
      obtain ⟨start, isReported, connected⟩ := covers name isDone cycle
      exact ⟨start, List.mem_cons_of_mem _ isReported, connected⟩
  | @enters _ _ name _ between _ _ _ inside _ insideCovers restCovers =>
      have betweenCovers := insideCovers covers
      apply restCovers
      intro other isDone cycle
      rcases List.mem_cons.1 isDone with isName | earlier
      · rw [isName] at cycle ⊢
        exact betweenCovers.of_cycle inside.done_or_reported cycle
      · exact betweenCovers other earlier cycle

end Search

/-! ## The cycles of a bundle -/

/-- The whole search: from every name that has steps, with nothing found yet. -/
def Searches (graph : Dict (List String)) (found : CycleSearch) : Prop :=
  Follows graph [] graph.keys .start found

theorem exists_searches (bundle : Bundle) :
    ∃ found, Searches (dependencyGraph bundle) found ∧ cycles bundle = found.violations := by
  refine ⟨_, follows_foldl ((dependencyGraph bundle).size + 2) [] _ .start ?_ List.nodup_nil ?_,
    rfl⟩
  · omega
  · exact fun _ => List.nil_subset _

section Searches

variable {graph : Dict (List String)} {found : CycleSearch}

theorem Searches.sound (searches : Searches graph found) : Sound graph found := by
  refine Follows.sound searches ?_ ⟨⟨[], rfl, rfl⟩, List.nodup_nil⟩
  exact fun name _ => .singleton name

theorem Searches.covers (searches : Searches graph found) {name : String}
    (cycle : TransGen (Edge graph) name name) :
    ∃ start ∈ found.reported, Connected graph name start := by
  have covers : Covers graph found := Follows.covers searches (by simp [Covers, CycleSearch.start])
  obtain ⟨next, edge, -⟩ := TransGen.head'_iff.1 cycle
  rcases Follows.done_or_reported searches name edge.mem_keys with isDone | isReported
  · exact covers name isDone cycle
  · exact ⟨name, isReported, .refl, .refl⟩

/-- A search without a finding has a graph without cycles. -/
theorem Searches.acyclic (searches : Searches graph found) (quiet : found.violations = [])
    (name : String) : ¬ TransGen (Edge graph) name name := by
  intro cycle
  obtain ⟨start, isReported, -⟩ := searches.covers cycle
  obtain ⟨reports, violations, starts⟩ := searches.sound.reports
  have none : reports = [] := by simpa [quiet] using violations.symm
  simp [none] at starts
  simp [starts] at isReported

end Searches

/-- A bundle without reported cycles has an acquisition graph without cycles. -/
theorem acyclic_of_cycles_eq_nil {bundle : Bundle} (quiet : cycles bundle = [])
    (name : String) : ¬ TransGen (Edge (dependencyGraph bundle)) name name := by
  obtain ⟨found, searches, reported⟩ := exists_searches bundle
  exact searches.acyclic (reported ▸ quiet) name

/-- The search for cycles comes to an end, and no bound on its depth has a part in what it
finds. Each report prints a cycle of the acquisition graph, and no two reports start alike. Every
strongly connected part with a cycle has a report of a cycle that lies in it, so that nothing is
reported exactly when there is no cycle. -/
theorem cycles_sound_and_complete (bundle : Bundle) :
    (∃ search, Searches (dependencyGraph bundle) search ∧
      (∀ other, Searches (dependencyGraph bundle) other → other = search) ∧
      cycles bundle = search.violations) ∧
    (∃ found : List (Cycle (dependencyGraph bundle)),
      cycles bundle = found.map Cycle.violation ∧ (found.map Cycle.start).Nodup ∧
      ∀ name, TransGen (Edge (dependencyGraph bundle)) name name →
        ∃ cycle ∈ found, ∀ other ∈ cycle.names, Connected (dependencyGraph bundle) name other) ∧
    (cycles bundle = [] ↔ ∀ name, ¬ TransGen (Edge (dependencyGraph bundle)) name name) := by
  obtain ⟨search, searches, reported⟩ := exists_searches bundle
  obtain ⟨found, violations, starts⟩ := searches.sound.reports
  refine ⟨⟨search, searches, fun other again => searches.unique again, reported⟩,
    ⟨found, reported.trans violations, ?_, ?_⟩, ?_⟩
  · rw [← starts]
    exact List.nodup_reverse.2 searches.sound.distinct
  · intro name onCycle
    obtain ⟨start, isReported, connected⟩ := searches.covers onCycle
    rw [← List.mem_reverse, starts] at isReported
    obtain ⟨cycle, member, isStart⟩ := List.mem_map.1 isReported
    refine ⟨cycle, member, fun other inCycle => ?_⟩
    rw [← isStart] at connected
    exact connected.trans (cycle.connected_of_mem inCycle)
  · constructor
    · exact acyclic_of_cycles_eq_nil
    · intro acyclic
      cases found with
      | nil => exact reported.trans violations
      | cons cycle rest => exact absurd cycle.comes_back (acyclic cycle.start)

end RequestFlow.Validation
