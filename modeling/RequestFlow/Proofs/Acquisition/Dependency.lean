import Mathlib.Logic.Relation
import RequestFlow.Proofs.Acquisition.CycleSearch
import RequestFlow.Proofs.Run.Resolution
import RequestFlow.Validation.Bundle

/-!
Contract: which credentials the acquisition of a credential may ask for.

Owns: the relation between credentials that a run follows, and how the acquisition
graph of the validation covers it: an edge is missing only where a stage has a
credential target that leads to a reference. The graph takes no entries from such a
stage, while a run resolves the reference.

Does not own: the end of runs (`Proofs.Acquisition.Termination`).
-/

namespace RequestFlow

open Relation Validation

namespace Bundle

/-- A stage is run when a credential is acquired by one of its methods. -/
def AcquiredBy (bundle : Bundle) (name : String) (stage : Stage) : Prop :=
  ∃ credential, bundle.credential? name = some credential ∧
    ∃ method ∈ credential.methods.values, stage ∈ method.requests

/-- A stage resolves to a content that asks for a credential. -/
def AsksFor (bundle : Bundle) (stage : Stage) (needed : String) : Prop :=
  ∃ resolved, bundle.resolve stage = .ok resolved ∧
    ∃ entry ∈ resolved.content.auth, (AuthRef.parse entry).name = needed

/-- Acquiring a credential may ask for another one. -/
def Needs (bundle : Bundle) (name needed : String) : Prop :=
  ∃ stage, bundle.AcquiredBy name stage ∧ bundle.AsksFor stage needed

/-- A stage has a credential target, and the acquisition stage there is a reference. -/
def PointsAtReference (bundle : Bundle) (stage : Stage) : Prop :=
  ∃ id method position environment target targetEnvironment,
    stage = .reference (.credential id method position) environment ∧
      bundle.acquisitionStage id method position = .ok (.reference target targetEnvironment)

/-- A need that arises from a stage that points at a reference. -/
def NeedsThroughReference (bundle : Bundle) (name needed : String) : Prop :=
  ∃ stage, bundle.AcquiredBy name stage ∧ bundle.PointsAtReference stage ∧
    bundle.AsksFor stage needed

theorem NeedsThroughReference.needs {bundle : Bundle} {name needed : String}
    (need : bundle.NeedsThroughReference name needed) : bundle.Needs name needed := by
  obtain ⟨stage, acquired, -, asks⟩ := need
  exact ⟨stage, acquired, asks⟩

end Bundle

/-! ## Entries of a stage -/

/-- The entries that the graph takes from a stage are those of its content, unless
the stage points at a reference. -/
theorem stageAuth_eq_of_resolve {bundle : Bundle} {stage : Stage} {resolved : ResolvedStage}
    (found : bundle.resolve stage = .ok resolved)
    (direct : ¬ bundle.PointsAtReference stage) :
    stageAuth bundle stage = resolved.content.auth := by
  cases stage with
  | inline content environment =>
      cases found
      rfl
  | reference target environment =>
      cases target with
      | operation id =>
          simp only [Bundle.resolve, Bundle.resolveTarget, Bundle.resolveOperation] at found
          split at found
          · next operation present =>
            cases found
            simp [stageAuth, present, ResolvedStage.ofOperation]
          · cases found
      | request id =>
          simp only [Bundle.resolve, Bundle.resolveTarget, Bundle.resolveRequest] at found
          split at found
          · next content present =>
            cases found
            simp [stageAuth, present, ResolvedStage.ofContent]
          · cases found
      | credential id method position =>
          simp only [Bundle.resolve, Bundle.resolveTarget] at found
          cases acquisition : bundle.acquisitionStage id method position with
          | error error =>
              rw [acquisition] at found
              cases found
          | ok acquired =>
              cases acquired with
              | reference target targetEnvironment =>
                  exact absurd ⟨id, method, position, environment, target, targetEnvironment,
                    rfl, acquisition⟩ direct
              | inline content inlineEnvironment =>
                  rw [acquisition] at found
                  cases found
                  obtain ⟨credential, named, declared, chosen, present⟩ :=
                    Bundle.acquisitionStage_eq_ok_iff.1 acquisition
                  simp [stageAuth, declared, chosen, present, inlineAuth,
                    ResolvedStage.ofContent]

/-! ## The acquisition graph -/

theorem mem_nameSet {name : String} {names : List String} :
    name ∈ nameSet names ↔ name ∈ names := by
  rw [nameSet, Dict.mem_keys_ofList]
  simp

/-- The edges of a graph that declarations were added to. -/
private theorem edge_foldl_iff (bundle : Bundle) (name next : String)
    (declarations : List (String × Credential)) (graph : Dict (List String)) :
    Edge (declarations.foldl (fun graph (name, credential) =>
        graph.insert name (nameSet ((graph.get? name).getD [] ++ dependencies bundle credential)))
      graph) name next ↔
      Edge graph name next ∨
        ∃ credential, (name, credential) ∈ declarations ∧
          next ∈ dependencies bundle credential := by
  induction declarations generalizing graph with
  | nil => simp
  | cons declaration rest inductionHypothesis =>
      obtain ⟨declared, credential⟩ := declaration
      rw [List.foldl_cons, inductionHypothesis]
      have inserted : Edge (graph.insert declared
            (nameSet ((graph.get? declared).getD [] ++ dependencies bundle credential)))
            name next ↔
          Edge graph name next ∨ name = declared ∧ next ∈ dependencies bundle credential := by
        by_cases same : name = declared
        · simp [Edge, Dict.get?_insert, same, mem_nameSet]
        · simp [Edge, Dict.get?_insert, same]
      rw [inserted, or_assoc]
      refine or_congr_right ?_
      constructor
      · rintro (⟨rfl, member⟩ | ⟨other, later, member⟩)
        · exact ⟨credential, List.mem_cons_self, member⟩
        · exact ⟨other, List.mem_cons_of_mem _ later, member⟩
      · rintro ⟨other, among, member⟩
        rcases List.mem_cons.1 among with here | later
        · cases here
          exact .inl ⟨rfl, member⟩
        · exact .inr ⟨other, later, member⟩

/-- The graph leads from a credential to what its declarations depend on. -/
theorem edge_dependencyGraph_iff {bundle : Bundle} {name next : String} :
    Edge (dependencyGraph bundle) name next ↔
      ∃ credential, (name, credential) ∈ bundle.credentialGroups.flatMap Dict.entries ∧
        next ∈ dependencies bundle credential := by
  rw [dependencyGraph, edge_foldl_iff]
  simp [Edge]

/-- A need has an edge in the graph or arises through a reference. -/
theorem Bundle.Needs.edge_or_throughReference {bundle : Bundle} {name needed : String}
    (need : bundle.Needs name needed) :
    Edge (dependencyGraph bundle) name needed ∨ bundle.NeedsThroughReference name needed := by
  obtain ⟨stage, acquired, asks⟩ := need
  by_cases pointing : bundle.PointsAtReference stage
  · exact .inr ⟨stage, acquired, pointing, asks⟩
  · left
    obtain ⟨credential, declared, method, methodMember, stageMember⟩ := acquired
    obtain ⟨resolved, found, entry, entryMember, named⟩ := asks
    refine edge_dependencyGraph_iff.2
      ⟨credential, Bundle.mem_entries_of_credential? declared, ?_⟩
    refine List.mem_flatMap.2 ⟨method, methodMember, List.mem_flatMap.2
      ⟨stage, stageMember, List.mem_map.2 ⟨entry, ?_, named⟩⟩⟩
    rw [stageAuth_eq_of_resolve found pointing]
    exact entryMember

/-! ## Cycles of valid bundles -/

theorem cycles_eq_nil_of_validate {bundle : Bundle} (valid : bundle.validate = .ok ()) :
    cycles bundle = [] := by
  have none := Bundle.validate_eq_ok_iff.1 valid
  simp only [Bundle.violations, List.append_eq_nil_iff] at none
  exact none.1.1.1.2

/-- A chain of needs follows the graph, or some need of it arises through a reference. -/
private theorem chain_edges_or_throughReference {bundle : Bundle} {first last : String}
    (chain : TransGen bundle.Needs first last) :
    TransGen (Edge (dependencyGraph bundle)) first last ∨
      ∃ name needed, ReflTransGen bundle.Needs first name ∧
        bundle.NeedsThroughReference name needed ∧ ReflTransGen bundle.Needs needed last := by
  induction chain with
  | single need =>
      rcases need.edge_or_throughReference with edge | through
      · exact .inl (.single edge)
      · exact .inr ⟨first, _, .refl, through, .refl⟩
  | @tail middle last before need inductionHypothesis =>
      rcases inductionHypothesis with edges | ⟨name, needed, reached, through, onward⟩
      · rcases need.edge_or_throughReference with edge | through
        · exact .inl (edges.tail edge)
        · exact .inr ⟨middle, last, before.to_reflTransGen, through, .refl⟩
      · exact .inr ⟨name, needed, reached, through, onward.tail need⟩

/-- Needs of a valid bundle run in a cycle only through a reference that the
acquisition graph does not follow. -/
theorem acyclic_needs_iff {bundle : Bundle} (valid : bundle.validate = .ok ()) :
    (∀ name, ¬ TransGen bundle.Needs name name) ↔
      ∀ name needed, bundle.NeedsThroughReference name needed →
        ¬ ReflTransGen bundle.Needs needed name := by
  constructor
  · intro acyclic name needed need back
    exact acyclic name (TransGen.head' need.needs back)
  · intro noReturn start cycle
    rcases chain_edges_or_throughReference cycle with edges | ⟨name, needed, reached, through, onward⟩
    · exact acyclic_of_cycles_eq_nil (cycles_eq_nil_of_validate valid) start edges
    · exact noReturn name needed through (onward.trans reached)

end RequestFlow
