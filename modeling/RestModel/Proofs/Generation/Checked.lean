import Mathlib.Data.List.Forall2
import RestModel.Generation.Basic
import RestModel.Proofs.Support.Agreement
import RestModel.Proofs.Support.Check

/-! # What a model is generated from

A model is generated from descriptors that passed their checks. While the types of a
resource are built, its support only loses operations, and never a method. -/

namespace RestModel

/-- Where a view of a result shows something, there is a result. -/
theorem exists_ok_of_view {result : Except ε α} {view : α → β} {shown : β}
    (viewed : result.toOption.map view = some shown) :
    ∃ value, result = .ok value ∧ view value = shown := by
  cases result with
  | error failure => contradiction
  | ok value => exact ⟨value, rfl, Option.some.inj viewed⟩

namespace Generator

variable {generator : Generator}

theorem generate_eq_ok_iff {descriptors : List (String × Descriptor)} {model : ClientModel} :
    generator.generate descriptors = .ok model ↔
      ∃ checked, generator.checkAll (inOrder descriptors) = .ok checked ∧
        model = ⟨(generator.buildAll .empty checked).1,
          Keyed.values (generator.buildAll .empty checked).2.build.types,
          ComponentMention.sort (generator.buildAll .empty checked).2.build.mentions⟩ := by
  unfold generate
  cases generator.checkAll (inOrder descriptors) with
  | error failure => simp [bind, Except.bind]
  | ok checked => simp [bind, Except.bind, pure, Except.pure, eq_comm]

theorem checkAll_cons_eq_ok_iff {descriptor : Descriptor} {rest : List Descriptor}
    {checked : List (Descriptor × Support)} :
    generator.checkAll (descriptor :: rest) = .ok checked ↔
      ∃ support others, generator.checker.check descriptor = .ok support ∧
        generator.checkAll rest = .ok others ∧ checked = (descriptor, support) :: others := by
  rw [checkAll]
  cases first : generator.checker.check descriptor with
  | error failure => simp [bind, Except.bind]
  | ok support =>
      cases later : generator.checkAll rest with
      | error failure => simp [bind, Except.bind]
      | ok others => simp [bind, Except.bind, pure, Except.pure, eq_comm]

theorem checkAll_eq_ok {descriptors : List Descriptor} {checked : List (Descriptor × Support)}
    (isOk : generator.checkAll descriptors = .ok checked) :
    checked.map (·.1) = descriptors ∧
      ∀ entry ∈ checked, generator.checker.check entry.1 = .ok entry.2 := by
  induction descriptors generalizing checked with
  | nil =>
      have none : checked = [] := (Except.ok.inj isOk).symm
      subst none
      exact ⟨rfl, fun _ member => absurd member List.not_mem_nil⟩
  | cons descriptor rest induction =>
      rcases checkAll_cons_eq_ok_iff.mp isOk with ⟨support, others, first, later, rfl⟩
      rcases induction later with ⟨ofRest, accounts⟩
      refine ⟨by simp [ofRest], ?_⟩
      intro entry member
      rcases List.mem_cons.mp member with rfl | member
      · exact first
      · exact accounts entry member

/-- What holds of every resource, in whatever state it is built, holds of all resources. -/
theorem buildAll_forall₂ {relates : Descriptor → ResourceModel → Prop}
    {checked : List (Descriptor × Support)}
    (built : ∀ entry ∈ checked, ∀ state,
      relates entry.1 (generator.buildResource entry.1 entry.2 state).1)
    (state : GenerationState) :
    List.Forall₂ relates (checked.map (·.1)) (generator.buildAll state checked).1 := by
  induction checked generalizing state with
  | nil => exact .nil
  | cons first rest induction =>
      have others := induction fun entry member => built entry (List.mem_cons_of_mem first member)
      exact .cons (built first List.mem_cons_self state) (others _)

theorem generate_forall₂ {relates : Descriptor → ResourceModel → Prop}
    (built : ∀ descriptor support state, generator.checker.check descriptor = .ok support →
      relates descriptor (generator.buildResource descriptor support state).1)
    {descriptors : List (String × Descriptor)} {model : ClientModel}
    (generated : generator.generate descriptors = .ok model) :
    List.Forall₂ relates (inOrder descriptors) model.resources := by
  rcases generate_eq_ok_iff.mp generated with ⟨checked, isOk, rfl⟩
  rcases checkAll_eq_ok isOk with ⟨ofDescriptors, passed⟩
  rw [← ofDescriptors]
  exact buildAll_forall₂ (fun entry member state => built _ _ state (passed entry member)) .empty

/-! ## Sources of types -/

/-- A source is an override, or else the route of a supported candidate. -/
theorem cases_of_overrideOrFirst {url? : Option RouteOverride} {part : Part} {support : Support}
    {candidates : List (Operation × Part)} {source : TypeSource}
    (isSource : overrideOrFirst url? part support candidates = some source) :
    (∃ url, url? = some url ∧ source = overrideSource url part) ∨
      url? = none ∧ ∃ candidate ∈ candidates, ∃ route, support.route? candidate.1 = some route ∧
        source = ⟨some candidate.1, route, candidate.2⟩ := by
  cases url? with
  | some url => exact .inl ⟨url, rfl, (Option.some.inj isSource).symm⟩
  | none =>
      rcases List.exists_of_findSome?_eq_some isSource with ⟨candidate, listed, made⟩
      rcases Option.map_eq_some_iff.mp made with ⟨route, bound, rfl⟩
      exact .inr ⟨rfl, candidate, listed, route, bound, rfl⟩

theorem isPresent_eq_true_iff {source : TypeSource} : generator.isPresent source = true ↔
    ∃ found, generator.document.operationSchema source.route.verb source.route.path
      source.part = .ok (some found) := by
  unfold isPresent
  split
  · next found isFound => simp [isFound]
  · next absent => simpa using absent

theorem operation_eq_model {builder : Builder} {verb : Verb} {path : String} {part : Part}
    {found : PartSchema}
    (isFound : builder.document.operationSchema verb path part = .ok (some found))
    (name : String) : builder.operation name verb path part = builder.model name found.schema := by
  rw [Builder.operation, isFound]

/-! ## Supports that only lose operations -/

section Failures

variable {source : TypeSource}

theorem excludeFailed_of_some {operation : Operation}
    (isOperation : source.operation = some operation) (resource : String) (problem : BuildError)
    (support : Support) : excludeFailed resource source problem support =
      (support.exclude resource operation problem.reason problem.message).cascade resource := by
  simp [excludeFailed, isOperation]

theorem excludeFailed_of_none (noOperation : source.operation = none) (resource : String)
    (problem : BuildError) (support : Support) :
    excludeFailed resource source problem support =
      (support.note ⟨resource, source.route.display, problem.reason, problem.message⟩).cascade
        resource := by
  simp [excludeFailed, TypeSource.label, noOperation]

theorem excludes_note_route (support : Support) (resource : String) (route : Route)
    (reason : IssueReason) (message : String) :
    support.Excludes (support.note ⟨resource, route.display, reason, message⟩) :=
  support.excludes_note fun operation => operation.route_ne_name _ _

private theorem excludes_excludeFailed (resource : String) (source : TypeSource)
    (problem : BuildError)
    (support : Support) : support.Excludes (excludeFailed resource source problem support) := by
  cases isOperation : source.operation with
  | none =>
      rw [excludeFailed_of_none isOperation]
      exact (excludes_note_route support _ _ _ _).trans (Support.excludes_cascade _ _)
  | some operation =>
      rw [excludeFailed_of_some isOperation]
      exact (support.excludes_exclude resource _ _ _).trans (Support.excludes_cascade _ _)

private theorem routes_excludeFailed_subset (resource : String) (source : TypeSource)
    (problem : BuildError) (support : Support) :
    (excludeFailed resource source problem support).routes ⊆ support.routes := by
  cases isOperation : source.operation with
  | none =>
      rw [excludeFailed_of_none isOperation]
      exact Support.routes_cascade_subset _ _
  | some operation =>
      rw [excludeFailed_of_some isOperation]
      exact List.Subset.trans (Support.routes_cascade_subset _ _)
        (Support.routes_exclude_subset _ _ _ _ _)

end Failures

theorem excludes_buildOrDrop (resource name : String) (role : TypeRole)
    (source : Option TypeSource) (support : Support) (state : GenerationState) :
    support.Excludes
      (generator.buildOrDrop resource name role source support state).support := by
  unfold buildOrDrop
  split
  · exact .refl support
  · split
    · exact .refl support
    · exact excludes_excludeFailed _ _ _ _

theorem routes_buildOrDrop_subset (generator : Generator) (resource name : String)
    (role : TypeRole) (source : Option TypeSource) (support : Support)
    (state : GenerationState) :
    (generator.buildOrDrop resource name role source support state).support.routes ⊆
      support.routes := by
  unfold buildOrDrop
  split
  · exact List.Subset.refl _
  · split
    · exact List.Subset.refl _
    · exact routes_excludeFailed_subset _ _ _ _

/-- The support that is left when the types of a resource's answers and requests are
built. -/
theorem excludes_requestType (generator : Generator) (descriptor : Descriptor)
    (support : Support) (state : GenerationState) :
    support.Excludes (generator.requestType descriptor
      (generator.responseType descriptor support state)).support :=
  (excludes_buildOrDrop _ _ _ _ _ _).trans (excludes_buildOrDrop _ _ _ _ _ _)

theorem routes_requestType_subset (generator : Generator) (descriptor : Descriptor)
    (support : Support) (state : GenerationState) :
    (generator.requestType descriptor
      (generator.responseType descriptor support state)).support.routes ⊆ support.routes :=
  List.Subset.trans (routes_buildOrDrop_subset _ _ _ _ _ _ _)
    (routes_buildOrDrop_subset _ _ _ _ _ _ _)

end Generator

end RestModel
