import RestModel.Proofs.Generation.Checked

/-! # What a generated model accounts for

A resource accounts for everything that its descriptor requests. An operation can
be lost to its route, to its answers, with Read, or to a build that fails; each
time an issue takes its place. -/

namespace RestModel

/-- An operation is not requested, or a resource supports it, or there is one issue about
it. -/
def ResourceModel.AccountsFor (resource : ResourceModel) (descriptor : Descriptor)
    (operation : Operation) : Prop :=
  let requested := operation ∈ descriptor.requested
  let present := operation ∈ resource.operations.map (·.operation)
  let issues := Issue.countAbout operation.name resource.issues
  (¬requested ∧ ¬present ∧ issues = 0) ∨ (requested ∧ present ∧ issues = 0) ∨
    (requested ∧ ¬present ∧ issues = 1)

/-- The model of a method stands for the method as it is declared. -/
def SupportedMethod.StandsFor (model : SupportedMethod) (method : ExtraMethod) : Prop :=
  model.verb = method.verb ∧ model.path = method.path ∧ model.wait = method.wait

theorem ResourceModel.supports_eq_true_iff {resource : ResourceModel} {operation : Operation} :
    resource.supports operation = true ↔ operation ∈ resource.operations.map (·.operation) := by
  simp [supports, operation?]

/-- The methods of a resource are declared methods in the order of their declarations, and
there is an issue about each declared method that is missing. -/
def ResourceModel.AccountsForMethods (resource : ResourceModel) (descriptor : Descriptor) : Prop :=
  ∃ kept, List.Forall₂ SupportedMethod.StandsFor resource.extraMethods kept ∧
    kept.Sublist descriptor.extraMethods ∧
    ∀ method, kept.count method < descriptor.extraMethods.count method →
      ∃ issue ∈ resource.issues, issue.subject = method.route

/-- The model of a resource accounts for everything that its descriptor requests. -/
structure ResourceModel.Accounts (resource : ResourceModel) (descriptor : Descriptor) : Prop where
  name : resource.name = descriptor.name
  operations : ∀ operation, resource.AccountsFor descriptor operation
  methods : resource.AccountsForMethods descriptor

namespace Generator

variable {generator : Generator}

/-- The methods of a resource are kept in order, or noted. -/
theorem supportedMethods_thins (generator : Generator) (resource : String)
    (methods : List ExtraMethod) (state : GenerationState) :
    let supported := generator.supportedMethods resource state methods
    ∃ kept, List.Forall₂ SupportedMethod.StandsFor supported.1 kept ∧
      Thins (ExtraMethod.IsNotedIn supported.2.2.1) methods kept ∧
      Issue.AreAboutMethods supported.2.2.1 := by
  induction methods generalizing state with
  | nil => exact ⟨[], .nil, .nil, nofun⟩
  | cons method rest induction =>
      unfold supportedMethods
      dsimp only
      split
      · next problem after _ =>
          rcases induction after with ⟨kept, standFor, thins, about⟩
          refine ⟨kept, standFor, ?_, ?_⟩
          · apply Thins.drop ⟨_, List.mem_cons_self, rfl⟩
            exact thins.mono fun _ noted => noted.of_subset (List.subset_cons_self _ _)
          · intro other member
            rcases List.mem_cons.mp member with rfl | member
            · exact ⟨method, rfl⟩
            · exact about other member
      · next after _ =>
          rcases induction after with ⟨kept, standFor, thins, about⟩
          exact ⟨method :: kept, .cons ⟨rfl, rfl, rfl⟩ standFor, .keep thins, about⟩

/-- Properties have a dot in their names as issues show them, and operations have none. -/
theorem omissionIssue_ne_name (resource : String) (omitted : OmittedProperty)
    (operation : Operation) : (omissionIssue resource omitted).subject ≠ operation.name := by
  intro equal
  have dot : '.' ∈ (omissionIssue resource omitted).subject.toList := by simp [omissionIssue]
  rw [equal] at dot
  cases operation <;> exact absurd dot (by decide)

private theorem accountsFor_of_accounts {support : Support} {descriptor : Descriptor}
    {resource : ResourceModel} (accounts : support.Accounts descriptor.requested)
    (operations : resource.operations.map (·.operation) = support.operations)
    (issues : resource.issues = support.issues) (operation : Operation) :
    resource.AccountsFor descriptor operation := by
  have counted := accounts.issues operation
  have subset := @accounts.subset operation
  unfold ResourceModel.AccountsFor
  rw [operations, issues, counted]
  by_cases requested : operation ∈ descriptor.requested
  · by_cases present : operation ∈ support.operations <;> simp [requested, present]
  · have absent : operation ∉ support.operations := fun present => requested (subset present)
    simp [requested, absent]

theorem operations_buildResource (generator : Generator) {support : Support}
    {requested : List Operation} (accounts : support.Accounts requested)
    (descriptor : Descriptor) (state : GenerationState) :
    (generator.buildResource descriptor support state).1.operations.map (·.operation) =
      (generator.requestType descriptor
        (generator.responseType descriptor support state)).support.operations := by
  have left := (generator.excludes_requestType descriptor support state).accounts accounts
  rw [← left.bound]
  exact List.map_map

theorem buildResource_accounts (generator : Generator) {descriptor : Descriptor}
    {support : Support} (accounts : support.Accounts descriptor.requested)
    (thins : Thins (ExtraMethod.IsNotedIn support.issues) descriptor.extraMethods
      support.extraMethods) (state : GenerationState) :
    (generator.buildResource descriptor support state).1.Accounts descriptor := by
  let resource := (generator.buildResource descriptor support state).1
  let response := generator.responseType descriptor support state
  let request := generator.requestType descriptor response
  let search := generator.searchParams descriptor.name request.support request.state
  have excludes := generator.excludes_requestType descriptor support state
  let methods := generator.supportedMethods descriptor.name search.2 request.support.extraMethods
  let omissions := methods.2.2.2.build.takeOmitted.1.map (omissionIssue descriptor.name)
  rcases generator.supportedMethods_thins descriptor.name
      request.support.extraMethods search.2 with ⟨kept, standFor, later, about⟩
  have issues : resource.issues = request.support.issues ++ (methods.2.2.1 ++ omissions) :=
    List.append_assoc _ _ _
  refine ⟨rfl, ?_, ?_⟩
  · intro operation
    have others : ∀ issue ∈ methods.2.2.1 ++ omissions, ∀ operation : Operation,
        issue.subject ≠ operation.name := by
      intro issue member operation
      rcases List.mem_append.mp member with ofMethod | ofOmission
      · exact about.ne_operation ofMethod operation
      · rcases List.mem_map.mp ofOmission with ⟨omitted, _, rfl⟩
        exact omissionIssue_ne_name _ omitted operation
    have final := (excludes.accounts accounts).append others request.support.extraMethods
    have operations := generator.operations_buildResource accounts descriptor state
    exact accountsFor_of_accounts final operations issues operation
  · have noted : ∀ method : ExtraMethod, method.IsNotedIn support.issues →
        method.IsNotedIn resource.issues := by
      intro method noted
      rw [issues]
      exact noted.of_subset (List.Subset.trans excludes.issues (List.subset_append_left _ _))
    have notedLater : ∀ method : ExtraMethod, method.IsNotedIn methods.2.2.1 →
        method.IsNotedIn resource.issues := by
      intro method noted
      rw [issues]
      exact noted.of_subset
        (List.Subset.trans (List.subset_append_left _ _) (List.subset_append_right _ _))
    rw [← excludes.extraMethods] at thins
    have all := (thins.mono noted).trans (later.mono notedLater)
    exact ⟨kept, standFor, all.sublist, fun _ missing => all.noted_of_count_lt missing⟩

private theorem buildAll_accounts {checked : List (Descriptor × Support)}
    (accounts : ∀ entry ∈ checked, generator.checker.check entry.1 = .ok entry.2)
    (state : GenerationState) :
    List.Forall₂ (fun descriptor resource => resource.Accounts descriptor)
      (checked.map (·.1)) (generator.buildAll state checked).1 := by
  apply buildAll_forall₂
  intro entry member state
  have support := Checker.check_accounts (accounts entry member)
  exact generator.buildResource_accounts support.1 support.2 state

/-- Every resource accounts for all operations and methods of its descriptor. -/
theorem generate_accounts {descriptors : List (String × Descriptor)} {model : ClientModel}
    (generated : generator.generate descriptors = .ok model) :
    List.Forall₂ (fun descriptor resource => resource.Accounts descriptor)
      (inOrder descriptors) model.resources := by
  rcases generate_eq_ok_iff.mp generated with ⟨checked, isOk, rfl⟩
  rcases checkAll_eq_ok isOk with ⟨ofDescriptors, accounts⟩
  rw [← ofDescriptors]
  exact buildAll_accounts accounts .empty

/-- Of the operations on trees two are kept and three are lost. -/
theorem generate_accounts_trees :
    ∃ model, generate ⟨treeService, .standard⟩ [("Tree", treeDescriptor)] = .ok model ∧
      model.issues.map (·.subject) =
        ["Create", "Read", "List", "POST /nodes/\x7bid\x7d/move"] ∧
      List.Forall₂ (fun descriptor resource => resource.Accounts descriptor)
        (inOrder [("Tree", treeDescriptor)]) model.resources := by
  have issues : (generate ⟨treeService, .standard⟩ [("Tree", treeDescriptor)]).toOption.map
      (·.issues.map (·.subject)) =
        some ["Create", "Read", "List", "POST /nodes/\x7bid\x7d/move"] := by decide +kernel
  cases generated : generate ⟨treeService, .standard⟩ [("Tree", treeDescriptor)] with
  | error failure => simp [generated, Except.toOption] at issues
  | ok model =>
      rw [generated] at issues
      exact ⟨model, rfl, Option.some.inj issues, generate_accounts generated⟩

end Generator
end RestModel
