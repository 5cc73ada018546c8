import RestModel.Proofs.Generation.Endpoints
import RestModel.Proofs.Sorting

/-! # How generating fails

There is no model if and only if a descriptor names something that is not declared:
an operation, or a path of a resource. Of several failures the one of the least name
is reported. Nothing else fails, so schemas never matter. -/

namespace RestModel

namespace Checker

/-- None of the verbs of resources is declared under a path. -/
def LacksEndpoints (checker : Checker) (path : String) : Prop :=
  ∀ verb ∈ [Verb.get, .post, .put, .patch, .delete],
    checker.document.hasEndpoint verb path = false

/-- Neither the collection nor the items of a resource have any endpoints. -/
def LacksResource (checker : Checker) (path : String) : Prop :=
  checker.LacksEndpoints (checker.resourcePaths path).collection ∧
    ∀ item, (checker.resourcePaths path).item = some item → checker.LacksEndpoints item

/-- A descriptor names an operation or a resource that is not declared. -/
def IsMistaken (checker : Checker) (descriptor : Descriptor) : Prop :=
  (∃ named ∈ namedOperations descriptor,
      checker.document.hasEndpoint named.1.verb named.1.path = false) ∨
    ∃ set, descriptor.operationSet = some set ∧ checker.LacksResource set.path

/-- What is wrong with a descriptor: the first operation that it names in vain, or else the
path of its operations. -/
inductive Mistakes (checker : Checker) (descriptor : Descriptor) : Failure → Prop where
  | operation {earlier later : List (Route × String)} {route : Route} {marker : String} :
      namedOperations descriptor = earlier ++ (route, marker) :: later →
      (∀ named ∈ earlier, checker.document.hasEndpoint named.1.verb named.1.path = true) →
      checker.document.hasEndpoint route.verb route.path = false →
      Mistakes checker descriptor (.unknownOperation descriptor.name marker route.verb route.path)
  | path {set : OperationSet} :
      (∀ named ∈ namedOperations descriptor,
        checker.document.hasEndpoint named.1.verb named.1.path = true) →
      descriptor.operationSet = some set → checker.LacksResource set.path →
      Mistakes checker descriptor (.unknownResourcePath descriptor.name set.path)

variable {checker : Checker} {descriptor : Descriptor} {failure : Failure}

private theorem hasAnyEndpoint_eq_false_iff {path : String} :
    checker.hasAnyEndpoint path = false ↔ checker.LacksEndpoints path := by
  unfold hasAnyEndpoint
  rw [List.any_eq_false]
  simp only [Bool.not_eq_true]
  rfl

private theorem declaresResource_eq_false_iff {path : String} :
    checker.declaresResource (checker.resourcePaths path) = false ↔
      checker.LacksResource path := by
  unfold declaresResource LacksResource
  rw [Bool.or_eq_false_iff, hasAnyEndpoint_eq_false_iff]
  cases (checker.resourcePaths path).item <;> simp [hasAnyEndpoint_eq_false_iff]

private theorem undeclared?_eq_some_iff : checker.undeclared? descriptor = some failure ↔
    ∃ earlier route marker later,
      namedOperations descriptor = earlier ++ (route, marker) :: later ∧
      (∀ named ∈ earlier, checker.document.hasEndpoint named.1.verb named.1.path = true) ∧
      checker.document.hasEndpoint route.verb route.path = false ∧
      failure = .unknownOperation descriptor.name marker route.verb route.path := by
  unfold undeclared?
  rw [Option.map_eq_some_iff]
  constructor
  · rintro ⟨⟨route, marker⟩, found, rfl⟩
    rcases List.find?_eq_some_iff_append.mp found with ⟨undeclared, earlier, later, split, declared⟩
    refine ⟨earlier, route, marker, later, split, ?_, by simpa using undeclared, rfl⟩
    intro named member
    simpa using declared named member
  · rintro ⟨earlier, route, marker, later, split, declared, undeclared, rfl⟩
    refine ⟨(route, marker), List.find?_eq_some_iff_append.mpr ?_, rfl⟩
    refine ⟨by simpa using undeclared, earlier, later, split, ?_⟩
    intro named member
    simpa using declared named member

private theorem checkOperations_eq_error_iff : checker.checkOperations descriptor = .error failure ↔
    ∃ set, descriptor.operationSet = some set ∧ checker.LacksResource set.path ∧
      failure = .unknownResourcePath descriptor.name set.path := by
  unfold checkOperations
  cases descriptor.operationSet with
  | none => simp
  | some set =>
      simp only [Option.some.injEq, checkSet]
      cases declares : checker.declaresResource (checker.resourcePaths set.path) with
      | true =>
          have known : ¬checker.LacksResource set.path := by
            rw [← declaresResource_eq_false_iff, declares]
            nofun
          simp [known]
      | false =>
          have lacks := declaresResource_eq_false_iff.mp declares
          simp [lacks, eq_comm]

private theorem mistakes_iff : checker.Mistakes descriptor failure ↔
    checker.undeclared? descriptor = some failure ∨
      checker.undeclared? descriptor = none ∧
        checker.checkOperations descriptor = .error failure := by
  rw [undeclared?_eq_some_iff, undeclared?_eq_none_iff, checkOperations_eq_error_iff]
  constructor
  · intro mistakes
    cases mistakes with
    | operation split declared isUndeclared =>
        exact .inl ⟨_, _, _, _, split, declared, isUndeclared, rfl⟩
    | path declared isSet lacks => exact .inr ⟨declared, _, isSet, lacks, rfl⟩
  · rintro (⟨_, _, _, _, split, declared, isUndeclared, rfl⟩ | ⟨declared, set, isSet, lacks, rfl⟩)
    · exact .operation split declared isUndeclared
    · exact .path declared isSet lacks

/-- A check fails with what is wrong with a descriptor. -/
theorem check_eq_error_iff :
    checker.check descriptor = .error failure ↔ checker.Mistakes descriptor failure := by
  rw [mistakes_iff]
  unfold Checker.check
  cases checker.undeclared? descriptor with
  | some found => simp
  | none => cases checker.checkOperations descriptor <;> simp

private theorem isMistaken_iff : checker.IsMistaken descriptor ↔
    ∃ failure, checker.Mistakes descriptor failure := by
  constructor
  · intro mistaken
    cases undeclared : checker.undeclared? descriptor with
    | some failure => exact ⟨failure, mistakes_iff.mpr (.inl undeclared)⟩
    | none =>
        have allDeclared := undeclared?_eq_none_iff.mp undeclared
        rcases mistaken with ⟨named, isNamed, isUndeclared⟩ | ⟨set, isSet, lacks⟩
        · rw [allDeclared named isNamed] at isUndeclared
          contradiction
        · exact ⟨_, .path allDeclared isSet lacks⟩
  · rintro ⟨failure, mistakes⟩
    cases mistakes with
    | @operation earlier later route marker split _ isUndeclared =>
        exact .inl ⟨(route, marker), by simp [split], isUndeclared⟩
    | path _ isSet lacks => exact .inr ⟨_, isSet, lacks⟩

end Checker

/-- Two descriptions declare the same paths and the same operations, of whatever schemas. -/
structure Document.SameEndpoints (document other : Document) : Prop where
  paths : Keyed.keys document.paths = Keyed.keys other.paths
  endpoints : ∀ verb path, document.hasEndpoint verb path = other.hasEndpoint verb path

theorem Document.SameEndpoints.symm {document other : Document}
    (same : document.SameEndpoints other) : other.SameEndpoints document :=
  ⟨same.paths.symm, fun verb path => (same.endpoints verb path).symm⟩

namespace Checker

variable {checker other : Checker}

private theorem lacksResource_eq (same : checker.document.SameEndpoints other.document)
    (path : String) :
    checker.LacksResource path = other.LacksResource path := by
  unfold LacksResource LacksEndpoints resourcePaths
  simp only [same.paths, same.endpoints]

private theorem mistakes_of_sameEndpoints (same : checker.document.SameEndpoints other.document)
    {descriptor : Descriptor} {failure : Failure} (mistakes : checker.Mistakes descriptor failure) :
    other.Mistakes descriptor failure := by
  cases mistakes with
  | operation split declared undeclared =>
      simp only [same.endpoints] at declared undeclared
      exact .operation split declared undeclared
  | path declared isSet lacks =>
      simp only [same.endpoints] at declared
      exact .path declared isSet (lacksResource_eq same _ ▸ lacks)

private theorem mistakes_iff_of_sameEndpoints (same : checker.document.SameEndpoints other.document)
    {descriptor : Descriptor} {failure : Failure} :
    checker.Mistakes descriptor failure ↔ other.Mistakes descriptor failure :=
  ⟨mistakes_of_sameEndpoints same, mistakes_of_sameEndpoints same.symm⟩

private theorem isMistaken_eq_of_sameEndpoints
    (same : checker.document.SameEndpoints other.document) :
    checker.IsMistaken = other.IsMistaken := by
  funext descriptor
  rw [isMistaken_iff, isMistaken_iff]
  simp only [mistakes_iff_of_sameEndpoints same]

end Checker

/-! ## What is reported -/

namespace Generator

variable {generator : Generator} {failure : Failure}

private theorem checkAll_eq_error_iff {descriptors : List Descriptor} :
    generator.checkAll descriptors = .error failure ↔
      ∃ descriptor, IsFirstFound generator.checker.IsMistaken descriptors descriptor ∧
        generator.checker.Mistakes descriptor failure := by
  induction descriptors with
  | nil =>
      constructor
      · nofun
      · rintro ⟨descriptor, ⟨earlier, later, split, _⟩, _⟩
        simp at split
  | cons first rest induction =>
      rw [checkAll]
      simp only [firstFound_cons_iff]
      cases checked : generator.checker.check first with
      | error found =>
          have mistakes := Checker.check_eq_error_iff.mp checked
          have mistaken := Checker.isMistaken_iff.mpr ⟨found, mistakes⟩
          have same : ∀ other, generator.checker.Mistakes first other ↔ found = other := by
            simp [← Checker.check_eq_error_iff, checked]
          simp [bind, Except.bind, mistaken, same]
      | ok support =>
          have notMistaken : ¬generator.checker.IsMistaken first := by
            rw [Checker.isMistaken_iff]
            simp [← Checker.check_eq_error_iff, checked]
          simp only [notMistaken, false_and, not_false_eq_true, true_and, false_or, ← induction]
          cases generator.checkAll rest <;> simp [bind, Except.bind, pure, Except.pure]

/-- Descriptors are taken by name, and those of one name in the order of their declarations. -/
theorem generate_eq_error_iff {descriptors : List (String × Descriptor)} :
    generator.generate descriptors = .error failure ↔
      ∃ descriptor, IsLeastFound (fun left right => !decide (right.name < left.name))
        generator.checker.IsMistaken (Keyed.values descriptors) descriptor ∧
        generator.checker.Mistakes descriptor failure := by
  have transitive : ∀ first second third : Descriptor,
      (!decide (second.name < first.name)) = true → (!decide (third.name < second.name)) = true →
      (!decide (third.name < first.name)) = true := by
    intro first second third before after
    simp only [Bool.not_eq_true', decide_eq_false_iff_not, String.not_lt] at before after ⊢
    exact String.le_trans before after
  have total : ∀ left right : Descriptor,
      (!decide (right.name < left.name) || !decide (left.name < right.name)) = true := by
    intro left right
    simpa only [Bool.or_eq_true, Bool.not_eq_true', decide_eq_false_iff_not, String.not_lt]
      using String.le_total left.name right.name
  have sorted : generator.generate descriptors = .error failure ↔
      generator.checkAll (inOrder descriptors) = .error failure := by
    unfold generate
    cases generator.checkAll (inOrder descriptors) <;> simp [bind, Except.bind, pure, Except.pure]
  rw [sorted, checkAll_eq_error_iff]
  simp only [inOrder, firstFound_mergeSort_iff transitive total]

private theorem not_isMistaken_of_generated {descriptors : List (String × Descriptor)}
    {model : ClientModel} (generated : generator.generate descriptors = .ok model) :
    ∀ descriptor ∈ Keyed.values descriptors, ¬generator.checker.IsMistaken descriptor := by
  intro descriptor declared mistaken
  rcases Checker.isMistaken_iff.mp mistaken with ⟨failure, mistakes⟩
  rcases generate_eq_ok_iff.mp generated with ⟨checked, isOk, _⟩
  rcases checkAll_eq_ok isOk with ⟨listed, passed⟩
  have isChecked : descriptor ∈ checked.map (·.1) := listed ▸ List.mem_mergeSort.mpr declared
  rcases List.mem_map.mp isChecked with ⟨entry, isEntry, rfl⟩
  have failed := Checker.check_eq_error_iff.mpr mistakes
  rw [passed entry isEntry] at failed
  contradiction

/-- Generating fails if and only if a descriptor names what is not declared, and then with
what is wrong with the mistaken descriptor of the least name. Schemas and policies make no
difference. -/
theorem generate_fails_iff (generator : Generator) (descriptors : List (String × Descriptor)) :
    (∀ failure, generator.generate descriptors = .error failure ↔
      ∃ earlier descriptor later, Keyed.values descriptors = earlier ++ descriptor :: later ∧
        generator.checker.Mistakes descriptor failure ∧
        (∀ other ∈ earlier, generator.checker.IsMistaken other →
          descriptor.name < other.name) ∧
        ∀ other ∈ later, generator.checker.IsMistaken other → descriptor.name ≤ other.name) ∧
    ((∃ failure, generator.generate descriptors = .error failure) ↔
      ∃ descriptor ∈ Keyed.values descriptors, generator.checker.IsMistaken descriptor) ∧
    ∀ other : Generator, other.document.SameEndpoints generator.document → ∀ failure,
      other.generate descriptors = .error failure ↔
        generator.generate descriptors = .error failure := by
  refine ⟨?_, ?_, ?_⟩
  · intro failure
    rw [generate_eq_error_iff]
    simp only [IsLeastFound, Bool.not_eq_false', decide_eq_true_eq, Bool.not_eq_true',
      decide_eq_false_iff_not, String.not_lt]
    constructor
    · rintro ⟨descriptor, ⟨earlier, later, split, _, less, notLess⟩, mistakes⟩
      exact ⟨earlier, descriptor, later, split, mistakes, less, notLess⟩
    · rintro ⟨earlier, descriptor, later, split, mistakes, less, notLess⟩
      have mistaken := Checker.isMistaken_iff.mpr ⟨failure, mistakes⟩
      exact ⟨descriptor, ⟨earlier, later, split, mistaken, less, notLess⟩, mistakes⟩
  · constructor
    · rintro ⟨failure, failed⟩
      rcases generate_eq_error_iff.mp failed with
        ⟨descriptor, ⟨earlier, later, split, mistaken, _⟩, _⟩
      exact ⟨descriptor, by simp [split], mistaken⟩
    · rintro ⟨descriptor, declared, mistaken⟩
      cases generated : generator.generate descriptors with
      | error failure => exact ⟨failure, rfl⟩
      | ok model => exact absurd mistaken (not_isMistaken_of_generated generated _ declared)
  · intro other same failure
    have sameChecks : other.checker.document.SameEndpoints generator.checker.document := same
    rw [generate_eq_error_iff, generate_eq_error_iff,
      Checker.isMistaken_eq_of_sameEndpoints sameChecks]
    simp only [Checker.mistakes_iff_of_sameEndpoints sameChecks]

/-- An invoice of unknown path. -/
def strayInvoice : Descriptor :=
  { Descriptor.empty "Invoice" with operationSet := some (.of [.read] "/invoices" "invoices") }

/-- A bill that can be paid in a way that is not declared. -/
def strayBill : Descriptor :=
  { Descriptor.empty "Bill" with
    operationSet := some (.of [.read] "/bills" "bills")
    extraMethods :=
      [⟨.post, "/orders/cancel", none, "cancel"⟩, ⟨.post, "/bills/pay", none, "pay"⟩] }

/-- The bill fails before the invoice, and the order that comes between them passes. -/
theorem generate_fails_bill :
    orders.checker.IsMistaken strayInvoice ∧
      orders.generate [("1", strayInvoice), ("2", orderDescriptor), ("3", strayBill)] =
        .error (.unknownOperation "Bill" "pay" .post "/bills/pay") := by
  have lacks : orders.checker.LacksResource "/invoices" :=
    Checker.declaresResource_eq_false_iff.mp (by decide +kernel)
  have fails := (generate_fails_iff orders
    [("1", strayInvoice), ("2", orderDescriptor), ("3", strayBill)]).1
  refine ⟨.inr ⟨_, rfl, lacks⟩, (fails _).mpr ⟨[strayInvoice, orderDescriptor], strayBill, [], ?_⟩⟩
  refine ⟨rfl, ?_, ?_, fun _ none => absurd none List.not_mem_nil⟩
  · have cancels : orders.checker.document.hasEndpoint .post "/orders/cancel" = true := by
      decide +kernel
    have paysNot : orders.checker.document.hasEndpoint .post "/bills/pay" = false := by
      decide +kernel
    have earlier : ∀ named ∈ [((⟨.post, "/orders/cancel"⟩ : Route), "cancel")],
        orders.checker.document.hasEndpoint named.1.verb named.1.path = true := by
      intro named member
      cases List.mem_singleton.mp member
      exact cancels
    let pay : Route := ⟨.post, "/bills/pay"⟩
    have mistakes : orders.checker.Mistakes strayBill
        (.unknownOperation strayBill.name "pay" pay.verb pay.path) :=
      .operation rfl earlier paysNot
    exact mistakes
  · have less : "Bill" < "Invoice" ∧ "Bill" < "Order" := by decide +kernel
    intro other member _
    rcases List.mem_cons.mp member with rfl | member
    · exact less.1
    · cases List.mem_singleton.mp member
      exact less.2

end Generator

end RestModel
