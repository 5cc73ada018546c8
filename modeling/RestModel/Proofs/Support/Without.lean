import RestModel.Proofs.Support.Agreement
import RestModel.Proofs.Support.Check

/-! # Checks without a method

A method can be removed from the descriptors of a resource. A check passes then if it
passed before, and comes to the same for everything but that method. -/

namespace RestModel

/-- Whether a descriptor keeps one of its methods when a method of a resource is removed. -/
def Descriptor.keeps (descriptor : Descriptor) (resource : String) (method other : ExtraMethod) :
    Bool :=
  !(descriptor.name == resource && other.sameRoute method)

/-- A descriptor without a method of a resource. -/
def Descriptor.without (descriptor : Descriptor) (resource : String) (method : ExtraMethod) :
    Descriptor :=
  { descriptor with
    extraMethods := descriptor.extraMethods.filter (descriptor.keeps resource method) }

/-- Descriptors without a method of a resource. -/
def Descriptor.allWithout (descriptors : List (String × Descriptor)) (resource : String)
    (method : ExtraMethod) : List (String × Descriptor) :=
  descriptors.map fun (key, descriptor) => (key, descriptor.without resource method)

theorem Descriptor.keeps_eq_false_iff {descriptor : Descriptor} {resource : String}
    {method other : ExtraMethod} : descriptor.keeps resource method other = false ↔
      descriptor.name = resource ∧ other.sameRoute method = true := by
  simp [keeps]

theorem ExtraMethod.sameRoute_eq_true_iff {method other : ExtraMethod} :
    method.sameRoute other = true ↔ method.verb = other.verb ∧ method.path = other.path := by
  simp [sameRoute]

namespace Checker

variable {checker : Checker} {resource : String} {support other : Support}

theorem checkExtraMethod_of_sameRoute {method other : ExtraMethod}
    (same : method.sameRoute other = true) :
    checker.checkExtraMethod method = checker.checkExtraMethod other := by
  rcases ExtraMethod.sameRoute_eq_true_iff.mp same with ⟨verb, path⟩
  simp only [checkExtraMethod, ExtraMethod.route, verb, path]

/-- Checking only some of several methods makes no difference to the operations, nor to
those methods. -/
theorem addExtraMethods_filter (checker : Checker) (kept : ExtraMethod → Bool)
    (methods : List ExtraMethod) (agrees : support.Agrees resource other)
    (fewer : other.extraMethods = support.extraMethods.filter kept) :
    (methods.foldl (checker.addExtraMethod resource) support).Agrees resource
        ((methods.filter kept).foldl (checker.addExtraMethod resource) other) ∧
      ((methods.filter kept).foldl (checker.addExtraMethod resource) other).extraMethods =
        (methods.foldl (checker.addExtraMethod resource) support).extraMethods.filter kept := by
  induction methods generalizing support other with
  | nil => exact ⟨agrees, fewer⟩
  | cons method rest induction =>
      rw [List.foldl_cons]
      cases checked : checker.checkExtraMethod method with
      | ok passed =>
          have added : ∀ support, checker.addExtraMethod resource support method =
              { support with extraMethods := support.extraMethods ++ [method] } := by
            simp [addExtraMethod, checked]
          rw [added]
          by_cases isKept : kept method = true
          · rw [List.filter_cons_of_pos isKept, List.foldl_cons, added]
            apply induction
            · exact ⟨agrees.operations, agrees.routes, agrees.lostRead⟩
            · simp [fewer, isKept]
          · rw [List.filter_cons_of_neg isKept]
            apply induction
            · exact ⟨agrees.operations, agrees.routes, agrees.lostRead⟩
            · simp [fewer, isKept]
      | error rejection =>
          have noted : ∀ support, checker.addExtraMethod resource support method = support.note
              ⟨resource, method.route, rejection.reason, rejection.message⟩ := by
            simp [addExtraMethod, checked]
          rw [noted]
          by_cases isKept : kept method = true
          · rw [List.filter_cons_of_pos isKept, List.foldl_cons, noted]
            exact induction (agrees.note _ _ _ _) fewer
          · rw [List.filter_cons_of_neg isKept]
            exact induction (agrees.note_method method rejection) fewer

/-- Methods that are added pass their check. -/
theorem addExtraMethods_passed (checker : Checker) (methods : List ExtraMethod) :
    ∀ method ∈ (methods.foldl (checker.addExtraMethod resource) support).extraMethods,
      method ∈ support.extraMethods ∨ checker.checkExtraMethod method = .ok () := by
  induction methods generalizing support with
  | nil => exact fun _ member => .inl member
  | cons first rest induction =>
      intro method member
      rcases induction method member with before | passed
      · unfold addExtraMethod at before
        split at before
        · next passed =>
            rcases List.mem_append.mp before with before | isFirst
            · exact .inl before
            · exact .inr (List.mem_singleton.mp isFirst ▸ passed)
        · exact .inl before
      · exact .inr passed

theorem check_passed {descriptor : Descriptor} (isOk : checker.check descriptor = .ok support) :
    ∀ method ∈ support.extraMethods, checker.checkExtraMethod method = .ok () := by
  rcases check_eq_ok isOk with ⟨operations, operationsOk, rfl⟩
  intro method member
  rcases checker.addExtraMethods_passed _ method member with before | passed
  · rw [(checkOperations_accounts operationsOk).2] at before
    contradiction
  · exact passed

/-- Less is named where a method is missing. -/
theorem undeclared?_without {descriptor : Descriptor} (method : ExtraMethod)
    (isNone : checker.undeclared? descriptor = none) :
    checker.undeclared? (descriptor.without resource method) = none := by
  rw [undeclared?_eq_none_iff] at isNone ⊢
  intro named member
  apply isNone
  rcases List.mem_append.mp member with ofMethod | ofOverride
  · exact List.mem_append_left _ (List.map_subset _ List.filter_sublist.subset ofMethod)
  · exact List.mem_append_right _ ofOverride

/-- A check of a descriptor and one without a method, with the same outcome but for that
method and for issues. -/
structure IsWithout (resource : String) (method : ExtraMethod)
    (checked other : Descriptor × Support) : Prop where
  descriptor : other.1 = checked.1.without resource method
  support : checked.2.Agrees checked.1.name other.2
  extraMethods : other.2.extraMethods =
    checked.2.extraMethods.filter (checked.1.keeps resource method)

theorem check_without {descriptor : Descriptor} (resource : String) (method : ExtraMethod)
    (isOk : checker.check descriptor = .ok support) :
    ∃ other, checker.check (descriptor.without resource method) = .ok other ∧
      IsWithout resource method (descriptor, support)
        (descriptor.without resource method, other) := by
  rcases check_eq_ok isOk with ⟨operations, operationsOk, rfl⟩
  have declared : checker.undeclared? descriptor = none := by
    unfold check at isOk
    split at isOk
    · contradiction
    · next declared => exact declared
  have noMethods := (checkOperations_accounts operationsOk).2
  rcases checker.addExtraMethods_filter (descriptor.keeps resource method)
    descriptor.extraMethods (.refl operations : operations.Agrees descriptor.name operations)
    (by rw [noMethods]; rfl) with ⟨agrees, fewer⟩
  refine ⟨_, ?_, rfl, agrees, fewer⟩
  unfold check
  rw [undeclared?_without method declared]
  have sameOperations : checker.checkOperations (descriptor.without resource method) =
      .ok operations := operationsOk
  rw [sameOperations]
  rfl

end Checker

end RestModel
