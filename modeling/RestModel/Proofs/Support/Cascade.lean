import RestModel.Proofs.Support.Check

/-! # Consequences that are drawn

A Read that is lost to its shape takes List with it, and then nothing more follows
from it: only an issue about Read could call for it again. -/

namespace RestModel

namespace Support

/-- List is not supported where a Read is lost to its shape. -/
def IsCascaded (support : Support) (resource : String) : Prop :=
  support.lostReadToShape resource = true → .list ∉ support.operations

variable {support : Support} {resource : String}

private theorem isCascaded_cascade (support : Support) (resource : String) :
    (support.cascade resource).IsCascaded resource := by
  intro lost member
  have kept := (Checker.mem_cascade.mp member).2 rfl
  have same : support.cascade resource = support := if_neg kept
  exact kept (same ▸ lost)

theorem IsCascaded.mem_cascade (cascaded : support.IsCascaded resource) {operation : Operation} :
    operation ∈ (support.cascade resource).operations ↔ operation ∈ support.operations := by
  rw [Checker.mem_cascade]
  constructor
  · exact And.left
  · intro supported
    refine ⟨supported, ?_⟩
    rintro rfl lost
    exact cascaded lost supported

/-- Issues that are not about operations say nothing about Read. -/
theorem lostReadToShape_append {issues : List Issue}
    (others : ∀ issue ∈ issues, ∀ operation : Operation, issue.subject ≠ operation.name)
    (methods : List ExtraMethod) :
    { support with
      extraMethods := methods
      issues := support.issues ++ issues : Support }.lostReadToShape resource =
      support.lostReadToShape resource := by
  have none : issues.any (fun issue => issue.resource == resource &&
      issue.subject == Operation.read.name && issue.reason.isShape) = false := by
    apply List.any_eq_false.mpr
    intro issue member
    simp [others issue member .read]
  simp [lostReadToShape, none]

theorem IsCascaded.append (cascaded : support.IsCascaded resource) {issues : List Issue}
    (others : ∀ issue ∈ issues, ∀ operation : Operation, issue.subject ≠ operation.name)
    (methods : List ExtraMethod) :
    { support with
      extraMethods := methods
      issues := support.issues ++ issues : Support }.IsCascaded resource := by
  unfold IsCascaded
  rw [lostReadToShape_append others methods]
  exact cascaded

theorem IsCascaded.note (cascaded : support.IsCascaded resource) {issue : Issue}
    (other : ∀ operation : Operation, issue.subject ≠ operation.name) :
    (support.note issue).IsCascaded resource :=
  cascaded.append (by simpa using other) support.extraMethods

/-- The loss of anything but Read has no consequences. -/
theorem IsCascaded.exclude (cascaded : support.IsCascaded resource) {operation : Operation}
    (notRead : operation ≠ .read) (reason : IssueReason) (message : String) :
    (support.exclude resource operation reason message).IsCascaded resource := by
  intro lost member
  apply cascaded ?_ (mem_exclude.mp member).1
  unfold Support.exclude at lost
  split at lost
  · have other : operation.name ≠ Operation.read.name := mt Operation.name_injective notRead
    simpa [lostReadToShape, other] using lost
  · exact lost

end Support

/-- A check draws the consequences of what it excludes. -/
theorem Checker.check_isCascaded {checker : Checker} {descriptor : Descriptor}
    {support : Support} (checked : checker.check descriptor = .ok support) :
    support.IsCascaded descriptor.name := by
  rcases check_eq_ok checked with ⟨operations, isOk, rfl⟩
  rcases checker.addExtraMethods_eq descriptor.name descriptor.extraMethods operations with
    ⟨kept, issues, equal, _, about⟩
  have cascaded : operations.IsCascaded descriptor.name := by
    unfold checkOperations at isOk
    split at isOk
    · cases isOk
      nofun
    · rcases checkSet_settles isOk with ⟨settled, _, rfl⟩
      exact settled.isCascaded_cascade descriptor.name
  rw [equal]
  exact cascaded.append (fun _ member => about.ne_operation member) _

end RestModel
