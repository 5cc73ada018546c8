import RestModel.Proofs.Support.Methods

/-! # Supports that agree

Two supports of a resource agree if they differ in nothing that decides about
operations: not in what is supported, nor in its routes, nor in whether Read is lost
to its shape. Methods and the wording of issues may differ. -/

namespace RestModel.Support

/-- Two supports of a resource agree on everything that decides about operations. -/
structure Agrees (resource : String) (support other : Support) : Prop where
  operations : support.operations = other.operations
  routes : support.routes = other.routes
  lostRead : support.lostReadToShape resource = other.lostReadToShape resource

variable {resource : String} {support other : Support}

theorem Agrees.refl (support : Support) : support.Agrees resource support := ⟨rfl, rfl, rfl⟩

theorem Agrees.route? (agrees : support.Agrees resource other) (operation : Operation) :
    support.route? operation = other.route? operation := by
  rw [Support.route?, Support.route?, agrees.routes]

theorem Agrees.supports (agrees : support.Agrees resource other) (operation : Operation) :
    support.supports operation = other.supports operation := by
  rw [Support.supports, Support.supports, agrees.operations]

theorem lostReadToShape_note (support : Support) (resource : String) (issue : Issue) :
    (support.note issue).lostReadToShape resource = (support.lostReadToShape resource ||
      (issue.resource == resource && issue.subject == Operation.read.name &&
        issue.reason.isShape)) := by
  simp [lostReadToShape, note, List.any_append]

/-- The wording of an issue does not matter. -/
theorem Agrees.note (agrees : support.Agrees resource other) (subject : String)
    (reason : IssueReason) (message otherMessage : String) :
    (support.note ⟨resource, subject, reason, message⟩).Agrees resource
      (other.note ⟨resource, subject, reason, otherMessage⟩) := by
  refine ⟨agrees.operations, agrees.routes, ?_⟩
  rw [lostReadToShape_note, lostReadToShape_note, agrees.lostRead]

/-- Nor does an issue about a method. -/
theorem Agrees.note_method (agrees : support.Agrees resource other) (method : ExtraMethod)
    (rejection : Rejection) :
    (support.note ⟨resource, method.route, rejection.reason, rejection.message⟩).Agrees resource
      other := by
  refine ⟨agrees.operations, agrees.routes, ?_⟩
  have notRead : (method.route == Operation.read.name) = false :=
    beq_eq_false_iff_ne.mpr (Operation.read.route_ne_name method.verb method.path)
  rw [lostReadToShape_note, agrees.lostRead, notRead]
  simp

theorem Agrees.exclude (agrees : support.Agrees resource other) (operation : Operation)
    (reason : IssueReason) (message otherMessage : String) :
    (support.exclude resource operation reason message).Agrees resource
      (other.exclude resource operation reason otherMessage) := by
  unfold Support.exclude
  rw [← agrees.supports operation]
  split
  · have noted := agrees.note operation.name reason message otherMessage
    refine ⟨?_, ?_, noted.lostRead⟩
    · rw [agrees.operations]
    · rw [agrees.routes]
  · exact agrees

theorem Agrees.cascade (agrees : support.Agrees resource other) :
    (support.cascade resource).Agrees resource (other.cascade resource) := by
  unfold Support.cascade
  rw [← agrees.lostRead]
  split
  · exact agrees.exclude .list .cascadedExclusion _ _
  · exact agrees

/-! ## Routes that are left -/

theorem routes_exclude_subset (support : Support) (resource : String) (operation : Operation)
    (reason : IssueReason) (message : String) :
    (support.exclude resource operation reason message).routes ⊆ support.routes := by
  unfold Support.exclude
  split
  · exact fun _ member => (List.mem_filter.mp member).1
  · exact List.Subset.refl _

theorem routes_cascade_subset (support : Support) (resource : String) :
    (support.cascade resource).routes ⊆ support.routes := by
  unfold Support.cascade
  split
  · exact routes_exclude_subset _ _ _ _ _
  · exact List.Subset.refl _

end RestModel.Support
