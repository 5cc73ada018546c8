import RestModel.Support.Basic

/-! # Accounts of requested operations

Every operation that is requested is supported and bound to a route, or else there
is one issue about it. Excluding operations keeps the account. -/

namespace RestModel

theorem Operation.name_injective {operation other : Operation}
    (equal : operation.name = other.name) : operation = other := by
  cases operation <;> cases other <;> first | rfl | exact absurd equal (by decide)

/-- Routes have a blank in them, and names of operations have none. -/
theorem Operation.route_ne_name (operation : Operation) (verb : Verb) (path : String) :
    verb.route path ≠ operation.name := by
  intro equal
  have blank : ' ' ∈ (verb.route path).toList := by simp [Verb.route]
  rw [equal] at blank
  cases operation <;> exact absurd blank (by decide)

/-- The number of issues about a subject. -/
def Issue.countAbout (subject : String) (issues : List Issue) : Nat :=
  (issues.map (·.subject)).count subject

private theorem Issue.countAbout_append (subject : String) (issues others : List Issue) :
    countAbout subject (issues ++ others) =
      countAbout subject issues + countAbout subject others := by
  simp [countAbout]

private theorem Issue.countAbout_eq_zero {subject : String} {issues : List Issue}
    (different : ∀ issue ∈ issues, issue.subject ≠ subject) : countAbout subject issues = 0 := by
  apply List.count_eq_zero.mpr
  intro member
  rcases List.mem_map.mp member with ⟨issue, isIssue, equal⟩
  exact different issue isIssue equal

private theorem Issue.countAbout_operation (resource : String) (operation other : Operation)
    (reason : IssueReason) (message : String) :
    countAbout other.name [⟨resource, operation.name, reason, message⟩] =
      if other = operation then 1 else 0 := by
  by_cases equal : other = operation
  · simp [countAbout, equal]
  · rw [if_neg equal]
    apply countAbout_eq_zero
    intro issue member same
    rw [List.mem_singleton.mp member] at same
    exact equal (Operation.name_injective same).symm

namespace Support

/-- The supported operations are the ones with routes, and each requested operation is
supported or has one issue. -/
structure Accounts (support : Support) (requested : List Operation) : Prop where
  bound : support.routes.map (·.1) = support.operations
  nodup : support.operations.Nodup
  subset : support.operations ⊆ requested
  issues : ∀ operation, Issue.countAbout operation.name support.issues =
    if operation ∈ requested ∧ operation ∉ support.operations then 1 else 0

theorem empty_accounts : empty.Accounts [] :=
  ⟨rfl, List.nodup_nil, List.nil_subset _, by simp [Support.empty, Issue.countAbout]⟩

variable {support : Support} {requested : List Operation}

theorem Accounts.route?_isSome_iff (accounts : support.Accounts requested)
    {operation : Operation} :
    (support.route? operation).isSome = true ↔ operation ∈ support.operations := by
  rw [← accounts.bound]
  simp [Support.route?]

/-- Issues about anything else than operations leave the account as it is. -/
theorem Accounts.append (accounts : support.Accounts requested) {issues : List Issue}
    (others : ∀ issue ∈ issues, ∀ operation : Operation, issue.subject ≠ operation.name)
    (methods : List ExtraMethod) :
    { support with
      extraMethods := methods
      issues := support.issues ++ issues : Support }.Accounts requested where
  bound := accounts.bound
  nodup := accounts.nodup
  subset := accounts.subset
  issues operation := by
    have none : Issue.countAbout operation.name issues = 0 :=
      Issue.countAbout_eq_zero fun issue member => others issue member operation
    have added := Issue.countAbout_append operation.name support.issues issues
    rw [none, Nat.add_zero] at added
    exact added.trans (accounts.issues operation)

theorem supports_eq_true_iff {operation : Operation} :
    support.supports operation = true ↔ operation ∈ support.operations := by
  simp [supports]

theorem mem_exclude {operation excluded : Operation} {resource : String} {reason : IssueReason}
    {message : String} :
    operation ∈ (support.exclude resource excluded reason message).operations ↔
      operation ∈ support.operations ∧ operation ≠ excluded := by
  unfold Support.exclude
  split
  · simp
  · next unsupported =>
      have absent : excluded ∉ support.operations :=
        fun supported => unsupported (supports_eq_true_iff.mpr supported)
      exact ⟨fun member => ⟨member, fun equal => absurd (equal ▸ member) absent⟩, And.left⟩

/-- The routes that are left are those of the operations that are left. -/
theorem routes_filter (operation : Operation) (routes : List (Operation × Route)) :
    (routes.filter fun (bound, _) => bound ≠ operation).map (·.1) =
      (routes.map (·.1)).filter (· ≠ operation) := by
  rw [List.filter_map]
  rfl

theorem Accounts.exclude (accounts : support.Accounts requested) (resource : String)
    (excluded : Operation) (reason : IssueReason) (message : String) :
    (support.exclude resource excluded reason message).Accounts requested := by
  unfold Support.exclude
  split
  · next isSupported =>
      have supported := supports_eq_true_iff.mp isSupported
      refine ⟨?_, accounts.nodup.filter _, ?_, ?_⟩
      · rw [routes_filter, accounts.bound]
      · exact fun operation member => accounts.subset (List.mem_filter.mp member).1
      · intro operation
        rw [Issue.countAbout_append, accounts.issues, Issue.countAbout_operation]
        by_cases equal : operation = excluded
        · subst equal
          simp [supported, accounts.subset supported]
        · simp [equal]
  · exact accounts

private theorem Accounts.fresh_operation (accounts : support.Accounts requested)
    {operation : Operation}
    (fresh : operation ∉ requested) : operation ∉ support.operations :=
  fun member => fresh (accounts.subset member)

private theorem Accounts.fresh_route (accounts : support.Accounts requested) {operation : Operation}
    (fresh : operation ∉ requested) : ∀ entry ∈ support.routes, entry.1 ≠ operation := by
  intro entry member equal
  apply accounts.fresh_operation fresh
  rw [← accounts.bound, ← equal]
  exact List.mem_map_of_mem member

/-- Operations are excluded on the way from one support to another. -/
structure Excludes (before after : Support) : Prop where
  extraMethods : after.extraMethods = before.extraMethods
  issues : before.issues ⊆ after.issues
  accounts {requested : List Operation} : before.Accounts requested → after.Accounts requested

theorem Excludes.refl (support : Support) : support.Excludes support :=
  ⟨rfl, List.Subset.refl _, id⟩

theorem Excludes.trans {first second third : Support} (left : first.Excludes second)
    (right : second.Excludes third) : first.Excludes third :=
  ⟨right.extraMethods.trans left.extraMethods, List.Subset.trans left.issues right.issues,
    fun accounts => right.accounts (left.accounts accounts)⟩

theorem excludes_note (support : Support) {issue : Issue}
    (other : ∀ operation : Operation, issue.subject ≠ operation.name) :
    support.Excludes (support.note issue) :=
  ⟨rfl, List.subset_append_left _ _,
    fun accounts => accounts.append (by simpa using other) support.extraMethods⟩

theorem excludes_exclude (support : Support) (resource : String) (operation : Operation)
    (reason : IssueReason) (message : String) :
    support.Excludes (support.exclude resource operation reason message) := by
  refine ⟨?_, ?_, fun accounts => accounts.exclude resource operation reason message⟩
  · unfold Support.exclude
    split <;> rfl
  · unfold Support.exclude
    split
    · exact List.subset_append_left _ _
    · exact List.Subset.refl _

theorem excludes_cascade (support : Support) (resource : String) :
    support.Excludes (support.cascade resource) := by
  unfold Support.cascade
  split
  · exact support.excludes_exclude resource _ _ _
  · exact .refl support

/-- An operation that is excluded as soon as it is requested leaves only an issue. -/
theorem Accounts.exclude_request (accounts : support.Accounts requested) {operation : Operation}
    (fresh : operation ∉ requested) (resource : String) (reason : IssueReason)
    (message : String) :
    (support.request operation).exclude resource operation reason message =
      support.note ⟨resource, operation.name, reason, message⟩ := by
  have supported : (support.request operation).supports operation = true := by
    simp [supports, request]
  have operations : (support.operations ++ [operation]).filter (· ≠ operation) =
      support.operations := by
    have others : support.operations.filter (· ≠ operation) = support.operations := by
      apply List.filter_eq_self.mpr
      intro other member
      have different : other ≠ operation := by
        rintro rfl
        exact accounts.fresh_operation fresh member
      exact decide_eq_true different
    rw [List.filter_append, others]
    simp
  have routes : (support.routes.filter fun (bound, _) => bound ≠ operation) = support.routes := by
    apply List.filter_eq_self.mpr
    intro entry member
    exact decide_eq_true (accounts.fresh_route fresh entry member)
  unfold Support.exclude
  rw [if_pos supported]
  simp only [request, Support.note, operations, routes]

/-- So does one that is excluded as soon as it is bound to a route. -/
theorem Accounts.exclude_bind (accounts : support.Accounts requested) {operation : Operation}
    (fresh : operation ∉ requested) (route : Route) (resource : String) (reason : IssueReason)
    (message : String) :
    ((support.request operation).bind operation route).exclude resource operation reason message =
      support.note ⟨resource, operation.name, reason, message⟩ := by
  rw [← accounts.exclude_request fresh]
  simp [Support.exclude, supports, request, bind]

theorem Accounts.request_bind (accounts : support.Accounts requested) {operation : Operation}
    (fresh : operation ∉ requested) (route : Route) :
    ((support.request operation).bind operation route).Accounts (requested ++ [operation]) where
  bound := by simp [request, bind, accounts.bound]
  nodup := by
    apply List.nodup_append.mpr
    refine ⟨accounts.nodup, List.pairwise_singleton _ operation, ?_⟩
    intro other member new isNew equal
    rw [List.mem_singleton.mp isNew] at equal
    exact accounts.fresh_operation fresh (equal ▸ member)
  subset := by
    intro other member
    rcases List.mem_append.mp member with earlier | new
    · exact List.mem_append_left _ (accounts.subset earlier)
    · exact List.mem_append_right _ new
  issues other := by
    have counted := accounts.issues other
    by_cases equal : other = operation
    · subst equal
      simpa [request, bind, fresh] using counted
    · simpa [request, bind, equal] using counted

theorem Accounts.note_fresh (accounts : support.Accounts requested) {operation : Operation}
    (fresh : operation ∉ requested) (resource : String) (reason : IssueReason)
    (message : String) :
    (support.note ⟨resource, operation.name, reason, message⟩).Accounts
      (requested ++ [operation]) where
  bound := accounts.bound
  nodup := accounts.nodup
  subset := List.Subset.trans accounts.subset (List.subset_append_left _ _)
  issues other := by
    have added := Issue.countAbout_append other.name support.issues
      [⟨resource, operation.name, reason, message⟩]
    rw [accounts.issues, Issue.countAbout_operation] at added
    apply added.trans
    by_cases equal : other = operation
    · subst equal
      simp [Support.note, fresh, accounts.fresh_operation fresh]
    · simp [Support.note, equal]

end Support
end RestModel
