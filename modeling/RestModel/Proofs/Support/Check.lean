import RestModel.Proofs.Support.Methods
import RestModel.Proofs.Support.Standards

/-! # What a check supports

A check takes the requested operations one after another. Each is supported if it
passes on its own; at the end List is lost if the answers to Read are misshapen. -/

namespace RestModel

private theorem Operation.nodup_listing (operations : List Operation) :
    (listing operations).Nodup := by
  have nodup : all.Nodup := by decide
  exact nodup.filter _

theorem OperationSet.nodup (set : OperationSet) : set.operations.Nodup :=
  set.listed ▸ Operation.nodup_listing set.operations

/-- The operations that a descriptor requests. -/
def Descriptor.requested (descriptor : Descriptor) : List Operation :=
  match descriptor.operationSet with
  | none => []
  | some set => set.operations

namespace Checker

variable {checker : Checker} {resource : String} {paths : ResourcePaths} {support : Support}
  {requested : List Operation}

theorem Binds.unique {operation : Operation} {route other : Route}
    (binds : checker.Binds paths operation route) (also : checker.Binds paths operation other) :
    route = other := by
  have same := (route_eq_ok_iff.mpr binds).symm.trans (route_eq_ok_iff.mpr also)
  exact Except.ok.inj same

theorem Passes.not_misshapesRead (passes : checker.Passes paths .read) :
    ¬checker.MisshapesRead paths := by
  rcases passes with ⟨route, binds, found, declares, isObject⟩
  rintro ⟨other, otherFound, otherBinds, otherDeclares, misshapen⟩
  cases binds.unique otherBinds
  unfold Declares at declares otherDeclares
  rw [declares] at otherDeclares
  cases otherDeclares
  exact misshapen isObject

/-- An operation is added with its route if it passes its check. -/
theorem addOperation_of_passes {operation : Operation} (passes : checker.Passes paths operation) :
    ∃ route, checker.addOperation resource paths support operation =
      (support.request operation).bind operation route := by
  rcases passes with ⟨route, binds, suits⟩
  have bound := route_eq_ok_iff.mpr binds
  have checked := (checkRoute_eq_ok_iff binds.declared).mpr suits
  exact ⟨route, by simp [addOperation, bound, checked]⟩

/-- An operation that does not pass leaves an issue. Only a read whose answers are
misshapen leaves one about its shape. -/
theorem addOperation_of_not_passes (accounts : support.Accounts requested)
    {operation : Operation} (fresh : operation ∉ requested)
    (fails : ¬checker.Passes paths operation) :
    ∃ reason message, checker.addOperation resource paths support operation =
        support.note ⟨resource, operation.name, reason, message⟩ ∧
      (operation = .read → (reason.isShape = true ↔ checker.MisshapesRead paths)) := by
  unfold addOperation
  dsimp only
  split
  · next message unbound =>
      refine ⟨.missingOperation, message, accounts.exclude_request fresh _ _ _, ?_⟩
      rintro rfl
      have unread : ¬checker.MisshapesRead paths := by
        rintro ⟨route, _, binds, _⟩
        rw [route_eq_ok_iff.mpr binds] at unbound
        contradiction
      simp [IssueReason.isShape, unread]
  · next route bound =>
      have binds := route_eq_ok_iff.mp bound
      split
      · next rejection rejected =>
          refine ⟨rejection.reason, rejection.message, accounts.exclude_bind fresh _ _ _ _, ?_⟩
          rintro rfl
          rw [isShape_of_checkRead rejected]
          constructor
          · rintro ⟨found, declares, misshapen⟩
            exact ⟨route, found, binds, declares, misshapen⟩
          · rintro ⟨other, found, otherBinds, declares, misshapen⟩
            cases binds.unique otherBinds
            exact ⟨found, declares, misshapen⟩
      · next checked =>
          exact absurd ⟨route, binds, (checkRoute_eq_ok_iff binds.declared).mp checked⟩ fails

/-- What is settled once some operations are checked on their own. -/
structure Settles (checker : Checker) (resource : String) (paths : ResourcePaths)
    (support : Support) (requested : List Operation) : Prop where
  accounts : support.Accounts requested
  extraMethods : support.extraMethods = []
  supports : ∀ operation, operation ∈ support.operations ↔
    operation ∈ requested ∧ checker.Passes paths operation
  lostRead : support.lostReadToShape resource = true ↔
    .read ∈ requested ∧ checker.MisshapesRead paths

private theorem settles_empty : checker.Settles resource paths .empty [] :=
  ⟨Support.empty_accounts, rfl, by simp [Support.empty],
    by simp [Support.lostReadToShape, Support.empty]⟩

theorem lostReadToShape_note (operation : Operation) (reason : IssueReason) (message : String) :
    (support.note ⟨resource, operation.name, reason, message⟩).lostReadToShape resource = true ↔
      support.lostReadToShape resource = true ∨ operation = .read ∧ reason.isShape = true := by
  have isRead : operation.name = Operation.read.name ↔ operation = .read :=
    ⟨Operation.name_injective, congrArg Operation.name⟩
  simp [Support.lostReadToShape, Support.note, isRead]

/-- An operation that passes is settled as supported. -/
theorem Settles.passed (settles : checker.Settles resource paths support requested)
    {operation : Operation} (fresh : operation ∉ requested)
    (passes : checker.Passes paths operation) (route : Route) :
    checker.Settles resource paths ((support.request operation).bind operation route)
      (requested ++ [operation]) where
  accounts := settles.accounts.request_bind fresh route
  extraMethods := settles.extraMethods
  supports other := by
    have earlier := settles.supports other
    by_cases equal : other = operation
    · subst equal
      simp [Support.request, Support.bind, passes]
    · simpa [Support.request, Support.bind, equal] using earlier
  lostRead := by
    apply settles.lostRead.trans
    by_cases equal : operation = .read
    · subst equal
      simp [fresh, passes.not_misshapesRead]
    · simp [Ne.symm equal]

/-- An operation that fails is settled by an issue. -/
theorem Settles.failed (settles : checker.Settles resource paths support requested)
    {operation : Operation} (fresh : operation ∉ requested)
    (fails : ¬checker.Passes paths operation) {reason : IssueReason} (message : String)
    (isShape : operation = .read → (reason.isShape = true ↔ checker.MisshapesRead paths)) :
    checker.Settles resource paths
      (support.note ⟨resource, operation.name, reason, message⟩) (requested ++ [operation]) where
  accounts := settles.accounts.note_fresh fresh _ _ _
  extraMethods := settles.extraMethods
  supports other := by
    apply (settles.supports other).trans
    by_cases equal : other = operation
    · subst equal
      simp [fails]
    · simp [equal]
  lostRead := by
    rw [lostReadToShape_note, settles.lostRead]
    by_cases equal : operation = .read
    · subst equal
      simp [fresh, isShape rfl]
    · simp [equal, Ne.symm equal]

theorem Settles.addOperation (settles : checker.Settles resource paths support requested)
    {operation : Operation} (fresh : operation ∉ requested) :
    checker.Settles resource paths (checker.addOperation resource paths support operation)
      (requested ++ [operation]) := by
  by_cases passes : checker.Passes paths operation
  · rcases addOperation_of_passes passes with ⟨route, added⟩
    rw [added]
    exact settles.passed fresh passes route
  · rcases addOperation_of_not_passes settles.accounts fresh passes with
      ⟨reason, message, added, isShape⟩
    rw [added]
    exact settles.failed fresh passes message isShape

theorem Settles.addOperations {operations : List Operation}
    (settles : checker.Settles resource paths support requested)
    (nodup : (requested ++ operations).Nodup) :
    checker.Settles resource paths
      (operations.foldl (checker.addOperation resource paths) support)
      (requested ++ operations) := by
  induction operations generalizing support requested with
  | nil => simpa using settles
  | cons operation rest induction =>
      have fresh : operation ∉ requested := by
        intro member
        exact (List.nodup_append.mp nodup).2.2 operation member operation List.mem_cons_self rfl
      have regrouped : requested ++ operation :: rest = (requested ++ [operation]) ++ rest := by
        simp
      rw [regrouped] at nodup ⊢
      exact induction (settles.addOperation fresh) nodup

theorem mem_cascade {operation : Operation} :
    operation ∈ (support.cascade resource).operations ↔ operation ∈ support.operations ∧
      (operation = .list → ¬support.lostReadToShape resource = true) := by
  unfold Support.cascade
  by_cases lost : support.lostReadToShape resource = true
  · rw [if_pos lost, Support.mem_exclude]
    simp [lost]
  · simp [lost]

theorem undeclared?_eq_none_iff {descriptor : Descriptor} :
    checker.undeclared? descriptor = none ↔ ∀ named ∈ namedOperations descriptor,
      checker.document.hasEndpoint named.1.verb named.1.path = true := by
  unfold undeclared?
  rw [Option.map_eq_none_iff, List.find?_eq_none]
  simp

theorem check_eq_ok {descriptor : Descriptor} (checked : checker.check descriptor = .ok support) :
    ∃ operations, checker.checkOperations descriptor = .ok operations ∧
      support = descriptor.extraMethods.foldl (checker.addExtraMethod descriptor.name)
        operations := by
  unfold Checker.check at checked
  split at checked
  · contradiction
  · split at checked
    · contradiction
    · next operations isOk => exact ⟨operations, isOk, (Except.ok.inj checked).symm⟩

/-- The support of a set, before List is lost with Read, has every operation settled. -/
theorem checkSet_settles {set : OperationSet}
    (checked : checker.checkSet resource set = .ok support) :
    ∃ settled, checker.Settles resource (checker.resourcePaths set.path) settled set.operations ∧
      support = settled.cascade resource := by
  unfold checkSet at checked
  dsimp only at checked
  split at checked
  · exact ⟨_, settles_empty.addOperations set.nodup, (Except.ok.inj checked).symm⟩
  · contradiction

theorem checkOperations_accounts {descriptor : Descriptor}
    (checked : checker.checkOperations descriptor = .ok support) :
    support.Accounts descriptor.requested ∧ support.extraMethods = [] := by
  unfold checkOperations at checked
  unfold Descriptor.requested
  cases declared : descriptor.operationSet with
  | none =>
      rw [declared] at checked
      cases checked
      exact ⟨Support.empty_accounts, rfl⟩
  | some set =>
      rw [declared] at checked
      rcases checkSet_settles checked with ⟨settled, settles, rfl⟩
      have excludes := settled.excludes_cascade descriptor.name
      exact ⟨excludes.accounts settles.accounts,
        excludes.extraMethods.trans settles.extraMethods⟩

/-- A check accounts for every operation and every method of a descriptor. -/
theorem check_accounts {descriptor : Descriptor}
    (checked : checker.check descriptor = .ok support) :
    support.Accounts descriptor.requested ∧
      Thins (ExtraMethod.IsNotedIn support.issues) descriptor.extraMethods
        support.extraMethods := by
  rcases check_eq_ok checked with ⟨operations, isOk, rfl⟩
  rcases checkOperations_accounts isOk with ⟨accounts, noMethods⟩
  rcases checker.addExtraMethods_eq descriptor.name
      descriptor.extraMethods operations with ⟨kept, issues, equal, thins, about⟩
  rw [equal]
  refine ⟨accounts.append (fun issue member => about.ne_operation member) _, ?_⟩
  simp only [noMethods, List.nil_append]
  exact thins.mono fun _ noted => noted.of_subset (List.subset_append_right _ _)

/-- An operation is supported if and only if it is requested and passes on its own; only
List depends on another operation, as it is lost where Read is requested and its answers
are declared but are no objects. -/
theorem check_supports_iff {descriptor : Descriptor} {set : OperationSet}
    (declared : descriptor.operationSet = some set)
    (checked : checker.check descriptor = .ok support) :
    let paths := checker.resourcePaths set.path
    (∀ operation, operation ∈ support.operations ↔
      operation ∈ set.operations ∧ checker.Passes paths operation ∧
        (operation = .list → ¬(.read ∈ set.operations ∧ checker.MisshapesRead paths))) ∧
      support.routes.map (·.1) = support.operations ∧ support.operations.Nodup := by
  intro paths
  rcases check_eq_ok checked with ⟨operations, isOk, rfl⟩
  rcases checker.addExtraMethods_eq descriptor.name
      descriptor.extraMethods operations with ⟨kept, issues, equal, _⟩
  unfold checkOperations at isOk
  rw [declared] at isOk
  rcases checkSet_settles isOk with ⟨settled, settles, rfl⟩
  have accounts := (settled.excludes_cascade descriptor.name).accounts settles.accounts
  rw [equal]
  refine ⟨?_, accounts.bound, accounts.nodup⟩
  intro operation
  rw [mem_cascade, settles.supports, settles.lostRead, and_assoc]

end Checker

/-! ## A service of trees -/

/-- An answer with a written schema. -/
def jsonAnswer (schema : Json) : List (String × Body) :=
  [("200", .inline [(jsonMediaType, some schema)])]

/-- A service whose nodes have nodes as children. A node can be replaced and deleted, but
reading one answers with a text. -/
def treeService : Document where
  title := "Trees"
  paths :=
    let node : Json := .object [("$ref", .string "#/components/schemas/node")]
    let text : Json := .object [("type", .string "string")]
    let anything : Json := .object [("type", .string "object")]
    [("/nodes", [(.get, ⟨none, none, none, jsonAnswer (.object [("items", node)])⟩)]),
      ("/nodes/\x7bid\x7d", [(.get, ⟨none, none, none, jsonAnswer text⟩),
        (.put, ⟨none, none, none, jsonAnswer node⟩),
        (.delete, ⟨none, none, none, [("204", .inline [])]⟩)]),
      ("/nodes/\x7bid\x7d/copy", [(.post, ⟨none, none, none, jsonAnswer text⟩)]),
      ("/nodes/\x7bid\x7d/move", [(.post, ⟨none, none, none, jsonAnswer anything⟩)])]
  components := [("node", .object [("properties", .object [("children", .object [
    ("items", .object [("$ref", .string "#/components/schemas/node")])])])])]
  sharedRequests := []
  sharedResponses := []
  listWrapperKeys := []

/-- All operations on nodes. -/
def treeOperations : OperationSet := .of Operation.all "/nodes" "nodes"

/-- All operations on nodes, and methods to copy and to move one. -/
def treeDescriptor : Descriptor :=
  { Descriptor.empty "Tree" with
    operationSet := some treeOperations
    extraMethods := [⟨.post, "/nodes/\x7bid\x7d/copy", none, "copy"⟩,
      ⟨.post, "/nodes/\x7bid\x7d/move", none, "move"⟩] }

namespace Checker

/-- Checks against the service of trees. -/
def trees : Checker := ⟨treeService, .standard⟩

theorem check_supports_trees :
    treeDescriptor.operationSet = some treeOperations ∧
      ∃ support, trees.check treeDescriptor = .ok support ∧
        let paths := trees.resourcePaths treeOperations.path
        (∀ operation, operation ∈ support.operations ↔
          operation ∈ treeOperations.operations ∧ trees.Passes paths operation ∧
            (operation = .list →
              ¬(.read ∈ treeOperations.operations ∧ trees.MisshapesRead paths))) ∧
          support.routes.map (·.1) = support.operations ∧ support.operations.Nodup := by
  have passes : (trees.check treeDescriptor).isOk = true := by decide +kernel
  refine ⟨rfl, ?_⟩
  cases checked : trees.check treeDescriptor with
  | error failure => simp [checked, Except.isOk, Except.toBool] at passes
  | ok support => exact ⟨support, rfl, check_supports_iff rfl checked⟩

/-- Create is not declared, Read answers with a text, and List is lost with it. -/
example : (trees.check treeDescriptor).toOption.map (·.operations) = some [.update, .delete] := by
  decide +kernel

end Checker
end RestModel
