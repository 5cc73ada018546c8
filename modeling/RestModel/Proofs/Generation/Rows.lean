import RestModel.Proofs.Generation.Shapes

/-! # Lists whose rows are items

The rows of a list may have the schema that a single item is answered with. List and
Read then stand or fall together, though nothing says so: what spoils a single item
spoils the rows as well, and a Read that is lost later on is lost to its shape and takes
List with it. -/

namespace RestModel

namespace Support

/-- List is supported if and only if Read is. -/
def IsPaired (support : Support) : Prop :=
  .list ∈ support.operations ↔ .read ∈ support.operations

variable {support : Support} {requested : List Operation} {resource : String}

/-- A Read that is still supported is not lost. -/
theorem Accounts.not_lostReadToShape (accounts : support.Accounts requested)
    (isRead : .read ∈ support.operations) : ¬support.lostReadToShape resource = true := by
  intro lost
  rcases List.any_eq_true.mp lost with ⟨issue, isIssue, aboutRead⟩
  have counted := accounts.issues .read
  rw [if_neg fun missing => missing.2 isRead] at counted
  apply List.count_eq_zero.mp counted
  have subject : issue.subject = Operation.read.name := by
    simp only [Bool.and_eq_true, beq_iff_eq] at aboutRead
    exact aboutRead.1.2
  exact subject ▸ List.mem_map_of_mem isIssue

theorem IsPaired.cascade (paired : support.IsPaired) (accounts : support.Accounts requested) :
    (support.cascade resource).IsPaired := by
  unfold IsPaired at paired ⊢
  rw [Checker.mem_cascade, Checker.mem_cascade, paired]
  constructor
  · exact fun ⟨isRead, _⟩ => ⟨isRead, nofun⟩
  · exact fun ⟨isRead, _⟩ => ⟨isRead, fun _ => accounts.not_lostReadToShape isRead⟩

/-- The loss of anything else makes no difference to List and Read. -/
theorem IsPaired.exclude (paired : support.IsPaired) {operation : Operation}
    (notList : operation ≠ .list) (notRead : operation ≠ .read) (resource : String)
    (reason : IssueReason) (message : String) :
    (support.exclude resource operation reason message).IsPaired := by
  unfold IsPaired at paired ⊢
  rw [mem_exclude, mem_exclude, paired]
  simp [notList.symm, notRead.symm]

/-- A Read that is lost to its shape takes List with it. -/
theorem IsPaired.cascade_exclude_read (paired : support.IsPaired) {reason : IssueReason}
    (isShape : reason.isShape = true) (message : String) :
    ((support.exclude resource .read reason message).cascade resource).IsPaired := by
  unfold IsPaired at paired ⊢
  rw [Checker.mem_cascade, Checker.mem_cascade, mem_exclude, mem_exclude, paired]
  by_cases isRead : .read ∈ support.operations
  · have lost : (support.exclude resource .read reason message).lostReadToShape resource =
        true := by
      have supported := supports_eq_true_iff.mpr isRead
      simp [Support.exclude, supported, lostReadToShape, isShape]
    simp [lost]
  · simp [isRead]

end Support

namespace Checker

/-- A set has List and Read, and what is answered on the route of each is declared with
one schema: that of the rows of a list, and that of an item. -/
structure SharesRows (checker : Checker) (set : OperationSet) (schema : Schema) : Prop where
  list : .list ∈ set.operations
  read : .read ∈ set.operations
  rows : checker.Declares ⟨.get, (checker.resourcePaths set.path).collection⟩ .unwrappedResponse
    ⟨schema, true⟩
  item : ∃ path, (checker.resourcePaths set.path).item = some path ∧
    checker.Declares ⟨.get, path⟩ .response ⟨schema, false⟩

variable {checker : Checker} {set : OperationSet} {schema : Schema}

theorem Declares.hasEndpoint {route : Route} {part : Part} {found : PartSchema}
    (declares : checker.Declares route part found) :
    checker.document.hasEndpoint route.verb route.path = true := by
  unfold Declares Document.operationSchema at declares
  split at declares
  · contradiction
  · next isEndpoint => simp [Document.hasEndpoint, isEndpoint]

private theorem SharesRows.exists_read (shares : checker.SharesRows set schema) :
    ∃ route, checker.Binds (checker.resourcePaths set.path) .read route ∧
      checker.Declares route .response ⟨schema, false⟩ := by
  rcases shares.item with ⟨path, isItem, declares⟩
  exact ⟨_, .read isItem declares.hasEndpoint, declares⟩

private theorem SharesRows.passes_list (shares : checker.SharesRows set schema)
    (isObject : schema.shape = .object) :
    checker.Passes (checker.resourcePaths set.path) .list :=
  ⟨_, .list shares.rows.hasEndpoint, _, shares.rows, rfl, .inl isObject⟩

private theorem SharesRows.passes_read_iff (shares : checker.SharesRows set schema) :
    checker.Passes (checker.resourcePaths set.path) .read ↔ schema.shape = .object := by
  rcases shares.exists_read with ⟨route, binds, declares⟩
  constructor
  · rintro ⟨other, otherBinds, found, otherDeclares, isObject⟩
    cases binds.unique otherBinds
    cases declares.symm.trans otherDeclares
    exact isObject
  · exact fun isObject => ⟨route, binds, _, declares, isObject⟩

private theorem SharesRows.misshapesRead (shares : checker.SharesRows set schema)
    (misshapen : schema.shape ≠ .object) :
    checker.MisshapesRead (checker.resourcePaths set.path) := by
  rcases shares.exists_read with ⟨route, binds, declares⟩
  exact ⟨route, _, binds, declares, misshapen⟩

/-- A check keeps both if the schema is an object, and neither if it is not. -/
theorem SharesRows.check_isPaired (shares : checker.SharesRows set schema)
    {descriptor : Descriptor} (declared : descriptor.operationSet = some set)
    {support : Support} (checked : checker.check descriptor = .ok support) :
    support.IsPaired := by
  have supports := (check_supports_iff declared checked).1
  unfold Support.IsPaired
  rw [supports .list, supports .read, shares.passes_read_iff]
  by_cases isObject : schema.shape = .object
  · have passes := shares.passes_list isObject
    have shaped := (shares.passes_read_iff.mpr isObject).not_misshapesRead
    simp [shares.list, shares.read, passes, shaped, isObject]
  · simp [shares.read, shares.misshapesRead isObject, isObject]

end Checker

namespace Generator

variable {generator : Generator} {support : Support} {requested : List Operation}

private theorem excludeFailed_isPaired (paired : support.IsPaired)
    (accounts : support.Accounts requested)
    {source : TypeSource} {problem : BuildError} (notList : source.operation ≠ some .list)
    (isShape : source.operation = some .read → problem.reason.isShape = true)
    (resource : String) : (excludeFailed resource source problem support).IsPaired := by
  cases isOperation : source.operation with
  | none =>
      -- An override is no operation, so its failure is noted and excludes nothing.
      rw [excludeFailed_of_none isOperation]
      have noted := (excludes_note_route support resource source.route problem.reason
        problem.message).accounts accounts
      exact Support.IsPaired.cascade paired noted
  | some operation =>
      rw [excludeFailed_of_some isOperation]
      by_cases isRead : operation = .read
      · subst isRead
        exact paired.cascade_exclude_read (isShape isOperation) _
      · have isOther : operation ≠ .list := fun isList => notList (isList ▸ isOperation)
        exact (paired.exclude isOther isRead _ _ _).cascade (accounts.exclude _ _ _ _)

/-- A source that no list needs, and whose types lack nothing but fields if a read needs
it. -/
structure SparesPairs (generator : Generator) (source : TypeSource) : Prop where
  notList : source.operation ≠ some .list
  read : source.operation = some .read → ∀ name, Build.BuildsUnlessEmpty
    (generator.builder.operation name source.route.verb source.route.path source.part) name

theorem SparesPairs.isShape {source : TypeSource} (spares : generator.SparesPairs source)
    (isRead : source.operation = some .read) {name : String} {role : TypeRole}
    {problem : BuildError} {state after : GenerationState}
    (run : generator.buildType name role source state = (.error problem, after)) :
    problem.reason.isShape = true := by
  have built := generator.buildsType name role source state
  rw [run] at built
  cases built with
  | failed failed =>
      have ensures := spares.read isRead (state.takeName name).1 state.build
      unfold Build.Ensures at ensures
      rw [failed] at ensures
      cases ensures
      rfl

private theorem buildOrDrop_isPaired (paired : support.IsPaired)
    (accounts : support.Accounts requested)
    {source? : Option TypeSource}
    (spares : ∀ source, source? = some source → generator.SparesPairs source)
    (resource name : String) (role : TypeRole) (state : GenerationState) :
    (generator.buildOrDrop resource name role source? support state).support.IsPaired := by
  unfold buildOrDrop
  split
  · exact paired
  · next source =>
      have spared := spares source rfl
      split
      · exact paired
      · next run =>
          exact excludeFailed_isPaired paired accounts spared.notList
            (fun isRead => spared.isShape isRead run) resource

/-- Read is asked for answers before List is. -/
theorem responseSource_sparesPairs (paired : support.IsPaired)
    (accounts : support.Accounts requested)
    (suits : ∀ bound ∈ support.routes, generator.checker.Suits bound.2 bound.1)
    {descriptor : Descriptor} {source : TypeSource}
    (isSource : responseSource descriptor support = some source) :
    generator.SparesPairs source := by
  rcases cases_of_overrideOrFirst isSource with
    ⟨url, -, rfl⟩ | ⟨notOverridden, candidate, -, route, bound, isCandidate⟩
  · exact ⟨nofun, nofun⟩
  · cases isRead : support.route? .read with
    | some route =>
        have isFirst : responseSource descriptor support = some ⟨some .read, route, .response⟩ := by
          simp [responseSource, overrideOrFirst, notOverridden, firstSource, isRead]
        rw [isFirst] at isSource
        cases isSource
        have suited := suits (.read, route) (mem_routes_of_route? isRead)
        exact ⟨nofun, fun _ name => suited.read_builds rfl name⟩
    | none =>
        subst isCandidate
        have unread : .read ∉ support.operations := by
          simp [← accounts.route?_isSome_iff, isRead]
        have unlisted : .list ∉ support.operations := mt paired.mp unread
        have supported := accounts.route?_isSome_iff.mp (Option.isSome_of_eq_some bound)
        have notRead : candidate.1 ≠ .read := fun equal => unread (equal ▸ supported)
        have notList : candidate.1 ≠ .list := fun equal => unlisted (equal ▸ supported)
        exact ⟨by simpa using notList, fun isRead => absurd (Option.some.inj isRead) notRead⟩

private theorem requestSource_sparesPairs {descriptor : Descriptor} {source : TypeSource}
    (isSource : requestSource descriptor support = some source) :
    generator.SparesPairs source := by
  rcases cases_of_overrideOrFirst isSource with
    ⟨url, -, rfl⟩ | ⟨-, candidate, listed, route, -, rfl⟩
  · exact ⟨nofun, nofun⟩
  · simp only [List.mem_cons, List.not_mem_nil, or_false] at listed
    rcases listed with rfl | rfl <;> exact ⟨nofun, nofun⟩

private theorem requestType_isPaired (paired : support.IsPaired)
    (accounts : support.Accounts requested)
    (suits : ∀ bound ∈ support.routes, generator.checker.Suits bound.2 bound.1)
    (descriptor : Descriptor) (state : GenerationState) :
    (generator.requestType descriptor
      (generator.responseType descriptor support state)).support.IsPaired := by
  let response := generator.responseType descriptor support state
  have answered : response.support.IsPaired := buildOrDrop_isPaired paired accounts
    (fun _ isSource => responseSource_sparesPairs paired accounts suits isSource) _ _ _ _
  have left : response.support.Accounts requested :=
    (excludes_buildOrDrop _ _ _ _ _ _).accounts accounts
  exact buildOrDrop_isPaired answered left
    (fun _ isSource => requestSource_sparesPairs isSource) _ _ _ _

private theorem buildResource_supports_iff {descriptor : Descriptor} {set : OperationSet}
    {schema : Schema} (declared : descriptor.operationSet = some set)
    (shares : generator.checker.SharesRows set schema)
    (checked : generator.checker.check descriptor = .ok support) (state : GenerationState) :
    let resource := (generator.buildResource descriptor support state).1
    resource.supports .list = true ↔ resource.supports .read = true := by
  intro resource
  have accounts := (Checker.check_accounts checked).1
  have paired := requestType_isPaired (shares.check_isPaired declared checked) accounts
    (Checker.check_suits checked) descriptor state
  have operations := generator.operations_buildResource accounts descriptor state
  rw [ResourceModel.supports_eq_true_iff, ResourceModel.supports_eq_true_iff, operations]
  exact paired

/-- Where the rows of a list have the schema of an item, a resource supports List if and
only if it supports Read. -/
theorem generate_pairs {descriptors : List (String × Descriptor)} {model : ClientModel}
    (generated : generator.generate descriptors = .ok model) :
    List.Forall₂ (fun descriptor resource => ∀ set schema,
        descriptor.operationSet = some set → generator.checker.SharesRows set schema →
        (resource.supports .list = true ↔ resource.supports .read = true))
      (inOrder descriptors) model.resources :=
  generate_forall₂ (fun _ _ state checked _ _ declared shares =>
    buildResource_supports_iff declared shares checked state) generated

end Generator

/-! ## Orders in a list -/

theorem Document.responseSchema?_jsonAnswer (document : Document) (schema : Json) :
    document.responseSchema? ⟨none, none, none, jsonAnswer schema⟩ = some schema := by
  have isOk : readStatusCode? "200" = some 200 := by decide +kernel
  have schemas : document.successSchemas ⟨none, none, none, jsonAnswer schema⟩ =
      [(200, jsonMediaType, schema)] := by
    simp [successSchemas, jsonAnswer, isOk, Content.schemas, contentOf]
  simp [responseSchema?, schemas]

private theorem Checker.sharesRows_orderService (order : Json) (policy : Policy) :
    SharesRows ⟨orderService order, policy⟩ (.of [.list, .read, .update] "/orders" "orders")
      ((orderService order).resolve order) := by
  have collection : (orderService order).endpoint? .get "/orders" =
      some ⟨none, none, none, jsonAnswer (.object [("items", order)])⟩ := rfl
  have item : (orderService order).endpoint? .get "/orders/\x7bid\x7d" =
      some ⟨none, none, none, jsonAnswer order⟩ := rfl
  have rows : (orderService order).listPart ((orderService order).resolve
      (.object [("items", order)])) = ⟨(orderService order).resolve order, true⟩ := rfl
  have paths : resourcePaths ⟨orderService order, policy⟩ "/orders" =
      ⟨"/orders", some "/orders/\x7bid\x7d"⟩ := by
    change ResourcePaths.ofPath ["/orders", "/orders/cancel", "/orders/\x7bid\x7d",
      "/orders/\x7bid\x7d/cancel"] "/orders" = _
    decide +kernel
  constructor
  · decide
  · decide
  · simp [Declares, Document.operationSchema, OperationSet.of, paths, collection,
      Document.partSchema?, Document.responseSchema?_jsonAnswer, rows]
  · refine ⟨"/orders/\x7bid\x7d", ?_, ?_⟩
    · simp [OperationSet.of, paths]
    · simp [Declares, Document.operationSchema, item, Document.partSchema?,
        Document.responseSchema?_jsonAnswer]

namespace Generator

/-- An order without fields loses Read when its type is built, and List with it. -/
theorem generate_pairs_orders :
    ∃ model, shapelessOrders.generate [("Order", orderDescriptor)] = .ok model ∧
      model.issues.map (·.subject) = ["Read", "List", "Order.state"] ∧
      ∃ set schema, orderDescriptor.operationSet = some set ∧
        shapelessOrders.checker.SharesRows set schema ∧
        ∀ resource ∈ model.resources,
          (resource.supports .list = true ↔ resource.supports .read = true) := by
  have subjects : (shapelessOrders.generate [("Order", orderDescriptor)]).toOption.map
      (·.issues.map (·.subject)) = some ["Read", "List", "Order.state"] := by decide +kernel
  rcases exists_ok_of_view subjects with ⟨model, generated, listed⟩
  have shares : shapelessOrders.checker.SharesRows _ _ := Checker.sharesRows_orderService _ _
  refine ⟨model, generated, listed, _, _, rfl, shares, ?_⟩
  have pairs := generate_pairs generated
  have one : inOrder [("Order", orderDescriptor)] = [orderDescriptor] := by
    simp [inOrder, Keyed.values]
  rw [one] at pairs
  intro resource isResource
  generalize model.resources = resources at pairs isResource
  cases pairs with
  | cons paired none =>
      cases none
      cases List.mem_singleton.mp isResource
      exact paired _ _ rfl shares

end Generator

end RestModel
