import RestModel.Support.Check

/-! # What operations need

An operation needs a route that is declared and, on that route, an answer that a
model can be made from. A check decides whether an operation has what it needs. -/

namespace RestModel.Checker

/-- The route of an operation, where it is declared. The verb of an update is the first
one of the policy that is declared. -/
inductive Binds (checker : Checker) (paths : ResourcePaths) : Operation → Route → Prop where
  | create : checker.document.hasEndpoint .post paths.collection = true →
      Binds checker paths .create ⟨.post, paths.collection⟩
  | list : checker.document.hasEndpoint .get paths.collection = true →
      Binds checker paths .list ⟨.get, paths.collection⟩
  | read {item : String} : paths.item = some item →
      checker.document.hasEndpoint .get item = true → Binds checker paths .read ⟨.get, item⟩
  | update {item : String} {verb : Verb} {earlier later : List Verb} : paths.item = some item →
      checker.policy.updateMethods = earlier ++ verb :: later →
      (∀ other ∈ earlier, checker.document.hasEndpoint other item = false) →
      checker.document.hasEndpoint verb item = true → Binds checker paths .update ⟨verb, item⟩
  | delete {item : String} : paths.item = some item →
      checker.document.hasEndpoint .delete item = true →
      Binds checker paths .delete ⟨.delete, item⟩

/-- A route declares a schema of a part. -/
def Declares (checker : Checker) (route : Route) (part : Part) (found : PartSchema) : Prop :=
  checker.document.operationSchema route.verb route.path part = .ok (some found)

/-- The answers on a route suit an operation. What changes a resource may be answered
without a body; a read answers with an object, and a list with objects or, where the
policy allows them, with scalars. -/
def Suits (checker : Checker) (route : Route) : Operation → Prop
  | .create | .update | .delete =>
      (∃ found, checker.Declares route .response found) ∨
        ∃ status ∈ checker.policy.noContentStatuses,
          status ∈ checker.document.statusCodes route.verb route.path
  | .read => ∃ found, checker.Declares route .response found ∧ found.schema.shape = .object
  | .list => ∃ found, checker.Declares route .unwrappedResponse found ∧ found.unwrapped = true ∧
      (found.schema.shape = .object ∨
        found.schema.shape = .primitive ∧ checker.policy.arrayOfPrimitives = .allow)

/-- An operation has everything that it needs. -/
def Passes (checker : Checker) (paths : ResourcePaths) (operation : Operation) : Prop :=
  ∃ route, checker.Binds paths operation route ∧ checker.Suits route operation

/-- The answers to a read are declared, and are no objects. -/
def MisshapesRead (checker : Checker) (paths : ResourcePaths) : Prop :=
  ∃ route found, checker.Binds paths .read route ∧ checker.Declares route .response found ∧
    found.schema.shape ≠ .object

variable {checker : Checker} {paths : ResourcePaths} {operation : Operation} {route : Route}

theorem Binds.declared (binds : checker.Binds paths operation route) :
    checker.document.hasEndpoint route.verb route.path = true := by
  cases binds <;> assumption

private theorem requireItem_of_some {item : String} (isItem : paths.item = some item) :
    requireItem paths = .ok item := by
  simp [requireItem, isItem]

private theorem requireItem_of_none (noItem : paths.item = none) :
    ∃ message, requireItem paths = .error message := by
  simp [requireItem, noItem]

theorem Binds.wantedRoute (binds : checker.Binds paths operation route) :
    checker.wantedRoute paths operation = .ok route := by
  cases binds with
  | create declared => rfl
  | list declared => rfl
  | read isItem declared => simp [Checker.wantedRoute, requireItem_of_some isItem, Except.map]
  | delete isItem declared => simp [Checker.wantedRoute, requireItem_of_some isItem, Except.map]
  | @update item verb earlier later isItem methods undeclared declared =>
      have found : checker.policy.updateMethods.find?
          (checker.document.hasEndpoint · item) = some verb := by
        apply List.find?_eq_some_iff_append.mpr
        refine ⟨declared, earlier, later, methods, ?_⟩
        intro other member
        simp [undeclared other member]
      simp [Checker.wantedRoute, requireItem_of_some isItem, found]

private theorem binds_of_wantedRoute (wanted : checker.wantedRoute paths operation = .ok route)
    (declared : checker.document.hasEndpoint route.verb route.path = true) :
    checker.Binds paths operation route := by
  cases isItem : paths.item with
  | none =>
      rcases requireItem_of_none isItem with ⟨message, noItem⟩
      cases operation with
      | create => cases wanted; exact .create declared
      | list => cases wanted; exact .list declared
      | read | update | delete => simp [Checker.wantedRoute, noItem, Except.map] at wanted
  | some item =>
      have required := requireItem_of_some isItem
      cases operation with
      | create => cases wanted; exact .create declared
      | list => cases wanted; exact .list declared
      | read =>
          simp only [Checker.wantedRoute, required, Except.map] at wanted
          cases wanted
          exact .read isItem declared
      | delete =>
          simp only [Checker.wantedRoute, required, Except.map] at wanted
          cases wanted
          exact .delete isItem declared
      | update =>
          simp only [Checker.wantedRoute, required] at wanted
          split at wanted
          · next verb found =>
              cases wanted
              rcases List.find?_eq_some_iff_append.mp found with
                ⟨_, earlier, later, methods, undeclared⟩
              refine .update isItem methods ?_ declared
              intro other member
              simpa using undeclared other member
          · contradiction

theorem route_eq_ok_iff :
    checker.route paths operation = .ok route ↔ checker.Binds paths operation route := by
  constructor
  · intro found
    unfold Checker.route at found
    split at found
    · contradiction
    · next wanted =>
        split at found
        · next declared =>
            cases found
            exact binds_of_wantedRoute wanted declared
        · contradiction
  · intro binds
    simp [Checker.route, binds.wantedRoute, binds.declared]

theorem schema_eq_ok_some_iff {part : Part} {found : PartSchema} :
    checker.schema route part = .ok (some found) ↔ checker.Declares route part found := by
  unfold Checker.schema Declares
  cases checker.document.operationSchema route.verb route.path part <;> simp

/-- The schemas of a route that is declared can be looked up. -/
theorem schema_isOk (declared : checker.document.hasEndpoint route.verb route.path = true)
    (part : Part) : ∃ found?, checker.schema route part = .ok found? := by
  rcases Option.isSome_iff_exists.mp declared with ⟨endpoint, isEndpoint⟩
  simp [Checker.schema, Document.operationSchema, isEndpoint]

private theorem answer_eq_ok_iff {part : Part} {found : PartSchema} :
    checker.answer route part = .ok found ↔ checker.Declares route part found := by
  rw [← schema_eq_ok_some_iff]
  unfold Checker.answer
  split <;> simp_all

private theorem checkChange_eq_ok_iff {reason : IssueReason}
    (declared : checker.document.hasEndpoint route.verb route.path = true) :
    checker.checkChange reason route = .ok () ↔
      (∃ found, checker.Declares route .response found) ∨
        ∃ status ∈ checker.policy.noContentStatuses,
          status ∈ checker.document.statusCodes route.verb route.path := by
  rcases schema_isOk declared .response with ⟨found?, looked⟩
  have empty : checker.acceptsEmptyAnswer route = true ↔
      ∃ status ∈ checker.policy.noContentStatuses,
        status ∈ checker.document.statusCodes route.verb route.path := by
    simp [acceptsEmptyAnswer]
  simp only [← schema_eq_ok_some_iff, ← empty, checkChange, looked]
  cases found? <;> simp

private theorem requireObject_eq_ok_iff {shape : Shape} :
    requireObject route shape = .ok () ↔ shape = .object := by
  cases shape <;> simp [requireObject]

private theorem checkRead_eq_ok_iff :
    checker.checkRead route = .ok () ↔ checker.Suits route .read := by
  simp only [Suits, ← answer_eq_ok_iff, checkRead]
  cases checker.answer route .response <;> simp [requireObject_eq_ok_iff]

private theorem requireObjects_eq_ok_iff {policy : PrimitiveArrayPolicy} {shape : Shape} :
    requireObjects policy route shape = .ok () ↔
      shape = .object ∨ shape = .primitive ∧ policy = .allow := by
  cases shape with
  | array item =>
      simp only [requireObjects]
      split <;> simp
  | primitive => cases policy <;> simp [requireObjects]
  | object | map | ambiguousObject => simp [requireObjects]

private theorem checkList_eq_ok_iff :
    checker.checkList route = .ok () ↔ checker.Suits route .list := by
  simp only [Suits, ← answer_eq_ok_iff, checkList]
  cases checker.answer route .unwrappedResponse with
  | error rejection => simp
  | ok found =>
      cases unwrapped : found.unwrapped with
      | true => simp [unwrapped, requireObjects_eq_ok_iff]
      | false =>
          have rejected : (if found.schema.shape = .map then
              Except.error ⟨.mapResponse, route.display ++ " returns a map"⟩
            else
              .error ⟨.ambiguousSchema,
                route.display ++ " returns neither an array nor a list wrapper"⟩ :
              Except Rejection Unit) ≠ .ok () := by
            split <;> simp
          simpa [unwrapped] using rejected

/-- Checks decide whether the answers on a declared route suit an operation. -/
theorem checkRoute_eq_ok_iff
    (declared : checker.document.hasEndpoint route.verb route.path = true) :
    checker.checkRoute operation route = .ok () ↔ checker.Suits route operation := by
  cases operation with
  | create | update | delete => exact checkChange_eq_ok_iff declared
  | read => exact checkRead_eq_ok_iff
  | list => exact checkList_eq_ok_iff

private theorem isShape_of_answer {part : Part} {rejection : Rejection}
    (rejected : checker.answer route part = .error rejection) :
    rejection.reason.isShape = false := by
  unfold Checker.answer at rejected
  split at rejected
  · next unknown =>
      cases rejected
      unfold Checker.schema at unknown
      cases looked : checker.document.operationSchema route.verb route.path part with
      | error problem =>
          rw [looked] at unknown
          cases unknown
          rfl
      | ok found? =>
          rw [looked] at unknown
          contradiction
  · contradiction
  · cases rejected
    rfl

private theorem isShape_of_requireObject {shape : Shape} {rejection : Rejection}
    (rejected : requireObject route shape = .error rejection) :
    rejection.reason.isShape = true := by
  cases shape with
  | object => contradiction
  | ambiguousObject | map | primitive | array => cases rejected; rfl

/-- A read is rejected for its shape if an answer is declared that is no object, and
otherwise for the lack of an answer. -/
theorem isShape_of_checkRead {rejection : Rejection}
    (rejected : checker.checkRead route = .error rejection) :
    rejection.reason.isShape = true ↔
      ∃ found, checker.Declares route .response found ∧ found.schema.shape ≠ .object := by
  simp only [← answer_eq_ok_iff]
  unfold checkRead at rejected
  split at rejected
  · next unanswered =>
      cases rejected
      simp [isShape_of_answer unanswered, unanswered]
  · next found answered =>
      have misshaped : found.schema.shape ≠ .object := by
        intro isObject
        simp [isObject, requireObject] at rejected
      simp [isShape_of_requireObject rejected, answered, misshaped]

end RestModel.Checker
