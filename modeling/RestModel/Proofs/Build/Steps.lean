import RestModel.Proofs.Component

/-! # What the steps of building ensure

`Ensures` says of a step and the state it is taken in what holds afterwards,
apart for success and failure. Each way to put steps together has one rule, so
a fact about building is proved along its definition, and no proof looks at the
states in between. -/

namespace RestModel.Build

/-- Whether a step leads to a value and a state as `holds` says, or else fails as
`fails` says. -/
def Ensures (step : Build α) (state : BuildState) (holds : α → BuildState → Prop)
    (fails : BuildError → BuildState → Prop) : Prop :=
  match step state with
  | .ok value after => holds value after
  | .error problem after => fails problem after

variable {state : BuildState} {holds holds' : α → BuildState → Prop}
  {fails fails' : BuildError → BuildState → Prop}

theorem Ensures.mono {step : Build α} (ensures : Ensures step state holds' fails')
    (onOk : ∀ value after, holds' value after → holds value after)
    (onError : ∀ problem after, fails' problem after → fails problem after) :
    Ensures step state holds fails := by
  unfold Ensures at ensures ⊢
  split at ensures
  · exact onOk _ _ ensures
  · exact onError _ _ ensures

theorem Ensures.mono_fails {step : Build α} (ensures : Ensures step state holds fails')
    (onError : ∀ problem after, fails' problem after → fails problem after) :
    Ensures step state holds fails :=
  ensures.mono (fun _ _ ensured => ensured) onError

theorem Ensures.and {step : Build α} (left : Ensures step state holds fails)
    (right : Ensures step state holds' fails') :
    Ensures step state (fun value after => holds value after ∧ holds' value after)
      (fun problem after => fails problem after ∧ fails' problem after) := by
  unfold Ensures at *
  split <;> simp_all

theorem Ensures.of_ok {step : Build α} (ensures : Ensures step state holds fails) {value : α}
    {after : BuildState} (run : step state = .ok value after) : holds value after := by
  unfold Ensures at ensures
  rwa [run] at ensures

theorem ensures_forall {ι : Sort _} {step : Build α} {holds : ι → α → BuildState → Prop}
    (each : ∀ index, Ensures step state (holds index) fun _ _ => True) :
    Ensures step state (fun value after => ∀ index, holds index value after)
      fun _ _ => True := by
  unfold Ensures at each ⊢
  split <;> simp_all

theorem ensures_imp {given : Prop} {step : Build α}
    (ensures : given → Ensures step state holds fails) :
    Ensures step state (fun value after => given → holds value after)
      fun problem after => given → fails problem after := by
  unfold Ensures at ensures ⊢
  split <;> simp_all

theorem ensures_self (step : Build α) (state : BuildState) :
    Ensures step state (fun value after => step state = .ok value after) fun _ _ => True := by
  unfold Ensures
  split
  · assumption
  · trivial

/-- Whatever a step leads to, it has what all values and states have. -/
theorem ensures_of_forall (step : Build α) (state : BuildState)
    (always : ∀ value after, holds value after) :
    Ensures step state holds fun _ _ => True :=
  (ensures_self step state).mono (fun value after _ => always value after) fun _ _ => id

theorem ensures_pure {value : α} (ensured : holds value state) :
    Ensures (pure value) state holds fails :=
  ensured

theorem ensures_throw {problem : BuildError} (ensured : fails problem state) :
    Ensures (throw problem) state holds fails :=
  ensured

theorem bind_apply (step : Build β) (next : β → Build α) (state : BuildState) :
    (step >>= next) state = match step state with
      | .ok value after => next value after
      | .error problem after => .error problem after := by
  change EStateM.bind step next state = _
  unfold EStateM.bind
  cases step state <;> rfl

theorem succeeds_apply (step : Build Unit) (state : BuildState) :
    succeeds step state = match step state with
      | .ok _ after => .ok true after
      | .error _ after => .ok false after :=
  rfl

private theorem within_apply (typeName : String) (step : Build α) (state : BuildState) :
    within typeName step state = match step (state.enclose typeName) with
      | .ok value after => .ok value (after.release typeName)
      | .error problem after => .error problem (after.release typeName) :=
  rfl

theorem nestedObject_apply (step : Build Unit) (onEmpty onBuilt : Build α) (state : BuildState) :
    nestedObject step onEmpty onBuilt state = match step state with
      | .ok _ after => onBuilt after
      | .error (.emptyFields _) after => onEmpty after
      | .error problem after => .error problem after :=
  rfl

theorem Ensures.bind {step : Build β} {next : β → Build α} {middle : β → BuildState → Prop}
    (first : Ensures step state middle fails)
    (second : ∀ value after, middle value after → Ensures (next value) after holds fails) :
    Ensures (step >>= next) state holds fails := by
  unfold Ensures at first ⊢
  rw [bind_apply]
  cases run : step state <;> simp only [run] at first ⊢
  · exact second _ _ first
  · exact first

theorem Ensures.succeeds {step : Build Unit} {holds : Bool → BuildState → Prop}
    (ensures : Ensures step state (fun _ => holds true) (fun _ => holds false)) :
    Ensures (succeeds step) state holds fails := by
  unfold Ensures at ensures ⊢
  unfold Build.succeeds
  cases run : step state <;> simpa only [run] using ensures

theorem Ensures.within {step : Build α} {typeName : String}
    (ensures : Ensures step (state.enclose typeName)
      (fun value after => holds value (after.release typeName))
      (fun problem after => fails problem (after.release typeName))) :
    Ensures (within typeName step) state holds fails := by
  unfold Ensures at ensures ⊢
  unfold Build.within
  cases run : step (state.enclose typeName) <;> simpa only [run] using ensures

private theorem ensures_isKnown (typeName : String) :
    Ensures (isKnown typeName) state
      (fun answer after => answer = state.knows typeName ∧ after = state) fails :=
  ⟨rfl, rfl⟩

/-- A type that is built or being built is left as it is; any other one is built and
registered under its name. -/
theorem ensures_ensureType {typeName : String} {component doc : Option String}
    {body : Build FieldList} {holds : Unit → BuildState → Prop}
    (known : state.knows typeName = true → holds () state)
    (unknown : state.knows typeName = false → Ensures body (state.enclose typeName)
      (fun list after => holds () ((after.release typeName).register
        ⟨typeName, list.fields, list.additional, component, doc⟩))
      (fun problem after => fails problem (after.release typeName))) :
    Ensures (ensureType typeName component doc body) state holds fails := by
  unfold ensureType
  apply (ensures_isKnown typeName).bind
  rintro answer after ⟨rfl, rfl⟩
  split
  · next isKnown => exact known isKnown
  · next isUnknown =>
      have unknown := unknown (by simpa using isUnknown)
      exact unknown.within.bind fun _ _ built => built

theorem ensureType_of_known {typeName : String} {component doc : Option String}
    {body : Build FieldList} (known : state.knows typeName = true) :
    ensureType typeName component doc body state = .ok () state := by
  have answer : isKnown typeName state = .ok true state := by rw [← known]; rfl
  simp only [ensureType, bind_apply, answer]
  rfl

theorem enterWithin_of_known (aliasing : Bool) (resolve? : String → Option Schema) (room : Nat)
    {component : Component} (known : state.knows component.typeName = true) :
    enterWithin aliasing resolve? room component state = .ok () state := by
  unfold enterWithin
  exact ensureType_of_known known

theorem ensureType_of_unknown {typeName : String} {component doc : Option String}
    {body : Build FieldList} (unknown : state.knows typeName = false) :
    ensureType typeName component doc body state =
      match body (state.enclose typeName) with
      | .ok list after => .ok () ((after.release typeName).register
          ⟨typeName, list.fields, list.additional, component, doc⟩)
      | .error problem after => .error problem (after.release typeName) := by
  have answer : isKnown typeName state = .ok false state := by rw [← unknown]; rfl
  simp only [ensureType, bind_apply, answer, Bool.false_eq_true, if_false, within_apply]
  cases body (state.enclose typeName) <;> rfl

/-- Entering a component either succeeds, and then `onBuilt` goes on, or `onFailed`
does. -/
theorem ensures_ite_succeeds {step : Build Unit} {onBuilt onFailed : Build α}
    (ensures : Ensures step state (fun _ after => Ensures onBuilt after holds fails)
      (fun _ after => Ensures onFailed after holds fails)) :
    Ensures (do if ← succeeds step then onBuilt else onFailed) state holds fails := by
  have answered : Ensures (succeeds step) state (fun answer after =>
      Ensures (if answer = true then onBuilt else onFailed) after holds fails) fails := by
    apply Ensures.succeeds
    simpa using ensures
  exact answered.bind fun _ _ ensured => ensured

/-- A schema is either not shared, or the component it refers to is entered. -/
theorem ensures_alias? {context : BuildContext} {target : String} {schema : Schema}
    {holds : Option TypeRef → BuildState → Prop} (unshared : holds none state)
    (entered : ∀ found, context.sharedComponent? schema = some found →
      Ensures (context.enter found.component) state
        (fun _ after => holds (some found.typeRef) (after.mention (found.mention target)))
        (fun _ after => holds none after)) :
    Ensures (alias? context target schema) state holds fails := by
  unfold alias?
  split
  · exact unshared
  · next found isFound => exact ensures_ite_succeeds (entered found isFound)

theorem alias?_of_unshared {context : BuildContext} {schema : Schema}
    (unshared : context.sharedComponent? schema = none) (target : String) :
    alias? context target schema = pure none := by
  simp [alias?, unshared]

/-- A placeholder is any value, a type that is known, or a component that is
entered. -/
theorem ensures_placeholderType {context : BuildContext} {schema : Schema}
    {holds : TypeRef → BuildState → Prop} (any : holds .any state)
    (known : ∀ typeName, state.knows typeName = true → holds (.named typeName) state)
    (entered : ∀ name component, schema.reference = some name →
      Component.ofName? context.resolve? name = some component →
      Ensures (context.enter component) state
        (fun _ after => holds (.named component.typeName) after)
        (fun _ after => holds .any after)) :
    Ensures (placeholderType context schema) state holds fails := by
  unfold placeholderType
  split
  · exact any
  · next name isReference =>
      apply (ensures_isKnown _).bind
      rintro answer after ⟨rfl, rfl⟩
      split
      · next isKnown => exact known _ isKnown
      · split
        · exact any
        · next component isComponent =>
            have named : component.typeName = Naming.camelCase name := by
              rcases Component.ofName?_eq_some_iff.mp isComponent with ⟨_, _, _, rfl⟩
              rfl
            apply ensures_ite_succeeds
            rw [← named]
            exact entered name component isReference isComponent

/-- A nested object is built, or has no fields. -/
theorem ensures_nestedObject {step : Build Unit} {onEmpty onBuilt : Build α}
    (ensures : Ensures step state (fun _ after => Ensures onBuilt after holds fails)
      (fun problem after => ∃ typeName, problem = .emptyFields typeName ∧
        Ensures onEmpty after holds fails)) :
    Ensures (nestedObject step onEmpty onBuilt) state holds fails := by
  unfold Ensures nestedObject at *
  cases run : step state <;> simp only [run] at ensures ⊢
  · exact ensures
  · rcases ensures with ⟨typeName, rfl, ensures⟩
    exact ensures

/-- What a nested object comes to, in whatever way it fails. -/
theorem Ensures.nestedObject {step : Build Unit} {onEmpty onBuilt : Build α}
    (ensures : Ensures step state (fun _ after => Ensures onBuilt after holds fails)
      (fun problem after => fails problem after ∧ Ensures onEmpty after holds fails)) :
    Ensures (nestedObject step onEmpty onBuilt) state holds fails := by
  unfold Ensures at ensures ⊢
  rw [nestedObject_apply]
  cases run : step state with
  | ok value after =>
      rw [run] at ensures
      exact ensures
  | error problem after =>
      rw [run] at ensures
      cases problem with
      | emptyFields typeName => exact ensures.2
      | _ => exact ensures.1

/-- An object has no fields, or all of its parts are built one after another. -/
theorem ensures_fieldList {typeName : String} {schema : Schema} {properties : Build (List Field)}
    {additional : Build TypeRef} {holds : FieldList → BuildState → Prop}
    (ensures : Ensures properties state (fun fields after =>
      if fields = [] ∧ schema.properties ≠ [] then fails (.emptyFields typeName) after
      else if schema.additional = none then holds ⟨Field.sort fields, none⟩ after
      else Ensures additional after
        (fun type last => holds ⟨Field.sort fields, some type⟩ last) fails) fails) :
    Ensures (fieldList typeName schema properties additional) state holds fails := by
  unfold fieldList
  apply ensures.bind
  intro fields after ensured
  by_cases empty : fields = [] ∧ schema.properties ≠ []
  · rw [if_pos empty] at ensured
    rcases empty with ⟨rfl, nonempty⟩
    simpa [nonempty] using ensures_throw ensured
  · rw [if_neg empty] at ensured
    have decided : (fields.isEmpty && !schema.properties.isEmpty) = false := by
      simpa [List.isEmpty_iff] using empty
    rw [decided, if_neg Bool.false_ne_true]
    cases isAdditional : schema.additional with
    | none =>
        rw [if_pos isAdditional] at ensured
        exact ensures_pure ensured
    | some value =>
        rw [if_neg (by simp [isAdditional])] at ensured
        exact ensured.bind fun _ _ ensured => ensures_pure ensured

/-! ## The steps along a schema -/

theorem fieldType_eq (context : BuildContext) (parent key : String) (schema : Schema) :
    fieldType context parent key schema = (do
      if let some aliased ← alias? context (parent ++ "." ++ Naming.fieldName key) schema then
        return some (.wrapped aliased)
      if schema.recursive then
        return some (.wrapped (← placeholderType context schema))
      let nested := parent ++ Naming.camelCase key
      match schema.shape with
      | .primitive => return some (.ofPrimitive schema)
      | .map => return some (.map (← optionalType context (nested ++ "Value") schema.additional))
      | .array item =>
          if (Shape.array item).hasAmbiguousItems then
            leaveOut parent key .arrayOfAmbiguousObjects
            return none
          else
            return some (.wrapped (.array (← optionalType context nested schema.items)))
      | .ambiguousObject =>
          leaveOut parent key .ambiguousObject
          return none
      | .object =>
          nestedObject
            (ensureType nested none schema.description (objectFields context nested schema))
            (do leaveOut parent key .emptyFields
                return none)
            (return some (.wrapped (.named nested)))) := by
  cases schema
  rfl

theorem elementType_eq (context : BuildContext) (name : String) (schema : Schema) :
    elementType context name schema = (do
      if schema.recursive then
        return ← placeholderType context schema
      match schema.shape with
      | .primitive => return .ofPrimitive schema
      | .map => return .map (← optionalType context (name ++ "Value") schema.additional)
      | .array _ => return .array (← optionalType context name schema.items)
      | .ambiguousObject => return .any
      | .object =>
          nestedObject
            (ensureType name none schema.description (objectFields context name schema))
            (return .any)
            (return .named name)) := by
  cases schema
  rfl

/-- An object whose properties have fields has those, in order. -/
theorem objectFields_of_propertyFields {context : BuildContext} {typeName : String}
    {schema : Schema} {fields : List Field} {after : BuildState}
    (run : propertyFields context typeName (schema.required.map Naming.normalKey) []
      schema.properties state = .ok fields after)
    (nonempty : fields ≠ []) (undescribed : schema.additional = none) :
    objectFields context typeName schema state = .ok ⟨Field.sort fields, none⟩ after := by
  have decided : fields.isEmpty = false := by simpa [List.isEmpty_iff] using nonempty
  rw [objectFields, fieldList, bind_apply, run]
  simp only [decided, undescribed]
  rfl

theorem propertyFields_cons (context : BuildContext) (typeName : String)
    (required taken : List String) (key : String) (property : Schema)
    (rest : List (String × Schema)) :
    propertyFields context typeName required taken ((key, property) :: rest) = (do
      match ← fieldType context typeName key property with
      | none => propertyFields context typeName required taken rest
      | some type =>
          let named := nameField required taken key property type
          let others ← propertyFields context typeName required named.2 rest
          return named.1 :: others) :=
  rfl

end RestModel.Build
