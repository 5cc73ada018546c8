import RestModel.Proofs.Build.Laws
import RestModel.Proofs.Schema

/-! # Everything that is built obeys the laws

Fields are built without failing: a nested object that fails is left out or is
any value. So an object fails only where none of its properties has a field, and
by induction nothing was built for any of them. -/

namespace RestModel.BuildLaw

open Build BuildState

/-- The only error of an object is that it has no fields. -/
def IsEmptyFields (typeName : String) (problem : BuildError) : Prop :=
  problem = .emptyFields typeName

variable {law : BuildLaw} {names : TypeNames} {context : BuildContext}

private theorem ensureType_lawful (holds : law.Holds names context) {typeName : String}
    {component doc : Option String} {body : Build FieldList} {allowed : BuildError → Prop}
    (allows : ∀ list : FieldList,
      names.Allows ⟨typeName, list.fields, list.additional, component, doc⟩)
    (makes : law.MakesList allowed body) {state : BuildState} (obeyed : law.state state) :
    Ensures (ensureType typeName component doc body) state
      (fun _ after => law.Advances state after ∧ after.knows typeName = true)
      (fun problem after => allowed problem ∧ state.Keeps after) := by
  apply ensures_ensureType
  · intro known
    exact ⟨⟨.refl state, obeyed⟩, known⟩
  · intro _
    apply (makes (state.enclose typeName) (holds.enclose typeName obeyed)).mono
    · rintro fields after ⟨advances, list⟩
      exact ⟨⟨advances.grows.of_enclose _, holds.register (allows fields) advances.state list⟩,
        knows_register _ _⟩
    · rintro problem after ⟨isAllowed, keeps⟩
      exact ⟨isAllowed, keeps.of_enclose⟩

theorem alias?_lawful (holds : law.Holds names context) (enters : law.Enters names context)
    (target : String) (schema : Schema) {state : BuildState} (obeyed : law.state state) :
    Ensures (alias? context target schema) state
      (fun type? after => law.Advances state after ∧ (type? = none → state.Keeps after) ∧
        ∀ type ∈ type?, law.element after type)
      (fun _ _ => False) := by
  apply ensures_alias?
  · exact ⟨⟨.refl state, obeyed⟩, fun _ => .refl state, nofun⟩
  · intro found isFound
    have isComponent := holds.covers.component (BuildContext.isOf_of_sharedComponent? isFound)
    apply (enters found.component state isComponent obeyed).mono
    · rintro _ after ⟨advances, known⟩
      have mentioned := grows_mention after (found.mention target)
      refine ⟨⟨advances.grows.trans mentioned, ?_⟩, nofun, ?_⟩
      · exact holds.mention target isFound known advances.state
      · rintro _ ⟨⟩
        exact holds.typeRef found (mentioned.knows known)
    · intro _ after keeps
      exact ⟨holds.advances keeps obeyed, fun _ => keeps, nofun⟩

theorem placeholderType_lawful (holds : law.Holds names context) (enters : law.Enters names context)
    (schema : Schema) : law.MakesElement (placeholderType context schema) := by
  intro state obeyed
  apply ensures_placeholderType
  · exact ⟨⟨.refl state, obeyed⟩, holds.elementPrimitive _ _ _⟩
  · exact fun _ known => ⟨⟨.refl state, obeyed⟩, holds.elementNamed known⟩
  · intro name component _ isNamed
    have isComponent := holds.covers.component (Component.isOf_of_ofName? isNamed)
    apply (enters component state isComponent obeyed).mono
    · rintro _ after ⟨advances, known⟩
      exact ⟨advances, holds.elementNamed known⟩
    · intro _ after keeps
      exact ⟨holds.advances keeps obeyed, holds.elementPrimitive _ _ _⟩

private theorem fieldList_lawful (holds : law.Holds names context) {typeName : String}
    {schema : Schema}
    {properties : Build (List Field)} {additional : Build TypeRef}
    (fields : law.MakesFields properties) (rest : law.MakesElement additional) :
    law.MakesList (IsEmptyFields typeName)
      (fieldList typeName schema properties additional) := by
  intro state obeyed
  apply ensures_fieldList
  apply (fields state obeyed).mono
  · rintro built middle ⟨advances, keeps, types⟩
    have sorted : ∀ {after}, middle.Grows after →
        ∀ field ∈ Field.sort built, law.field after field.type :=
      fun grows field member => holds.fieldGrows grows (types field (List.mem_mergeSort.mp member))
    split
    · next empty => exact ⟨rfl, keeps empty.1⟩
    · split
      · exact ⟨advances, sorted (.refl middle), nofun⟩
      · apply (rest middle advances.state).mono
        · rintro type after ⟨further, element⟩
          refine ⟨advances.trans further, sorted further.grows, ?_⟩
          rintro _ ⟨⟩
          exact element
        · exact fun _ _ => False.elim
  · exact fun _ _ => False.elim

private theorem propertyFields_lawful (holds : law.Holds names context) {typeName : String}
    (required : List String) :
    ∀ (taken : List String) {properties : List (String × Schema)},
      (∀ entry ∈ properties, law.MakesField (fieldType context typeName entry.1 entry.2)) →
      law.MakesFields (propertyFields context typeName required taken properties)
  | _, [], _ => fun state obeyed =>
      ⟨⟨.refl state, obeyed⟩, fun _ => .refl state, by simp⟩
  | taken, (key, property) :: rest, makes => by
      intro state obeyed
      have others := fun taken => propertyFields_lawful holds required taken
        fun entry member => makes entry (List.mem_cons_of_mem _ member)
      rw [propertyFields_cons]
      apply (makes (key, property) List.mem_cons_self state obeyed).bind
      rintro type? middle ⟨advances, keeps, isField⟩
      cases type? with
      | none =>
          apply (others taken middle advances.state).mono
          · rintro fields after ⟨further, keepsToo, types⟩
            exact ⟨advances.trans further, fun empty => (keeps rfl).trans (keepsToo empty), types⟩
          · exact fun _ _ => False.elim
      | some type =>
          apply (others _ middle advances.state).bind
          rintro fields after ⟨further, _, types⟩
          refine ensures_pure ⟨advances.trans further, nofun, ?_⟩
          intro field member
          rcases List.mem_cons.mp member with rfl | member
          · exact holds.fieldGrows further.grows (isField type rfl)
          · exact types field member

private theorem MakesElement.wrap {step : Build TypeRef} (makes : law.MakesElement step)
    {wrap : TypeRef → TypeRef}
    (closed : ∀ {state type}, law.element state type → law.element state (wrap type)) :
    law.MakesElement (do return wrap (← step)) := by
  intro state obeyed
  apply (makes state obeyed).bind
  rintro type after ⟨advances, isElement⟩
  exact ensures_pure ⟨advances, closed isElement⟩

/-! ## Along a schema -/

/-- Every field and every item or value that a schema describes is built lawfully, in
places where the objects in it may have their names. -/
structure BuildsLawfully (law : BuildLaw) (names : TypeNames) (context : BuildContext)
    (schema : Schema) : Prop where
  field (parent key : String) :
    names.Admits (schema.objectNames (parent ++ Naming.camelCase key)) →
    law.MakesField (fieldType context parent key schema)
  element (name : String) : names.Admits (schema.objectNames name) →
    law.MakesElement (elementType context name schema)

/-- So is one that may not be described. -/
theorem optionalType_lawful_of (holds : law.Holds names context) {name : String}
    {schema? : Option Schema} (admits : names.Admits (Schema.objectNamesOf name schema?))
    (builds : ∀ schema ∈ schema?, law.BuildsLawfully names context schema) :
    law.MakesElement (optionalType context name schema?) := by
  cases schema? with
  | none => exact fun state obeyed => ⟨⟨.refl state, obeyed⟩, holds.elementPrimitive _ _ _⟩
  | some schema => exact (builds schema rfl).element name admits

private theorem objectFields_lawful_of (holds : law.Holds names context) {schema : Schema}
    {typeName : String} (admits : names.Admits (schema.innerNames typeName))
    (properties : ∀ entry ∈ schema.properties, law.BuildsLawfully names context entry.2)
    (additional : ∀ value ∈ schema.additional, law.BuildsLawfully names context value) :
    law.MakesList (IsEmptyFields typeName) (objectFields context typeName schema) := by
  apply fieldList_lawful holds
  · apply propertyFields_lawful holds
    intro entry member
    have within := admits.of_subset (Schema.objectNames_subset_innerNames member typeName)
    exact (properties entry member).field typeName entry.1 within
  · have within := admits.of_subset (List.subset_append_right _ _)
    exact optionalType_lawful_of holds within additional

/-- A nested object is known by its name, or has no fields and nothing is built for it. -/
theorem nestedObject_lawful (holds : law.Holds names context) {name : String} {doc : Option String}
    {body : Build FieldList} (isObject : names.object name)
    (makes : law.MakesList (IsEmptyFields name) body)
    {onEmpty onBuilt : Build α} {state : BuildState} (obeyed : law.state state)
    {ensured : α → BuildState → Prop} {fails : BuildError → BuildState → Prop}
    (empty : ∀ after, state.Keeps after → Ensures onEmpty after ensured fails)
    (built : ∀ after, law.Advances state after → after.knows name = true →
      Ensures onBuilt after ensured fails) :
    Ensures (nestedObject (ensureType name none doc body) onEmpty onBuilt) state ensured fails := by
  apply ensures_nestedObject
  apply (ensureType_lawful holds (fun list => .object isObject list doc) makes obeyed).mono
  · rintro _ after ⟨advances, known⟩
    exact built after advances known
  · rintro problem after ⟨isEmpty, keeps⟩
    exact ⟨name, isEmpty, empty after keeps⟩

private theorem fieldType_lawful_of (holds : law.Holds names context)
    (enters : law.Enters names context) {schema : Schema} {parent key : String}
    (admits : names.Admits (schema.objectNames (parent ++ Naming.camelCase key)))
    (properties : ∀ entry ∈ schema.properties, law.BuildsLawfully names context entry.2)
    (items : ∀ item ∈ schema.items, law.BuildsLawfully names context item)
    (additional : ∀ value ∈ schema.additional, law.BuildsLawfully names context value) :
    law.MakesField (fieldType context parent key schema) := by
  intro state obeyed
  rw [fieldType_eq]
  apply (alias?_lawful holds enters _ schema obeyed).bind
  rintro aliased? middle ⟨advances, keeps, isElement⟩
  cases aliased? with
  | some aliased =>
      refine ensures_pure ⟨advances, nofun, ?_⟩
      rintro _ ⟨⟩
      exact holds.fieldWrapped (isElement aliased rfl)
  | none =>
      have keeps := keeps rfl
      -- A field is built after the alias that was tried, or left out after it.
      have built : ∀ {type after}, law.Advances middle after → law.field after type →
          law.Advances state after ∧ (some type = none → state.Keeps after) ∧
            ∀ built ∈ some type, law.field after built := by
        intro type after further isField
        refine ⟨advances.trans further, nofun, ?_⟩
        rintro _ ⟨⟩
        exact isField
      have leftOut : ∀ reason after, middle.Keeps after →
          Ensures (do leaveOut parent key reason; return none) after
            (fun type? last => law.Advances state last ∧ (type? = none → state.Keeps last) ∧
              ∀ type ∈ type?, law.field last type)
            (fun _ _ => False) := by
        intro reason after further
        have left := keeps.trans (further.trans (keeps_leaveOut after ⟨parent, key, reason⟩))
        exact ⟨holds.advances left obeyed, fun _ => left, nofun⟩
      dsimp only
      split
      · apply (placeholderType_lawful holds enters schema middle advances.state).bind
        rintro type after ⟨further, isElement⟩
        exact ensures_pure (built further (holds.fieldWrapped isElement))
      · next notRecursive =>
          rw [Schema.objectNames_eq, if_neg notRecursive] at admits
          split
          · exact ensures_pure
              (built ⟨.refl middle, advances.state⟩ (holds.fieldPrimitive _ _ _))
          · next isMap =>
              rw [isMap] at admits
              apply (optionalType_lawful_of holds admits additional middle advances.state).bind
              rintro type after ⟨further, isElement⟩
              exact ensures_pure (built further (holds.fieldMap isElement))
          · next item isArray =>
              rw [isArray] at admits
              split
              · exact leftOut _ middle (.refl middle)
              · apply (optionalType_lawful_of holds admits items middle advances.state).bind
                rintro type after ⟨further, isElement⟩
                exact ensures_pure
                  (built further (holds.fieldWrapped (holds.elementArray isElement)))
          · exact leftOut _ middle (.refl middle)
          · next isObject =>
              rw [isObject] at admits
              have fields := objectFields_lawful_of holds
                (admits.of_subset (List.subset_cons_self _ _)) properties additional
              apply nestedObject_lawful holds (admits _ List.mem_cons_self) fields advances.state
              · exact leftOut _
              · intro after further known
                exact ensures_pure (built further (holds.fieldWrapped (holds.elementNamed known)))

private theorem elementType_lawful_of (holds : law.Holds names context)
    (enters : law.Enters names context) {schema : Schema} {name : String}
    (admits : names.Admits (schema.objectNames name))
    (properties : ∀ entry ∈ schema.properties, law.BuildsLawfully names context entry.2)
    (items : ∀ item ∈ schema.items, law.BuildsLawfully names context item)
    (additional : ∀ value ∈ schema.additional, law.BuildsLawfully names context value) :
    law.MakesElement (elementType context name schema) := by
  intro state obeyed
  rw [elementType_eq]
  split
  · exact placeholderType_lawful holds enters schema state obeyed
  · next notRecursive =>
      rw [Schema.objectNames_eq, if_neg notRecursive] at admits
      split
      · exact ensures_pure ⟨⟨.refl state, obeyed⟩, holds.elementPrimitive _ _ _⟩
      · next isMap =>
          rw [isMap] at admits
          have value := optionalType_lawful_of holds admits additional
          exact value.wrap holds.elementMap state obeyed
      · next item isArray =>
          rw [isArray] at admits
          have item := optionalType_lawful_of holds admits items
          exact item.wrap holds.elementArray state obeyed
      · exact ensures_pure ⟨⟨.refl state, obeyed⟩, holds.elementPrimitive _ _ _⟩
      · next isObject =>
          rw [isObject] at admits
          have fields := objectFields_lawful_of holds
            (admits.of_subset (List.subset_cons_self _ _)) properties additional
          apply nestedObject_lawful holds (admits _ List.mem_cons_self) fields obeyed
          · intro after keeps
            exact ensures_pure ⟨holds.advances keeps obeyed, holds.elementPrimitive _ _ _⟩
          · intro after advances known
            exact ensures_pure ⟨advances, holds.elementNamed known⟩

theorem buildsLawfully (holds : law.Holds names context) (enters : law.Enters names context)
    (schema : Schema) : law.BuildsLawfully names context schema := by
  induction schema using Schema.parts_induction with
  | step schema properties items additional =>
      exact ⟨fun parent key admits =>
          fieldType_lawful_of holds enters admits properties items additional,
        fun name admits => elementType_lawful_of holds enters admits properties items additional⟩

theorem optionalType_lawful (holds : law.Holds names context)
    (enters : law.Enters names context) {name : String} {schema? : Option Schema}
    (admits : names.Admits (Schema.objectNamesOf name schema?)) :
    law.MakesElement (optionalType context name schema?) :=
  optionalType_lawful_of holds admits fun schema _ => buildsLawfully holds enters schema

theorem objectFields_lawful (holds : law.Holds names context)
    (enters : law.Enters names context) {typeName : String} {schema : Schema}
    (admits : names.Admits (schema.innerNames typeName)) :
    law.MakesList (IsEmptyFields typeName) (objectFields context typeName schema) :=
  objectFields_lawful_of holds admits (fun entry _ => buildsLawfully holds enters entry.2)
    fun value _ => buildsLawfully holds enters value

/-! ## Components -/

theorem componentFields_lawful (holds : law.Holds names context)
    (enters : law.Enters names context) {component : Component}
    (isComponent : names.component component) :
    law.MakesList (fun _ => True) (componentFields context component) := by
  intro state obeyed
  have admits := holds.covers.inner isComponent
  unfold componentFields
  split
  · have within := admits.of_subset (List.subset_append_right _ _)
    apply ((optionalType_lawful holds enters within state obeyed).mono_fails
      fun _ _ => False.elim).bind
    rintro type after ⟨advances, isElement⟩
    refine ensures_pure ⟨advances, nofun, ?_⟩
    rintro _ ⟨⟩
    exact isElement
  · exact (objectFields_lawful holds enters admits state obeyed).mono_fails
      fun _ _ failed => ⟨trivial, failed.2⟩

/-- Components are entered lawfully with any room: without room, they fail and nothing
is built. -/
theorem enterWithin_lawful {aliasing : Bool} {resolve? : String → Option Schema}
    (holds : ∀ enter, law.Holds names ⟨aliasing, resolve?, enter⟩) (room : Nat) :
    law.Enters names ⟨aliasing, resolve?, enterWithin aliasing resolve? room⟩ := by
  induction room with
  | zero =>
      intro component state isComponent obeyed
      have fields : law.MakesList (fun _ => True) (throw (.indeterminate component.typeName)) :=
        fun state _ => ⟨trivial, .refl state⟩
      unfold enterWithin
      exact (ensureType_lawful (holds fun _ => pure ()) (.component isComponent) fields
        obeyed).mono_fails fun _ _ failed => failed.2
  | succ room induction =>
      intro component state isComponent obeyed
      have fields := componentFields_lawful (holds _) induction isComponent
      unfold enterWithin
      exact (ensureType_lawful (holds fun _ => pure ()) (.component isComponent) fields
        obeyed).mono_fails fun _ _ failed => failed.2

/-! ## Models -/

theorem context_lawful {builder : Builder}
    (holds : ∀ enter, law.Holds names { builder.context with enter }) :
    law.Enters names builder.context :=
  enterWithin_lawful holds _

theorem model_lawful {builder : Builder}
    (holds : ∀ enter, law.Holds names { builder.context with enter }) {name : String}
    {schema : Schema} (admits : names.Admits (schema.modelNames name)) :
    law.MakesBody (builder.model name schema) := by
  intro state obeyed
  have enters := context_lawful holds
  have lawful := holds builder.context.enter
  unfold Builder.model Build.model
  have tried : Ensures (alias? builder.context name schema) state
      (fun type? after => law.Advances state after ∧ (type? = none → state.Keeps after) ∧
        ∀ type ∈ type?, law.element after type) (fun _ after => state.Keeps after) :=
    (alias?_lawful lawful enters name schema obeyed).mono_fails fun _ _ => False.elim
  apply tried.bind
  rintro aliased? middle ⟨advances, keeps, isElement⟩
  cases aliased? with
  | some aliased => exact ensures_pure ⟨advances, isElement aliased rfl⟩
  | none =>
      have keeps := keeps rfl
      -- The model is another type, which is always made.
      have aliased : ∀ {step : Build TypeRef} (wrap : TypeRef → TypeRef), law.MakesElement step →
          (∀ {after type}, law.element after type → law.element after (wrap type)) →
          Ensures (do return .alias (wrap (← step))) middle
            (fun body after => law.Advances state after ∧ law.body after body)
            (fun _ after => state.Keeps after) := by
        intro step wrap makes closed
        apply ((makes middle advances.state).mono_fails fun _ _ => False.elim).bind
        rintro type after ⟨further, isElement⟩
        exact ensures_pure ⟨advances.trans further, closed isElement⟩
      dsimp only
      split
      · exact aliased id (placeholderType_lawful lawful enters schema) fun built => built
      · next notRecursive =>
          rw [Schema.modelNames, if_neg notRecursive] at admits
          split
          · exact ensures_pure ⟨advances, lawful.elementPrimitive _ _ _⟩
          · next isMap =>
              rw [isMap] at admits
              have within := admits.of_subset (List.subset_append_right _ _)
              exact aliased .map (optionalType_lawful lawful enters within) lawful.elementMap
          · next item isArray =>
              rw [isArray] at admits
              split
              · exact ensures_throw keeps
              · exact aliased .array (optionalType_lawful lawful enters admits)
                  lawful.elementArray
          · exact ensures_throw keeps
          · next isObject =>
              rw [isObject] at admits
              have fields := objectFields_lawful lawful enters admits middle advances.state
              apply (fields.mono_fails fun _ _ failed => keeps.trans failed.2).bind
              rintro list after ⟨further, isList⟩
              exact ensures_pure ⟨advances.trans further, isList⟩

theorem operation_lawful {builder : Builder}
    (holds : ∀ enter, law.Holds names { builder.context with enter }) {name : String}
    {verb : Verb} {path : String} {part : Part}
    (admits : ∀ found, builder.document.operationSchema verb path part = .ok (some found) →
      names.Admits (found.schema.modelNames name)) :
    law.MakesBody (builder.operation name verb path part) := by
  unfold Builder.operation
  split
  · next found isFound => exact model_lawful holds (admits found isFound)
  · exact fun state _ => ensures_throw (.refl state)

end RestModel.BuildLaw
