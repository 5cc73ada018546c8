import RestModel.Proofs.Build.Compositions
import RestModel.Proofs.Build.References
import Mathlib.Data.List.Nodup

/-! # Types and the places of their objects

The type of a nested object is named after its place, and where a type of that name is
built already, it is left as it is. Two places can have one name, since keys lose their
separators on the way into it. So the type under the name of a place is made from the
object there, or from an object in another place of the same name. -/

namespace RestModel

/-- Every type is made from an object in a place of its name. -/
def BuildState.IsPlaced (places : String → Schema → Prop) (state : BuildState) : Prop :=
  ∀ entry ∈ state.types, ∃ object, places entry.1 object ∧ entry.2.IsMadeOf object

namespace Build

variable {places : String → Schema → Prop}

/-- A step builds types in some places only. -/
def BuildsIn (places : String → Schema → Prop) (step : Build α) : Prop :=
  ∀ state : BuildState, state.IsPlaced places → Ensures step state
    (fun _ after => after.IsPlaced places) (fun _ after => after.IsPlaced places)

theorem BuildsIn.bind {first : Build β} {next : β → Build α} (builds : BuildsIn places first)
    (others : ∀ value, BuildsIn places (next value)) : BuildsIn places (first >>= next) :=
  fun state placed => (builds state placed).bind fun value after => others value after

theorem BuildsIn.succeeds {step : Build Unit} (builds : BuildsIn places step) :
    BuildsIn places (succeeds step) :=
  fun state placed => (builds state placed).succeeds

theorem BuildsIn.nestedObject {step : Build Unit} {onEmpty onBuilt : Build α}
    (builds : BuildsIn places step) (empty : BuildsIn places onEmpty)
    (built : BuildsIn places onBuilt) : BuildsIn places (nestedObject step onEmpty onBuilt) := by
  intro state placed
  apply Ensures.nestedObject
  exact (builds state placed).mono (fun _ => built) fun _ after placed =>
    ⟨placed, empty after placed⟩

/-- A type that is built takes the name of its place. -/
theorem BuildsIn.ensureType {typeName : String} {schema : Schema} {component : Option String}
    {body : Build FieldList} (isPlace : places typeName schema)
    (drawn : ∀ state, Ensures body state (fun list _ => list.IsDrawnFrom schema) fun _ _ => True)
    (builds : BuildsIn places body) :
    BuildsIn places (ensureType typeName component schema.description body) := by
  intro state placed
  apply ensures_ensureType
  · exact fun _ => placed
  · intro _
    have inside : (state.enclose typeName).IsPlaced places := placed
    apply ((builds _ inside).and (drawn _)).mono
    · rintro list after ⟨placed, ofSchema⟩ entry member
      rcases Keyed.mem_insertNew member with rfl | stored
      · exact ⟨schema, isPlace, ofSchema, rfl⟩
      · exact placed entry stored
    · exact fun _ _ failed => failed.1

private theorem buildsIn_composes {aliasing : Bool} {resolve? : String → Option Schema}
    {enter : Component → Build Unit} (enters : ∀ component : Component, component.IsOf resolve? →
      BuildsIn places (enter component)) :
    Composes aliasing resolve? places fun _ step => BuildsIn places (step enter) where
  pure _ := fun _ placed => placed
  throw _ := fun _ placed => placed
  isKnown _ := fun _ placed => placed
  leaveOut _ _ _ := fun _ placed => placed
  recordMention _ := fun _ placed => placed
  enter isOf := enters _ isOf
  bind := .bind
  succeeds := .succeeds
  ensureType isPlace := .ensureType isPlace (objectFields_drawn _ _ _)
  nestedObject := .nestedObject

/-- Components are in places of their own, and so are the objects within them. -/
structure CoversComponents (places : String → Schema → Prop)
    (resolve? : String → Option Schema) : Prop where
  own {component : Component} : component.IsOf resolve? →
    places component.typeName component.schema
  inner {component : Component} {typeName : String} {object : Schema} :
    component.IsOf resolve? → component.schema.NestsWithin component.typeName typeName object →
    places typeName object

private theorem enterWithin_buildsIn {aliasing : Bool} {resolve? : String → Option Schema}
    (covers : CoversComponents places resolve?) (room : Nat) {component : Component}
    (isOf : component.IsOf resolve?) :
    BuildsIn places (enterWithin aliasing resolve? room component) := by
  induction room generalizing component with
  | zero =>
      -- Without room the body of the type fails, so there is nothing to be drawn.
      unfold enterWithin
      exact .ensureType (covers.own isOf) (fun _ => trivial) fun _ placed => placed
  | succ room induction =>
      have composes : Composes aliasing resolve? places fun _ step =>
          BuildsIn places (step (enterWithin aliasing resolve? room)) :=
        buildsIn_composes fun _ => induction
      unfold enterWithin
      exact .ensureType (covers.own isOf) (componentFields_drawn _ component)
        (composes.componentFields_of (fun _ => isEverywhere _) fun _ _ => covers.inner isOf)

/-! ## The names that the types of fields mention -/

section Mentions

variable {context : BuildContext} {schema object : Schema} {name typeName : String}

private theorem unshared_of_not_aliasing (notShared : context.aliasing = false) (schema : Schema) :
    context.sharedComponent? schema = none := by
  simp [BuildContext.sharedComponent?, notShared]

private theorem ensures_nestedObject_of_all {step : Build Unit} {onEmpty onBuilt : Build α}
    {holds : α → BuildState → Prop}
    (empty : ∀ after, Ensures onEmpty after holds fun _ _ => True)
    (built : ∀ after, Ensures onBuilt after holds fun _ _ => True) (state : BuildState) :
    Ensures (nestedObject step onEmpty onBuilt) state holds fun _ _ => True := by
  apply Ensures.nestedObject
  unfold Ensures
  cases step state with
  | ok value after => exact built after
  | error problem after => exact ⟨trivial, empty after⟩

private theorem ensures_optionalType {schema? : Option Schema} {holds : TypeRef → BuildState → Prop}
    (described : schema ∈ schema?) {state : BuildState}
    (ensures : Ensures (elementType context name schema) state holds fun _ _ => True) :
    Ensures (optionalType context name schema?) state holds fun _ _ => True := by
  cases described
  exact ensures

/-- An item or a value mentions no type but that of the object that it wraps. -/
theorem ensures_elementType (wraps : schema.Wraps name typeName object) (state : BuildState) :
    Ensures (elementType context name schema) state
      (fun type _ => ∀ mentioned ∈ type.names, mentioned = typeName) fun _ _ => True := by
  induction wraps generalizing state with
  | self notRecursive isObject =>
      rw [elementType_eq, notRecursive, if_neg Bool.false_ne_true, isObject]
      exact ensures_nestedObject_of_all (fun _ => ensures_pure nofun)
        (fun _ => ensures_pure (by simp [TypeRef.names])) state
  | value isMap described _ induction =>
      have notRecursive := Schema.not_recursive_of_shape (by rw [isMap]; nofun)
      rw [elementType_eq, if_neg notRecursive, isMap]
      exact (ensures_optionalType described (induction state)).bind fun _ _ named => named
  | item isArray described _ induction =>
      have notRecursive := Schema.not_recursive_of_shape (by rw [isArray]; nofun)
      rw [elementType_eq, if_neg notRecursive, isArray]
      exact (ensures_optionalType described (induction state)).bind fun _ _ named => named

private theorem fieldType_of_unshared (notShared : context.aliasing = false) (parent key : String) :
    fieldType context parent key schema = (do
      if schema.recursive then
        return some (.wrapped (← placeholderType context schema))
      let nested := parent ++ Naming.camelCase key
      match schema.shape with
      | .primitive => return some (.ofPrimitive schema)
      | .map => return some (.map (← optionalType context (nested ++ "Value") schema.additional))
      | .array item =>
          if (Shape.array item).hasAmbiguousItems then
            leaveOut parent key .arrayOfAmbiguousObjects
            return none
          else
            return some (.wrapped (.array (← optionalType context nested schema.items)))
      | .ambiguousObject =>
          leaveOut parent key .ambiguousObject
          return none
      | .object =>
          nestedObject
            (ensureType nested none schema.description (objectFields context nested schema))
            (do leaveOut parent key .emptyFields
                return none)
            (return some (.wrapped (.named nested)))) := by
  rw [fieldType_eq, alias?_of_unshared (unshared_of_not_aliasing notShared schema)]
  exact pure_bind _ _

/-- A property that is an object has a field of the type of that object. -/
theorem ensures_fieldType_object (notShared : context.aliasing = false)
    (notRecursive : schema.recursive = false) (isObject : schema.shape = .object)
    (parent key : String) (state : BuildState) :
    Ensures (fieldType context parent key schema) state
      (fun type? _ => ∀ type ∈ type?, type = .wrapped (.named (parent ++ Naming.camelCase key)))
      fun _ _ => True := by
  rw [fieldType_of_unshared notShared, notRecursive, if_neg Bool.false_ne_true, isObject]
  have leftOut (after : BuildState) : Ensures (do
        leaveOut parent key .emptyFields
        return (none : Option TypeRef)) after
      (fun type? _ => ∀ type ∈ type?, type = .wrapped (.named (parent ++ Naming.camelCase key)))
      fun _ _ => True := nofun
  exact ensures_nestedObject_of_all leftOut (fun _ => ensures_pure (by simp)) state

/-- A field mentions no type but that of the object that its property wraps. -/
theorem ensures_fieldType_names (notShared : context.aliasing = false) {parent key : String}
    (wraps : schema.Wraps (parent ++ Naming.camelCase key) typeName object) (state : BuildState) :
    Ensures (fieldType context parent key schema) state
      (fun type? _ => ∀ type ∈ type?, ∀ mentioned ∈ type.names, mentioned = typeName)
      fun _ _ => True := by
  cases wraps with
  | self notRecursive isObject =>
      apply (ensures_fieldType_object notShared notRecursive isObject parent key state).mono
      · rintro _ _ isType type isSome mentioned isName
        rw [isType type isSome] at isName
        simpa [TypeRef.names] using isName
      · exact fun _ _ => id
  | value isMap described wraps =>
      have notRecursive := Schema.not_recursive_of_shape (by rw [isMap]; nofun)
      rw [fieldType_of_unshared notShared, if_neg notRecursive, isMap]
      apply (ensures_optionalType described (ensures_elementType wraps state)).bind
      intro type after named
      exact ensures_pure (by simpa [TypeRef.names] using named)
  | item isArray described wraps =>
      have notRecursive := Schema.not_recursive_of_shape (by rw [isArray]; nofun)
      rw [fieldType_of_unshared notShared, if_neg notRecursive, isArray]
      dsimp only
      split
      · exact (nofun : ∀ type ∈ (none : Option TypeRef), ∀ mentioned ∈ type.names, mentioned = _)
      · apply (ensures_optionalType described (ensures_elementType wraps state)).bind
        intro type after named
        exact ensures_pure (by simpa [TypeRef.names] using named)

/-- A field is of the type of the object that its property is, or mentions no type but
that of the object that its property wraps. -/
structure Fits (parent : String) (entry : String × Schema) (type : TypeRef) : Prop where
  object : entry.2.recursive = false → entry.2.shape = .object →
    type = .wrapped (.named (parent ++ Naming.camelCase entry.1))
  wrapped : ∀ typeName object, entry.2.Wraps (parent ++ Naming.camelCase entry.1) typeName object →
    ∀ mentioned ∈ type.names, mentioned = typeName

private theorem ensures_fieldType (notShared : context.aliasing = false) (parent : String)
    (entry : String × Schema) (state : BuildState) :
    Ensures (fieldType context parent entry.1 entry.2) state
      (fun type? _ => ∀ type ∈ type?, Fits parent entry type) fun _ _ => True := by
  have objects := ensures_forall fun notRecursive : entry.2.recursive = false =>
    ensures_forall fun isObject : entry.2.shape = .object =>
      ensures_fieldType_object notShared notRecursive isObject parent entry.1 state
  have names := ensures_forall fun typeName => ensures_forall fun object =>
    ensures_forall fun wraps : entry.2.Wraps (parent ++ Naming.camelCase entry.1) typeName object =>
      ensures_fieldType_names notShared wraps state
  apply (objects.and names).mono
  · rintro type? after ⟨isObject, isNamed⟩ type isType
    exact ⟨fun notRecursive shape => isObject notRecursive shape type isType,
      fun typeName object wraps => isNamed typeName object wraps type isType⟩
  · exact fun _ _ _ => trivial

private theorem ensures_objectFields_fit (notShared : context.aliasing = false)
    (state : BuildState) :
    Ensures (objectFields context name schema) state (fun list _ => ∀ field ∈ list.fields,
      ∃ entry ∈ schema.properties, field.sourceKey = entry.1 ∧ Fits name entry field.type)
      fun _ _ => True := by
  have types (entry : String × Schema) (_ : entry ∈ schema.properties) :=
    ensures_fieldType notShared name entry
  exact (ensures_objectFields types state).mono (fun _ _ built => built.1) fun _ _ => id

private theorem model_of_object (notShared : context.aliasing = false)
    (notRecursive : schema.recursive = false) (isObject : schema.shape = .object)
    (name : String) : model context name schema =
      (do return .fields (← objectFields context name schema)) := by
  rw [model, alias?_of_unshared (unshared_of_not_aliasing notShared schema), pure_bind,
    notRecursive, if_neg Bool.false_ne_true, isObject]

/-- The fields of a model are those of the object that its schema is. -/
theorem ensures_model_fields (notShared : context.aliasing = false) (name : String)
    (schema : Schema) (state : BuildState) :
    Ensures (model context name schema) state (fun body after => ∀ list, body = .fields list →
      objectFields context name schema state = .ok list after) fun _ _ => True := by
  have aliased {target : TypeRef → TypeRef} {step : Build TypeRef} :
      Ensures (do return TypeBody.alias (target (← step))) state
        (fun body after => ∀ list, body = TypeBody.fields list →
          objectFields context name schema state = .ok list after) fun _ _ => True :=
    (ensures_of_forall step state fun _ _ => trivial).bind fun _ _ _ => ensures_pure nofun
  unfold model
  rw [alias?_of_unshared (unshared_of_not_aliasing notShared schema), pure_bind]
  dsimp only
  split
  · exact @aliased id _
  · split
    · exact ensures_pure nofun
    · exact @aliased .map _
    · split
      · exact ensures_throw trivial
      · exact @aliased .array _
    · exact ensures_throw trivial
    · apply (ensures_self _ state).bind
      rintro list after run
      apply ensures_pure
      rintro _ ⟨⟩
      exact run

end Mentions

end Build

namespace Builder

/-- The objects that types are made from when a model is built: those within its schema,
the components, and those within components. -/
inductive Places (builder : Builder) (name : String) (schema : Schema) :
    String → Schema → Prop where
  | nested {typeName : String} {object : Schema} : schema.NestsWithin name typeName object →
      Places builder name schema typeName object
  | component {component : Component} : component.IsOf builder.document.component? →
      Places builder name schema component.typeName component.schema
  | inComponent {component : Component} {typeName : String} {object : Schema} :
      component.IsOf builder.document.component? →
      component.schema.NestsWithin component.typeName typeName object →
      Places builder name schema typeName object

variable {builder : Builder} {name : String} {schema : Schema} {list : FieldList}
  {after : BuildState}

private theorem objectFields_of_model (notShared : builder.aliasing = false)
    (run : builder.model name schema .empty = .ok (.fields list) after) :
    Build.objectFields builder.context name schema .empty = .ok list after :=
  (Build.ensures_model_fields notShared name schema .empty).of_ok run list rfl

private theorem isPlaced_of_model (notShared : builder.aliasing = false)
    (run : builder.model name schema .empty = .ok (.fields list) after) :
    after.IsPlaced (builder.Places name schema) := by
  have covers : Build.CoversComponents (builder.Places name schema) builder.document.component? :=
    ⟨.component, .inComponent⟩
  have composes : Build.Composes builder.aliasing builder.document.component?
      (builder.Places name schema) fun _ step =>
        Build.BuildsIn (builder.Places name schema) (step builder.context.enter) :=
    Build.buildsIn_composes fun _ => Build.enterWithin_buildsIn covers _
  have builds : Build.BuildsIn (builder.Places name schema)
      (Build.objectFields builder.context name schema) :=
    composes.objectFields (fun _ => Build.isEverywhere _) fun _ _ => .nested
  exact (builds .empty nofun).of_ok (objectFields_of_model notShared run)

/-- All types that the fields of a model mention are registered with it. -/
theorem registered_of_model (run : builder.model name schema .empty = .ok (.fields list) after)
    {mentioned : String} (isName : mentioned ∈ list.names) :
    ∃ type, Keyed.get? mentioned after.types = some type := by
  have holds (enter : Component → Build Unit) :
      BuildLaw.references.Holds .any { builder.context with enter } :=
    BuildLaw.references_holds _
  have closed := BuildLaw.model_lawful holds (TypeNames.any_admits (schema.modelNames name))
    .empty BuildState.closed_empty
  rcases closed.of_ok run with ⟨advances, known⟩
  -- Nothing is being built before a model, and so nothing is after it.
  have stored : Keyed.contains mentioned after.types = true := by
    have isKnown := BuildLaw.references_list.mp known mentioned isName
    have idle : after.building = [] := advances.grows.building
    simpa [BuildState.knows, idle] using isKnown
  exact Option.isSome_iff_exists.mp stored

/-- The field of a property that is an object is of the type named after its place, and
where the property is an object, or an array or a map of objects, the field mentions no
other type than theirs. That type is made from the object in that place, unless another
object in a place of the same name came before it. -/
theorem model_nests (notShared : builder.aliasing = false)
    (run : builder.model name schema .empty = .ok (.fields list) after)
    (distinct : (Keyed.keys schema.properties).Nodup) {key : String} {property : Schema}
    (isProperty : (key, property) ∈ schema.properties) {field : Field}
    (isField : field ∈ list.fields) (ofProperty : field.sourceKey = key) :
    (property.recursive = false → property.shape = .object →
      field.type = .wrapped (.named (name ++ Naming.camelCase key))) ∧
    ∀ typeName object, property.Wraps (name ++ Naming.camelCase key) typeName object →
      ∀ mentioned ∈ field.type.names, mentioned = typeName ∧
        ∃ type, Keyed.get? typeName after.types = some type ∧ (type.IsMadeOf object ∨
          ∃ other ≠ object, builder.Places name schema typeName other ∧ type.IsMadeOf other) := by
  have fits := (Build.ensures_objectFields_fit notShared .empty).of_ok
    (objectFields_of_model notShared run)
  have placed := isPlaced_of_model notShared run
  rcases fits field isField with ⟨entry, member, isKey, fits⟩
  have isEntry : entry = (key, property) :=
    List.inj_on_of_nodup_map distinct member isProperty (isKey.symm.trans ofProperty)
  subst isEntry
  refine ⟨fits.object, ?_⟩
  intro typeName object wraps mentioned isName
  obtain rfl := fits.wrapped typeName object wraps mentioned isName
  have listed : mentioned ∈ list.names :=
    List.mem_append_left _ (List.mem_flatMap.mpr ⟨field, isField, isName⟩)
  rcases registered_of_model run listed with ⟨type, found⟩
  rcases placed _ (Keyed.mem_of_get? found) with ⟨other, isPlace, made⟩
  refine ⟨rfl, type, found, ?_⟩
  by_cases same : other = object
  · exact .inl (same ▸ made)
  · exact .inr ⟨other, same, isPlace, made⟩

/-- Orders of an owner with an address, to which another address is sent. -/
def orders : Builder where
  document := {
    title := "Orders"
    paths := []
    components := []
    sharedRequests := []
    sharedResponses := []
    listWrapperKeys := [] }
  aliasing := false

/-- An object of one property, in the form that it is written in. -/
def objectOf (key : String) (property : Json) : Json :=
  .object [("type", .string "object"), ("properties", .object [(key, property)])]

/-- An order, whose two addresses are in places of one name. -/
def order : Schema :=
  orders.document.resolve (.object [("properties", .object
    [("owner", objectOf "address" (objectOf "street" (.object [("type", .string "string")]))),
      ("ownerAddress", objectOf "zip" (.object [("type", .string "string")]))])])

def orderProperty (key : String) : Schema :=
  (Keyed.get? key order.properties).getD .free

/-- The fields of orders before they are sorted, and what is built with them. -/
def orderFields? : Option (List Field × BuildState) :=
  match Build.propertyFields orders.context "Order" (order.required.map Naming.normalKey) []
      order.properties .empty with
  | .ok fields after => some (fields, after)
  | .error _ _ => none

private theorem model_of_orderFields? {holds : Field → BuildState → Prop}
    (known : ∃ built ∈ orderFields?, ∃ field ∈ built.1, holds field built.2) :
    ∃ list after, orders.model "Order" order .empty = .ok (.fields list) after ∧
      ∃ field ∈ list.fields, holds field after := by
  rcases known with ⟨⟨fields, after⟩, isBuilt, field, isField, ensured⟩
  have run : Build.propertyFields orders.context "Order" (order.required.map Naming.normalKey) []
      order.properties .empty = .ok fields after := by
    simp only [orderFields?, Option.mem_def] at isBuilt
    split at isBuilt
    · next run =>
        cases isBuilt
        exact run
    · contradiction
  have notRecursive : order.recursive = false := by decide +kernel
  have isObject : order.shape = .object := by decide +kernel
  have undescribed : order.additional = none := by decide +kernel
  have nonempty : fields ≠ [] := List.ne_nil_of_mem isField
  refine ⟨⟨Field.sort fields, none⟩, after, ?_, field, List.mem_mergeSort.mpr isField, ensured⟩
  rw [Builder.model, Build.model_of_object rfl notRecursive isObject, Build.bind_apply,
    Build.objectFields_of_propertyFields run nonempty undescribed]
  rfl

/-- The field of the owner is of the type that is named after it. -/
theorem model_nests_owner :
    ∃ list after, orders.model "Order" order .empty = .ok (.fields list) after ∧
      ∃ field ∈ list.fields, field.sourceKey = "owner" ∧
        field.type = .wrapped (.named "OrderOwner") ∧
        ∃ type, Keyed.get? "OrderOwner" after.types = some type ∧
          (type.IsMadeOf (orderProperty "owner") ∨ ∃ other ≠ orderProperty "owner",
            orders.Places "Order" order "OrderOwner" other ∧ type.IsMadeOf other) := by
  have built : ∃ list after, orders.model "Order" order .empty = .ok (.fields list) after ∧
      ∃ field ∈ list.fields, field.sourceKey = "owner" :=
    model_of_orderFields? (by decide +kernel)
  rcases built with ⟨list, after, run, field, isField, isOwner⟩
  have distinct : (Keyed.keys order.properties).Nodup := by decide +kernel
  have stored : (Keyed.get? "owner" order.properties).isSome = true := by decide +kernel
  have isProperty : ("owner", orderProperty "owner") ∈ order.properties := by
    rcases Option.isSome_iff_exists.mp stored with ⟨owner, found⟩
    rw [orderProperty, found]
    exact Keyed.mem_of_get? found
  have notRecursive : (orderProperty "owner").recursive = false := by decide +kernel
  have isObject : (orderProperty "owner").shape = .object := by decide +kernel
  have nests := model_nests rfl run distinct isProperty isField isOwner
  have isNamed : field.type = .wrapped (.named "OrderOwner") := nests.1 notRecursive isObject
  have mentions : "OrderOwner" ∈ field.type.names := by simp [isNamed, TypeRef.names]
  have made := nests.2 "OrderOwner" _ (.self notRecursive isObject) "OrderOwner" mentions
  exact ⟨list, after, run, field, isField, isOwner, isNamed, made.2⟩

/-- The field of the second address is of a type with a property of the first one. -/
theorem model_nests_namesakes :
    ∃ list after, orders.model "Order" order .empty = .ok (.fields list) after ∧
      ∃ field ∈ list.fields, field.sourceKey = "ownerAddress" ∧
        (orderProperty "ownerAddress").recursive = false ∧
        (orderProperty "ownerAddress").shape = .object ∧
        field.type = .wrapped (.named "OrderOwnerAddress") ∧
        ∃ type ∈ Keyed.get? "OrderOwnerAddress" after.types, ∃ inner ∈ type.fields,
          inner.sourceKey ∉ Keyed.keys (orderProperty "ownerAddress").properties :=
  model_of_orderFields? (by decide +kernel)

end Builder

end RestModel
