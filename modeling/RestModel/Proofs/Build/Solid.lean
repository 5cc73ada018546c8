import RestModel.Generation.Basic
import RestModel.Proofs.Build.Lawful
import RestModel.Proofs.Schema

/-! # Schemas that always build or never do

Whether an object has fields can depend on what was built before: a property may
find a type of its name already built, or the component that it refers to. No such
chance decides about a solid schema, which has a part that always gets a type, nor
about a bare one, in which nothing ever does. -/

namespace RestModel

namespace Schema

/-- A schema has a part that a type can always be made from. -/
inductive Solid : Schema → Prop where
  | recursive {schema : Schema} (isRecursive : schema.recursive = true) : Solid schema
  /-- Neither an object nor an array of objects about which nothing is known. -/
  | shaped {schema : Schema} (notAmbiguous : schema.shape ≠ .ambiguousObject)
      (notObject : schema.shape ≠ .object) (items : schema.shape.hasAmbiguousItems = false) :
      Solid schema
  | object {schema property : Schema} {key : String} (isObject : schema.shape = .object)
      (member : (key, property) ∈ schema.properties) (solid : Solid property) : Solid schema

/-- Nothing is known about a schema, or about its items, and no component's type can
be shared for it. -/
structure Bare (resolve? : String → Option Schema) (schema : Schema) : Prop where
  unshared : ComponentMatch.ofSchema? resolve? schema = none
  shape : schema.shape = .ambiguousObject ∨ schema.shape.hasAmbiguousItems = true

/-- No type can be made from a schema, for a reason. -/
inductive Hopeless (resolve? : String → Option Schema) : Schema → IssueReason → Prop where
  | ambiguous {schema : Schema} (unshared : ComponentMatch.ofSchema? resolve? schema = none)
      (isAmbiguous : schema.shape = .ambiguousObject) :
      Hopeless resolve? schema .ambiguousSchema
  | array {schema : Schema} (unshared : ComponentMatch.ofSchema? resolve? schema = none)
      (items : schema.shape.hasAmbiguousItems = true) :
      Hopeless resolve? schema .arrayOfAmbiguousObjects
  | object {schema : Schema} (unshared : ComponentMatch.ofSchema? resolve? schema = none)
      (notRecursive : schema.recursive = false) (isObject : schema.shape = .object)
      (bare : ∀ entry ∈ schema.properties, Bare resolve? entry.2) :
      Hopeless resolve? schema .emptyFields

/-- Whether a type can be made from a schema is settled: by nothing, or by a reason
against it. -/
inductive Settled (resolve? : String → Option Schema) : Schema → Option IssueReason → Prop where
  | solid {schema : Schema} : Solid schema → Settled resolve? schema none
  | hopeless {schema : Schema} {reason : IssueReason} : Hopeless resolve? schema reason →
      Settled resolve? schema (some reason)

mutual
/-- Whether a schema is solid, found from its parts. -/
def isSolid : Schema → Bool
  | ⟨type, format, description, nullable, properties, required, items, additional, reference,
      recursive⟩ =>
      let shape := Schema.shape ⟨type, format, description, nullable, properties, required, items,
        additional, reference, recursive⟩
      recursive || match shape with
        | .ambiguousObject => false
        | .object => hasSolid properties
        | other => !other.hasAmbiguousItems

/-- Whether some of several properties is solid. -/
def hasSolid : List (String × Schema) → Bool
  | [] => false
  | (_, property) :: rest => property.isSolid || hasSolid rest
end

private theorem hasSolid_eq_any (properties : List (String × Schema)) :
    hasSolid properties = properties.any (·.2.isSolid) := by
  induction properties with
  | nil => rfl
  | cons first rest induction => rw [hasSolid, induction, List.any_cons]

private theorem isSolid_eq (schema : Schema) : schema.isSolid = (schema.recursive ||
    match schema.shape with
    | .ambiguousObject => false
    | .object => schema.properties.any (·.2.isSolid)
    | other => !other.hasAmbiguousItems) := by
  cases schema
  simp only [isSolid, hasSolid_eq_any]

private theorem solid_of_isSolid (schema : Schema) : schema.isSolid = true → schema.Solid := by
  induction schema using parts_induction with
  | step schema properties _ _ =>
      intro isSolid
      rw [isSolid_eq] at isSolid
      rcases Bool.or_eq_true_iff.mp isSolid with isRecursive | shaped
      · exact .recursive isRecursive
      · split at shaped
        · contradiction
        · next isObject =>
            rcases List.any_eq_true.mp shaped with ⟨⟨key, property⟩, member, solid⟩
            exact .object isObject member (properties _ member solid)
        · next notAmbiguous notObject =>
            exact .shaped notAmbiguous notObject (by simpa using shaped)

private theorem isSolid_of_solid {schema : Schema} (solid : schema.Solid) :
    schema.isSolid = true := by
  rw [isSolid_eq]
  induction solid with
  | recursive isRecursive => rw [isRecursive, Bool.true_or]
  | shaped notAmbiguous notObject items =>
      apply Bool.or_eq_true_iff.mpr
      right
      split
      · contradiction
      · contradiction
      · simp [items]
  | @object schema property key isObject member solid isSolid =>
      rw [← isSolid_eq] at isSolid
      have among : schema.properties.any (·.2.isSolid) = true :=
        List.any_eq_true.mpr ⟨(key, property), member, isSolid⟩
      rw [isObject, among, Bool.or_true]

instance (schema : Schema) : Decidable schema.Solid :=
  decidable_of_iff (schema.isSolid = true) ⟨solid_of_isSolid schema, isSolid_of_solid⟩

end Schema

namespace Build

open BuildLaw

/-! ## Steps that succeed -/

/-- A step succeeds with a value of a kind, whatever was built before. -/
def Yields (step : Build α) (kind : α → Prop) : Prop :=
  ∀ state, Ensures step state (fun value _ => kind value) (fun _ _ => False)

theorem Yields.bind {first : Build β} {next : β → Build α} {kind : α → Prop}
    {middle : β → Prop} (yields : Yields first middle)
    (others : ∀ value, middle value → Yields (next value) kind) : Yields (first >>= next) kind :=
  fun state => (yields state).bind fun value after isMiddle => others value isMiddle after

private theorem yields_pure {value : α} {kind : α → Prop} (isKind : kind value) :
    Yields (pure value) kind :=
  fun _ => ensures_pure isKind

private theorem yields_of_makesElement {law : BuildLaw} {step : Build TypeRef}
    (makes : law.MakesElement step) (obeyed : ∀ state, law.state state) :
    Yields step fun _ => True :=
  fun state => (makes state (obeyed state)).mono (fun _ _ _ => trivial) fun _ _ => id

theorem Yields.ensureType {typeName : String} {component doc : Option String}
    {body : Build FieldList} (yields : Yields body fun _ => True) :
    Yields (ensureType typeName component doc body) fun _ => True :=
  fun state => ensures_ensureType (fun _ => trivial) fun _ => yields (state.enclose typeName)

theorem Yields.nestedObject {step : Build Unit} {onEmpty onBuilt : Build α} {kind : α → Prop}
    (yields : Yields step fun _ => True) (built : Yields onBuilt kind) :
    Yields (nestedObject step onEmpty onBuilt) kind :=
  fun state => ensures_nestedObject <|
    (yields state).mono (fun _ after _ => built after) fun _ _ => False.elim

theorem Yields.fieldList {typeName : String} {schema : Schema} {properties : Build (List Field)}
    {additional : Build TypeRef} (fields : Yields properties (· ≠ []))
    (rest : Yields additional fun _ => True) :
    Yields (fieldList typeName schema properties additional) fun _ => True := by
  intro state
  apply ensures_fieldList
  apply (fields state).mono
  · intro built after nonempty
    rw [if_neg fun empty => nonempty empty.1]
    split
    · trivial
    · exact rest after
  · exact fun _ _ => id

theorem Yields.mono {step : Build α} {kind other : α → Prop} (yields : Yields step kind)
    (implies : ∀ value, kind value → other value) : Yields step other :=
  fun state => (yields state).mono (fun value _ => implies value) fun _ _ => id

/-- If some property is certain to have a field, there are fields. -/
theorem yields_propertyFields {context : BuildContext} {typeName : String}
    (required : List String) {certain : String × Schema → Prop} :
    ∀ (taken : List String) {properties : List (String × Schema)},
      (∀ entry ∈ properties, Yields (fieldType context typeName entry.1 entry.2)
        fun type? => certain entry → type? ≠ none) →
      Yields (propertyFields context typeName required taken properties)
        fun fields => (∃ entry ∈ properties, certain entry) → fields ≠ []
  | _, [], _ => yields_pure (by simp)
  | taken, (key, property) :: rest, yields => by
      have others := fun taken => yields_propertyFields required taken
        fun entry member => yields entry (List.mem_cons_of_mem _ member)
      rw [propertyFields_cons]
      apply (yields (key, property) List.mem_cons_self).bind
      intro type? isField
      cases type? with
      | none =>
          apply (others taken).mono
          rintro fields nonempty ⟨entry, member, isCertain⟩
          rcases List.mem_cons.mp member with rfl | later
          · exact absurd rfl (isField isCertain)
          · exact nonempty ⟨entry, later, isCertain⟩
      | some type =>
          apply (others _).bind
          intro fields _
          exact yields_pure fun _ => List.cons_ne_nil _ _

variable {context : BuildContext}

theorem yields_alias? (enters : unrestricted.Enters .any context) (target : String)
    (schema : Schema) : Yields (alias? context target schema) fun _ => True :=
  fun _ => (alias?_lawful (unrestricted_holds context) enters target schema trivial).mono
    (fun _ _ _ => trivial) fun _ _ => id

theorem yields_placeholderType (enters : unrestricted.Enters .any context) (schema : Schema) :
    Yields (placeholderType context schema) fun _ => True :=
  yields_of_makesElement (placeholderType_lawful (unrestricted_holds context) enters schema)
    fun _ => trivial

theorem yields_optionalType (enters : unrestricted.Enters .any context) (name : String)
    (schema? : Option Schema) : Yields (optionalType context name schema?) fun _ => True :=
  yields_of_makesElement (optionalType_lawful (unrestricted_holds context) enters
    (TypeNames.any_admits _)) fun _ => trivial

theorem yields_fieldType (enters : unrestricted.Enters .any context) (parent key : String)
    (schema : Schema) : Yields (fieldType context parent key schema) fun _ => True :=
  fun state =>
    ((buildsLawfully (unrestricted_holds context) enters schema).field parent key
      (TypeNames.any_admits _) state trivial).mono (fun _ _ _ => trivial) fun _ _ => id

/-- An object has fields if one of its properties is certain to have one. -/
theorem yields_objectFields (enters : unrestricted.Enters .any context) (typeName : String)
    {schema property : Schema} {key : String} (member : (key, property) ∈ schema.properties)
    (isField : ∀ parent, Yields (fieldType context parent key property) (· ≠ none)) :
    Yields (objectFields context typeName schema) fun _ => True := by
  apply Yields.fieldList
  · have fields : Yields (propertyFields context typeName
        (schema.required.map Naming.normalKey) [] schema.properties)
        fun fields => (∃ entry ∈ schema.properties, entry = (key, property)) → fields ≠ [] := by
      apply yields_propertyFields
      intro entry _
      by_cases same : entry = (key, property)
      · subst same
        exact (isField typeName).mono fun _ isSome _ => isSome
      · exact (yields_fieldType enters typeName entry.1 entry.2).mono
          fun _ _ isCertain => absurd isCertain same
    exact fields.mono fun _ nonempty => nonempty ⟨_, member, rfl⟩
  · exact yields_optionalType enters _ _

/-- A type can be made from a schema, whatever was built before. -/
structure MakesType (context : BuildContext) (schema : Schema) : Prop where
  notAmbiguous : schema.shape ≠ .ambiguousObject
  items : schema.shape.hasAmbiguousItems = false
  fields (typeName : String) : schema.recursive = false → schema.shape = .object →
    Yields (objectFields context typeName schema) fun _ => True

theorem MakesType.fieldType (enters : unrestricted.Enters .any context) {schema : Schema}
    (makes : MakesType context schema) (parent key : String) :
    Yields (fieldType context parent key schema) (· ≠ none) := by
  rw [fieldType_eq]
  apply (yields_alias? enters _ schema).bind
  intro aliased? _
  cases aliased? with
  | some aliased => exact yields_pure (Option.some_ne_none _)
  | none =>
      dsimp only
      split
      · exact (yields_placeholderType enters schema).bind fun _ _ =>
          yields_pure (Option.some_ne_none _)
      · next notRecursive =>
          have items := makes.items
          split
          · exact yields_pure (Option.some_ne_none _)
          · exact (yields_optionalType enters _ _).bind fun _ _ =>
              yields_pure (Option.some_ne_none _)
          · next item isArray =>
              rw [isArray] at items
              rw [items, if_neg Bool.false_ne_true]
              exact (yields_optionalType enters _ _).bind fun _ _ =>
                yields_pure (Option.some_ne_none _)
          · next isAmbiguous => exact absurd isAmbiguous makes.notAmbiguous
          · next isObject =>
              have fields := makes.fields (parent ++ Naming.camelCase key)
                (by simpa using notRecursive) isObject
              exact fields.ensureType.nestedObject (yields_pure (Option.some_ne_none _))

theorem MakesType.model (enters : unrestricted.Enters .any context) {schema : Schema}
    (makes : MakesType context schema) (name : String) :
    Yields (model context name schema) fun _ => True := by
  unfold Build.model
  apply (yields_alias? enters _ schema).bind
  intro aliased? _
  cases aliased? with
  | some aliased => exact yields_pure trivial
  | none =>
      dsimp only
      split
      · exact (yields_placeholderType enters schema).bind fun _ _ => yields_pure trivial
      · next notRecursive =>
          have items := makes.items
          split
          · exact yields_pure trivial
          · exact (yields_optionalType enters _ _).bind fun _ _ => yields_pure trivial
          · next item isArray =>
              rw [isArray] at items
              rw [items, if_neg Bool.false_ne_true]
              exact (yields_optionalType enters _ _).bind fun _ _ => yields_pure trivial
          · next isAmbiguous => exact absurd isAmbiguous makes.notAmbiguous
          · next isObject =>
              have fields := makes.fields name (by simpa using notRecursive) isObject
              exact fields.bind fun _ _ => yields_pure trivial

private theorem makesType_of_solid (enters : unrestricted.Enters .any context) {schema : Schema}
    (solid : schema.Solid) : MakesType context schema := by
  induction solid with
  | recursive isRecursive =>
      have isObject := Schema.shape_of_recursive isRecursive
      refine ⟨by simp [isObject], by simp [isObject, Shape.hasAmbiguousItems], ?_⟩
      intro _ notRecursive
      rw [isRecursive] at notRecursive
      contradiction
  | shaped notAmbiguous notObject items =>
      exact ⟨notAmbiguous, items, fun _ _ isObject => absurd isObject notObject⟩
  | object isObject member solid makes =>
      refine ⟨by simp [isObject], by simp [isObject, Shape.hasAmbiguousItems], ?_⟩
      intro typeName _ _
      exact yields_objectFields enters typeName member fun parent => makes.fieldType enters parent _

/-! ## Steps that fail -/

theorem sharedComponent?_of_unshared {schema : Schema}
    (unshared : ComponentMatch.ofSchema? context.resolve? schema = none) :
    context.sharedComponent? schema = none := by
  simp [BuildContext.sharedComponent?, unshared]

private theorem yields_leftOut (typeName key : String) (reason : OmissionReason) :
    Yields (do leaveOut typeName key reason; return (none : Option TypeRef)) (· = none) :=
  fun _ => rfl

/-- A property with a bare schema never has a field. -/
theorem yields_fieldType_of_bare {schema : Schema} (bare : schema.Bare context.resolve?)
    (parent key : String) : Yields (fieldType context parent key schema) (· = none) := by
  have notRecursive : ¬schema.recursive = true := by
    apply Schema.not_recursive_of_shape
    intro isObject
    have shape := bare.shape
    rw [isObject] at shape
    rcases shape with shape | shape <;> contradiction
  rw [fieldType_eq, alias?_of_unshared (sharedComponent?_of_unshared bare.unshared), pure_bind]
  simp only [if_neg notRecursive]
  rcases bare.shape with isAmbiguous | items
  · simp only [isAmbiguous]
    exact yields_leftOut _ _ _
  · cases isArray : schema.shape with
    | array item =>
        rw [isArray] at items
        simp only [if_pos items]
        exact yields_leftOut _ _ _
    | _ =>
        rw [isArray] at items
        contradiction

private theorem yields_propertyFields_of_bare {typeName : String} (required : List String) :
    ∀ (taken : List String) {properties : List (String × Schema)},
      (∀ entry ∈ properties, entry.2.Bare context.resolve?) →
      Yields (propertyFields context typeName required taken properties) (· = [])
  | _, [], _ => yields_pure rfl
  | taken, (key, property) :: rest, bare => by
      rw [propertyFields_cons]
      apply (yields_fieldType_of_bare (bare _ List.mem_cons_self) typeName key).bind
      rintro _ rfl
      exact yields_propertyFields_of_bare required taken
        fun entry member => bare entry (List.mem_cons_of_mem _ member)

/-- A step fails for a reason, whatever was built before. -/
def Fails (step : Build α) (reason : IssueReason) : Prop :=
  ∀ state, Ensures step state (fun _ _ => False) (fun problem _ => problem.reason = reason)

private theorem fails_objectFields_of_bare {schema : Schema} (nonempty : schema.properties ≠ [])
    (bare : ∀ entry ∈ schema.properties, entry.2.Bare context.resolve?) (typeName : String) :
    Fails (objectFields context typeName schema) .emptyFields := by
  intro state
  apply ensures_fieldList
  apply (yields_propertyFields_of_bare _ [] bare state).mono
  · rintro _ after rfl
    rw [if_pos ⟨rfl, nonempty⟩]
    rfl
  · exact fun _ _ => False.elim

private theorem fails_model {schema : Schema} {reason : IssueReason}
    (hopeless : schema.Hopeless context.resolve? reason) (name : String) :
    Fails (model context name schema) reason := by
  unfold Build.model
  cases hopeless with
  | ambiguous unshared isAmbiguous =>
      have notRecursive : ¬schema.recursive = true :=
        Schema.not_recursive_of_shape (by simp [isAmbiguous])
      rw [alias?_of_unshared (sharedComponent?_of_unshared unshared), pure_bind]
      simp only [if_neg notRecursive, isAmbiguous]
      exact fun _ => rfl
  | array unshared items =>
      rw [alias?_of_unshared (sharedComponent?_of_unshared unshared), pure_bind]
      cases isArray : schema.shape with
      | array item =>
          have notRecursive : ¬schema.recursive = true :=
            Schema.not_recursive_of_shape (by simp [isArray])
          rw [isArray] at items
          simp only [if_neg notRecursive, if_pos items]
          exact fun _ => rfl
      | _ =>
          rw [isArray] at items
          contradiction
  | object unshared notRecursive isObject bare =>
      rw [alias?_of_unshared (sharedComponent?_of_unshared unshared), pure_bind]
      simp only [notRecursive, if_neg Bool.false_ne_true, isObject]
      have nonempty := Schema.properties_ne_nil_of_object notRecursive isObject
      exact fun state => (fails_objectFields_of_bare nonempty bare name state).bind
        fun _ _ => False.elim

/-- What a schema settles is what building a model from it comes to. -/
theorem ensures_model_of_settled (enters : unrestricted.Enters .any context) {schema : Schema}
    {verdict : Option IssueReason} (settled : schema.Settled context.resolve? verdict)
    (name : String) (state : BuildState) :
    Ensures (model context name schema) state (fun _ _ => verdict = none)
      (fun problem _ => verdict = some problem.reason) := by
  cases settled with
  | solid solid =>
      exact ((makesType_of_solid enters solid).model enters name state).mono
        (fun _ _ _ => rfl) fun _ _ => False.elim
  | hopeless hopeless =>
      apply (fails_model hopeless name state).mono
      · exact fun _ _ => False.elim
      · exact fun _ _ isReason => congrArg some isReason.symm

end Build

end RestModel
