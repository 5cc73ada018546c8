import RestModel.Proofs.Build.Calls
import RestModel.Proofs.Build.Omissions
import RestModel.Proofs.Build.Steps

/-! # Schemas that leave no types behind

Types are registered for objects within other schemas and for components. A schema
without either leaves a state as it was, but for what is left out. -/

namespace RestModel

mutual
/-- Whether a schema is no object and has none among its items and values. -/
def Schema.isPlain : Schema → Bool
  | ⟨type, format, description, nullable, properties, required, items, additional, reference,
      recursive⟩ =>
      !recursive && Schema.shape ⟨type, format, description, nullable, properties, required,
        items, additional, reference, recursive⟩ != .object &&
      Schema.arePlain items && Schema.arePlain additional

/-- Whether a schema that may be absent is plain. -/
def Schema.arePlain : Option Schema → Bool
  | none => true
  | some schema => schema.isPlain
end

/-- A schema has only plain parts, and a type of its own is shared neither for it nor
for any of its properties. -/
structure Schema.Flat (context : BuildContext) (schema : Schema) : Prop where
  unshared : context.sharedComponent? schema = none
  notRecursive : schema.recursive = false
  properties : ∀ entry ∈ schema.properties,
    context.sharedComponent? entry.2 = none ∧ entry.2.isPlain = true
  items : Schema.arePlain schema.items = true
  additional : Schema.arePlain schema.additional = true

instance (context : BuildContext) (schema : Schema) : Decidable (schema.Flat context) :=
  decidable_of_iff (context.sharedComponent? schema = none ∧ schema.recursive = false ∧
      (∀ entry ∈ schema.properties,
        context.sharedComponent? entry.2 = none ∧ entry.2.isPlain = true) ∧
      Schema.arePlain schema.items = true ∧ Schema.arePlain schema.additional = true)
    ⟨fun ⟨unshared, notRecursive, properties, items, additional⟩ =>
        ⟨unshared, notRecursive, properties, items, additional⟩,
      fun flat => ⟨flat.unshared, flat.notRecursive, flat.properties, flat.items,
        flat.additional⟩⟩

private theorem Schema.isPlain_eq_true_iff {schema : Schema} : schema.isPlain = true ↔
    schema.recursive = false ∧ schema.shape ≠ .object ∧
      Schema.arePlain schema.items = true ∧ Schema.arePlain schema.additional = true := by
  cases schema
  simp [isPlain, and_assoc]

namespace Build

/-- A step changes nothing but what is left out. -/
def Idle (step : Build α) : Prop :=
  ∀ state, Ensures step state (fun _ after => after.SameBuilt state)
    fun _ after => after.SameBuilt state

private theorem idle_pure (value : α) : Idle (pure value) := fun state => ensures_pure (.refl state)

theorem idle_throw (problem : BuildError) : Idle (throw problem : Build α) :=
  fun state => ensures_throw (.refl state)

private theorem idle_leaveOut (typeName key : String) (reason : OmissionReason) :
    Idle (leaveOut typeName key reason) :=
  fun _ => ⟨rfl, rfl, rfl⟩

theorem Idle.bind {first : Build β} {next : β → Build α} (idle : Idle first)
    (others : ∀ value, Idle (next value)) : Idle (first >>= next) := by
  intro state
  apply (idle state).bind
  intro value after same
  exact (others value after).mono (fun _ _ later => later.trans same) fun _ _ later =>
    later.trans same

theorem Idle.sameBuilt {step : Build α} (idle : Idle step) (state : BuildState) :
    (stateAfter step state).SameBuilt state :=
  (idle state).stateAfter

variable {context : BuildContext}

private theorem idle_optionalType_of {schema? : Option Schema}
    (idle : ∀ schema ∈ schema?, schema.isPlain = true → ∀ name,
      Idle (elementType context name schema))
    (plain : Schema.arePlain schema? = true) (name : String) :
    Idle (optionalType context name schema?) := by
  cases schema? with
  | none => exact idle_pure _
  | some schema => exact idle schema rfl plain name

private theorem idle_elementType (schema : Schema) : schema.isPlain = true → ∀ name,
    Idle (elementType context name schema) := by
  induction schema using Schema.parts_induction with
  | step schema _ items additional =>
      intro isPlain name
      rcases Schema.isPlain_eq_true_iff.mp isPlain with
        ⟨notRecursive, notObject, plainItems, plainAdditional⟩
      rw [elementType_eq]
      simp only [notRecursive, if_neg Bool.false_ne_true]
      split
      · exact idle_pure _
      · exact (idle_optionalType_of additional plainAdditional _).bind fun _ => idle_pure _
      · exact (idle_optionalType_of items plainItems _).bind fun _ => idle_pure _
      · exact idle_pure _
      · next isObject => exact absurd isObject notObject

private theorem idle_optionalType {schema? : Option Schema} (plain : Schema.arePlain schema? = true)
    (name : String) : Idle (optionalType context name schema?) :=
  idle_optionalType_of (fun schema _ => idle_elementType schema) plain name

private theorem idle_fieldType {schema : Schema} (unshared : context.sharedComponent? schema = none)
    (isPlain : schema.isPlain = true) (parent key : String) :
    Idle (fieldType context parent key schema) := by
  rcases Schema.isPlain_eq_true_iff.mp isPlain with
    ⟨notRecursive, notObject, plainItems, plainAdditional⟩
  rw [fieldType_eq, alias?_of_unshared unshared, pure_bind]
  simp only [notRecursive, if_neg Bool.false_ne_true]
  split
  · exact idle_pure _
  · exact (idle_optionalType plainAdditional _).bind fun _ => idle_pure _
  · split
    · exact (idle_leaveOut _ _ _).bind fun _ => idle_pure _
    · exact (idle_optionalType plainItems _).bind fun _ => idle_pure _
  · exact (idle_leaveOut _ _ _).bind fun _ => idle_pure _
  · next isObject => exact absurd isObject notObject

private theorem idle_propertyFields {typeName : String} (required : List String) :
    ∀ (taken : List String) {properties : List (String × Schema)},
      (∀ entry ∈ properties, context.sharedComponent? entry.2 = none ∧ entry.2.isPlain = true) →
      Idle (propertyFields context typeName required taken properties)
  | _, [], _ => idle_pure _
  | taken, (key, property) :: rest, plain => by
      have first := plain (key, property) List.mem_cons_self
      have others (taken : List String) :
          Idle (propertyFields context typeName required taken rest) :=
        idle_propertyFields required taken fun entry member =>
          plain entry (List.mem_cons_of_mem _ member)
      rw [propertyFields_cons]
      apply (idle_fieldType first.1 first.2 _ _).bind
      intro type?
      cases type? with
      | none => exact others taken
      | some type => exact (others _).bind fun _ => idle_pure _

private theorem idle_objectFields {schema : Schema} (flat : schema.Flat context)
    (typeName : String) :
    Idle (objectFields context typeName schema) := by
  unfold objectFields fieldList
  apply (idle_propertyFields _ _ flat.properties).bind
  intro fields
  split
  · exact idle_throw _
  · split
    · exact (idle_optionalType flat.additional _).bind fun _ => idle_pure _
    · exact idle_pure _

/-- Building a model from a flat schema leaves no types behind. -/
theorem idle_model {schema : Schema} (flat : schema.Flat context) (name : String) :
    Idle (model context name schema) := by
  unfold Build.model
  rw [alias?_of_unshared flat.unshared, pure_bind]
  simp only [flat.notRecursive, if_neg Bool.false_ne_true]
  split
  · exact idle_pure _
  · exact (idle_optionalType flat.additional _).bind fun _ => idle_pure _
  · split
    · exact idle_throw _
    · exact (idle_optionalType flat.items _).bind fun _ => idle_pure _
  · exact idle_throw _
  · exact (idle_objectFields flat _).bind fun _ => idle_pure _

end Build
end RestModel
