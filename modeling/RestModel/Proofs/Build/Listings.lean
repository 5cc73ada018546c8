import Mathlib.Data.List.Nodup
import RestModel.Proofs.Build.Problems
import RestModel.Proofs.Naming

/-! # The fields of an object

Each property of an object has one field, or else it is noted as left out. Fields have
names of their own, also where their keys are written alike, and they are listed in an
order that does not depend on that of the properties. -/

namespace RestModel

namespace Field

/-- A field is required and another one is not, or else its name is less. -/
def ComesBefore (field other : Field) : Prop :=
  (field.required = true ∧ other.required = false) ∨
    (field.required = other.required ∧ field.name < other.name)

private theorem isListedFirst_eq_true_iff {field other : Field} : field.isListedFirst other = true ↔
    (field.required = true ∧ other.required = false) ∨
      (field.required = other.required ∧ field.name ≤ other.name) := by
  unfold isListedFirst
  split
  · next same =>
      rw [Bool.not_eq_true', decide_eq_false_iff_not, String.not_lt]
      constructor
      · exact fun atMost => .inr ⟨same, atMost⟩
      · rintro (⟨isRequired, isNot⟩ | ⟨_, atMost⟩)
        · rw [isRequired, isNot] at same
          contradiction
        · exact atMost
  · next different =>
      have notRequired : field.required = true ↔ other.required = false := by
        cases isRequired : other.required <;> simpa [isRequired] using different
      simp [different, notRequired]

private theorem isListedFirst_trans (first second third : Field)
    (left : first.isListedFirst second = true) (right : second.isListedFirst third = true) :
    first.isListedFirst third = true := by
  rw [isListedFirst_eq_true_iff] at left right ⊢
  rcases left with ⟨isRequired, isNot⟩ | ⟨same, less⟩
  · rcases right with ⟨required, _⟩ | ⟨same, _⟩
    · rw [isNot] at required
      contradiction
    · exact .inl ⟨isRequired, same ▸ isNot⟩
  · rcases right with ⟨isRequired, isNot⟩ | ⟨alsoSame, alsoLess⟩
    · exact .inl ⟨same.trans isRequired, isNot⟩
    · exact .inr ⟨same.trans alsoSame, String.le_trans less alsoLess⟩

private theorem isListedFirst_total (field other : Field) :
    (field.isListedFirst other || other.isListedFirst field) = true := by
  rw [Bool.or_eq_true, isListedFirst_eq_true_iff, isListedFirst_eq_true_iff]
  rcases String.le_total field.name other.name with less | more
  · cases field.required <;> cases other.required <;> simp [less]
  · cases field.required <;> cases other.required <;> simp [more]

theorem sort_perm (fields : List Field) : (sort fields).Perm fields :=
  List.mergeSort_perm _ _

/-- Fields of different names are sorted in one way only. -/
theorem pairwise_comesBefore_sort {fields : List Field}
    (distinct : (fields.map (·.name)).Nodup) : (sort fields).Pairwise ComesBefore := by
  have listed : (sort fields).Pairwise fun field other => field.isListedFirst other = true :=
    List.pairwise_mergeSort isListedFirst_trans isListedFirst_total fields
  have different : (sort fields).Pairwise fun field other => field.name ≠ other.name :=
    List.pairwise_map.mp (((sort_perm fields).map _).nodup_iff.mpr distinct)
  apply (listed.and different).imp
  rintro field other ⟨first, named⟩
  apply (isListedFirst_eq_true_iff.mp first).imp id
  rintro ⟨same, atMost⟩
  exact ⟨same, Std.lt_of_le_of_ne atMost named⟩

end Field

namespace BuildState

variable {before middle after : BuildState} {typeName key : String}

/-- A property of a type is noted as left out between two states. -/
def LeavesOut (before after : BuildState) (typeName key : String) : Prop :=
  ∃ noted, after.omitted = before.omitted ++ noted ∧
    ∃ omitted ∈ noted, omitted.typeName = typeName ∧ omitted.property = key

theorem LeavesOut.later (leftOut : before.LeavesOut middle typeName key)
    (further : middle.omitted <+: after.omitted) : before.LeavesOut after typeName key := by
  rcases leftOut with ⟨noted, isNoted, omitted, member, isProperty⟩
  rcases further with ⟨others, isAfter⟩
  refine ⟨noted ++ others, ?_, omitted, List.mem_append_left _ member, isProperty⟩
  rw [← isAfter, isNoted, List.append_assoc]

theorem LeavesOut.earlier (leftOut : middle.LeavesOut after typeName key)
    (first : before.omitted <+: middle.omitted) : before.LeavesOut after typeName key := by
  rcases leftOut with ⟨noted, isNoted, omitted, member, isProperty⟩
  rcases first with ⟨others, isMiddle⟩
  refine ⟨others ++ noted, ?_, omitted, List.mem_append_right _ member, isProperty⟩
  rw [isNoted, ← isMiddle, List.append_assoc]

private theorem leavesOut_leaveOut (state : BuildState) (typeName key : String)
    (reason : OmissionReason) :
    state.LeavesOut (state.leaveOut ⟨typeName, key, reason⟩) typeName key :=
  ⟨_, rfl, _, List.mem_singleton_self _, rfl, rfl⟩

end BuildState

namespace Build

/-! ## Notes of what is left out -/

/-- A step only adds to what is noted as left out. -/
def Notes (step : Build α) : Prop :=
  LeadsTo (fun before after => before.omitted <+: after.omitted) step

theorem Notes.ensureType {typeName : String} {component doc : Option String}
    {body : Build FieldList} (notes : Notes body) :
    Notes (ensureType typeName component doc body) := fun state =>
  ensures_ensureType (fun _ => List.prefix_refl _) fun _ => notes (state.enclose typeName)

private theorem notes_composes {aliasing : Bool} {resolve? : String → Option Schema}
    {enter : Component → Build Unit} (enters : ∀ component, Notes (enter component)) :
    Composes aliasing resolve? anywhere fun _ step => Notes (step enter) := by
  have progress : IsProgress fun _ before after => before.omitted <+: after.omitted :=
    ⟨BuildState.Keeps.omitted, fun _ _ => List.prefix_refl _, List.IsPrefix.trans⟩
  exact progress.composes (fun _ _ => enters _) fun _ _ _ _ =>
    Notes.ensureType

/-! ## Fields of properties -/

variable (builder : Builder) {typeName : String}

private theorem notes_composes_of_builder :
    Composes builder.aliasing builder.document.component? anywhere
      fun _ step => Notes (step builder.context.enter) :=
  notes_composes (enterWithin_of_composes (fun _ _ => List.prefix_refl _) .ensureType
    notes_composes _)

/-- A property that has no field is noted as left out. -/
theorem ensures_fieldType_leavesOut (parent key : String) (schema : Schema)
    (state : BuildState) : Ensures (fieldType builder.context parent key schema) state
      (fun type? after => type? = none → state.LeavesOut after parent key) fun _ _ => True := by
  have composes := notes_composes_of_builder builder
  -- The property is noted last, after whatever else is noted for it.
  have leftOut : ∀ reason after, state.omitted <+: after.omitted →
      Ensures (do leaveOut parent key reason; return none) after
        (fun (type? : Option TypeRef) last => type? = none → state.LeavesOut last parent key)
        (fun _ _ => True) :=
    fun reason after added _ => (BuildState.leavesOut_leaveOut after _ _ reason).earlier added
  have built {type : TypeRef → TypeRef} {step : Build TypeRef} (after : BuildState) :
      Ensures (do return some (type (← step))) after
        (fun (type? : Option TypeRef) last => type? = none → state.LeavesOut last parent key)
        (fun _ _ => True) :=
    (ensures_of_forall step after fun _ _ => trivial).bind fun _ _ _ => ensures_pure nofun
  have notesAlias : Notes (alias? builder.context (parent ++ "." ++ Naming.fieldName key) schema) :=
    composes.alias? (isEverywhere _) schema
  rw [fieldType_eq]
  apply ((notesAlias state).mono_fails fun _ _ _ => trivial).bind
  intro aliased? after added
  cases aliased? with
  | some aliased => exact ensures_pure nofun
  | none =>
      dsimp only
      split
      · exact built after
      · split
        · exact ensures_pure nofun
        · exact built after
        · split
          · exact leftOut _ after added
          · exact built after
        · exact leftOut _ after added
        · have notes : Notes (ensureType (parent ++ Naming.camelCase key) none schema.description
              (objectFields builder.context (parent ++ Naming.camelCase key) schema)) :=
            .ensureType (composes.objectFields (fun _ => isEverywhere _) fun _ _ _ => trivial)
          have fails := builder.buildsWithin.object (parent ++ Naming.camelCase key) schema
          apply ensures_nestedObject
          apply ((notes after).and (fails after)).mono
          · exact fun _ _ _ => ensures_pure nofun
          · rintro problem last ⟨further, isEmpty⟩
            exact ⟨_, isEmpty, leftOut _ last (added.trans further)⟩

private theorem ensures_fieldType_noted (parent key : String) (schema : Schema)
    (state : BuildState) :
    Ensures (fieldType builder.context parent key schema) state (fun type? after =>
      state.omitted <+: after.omitted ∧ (type? = none → state.LeavesOut after parent key))
      fun _ _ => False := by
  have notes : Notes (fieldType builder.context parent key schema) :=
    ((notes_composes_of_builder builder).along schema).field (isEverywhere _) fun _ _ _ => trivial
  have yields := builder.buildsWithin.field parent key schema state
  have leavesOut := ensures_fieldType_leavesOut builder parent key schema state
  apply ((notes state).and (leavesOut.and yields)).mono
  · exact fun _ _ ⟨added, leftOut, _⟩ => ⟨added, leftOut⟩
  · exact fun _ _ failed => failed.2.2

/-- Fields stand for some properties of a list, in their order and under names that are
not taken; all other properties are left out. -/
structure Lists (typeName : String) (required taken : List String)
    (properties : List (String × Schema)) (before : BuildState) (fields : List Field)
    (after : BuildState) : Prop where
  keys : (fields.map (·.sourceKey)).Sublist (Keyed.keys properties)
  complete : ∀ key ∈ Keyed.keys properties,
    key ∈ fields.map (·.sourceKey) ∨ before.LeavesOut after typeName key
  names : (fields.map (·.name)).Nodup
  free : ∀ field ∈ fields, field.name ∉ taken
  isRequired : ∀ field ∈ fields,
    field.required = required.contains (Naming.normalKey field.sourceKey)
  noted : before.omitted <+: after.omitted

section Lists

variable {required taken : List String} {key : String} {property : Schema}
  {rest : List (String × Schema)} {before middle after : BuildState} {fields : List Field}

theorem Lists.leaveOut (leftOut : before.LeavesOut middle typeName key)
    (noted : before.omitted <+: middle.omitted)
    (lists : Lists typeName required taken rest middle fields after) :
    Lists typeName required taken ((key, property) :: rest) before fields after where
  keys := lists.keys.cons key
  complete other member := by
    rcases List.mem_cons.mp member with rfl | later
    · exact .inr (leftOut.later lists.noted)
    · exact (lists.complete other later).imp id (·.earlier noted)
  names := lists.names
  free := lists.free
  isRequired := lists.isRequired
  noted := noted.trans lists.noted

theorem Lists.cons {type : TypeRef} (noted : before.omitted <+: middle.omitted)
    (lists : Lists typeName required (nameField required taken key property type).2 rest middle
      fields after) :
    Lists typeName required taken ((key, property) :: rest) before
      ((nameField required taken key property type).1 :: fields) after := by
  have isTaken {name : String} : name ∈ (nameField required taken key property type).2 ↔
      name = (nameField required taken key property type).1.name ∨ name ∈ taken :=
    Naming.mem_insertText
  have isFree : (nameField required taken key property type).1.name ∉ taken :=
    Naming.freshName_not_mem taken (Naming.fieldName key)
  exact {
    keys := lists.keys.cons_cons key
    complete := by
      intro other member
      rcases List.mem_cons.mp member with rfl | later
      · exact .inl List.mem_cons_self
      · exact (lists.complete other later).imp (List.mem_cons_of_mem _) (·.earlier noted)
    names := by
      refine List.nodup_cons.mpr ⟨?_, lists.names⟩
      intro member
      rcases List.mem_map.mp member with ⟨field, isField, sameName⟩
      exact lists.free field isField (isTaken.mpr (.inl sameName))
    free := by
      intro field isField
      rcases List.mem_cons.mp isField with rfl | later
      · exact isFree
      · exact fun member => lists.free field later (isTaken.mpr (.inr member))
    isRequired := by
      intro field isField
      rcases List.mem_cons.mp isField with rfl | later
      · rfl
      · exact lists.isRequired field later
    noted := noted.trans lists.noted }

end Lists

theorem ensures_propertyFields_lists (required : List String) :
    ∀ (taken : List String) (properties : List (String × Schema)) (state : BuildState),
      Ensures (propertyFields builder.context typeName required taken properties) state
        (fun fields after => Lists typeName required taken properties state fields after)
        fun _ _ => False
  | taken, [], state => ensures_pure
      { keys := List.Sublist.refl _, complete := nofun, names := List.nodup_nil, free := nofun,
        isRequired := nofun, noted := List.prefix_refl _ }
  | taken, (key, property) :: rest, state => by
      rw [propertyFields_cons]
      apply (ensures_fieldType_noted builder typeName key property state).bind
      rintro type? middle ⟨noted, leftOut⟩
      cases type? with
      | none =>
          exact (ensures_propertyFields_lists required taken rest middle).mono
            (fun _ _ lists => lists.leaveOut (leftOut rfl) noted) fun _ _ => id
      | some type =>
          apply (ensures_propertyFields_lists required _ rest middle).bind
          exact fun _ _ lists => ensures_pure (lists.cons noted)

end Build

/-- Fields are those of an object: each of its properties has one, or is noted as left
out, and each of them is of one of its properties. -/
structure Schema.IsListedBy (schema : Schema) (typeName : String) (before : BuildState)
    (fields : List Field) (after : BuildState) : Prop where
  complete : ∀ key ∈ Keyed.keys schema.properties,
    (fields.map (·.sourceKey)).count key = 1 ∨ before.LeavesOut after typeName key
  keys : (fields.map (·.sourceKey)).Nodup
  drawn : ∀ field ∈ fields, field.sourceKey ∈ Keyed.keys schema.properties
  names : (fields.map (·.name)).Nodup
  isRequired : ∀ field ∈ fields, field.required = true ↔
    ∃ entry ∈ schema.required, Naming.normalKey field.sourceKey = Naming.normalKey entry
  ordered : fields.Pairwise Field.ComesBefore

namespace Build

private theorem Lists.isListedBy {schema : Schema} {typeName : String} {before after : BuildState}
    {fields : List Field} (distinct : (Keyed.keys schema.properties).Nodup)
    (lists : Lists typeName (schema.required.map Naming.normalKey) [] schema.properties before
      fields after) : schema.IsListedBy typeName before (Field.sort fields) after := by
  have sorted := Field.sort_perm fields
  have keys : ((Field.sort fields).map (·.sourceKey)).Nodup :=
    (sorted.map _).nodup_iff.mpr (lists.keys.nodup distinct)
  exact {
    complete := by
      intro key member
      apply (lists.complete key member).imp _ id
      intro isKey
      exact List.count_eq_one_of_mem keys ((sorted.map _).mem_iff.mpr isKey)
    keys
    drawn := by
      intro field isField
      exact lists.keys.subset (List.mem_map_of_mem (sorted.mem_iff.mp isField))
    names := (sorted.map _).nodup_iff.mpr lists.names
    isRequired := by
      intro field isField
      rw [lists.isRequired field (sorted.mem_iff.mp isField), List.contains_iff_mem, List.mem_map]
      exact exists_congr fun entry => and_congr_right fun _ => eq_comm
    ordered := Field.pairwise_comesBefore_sort lists.names }

/-- The fields of an object are complete, distinct and in order. An object fails only
where it has properties and all of them are left out. -/
theorem ensures_objectFields_isListedBy (builder : Builder) (typeName : String)
    {schema : Schema} (distinct : (Keyed.keys schema.properties).Nodup) (state : BuildState) :
    Ensures (objectFields builder.context typeName schema) state
      (fun list after => schema.IsListedBy typeName state list.fields after)
      (fun problem after => problem = .emptyFields typeName ∧ schema.properties ≠ [] ∧
        ∀ key ∈ Keyed.keys schema.properties, state.LeavesOut after typeName key) := by
  apply ensures_fieldList
  apply (ensures_propertyFields_lists builder _ [] schema.properties state).mono
  · intro fields middle lists
    split
    · next empty =>
        refine ⟨rfl, empty.2, fun key member => ?_⟩
        exact (lists.complete key member).resolve_left (by simp [empty.1])
    · split
      · exact lists.isListedBy distinct
      · have notes : Notes (optionalType builder.context (typeName ++ "Value") schema.additional) :=
          @Composes.optionalType _ _ _ _ everywhere (notes_composes_of_builder builder) _ _
            fun _ _ _ _ _ => trivial
        have yields := yields_optionalType builder.enters (typeName ++ "Value") schema.additional
        apply ((notes middle).and (yields middle)).mono
        · rintro type after ⟨noted, -⟩
          have listed := lists.isListedBy distinct
          exact { listed with
            complete := fun key member => (listed.complete key member).imp id (·.later noted) }
        · exact fun _ _ failed => failed.2.elim
  · exact fun _ _ => False.elim

/-- A parcel has two properties that are written alike, of which one is required, and one
about which nothing is known. -/
def parcel : Schema :=
  let text : Schema := { Schema.free with type := some .string }
  { Schema.free with
    type := some .object
    properties := [("box-size", text), ("box_size", text),
      ("contents", { Schema.free with type := some .object })]
    required := ["box__size"] }

theorem ensures_objectFields_isListedBy_parcel :
    ∃ list after, objectFields (Builder.context ⟨.ofComponents [], false⟩) "Parcel" parcel
        .empty = .ok list after ∧
      parcel.IsListedBy "Parcel" .empty list.fields after := by
  have distinct : (Keyed.keys parcel.properties).Nodup := by decide +kernel
  have succeeds : ((objectFields (Builder.context ⟨.ofComponents [], false⟩) "Parcel" parcel).run'
      .empty).isSome = true := by decide +kernel
  delta EStateM.run' EStateM.run at succeeds
  cases run : objectFields (Builder.context ⟨.ofComponents [], false⟩) "Parcel" parcel .empty with
  | ok list after =>
      have ensures := ensures_objectFields_isListedBy ⟨.ofComponents [], false⟩ "Parcel" distinct
        .empty
      exact ⟨list, after, rfl, ensures.of_ok run⟩
  | error problem after =>
      rw [run] at succeeds
      cases succeeds

/-- One of the alike properties gets another name, and the third is left out. -/
example :
    (match propertyFields (Builder.context ⟨.ofComponents [], false⟩) "Parcel"
        (parcel.required.map Naming.normalKey) [] parcel.properties .empty with
      | .ok fields after => (fields.map fun field => (field.name, field.sourceKey, field.required),
          after.omitted.map (·.property))
      | .error _ _ => ([], [])) =
      ([("box_size", "box-size", false), ("box_size_1", "box_size", true)], ["contents"]) := by
  decide +kernel

end Build

end RestModel
