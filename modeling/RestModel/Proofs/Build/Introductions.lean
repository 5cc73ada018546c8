import RestModel.Proofs.Build.Compositions
import RestModel.Proofs.Build.References
import RestModel.Proofs.Naming

/-! # What a step introduces

Types that are built or being built are left alone: a step registers types under new names
only. And components are mentioned by the fields of the type that is being built, or by
those of types that the step builds on the way. So no step mentions a component for a type
that was known before, unless it is one of the steps that build this very type. -/

namespace RestModel

open Build

/-- A field's name has no point, so the last one in a place is before the field. -/
theorem Build.fieldTarget_inj {typeName other key otherKey : String} :
    fieldTarget typeName key = fieldTarget other otherKey ↔
      typeName = other ∧ Naming.fieldName key = Naming.fieldName otherKey := by
  constructor
  · intro equal
    have chars : typeName.toList ++ '.' :: (Naming.fieldName key).toList =
        other.toList ++ '.' :: (Naming.fieldName otherKey).toList := by
      simpa [fieldTarget] using congrArg String.toList equal
    have parts := Naming.append_cons_inj_of_not_mem (Naming.point_not_mem_fieldName key)
      (Naming.point_not_mem_fieldName otherKey) chars
    exact ⟨String.toList_inj.mp parts.1, String.toList_inj.mp parts.2⟩
  · rintro ⟨rfl, sameField⟩
    rw [fieldTarget, sameField, fieldTarget]

namespace BuildState

private theorem unknown_of_imp {state other : BuildState} {typeName : String}
    (known : state.knows typeName = true → other.knows typeName = true)
    (unknown : other.knows typeName = false) : state.knows typeName = false :=
  Bool.eq_false_iff.mpr (mt known (Bool.eq_false_iff.mp unknown))

/-- Between two states types are registered under new names only, and components are
mentioned only at some places and by the fields of types that become known. -/
structure Introduces (targets : String → Prop) (before after : BuildState) : Prop where
  grows : before.Grows after
  types : ∀ typeName ∈ Keyed.keys after.types,
    typeName ∈ Keyed.keys before.types ∨ before.knows typeName = false
  mentions : ∀ mention ∈ after.mentions, mention ∈ before.mentions ∨ targets mention.target ∨
    ∃ typeName, IsFieldTarget typeName mention.target ∧ before.knows typeName = false ∧
      after.knows typeName = true

variable {targets : String → Prop} {before middle after : BuildState}

theorem Keeps.introduces (keeps : before.Keeps after) : before.Introduces targets after where
  grows := keeps.grows
  types _ member := .inl (keeps.types ▸ member)
  mentions _ member := .inl (keeps.mentions ▸ member)

theorem Introduces.refl (state : BuildState) : state.Introduces targets state :=
  (Keeps.refl state).introduces

theorem Introduces.trans (left : before.Introduces targets middle)
    (right : middle.Introduces targets after) : before.Introduces targets after where
  grows := left.grows.trans right.grows
  types typeName member := by
    rcases right.types typeName member with earlier | unknown
    · exact left.types typeName earlier
    · exact .inr (unknown_of_imp left.grows.knows unknown)
  mentions mention member := by
    rcases right.mentions mention member with earlier | isTarget | ⟨typeName, isField, new⟩
    · rcases left.mentions mention earlier with first | isTarget | ⟨typeName, isField, new⟩
      · exact .inl first
      · exact .inr (.inl isTarget)
      · exact .inr (.inr ⟨typeName, isField, new.1, right.grows.knows new.2⟩)
    · exact .inr (.inl isTarget)
    · exact .inr (.inr ⟨typeName, isField, unknown_of_imp left.grows.knows new.1, new.2⟩)

private theorem introduces_mention {mention : ComponentMention} (isTarget : targets mention.target)
    (state : BuildState) : state.Introduces targets (state.mention mention) where
  grows := grows_mention state mention
  types _ := .inl
  mentions other member := by
    rcases ComponentMention.mem_record member with earlier | rfl
    · exact .inl earlier
    · exact .inr (.inl isTarget)

/-- The fields of a type mention components while the type is built, and then the type is
known. -/
theorem Introduces.of_enclose {typeName : String}
    (introduces : (before.enclose typeName).Introduces (IsFieldTarget typeName) after)
    (unknown : before.knows typeName = false) {type : RecordType} (named : type.name = typeName) :
    before.Introduces targets ((after.release typeName).register type) := by
  subst named
  have earlier {other : String} : (before.enclose type.name).knows other = false →
      before.knows other = false := unknown_of_imp knows_enclose
  exact {
    grows := introduces.grows.of_enclose type
    types := by
      intro other member
      rcases Keyed.exists_mem_of_mem_keys member with ⟨stored, isStored⟩
      rcases Keyed.mem_insertNew isStored with same | isEarlier
      · exact .inr ((Prod.mk.inj same).1 ▸ unknown)
      · exact (introduces.types other (List.mem_map_of_mem isEarlier)).imp id earlier
    mentions := by
      intro mention member
      rcases introduces.mentions mention member with first | isField | ⟨other, isField, new⟩
      · exact .inl first
      · exact .inr (.inr ⟨type.name, isField, unknown, knows_register _ type⟩)
      · exact .inr (.inr ⟨other, isField, earlier new.1, knows_release_register type new.2⟩) }

/-- No component is newly mentioned for a type that is known, but at the places given. -/
theorem Introduces.of_known (introduces : before.Introduces targets after) {typeName : String}
    (known : before.knows typeName = true) {mention : ComponentMention}
    (isMention : mention ∈ after.mentions) {key : String}
    (isField : mention.target = fieldTarget typeName key) :
    mention ∈ before.mentions ∨ targets mention.target := by
  rcases introduces.mentions mention isMention with first | isTarget | ⟨other, ⟨_, also⟩, new⟩
  · exact .inl first
  · exact .inr isTarget
  · rw [(fieldTarget_inj.mp (isField.symm.trans also)).1, new.1] at known
    contradiction

end BuildState

namespace Build

/-- What a step introduces, it introduces at some places only. -/
def Introducing (targets : String → Prop) (step : Build α) : Prop :=
  LeadsTo (BuildState.Introduces targets) step

private theorem introduces_isProgress : IsProgress BuildState.Introduces where
  keeps := BuildState.Keeps.introduces
  mention state isTarget := BuildState.introduces_mention isTarget state
  trans := BuildState.Introduces.trans

/-- A step that fails builds nothing. -/
def KeepsOnFailure (step : Build α) : Prop :=
  ∀ state, Ensures step state (fun _ _ => True) fun _ after => state.Keeps after

variable {targets : String → Prop}

theorem Introducing.ensureType {typeName : String} {component doc : Option String}
    {body : Build FieldList} (keeps : KeepsOnFailure body)
    (introducing : Introducing (IsFieldTarget typeName) body) :
    Introducing targets (ensureType typeName component doc body) := by
  intro state
  apply ensures_ensureType
  · exact fun _ => .refl state
  · intro unknown
    apply ((introducing (state.enclose typeName)).and (keeps (state.enclose typeName))).mono
    · exact fun _ _ built => built.1.of_enclose unknown rfl
    · exact fun _ _ failed => failed.2.of_enclose.introduces

theorem objectFields_keepsOnFailure {context : BuildContext}
    (enters : BuildLaw.unrestricted.Enters .any context) (typeName : String) (schema : Schema) :
    KeepsOnFailure (objectFields context typeName schema) := by
  intro state
  have lawful := BuildLaw.objectFields_lawful (BuildLaw.unrestricted_holds context) enters
    (TypeNames.any_admits (schema.innerNames typeName)) state trivial
  exact lawful.mono (fun _ _ _ => trivial) fun _ _ failed => failed.2

theorem componentFields_keepsOnFailure {context : BuildContext}
    (enters : BuildLaw.unrestricted.Enters .any context) (component : Component) :
    KeepsOnFailure (componentFields context component) := by
  intro state
  have isComponent : TypeNames.any.component component := trivial
  have lawful := BuildLaw.componentFields_lawful (BuildLaw.unrestricted_holds context) enters
    isComponent state trivial
  exact lawful.mono (fun _ _ _ => trivial) fun _ _ failed => failed.2

/-- Entering a component introduces its type or fails, and it does nothing where the type is
known. -/
structure EntersNew (context : BuildContext) : Prop where
  lawful : BuildLaw.unrestricted.Enters .any context
  introducing (component : Component) (targets : String → Prop) :
    Introducing targets (context.enter component)
  known {component : Component} {state : BuildState} :
    state.knows component.typeName = true → context.enter component state = .ok () state

theorem EntersNew.composes {context : BuildContext} (enters : EntersNew context) :
    Composes context.aliasing context.resolve? anywhere
      fun targets step => Introducing targets (step context.enter) :=
  introduces_isProgress.composes (fun targets _ => enters.introducing _ targets)
    fun _ _ _ _ => Introducing.ensureType (objectFields_keepsOnFailure enters.lawful _ _)

namespace EntersNew

variable {context : BuildContext} (enters : EntersNew context)

include enters

theorem fieldType_introducing (typeName key : String) (schema : Schema) :
    Introducing (· = fieldTarget typeName key) (fieldType context typeName key schema) :=
  (enters.composes.along schema).field rfl fun _ _ _ => trivial

theorem propertyFields_introducing (typeName : String) (required taken : List String)
    (properties : List (String × Schema)) : Introducing (IsFieldTarget typeName)
      (propertyFields context typeName required taken properties) :=
  enters.composes.propertyFields required taken fun entry _ =>
    (enters.composes.along entry.2).field ⟨entry.1, rfl⟩ fun _ _ _ => trivial

theorem optionalType_introducing (name : String) (schema? : Option Schema) :
    Introducing targets (optionalType context name schema?) :=
  enters.composes.optionalType fun _ _ _ _ _ => trivial

theorem objectFields_introducing (typeName : String) (schema : Schema) :
    Introducing (IsFieldTarget typeName) (objectFields context typeName schema) :=
  enters.composes.objectFields (fun key => ⟨key, rfl⟩) fun _ _ _ => trivial

end EntersNew

theorem enterWithin_entersNew (aliasing : Bool) (resolve? : String → Option Schema) (room : Nat) :
    EntersNew ⟨aliasing, resolve?, enterWithin aliasing resolve? room⟩ := by
  have lawful (room : Nat) :
      BuildLaw.unrestricted.Enters .any ⟨aliasing, resolve?, enterWithin aliasing resolve? room⟩ :=
    BuildLaw.enterWithin_lawful (fun _ => BuildLaw.unrestricted_holds _) room
  induction room with
  | zero =>
      refine ⟨lawful 0, fun component targets => ?_, enterWithin_of_known aliasing resolve? 0⟩
      simp only [enterWithin]
      exact .ensureType (fun state => .refl state) fun state => .refl state
  | succ room enters =>
      refine ⟨lawful _, fun component targets => ?_, enterWithin_of_known aliasing resolve? _⟩
      simp only [enterWithin]
      exact .ensureType (componentFields_keepsOnFailure (lawful room) component)
        (enters.composes.componentFields_of (fun key => ⟨key, rfl⟩) fun _ _ _ => trivial)

end Build

end RestModel
