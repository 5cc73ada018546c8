import RestModel.Proofs.Build.Calls

/-! # Where values may be absent

The value of a field may be absent, but never an item of an array or a value of a map.
So a type is wrapped at most on its outside, and only where it is the type of a field. -/

namespace RestModel

namespace TypeRef

/-- No value within a value of a type may be absent, nor may the value itself. -/
def isPresent : TypeRef → Bool
  | .primitive _ _ | .named _ => true
  | .map inner | .array inner => inner.isPresent
  | .wrapped _ => false

/-- A field is of a primitive type, a map, or a type whose values may be absent. Arrays
and record types stand in fields only as the latter. -/
def isOfField : TypeRef → Bool
  | .primitive _ _ => true
  | .map inner | .wrapped inner => inner.isPresent
  | .array _ | .named _ => false

/-- An array of optional texts is no type of a field, whatever it stands in. -/
example : (TypeRef.wrapped (.array (.wrapped (.primitive .string none)))).isOfField = false ∧
    (TypeRef.wrapped (.array (.primitive .string none))).isOfField = true := by
  decide

end TypeRef

/-- Types are wrapped at most on the outside of fields. -/
structure FieldList.IsWrappedOutside (list : FieldList) : Prop where
  fields : ∀ field ∈ list.fields, field.type.isOfField = true
  additional : ∀ value ∈ list.additional, value.isPresent = true

def RecordType.IsWrappedOutside (type : RecordType) : Prop :=
  FieldList.IsWrappedOutside ⟨type.fields, type.additional⟩

def TypeBody.IsWrappedOutside : TypeBody → Prop
  | .fields list => list.IsWrappedOutside
  | .alias target => target.isPresent = true

namespace BuildLaw

/-- Types are wrapped at most on the outside of fields. -/
def wrapping : BuildLaw where
  state state := ∀ entry ∈ state.types, entry.2.IsWrappedOutside
  element _ type := type.isPresent = true
  field _ type := type.isOfField = true

private theorem wrapping_list {state : BuildState} {list : FieldList} :
    wrapping.list state list ↔ list.IsWrappedOutside :=
  ⟨fun ⟨fields, additional⟩ => ⟨fields, additional⟩,
    fun outside => ⟨outside.fields, outside.additional⟩⟩

private theorem wrapping_body {state : BuildState} : ∀ {body : TypeBody},
    wrapping.body state body ↔ body.IsWrappedOutside
  | .fields _ => wrapping_list
  | .alias _ => Iff.rfl

private theorem wrapping_holds (context : BuildContext) : wrapping.Holds .any context where
  covers := TypeNames.any_covers _
  keeps keeps outside entry member := outside entry (keeps.types ▸ member)
  takeOmitted outside := outside
  enclose _ outside := outside
  register _ outside list entry member := by
    rcases Keyed.mem_insertNew member with rfl | stored
    · exact wrapping_list.mp list
    · exact outside entry stored
  mention _ _ _ outside := outside
  elementGrows _ present := present
  fieldGrows _ ofField := ofField
  elementPrimitive _ _ _ := rfl
  elementNamed _ := rfl
  elementArray present := present
  elementMap present := present
  fieldPrimitive _ _ _ := rfl
  fieldMap present := present
  fieldWrapped present := present

end BuildLaw

namespace Builder

/-- After any calls, all types that are registered and all models that are built are
wrapped at most on the outside of fields. -/
theorem isWrappedOutside (builder : Builder) (calls : List BuilderCall) :
    let state := builder.stateAfter calls
    (∀ entry ∈ state.types, entry.2.IsWrappedOutside) ∧
      ∀ request body after, builder.build request state = .ok body after →
        body.IsWrappedOutside := by
  intro state
  have holds (enter : Component → Build Unit) :
      BuildLaw.wrapping.Holds .any { builder.context with enter } :=
    BuildLaw.wrapping_holds _
  have registered : BuildLaw.wrapping.state state :=
    builder.stateAfter_lawful holds nofun fun _ _ => TypeNames.any_admits _
  refine ⟨registered, ?_⟩
  intro request body after run
  have lawful := builder.build_lawful holds (TypeNames.any_admits (builder.objectNames request))
  have built := (lawful state registered).of_ok run
  exact BuildLaw.wrapping_body.mp built.2

end Builder

end RestModel
