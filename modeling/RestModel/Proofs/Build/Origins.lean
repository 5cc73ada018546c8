import RestModel.Proofs.Build.Calls
import RestModel.Proofs.Build.References

/-! # Where types and mentions come from

Every type is made from a component or from a nested object, and is named after it.
A mention is of a component, but the type that stands under the component's name need
not be made from it: the name may have been taken by another component that is
written alike in camel case, or by a nested object. -/

namespace RestModel

/-- A mention is of a component of a description. -/
def ComponentMention.IsOf (resolve? : String → Option Schema) (mention : ComponentMention) :
    Prop :=
  ∃ component : Component, component.IsOf resolve? ∧ mention.component = component.name ∧
    mention.typeName = component.typeName ∧ mention.reference = component.reference

private theorem Shape.isRecord_eq_true_iff {shape : Shape} :
    shape.isRecord = true ↔ shape = .object ∨ shape = .map := by
  cases shape <;> simp [Shape.isRecord]

namespace BuildLaw

/-- Types have names that they may have, and mentions are of components. -/
def origins (names : TypeNames) (resolve? : String → Option Schema) : BuildLaw where
  state state := (∀ entry ∈ state.types, names.Allows entry.2) ∧
    ∀ mention ∈ state.mentions, mention.IsOf resolve?
  element _ _ := True
  field _ _ := True

private theorem origins_holds {names : TypeNames} (context : BuildContext)
    (covers : names.Covers context.resolve?) :
    (origins names context.resolve?).Holds names context where
  covers := covers
  keeps keeps obeyed := by
    refine ⟨?_, ?_⟩
    · rw [keeps.types]
      exact obeyed.1
    · rw [keeps.mentions]
      exact obeyed.2
  takeOmitted obeyed := obeyed
  enclose _ obeyed := obeyed
  register allowed obeyed _ := by
    refine ⟨?_, obeyed.2⟩
    intro entry member
    rcases Keyed.mem_insertNew member with rfl | stored
    · exact allowed
    · exact obeyed.1 entry stored
  mention target isFound _ obeyed := by
    refine ⟨obeyed.1, ?_⟩
    intro mention member
    rcases ComponentMention.mem_record member with earlier | rfl
    · exact obeyed.2 mention earlier
    · exact ⟨_, BuildContext.isOf_of_sharedComponent? isFound, rfl, rfl, rfl⟩
  elementGrows _ _ := trivial
  fieldGrows _ _ := trivial
  elementPrimitive _ _ _ := trivial
  elementNamed _ := trivial
  elementArray _ := trivial
  elementMap _ := trivial
  fieldPrimitive _ _ _ := trivial
  fieldMap _ := trivial
  fieldWrapped _ := trivial

end BuildLaw

namespace Builder

/-- The components that types of their own are made from. -/
def components (builder : Builder) : List Component :=
  (Keyed.keys builder.document.components).filterMap
    (Component.ofName? builder.document.component?)

theorem mem_components_iff {builder : Builder} {component : Component} :
    component ∈ builder.components ↔ component.IsOf builder.document.component? := by
  constructor
  · intro member
    rcases List.mem_filterMap.mp member with ⟨name, _, found⟩
    exact Component.isOf_of_ofName? found
  · intro isOf
    rcases Component.ofName?_eq_some_iff.mp isOf with ⟨schema, resolved, _, _⟩
    exact List.mem_filterMap.mpr ⟨component.name, Document.mem_keys_of_component? resolved, isOf⟩

/-- The names that the types of nested objects may get in a list of calls: of objects
within the models that are asked for, and of objects within components. -/
def nestedNames (builder : Builder) (calls : List BuilderCall) : List String :=
  calls.flatMap builder.callNames ++
    builder.components.flatMap fun component => component.schema.innerNames component.typeName

/-- The names that types may get in a list of calls. -/
def names (builder : Builder) (calls : List BuilderCall) : TypeNames where
  component component := component.IsOf builder.document.component?
  object name := name ∈ builder.nestedNames calls

private theorem names_covers (builder : Builder) (calls : List BuilderCall) :
    (builder.names calls).Covers builder.document.component? where
  component isOf := isOf
  inner isOf _ member :=
    List.mem_append_right _ (List.mem_flatMap.mpr ⟨_, mem_components_iff.mpr isOf, member⟩)

theorem stateAfter_origins (builder : Builder) (calls : List BuilderCall) :
    (BuildLaw.origins (builder.names calls) builder.document.component?).state
      (builder.stateAfter calls) := by
  have covers := builder.names_covers calls
  have holds (enter : Component → Build Unit) :
      (BuildLaw.origins (builder.names calls) builder.document.component?).Holds
        (builder.names calls) { builder.context with enter } :=
    BuildLaw.origins_holds { builder.context with enter } covers
  apply builder.stateAfter_lawful holds ⟨nofun, nofun⟩
  intro call isCall name member
  exact List.mem_append_left _ (List.mem_flatMap.mpr ⟨call, isCall, member⟩)

private theorem stateAfter_closed (builder : Builder) (calls : List BuilderCall) :
    (builder.stateAfter calls).Closed := by
  have holds (enter : Component → Build Unit) :
      BuildLaw.references.Holds .any { builder.context with enter } :=
    BuildLaw.references_holds _
  exact builder.stateAfter_lawful holds BuildState.closed_empty fun _ _ =>
    TypeNames.any_admits _

/-- Which type stands under the name of a component that is mentioned: the component's
own, or else one that came by that name before it. -/
inductive Stands (builder : Builder) (calls : List BuilderCall) (mention : ComponentMention) :
    RecordType → Prop where
  | own {type : RecordType} : type.component = some mention.component →
      Stands builder calls mention type
  /-- Another component has the same name in camel case. -/
  | namesake {type : RecordType} {other : Component} :
      other.IsOf builder.document.component? → other.name ≠ mention.component →
      other.typeName = mention.typeName → type.component = some other.name →
      Stands builder calls mention type
  /-- The type of a nested object may have the name. -/
  | nested {type : RecordType} : mention.typeName ∈ builder.nestedNames calls →
      type.component = none → Stands builder calls mention type

private theorem stands_of_allows {builder : Builder} {calls : List BuilderCall}
    {mention : ComponentMention} {type : RecordType} (allowed : (builder.names calls).Allows type)
    (named : type.name = mention.typeName) : builder.Stands calls mention type := by
  cases allowed with
  | @component component isOf list =>
      by_cases same : component.name = mention.component
      · exact .own (congrArg some same)
      · exact .namesake isOf same named rfl
  | object isObject list doc =>
      change _ = mention.typeName at named
      exact .nested (named ▸ isObject) rfl

/-- Every mention is of a component that is an object or a map on its own, by its
reference and by its name in camel case. Under that name stands a type, which is the
component's own unless the name belongs to another component or a nested object as
well. -/
theorem mentions_stand (builder : Builder) (calls : List BuilderCall)
    {mention : ComponentMention} (isMention : mention ∈ (builder.stateAfter calls).mentions) :
    (∃ schema, builder.document.component? mention.component = some schema ∧
      (schema.shape = .object ∨ schema.shape = .map)) ∧
    mention.reference = "#/components/schemas/" ++ mention.component ∧
    mention.typeName = Naming.camelCase mention.component ∧
    ∃ type, Keyed.get? mention.typeName (builder.stateAfter calls).types = some type ∧
      type.name = mention.typeName ∧ builder.Stands calls mention type := by
  have origins := builder.stateAfter_origins calls
  have closed := builder.stateAfter_closed calls
  rcases origins.2 mention isMention with ⟨component, isOf, named, typeNamed, referred⟩
  rcases Component.ofName?_eq_some_iff.mp isOf with ⟨schema, resolved, isRecord, made⟩
  -- Between calls nothing is being built, so what is known is registered.
  have stored : Keyed.contains mention.typeName (builder.stateAfter calls).types = true := by
    have known := closed.mentions mention isMention
    simpa [BuildState.knows, builder.stateAfter_building calls] using known
  rcases Option.isSome_iff_exists.mp stored with ⟨type, found⟩
  have member := Keyed.mem_of_get? found
  have typeIsNamed : type.name = mention.typeName := closed.named _ member
  rw [named]
  refine ⟨⟨schema, resolved, Shape.isRecord_eq_true_iff.mp isRecord⟩, ?_, ?_, ?_⟩
  · rw [referred, made]
    rfl
  · rw [typeNamed, made]
  · exact ⟨type, found, typeIsNamed, stands_of_allows (origins.1 _ member) typeIsNamed⟩

/-- Two components of which only the separator of words in their names differs. -/
def profiles : Builder where
  document := {
    title := "Profiles"
    paths := []
    components :=
      [("user-profile", .object [("properties", .object
          [("name", .object [("type", .string "string")])])]),
        ("user_profile", .object [("properties", .object
          [("age", .object [("type", .string "integer")])])])]
    sharedRequests := []
    sharedResponses := []
    listWrapperKeys := [] }
  aliasing := true

/-- A model of each of the two components. -/
def profileCalls : List BuilderCall :=
  [("A", "user-profile"), ("B", "user_profile")].map fun (name, component) =>
    .build (.model name (profiles.document.resolve
      (.object [("$ref", .string (Schema.componentPath ++ component))])))

/-- The second component is mentioned, and the type under its name is that of the first. -/
theorem mentions_stand_profiles :
    let state := profiles.stateAfter profileCalls
    let mention : ComponentMention :=
      ⟨"B", "user_profile", "UserProfile", "#/components/schemas/user_profile", false⟩
    mention ∈ state.mentions ∧
      ∃ type, Keyed.get? "UserProfile" state.types = some type ∧ type.name = "UserProfile" ∧
        type.component = some "user-profile" ∧ profiles.Stands profileCalls mention type := by
  intro state mention
  have isMention : mention ∈ state.mentions := by decide +kernel
  rcases (mentions_stand profiles profileCalls isMention).2.2.2 with
    ⟨type, found, named, stands⟩
  have component : (Keyed.get? "UserProfile" state.types).map (·.component) =
      some (some "user-profile") := by decide +kernel
  rw [found] at component
  exact ⟨isMention, type, found, named, Option.some.inj component, stands⟩

/-- No type is made from the second component, though a place is told to be of its type. -/
theorem mentions_stand_namesakes :
    ∃ mention ∈ (profiles.stateAfter profileCalls).mentions,
      ∀ type ∈ Keyed.values (profiles.stateAfter profileCalls).types,
        type.component ≠ some mention.component := by
  decide +kernel

end Builder

end RestModel
