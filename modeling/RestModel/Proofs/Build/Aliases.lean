import RestModel.Proofs.Build.Halting
import RestModel.Proofs.Build.Mentions

/-! # Fields of shared types

Whoever reads the mentions of components can find out which fields are of shared types, as
long as a field keeps the name that it gets from its key. A field that gets another name is
not mentioned by that name. -/

namespace RestModel

namespace Build

/-- The schema that a type is made from: that of a component, or of a nested object. -/
inductive IsSource (resolve? : String → Option Schema) (places : String → Schema → Prop) :
    String → Option String → Schema → Prop where
  | component {component : Component} : component.IsOf resolve? →
      IsSource resolve? places component.typeName (some component.name) component.schema
  | nested {typeName : String} {object : Schema} : places typeName object →
      IsSource resolve? places typeName none object

private theorem IsSource.eq_schema {resolve? : String → Option Schema}
    {places : String → Schema → Prop}
    {typeName : String} {component : Component} {object : Schema}
    (isSource : IsSource resolve? places typeName (some component.name) object)
    (isOf : component.IsOf resolve?) : object = component.schema := by
  generalize isNamed : component.name = name at isSource
  cases isSource with
  | component other =>
      rw [Component.IsOf, isNamed, other] at isOf
      rw [Option.some.inj isOf]

end Build

open Build

/-- One of the fields of a type is at a place. -/
def HasFieldAt (typeName : String) (fields : List Field) (target : String) : Prop :=
  ∃ field ∈ fields, target = fieldTarget typeName field.sourceKey

/-- A model is at a place: it is a mere alias of that name, or one of its fields is there. -/
def TypeBody.IsAt (name target : String) : TypeBody → Prop
  | .alias _ => target = name
  | .fields list => HasFieldAt name list.fields target

/-- The name of the model that is asked for. -/
def BuildRequest.name : BuildRequest → String
  | .model name _ | .operation name _ _ _ => name

namespace BuildState

/-- A place is taken, or it is that of a field of a type that is known. -/
def IsTarget (taken : String → Prop) (state : BuildState) (target : String) : Prop :=
  taken target ∨ ∃ typeName, IsFieldTarget typeName target ∧ state.knows typeName = true

/-- The fields of all types are told of, and components are mentioned only for types that
are known. -/
structure Told (taken : String → Prop) (shared? : Schema → Option ComponentMatch)
    (source : String → Option String → Schema → Prop) (state : BuildState) : Prop where
  mentions : ∀ mention ∈ state.mentions, state.IsTarget taken mention.target
  types : ∀ entry ∈ state.types, ∃ object, source entry.1 entry.2.component object ∧
    TellsAll taken shared? entry.1 object.properties entry.2.fields state

variable {taken : String → Prop} {shared? : Schema → Option ComponentMatch}
  {source : String → Option String → Schema → Prop} {state before after : BuildState}

theorem IsTarget.imp {target : String} (isTarget : before.IsTarget taken target)
    (known : ∀ typeName, before.knows typeName = true → after.knows typeName = true) :
    after.IsTarget taken target :=
  Or.imp_right (fun ⟨typeName, isField, isKnown⟩ => ⟨typeName, isField, known _ isKnown⟩) isTarget

private theorem told_empty : BuildState.empty.Told taken shared? source := ⟨nofun, nofun⟩

/-- What is told does not depend on what is being built, as long as no type gets unknown. -/
theorem Told.of_same (told : before.Told taken shared? source) (types : after.types = before.types)
    (mentions : after.mentions = before.mentions)
    (known : ∀ typeName, before.knows typeName = true → after.knows typeName = true) :
    after.Told taken shared? source where
  mentions mention member := (told.mentions mention (mentions ▸ member)).imp known
  types entry member := by
    rcases told.types entry (types ▸ member) with ⟨object, isSource, tells⟩
    exact ⟨object, isSource, tells.mono (fun _ _ found => types ▸ found) (mentions ▸ .refl _)⟩

theorem Told.keeps (told : before.Told taken shared? source) (keeps : before.Keeps after) :
    after.Told taken shared? source :=
  told.of_same keeps.types keeps.mentions fun _ => keeps.grows.knows

theorem Told.mention (told : state.Told taken shared? source) {mention : ComponentMention}
    (isTarget : state.IsTarget taken mention.target) :
    (state.mention mention).Told taken shared? source where
  mentions other member := by
    rcases ComponentMention.mem_record member with earlier | rfl
    · exact told.mentions other earlier
    · exact isTarget
  types entry member := by
    rcases told.types entry member with ⟨object, isSource, tells⟩
    exact ⟨object, isSource, tells.grows (grows_mention state mention)⟩

theorem Told.register (told : state.Told taken shared? source) {type : RecordType}
    {object : Schema} (isSource : source type.name type.component object)
    (tells : TellsAll taken shared? type.name object.properties type.fields state) :
    ((state.release type.name).register type).Told taken shared? source := by
  have types : ∀ name stored, Keyed.get? name state.types = some stored →
      Keyed.get? name ((state.release type.name).register type).types = some stored :=
    fun _ _ => Keyed.get?_insertNew_of_some
  constructor
  · intro mention member
    exact (told.mentions mention member).imp fun _ => knows_release_register type
  · intro entry member
    rcases Keyed.mem_insertNew member with rfl | earlier
    · exact ⟨object, isSource, tells.mono types (List.Subset.refl _)⟩
    · rcases told.types entry earlier with ⟨object, isSource, tells⟩
      exact ⟨object, isSource, tells.mono types (List.Subset.refl _)⟩

/-- Types are told of in one state if they were in another one, where components are mentioned
at some places and by the fields of known types. -/
def KeepsTold (taken : String → Prop) (shared? : Schema → Option ComponentMatch)
    (source : String → Option String → Schema → Prop) (targets : String → Prop)
    (before after : BuildState) : Prop :=
  before.Told taken shared? source → (∀ target, targets target → before.IsTarget taken target) →
    before.Grows after ∧ after.Told taken shared? source

private theorem Keeps.keepsTold {targets : String → Prop} (keeps : before.Keeps after) :
    before.KeepsTold taken shared? source targets after :=
  fun told _ => ⟨keeps.grows, told.keeps keeps⟩

theorem KeepsTold.imp {narrow wide : String → Prop}
    (keeps : before.KeepsTold taken shared? source narrow after)
    (wider : ∀ target, narrow target → wide target) :
    before.KeepsTold taken shared? source wide after :=
  fun told areTargets => keeps told fun target isTarget => areTargets target (wider target isTarget)

private theorem keepsTold_isProgress : IsProgress (KeepsTold taken shared? source) where
  keeps := Keeps.keepsTold
  mention state isTarget told areTargets :=
    ⟨grows_mention state _, told.mention (areTargets _ isTarget)⟩
  trans := by
    intro targets before middle after left right told areTargets
    rcases left told areTargets with ⟨grows, told⟩
    have stillTargets target isTarget := (areTargets target isTarget).imp fun _ => grows.knows
    rcases right told stillTargets with ⟨further, told⟩
    exact ⟨grows.trans further, told⟩

end BuildState

namespace Build

variable {taken : String → Prop} {shared? : Schema → Option ComponentMatch}
  {source : String → Option String → Schema → Prop} {targets : String → Prop}

/-- A step that mentions components at some places tells of all types that it builds. -/
def Telling (taken : String → Prop) (shared? : Schema → Option ComponentMatch)
    (source : String → Option String → Schema → Prop) (targets : String → Prop)
    (step : Build α) : Prop :=
  LeadsTo (BuildState.KeepsTold taken shared? source targets) step

private theorem Telling.of_keeps {step : Build α}
    (keeps : LeadsTo BuildState.Keeps step) : Telling taken shared? source targets step :=
  fun state => (keeps state).mono (fun _ _ => BuildState.Keeps.keepsTold)
    fun _ _ => BuildState.Keeps.keepsTold

theorem Telling.ensureType {typeName : String} {component doc : Option String} {object : Schema}
    {body : Build FieldList} (isSource : source typeName component object)
    (keeps : KeepsOnFailure body)
    (telling : Telling taken shared? source (IsFieldTarget typeName) body)
    (tells : ∀ state, state.knows typeName = true → Covers taken typeName [] state →
      Ensures body state (fun list after =>
        TellsAll taken shared? typeName object.properties list.fields after) fun _ _ => True) :
    Telling taken shared? source targets (ensureType typeName component doc body) := by
  intro state
  refine ensures_imp fun told => ensures_imp fun _ => ?_
  apply ensures_ensureType
  · exact fun _ => ⟨.refl state, told⟩
  · intro unknown
    have known := state.knows_enclose_self typeName
    have covers : Covers taken typeName [] (state.enclose typeName) := by
      intro mention member key isTarget
      rcases told.mentions mention member with isTaken | ⟨other, ⟨_, also⟩, isKnown⟩
      · exact .inl isTaken
      · rw [← (fieldTarget_inj.mp (isTarget.symm.trans also)).1, unknown] at isKnown
        contradiction
    have enclosed : (state.enclose typeName).Told taken shared? source :=
      told.of_same rfl rfl fun _ => BuildState.knows_enclose
    have areTargets : ∀ target, IsFieldTarget typeName target →
        (state.enclose typeName).IsTarget taken target :=
      fun target isField => .inr ⟨typeName, isField, known⟩
    have body := ((telling (state.enclose typeName)).and (tells _ known covers)).and (keeps _)
    apply body.mono
    · rintro list after ⟨⟨kept, tells⟩, -⟩
      rcases kept enclosed areTargets with ⟨grows, told⟩
      exact ⟨grows.of_enclose _, told.register isSource tells⟩
    · rintro problem after ⟨-, keeps⟩
      exact ⟨keeps.of_enclose.grows, told.keeps keeps.of_enclose⟩

section Steps

variable {aliasing : Bool} {resolve? : String → Option Schema}
  {places : String → Schema → Prop}

theorem telling_composes {enter : Component → Build Unit}
    (enters : EntersNew ⟨aliasing, resolve?, enter⟩)
    (telling : ∀ {component : Component} (targets : String → Prop), component.IsOf resolve? →
      Telling taken (BuildContext.sharedComponent? ⟨aliasing, resolve?, enter⟩)
        (IsSource resolve? places) targets (enter component)) :
    Composes aliasing resolve? places fun targets step =>
      Telling taken (BuildContext.sharedComponent? ⟨aliasing, resolve?, enter⟩)
        (IsSource resolve? places) targets (step enter) :=
  BuildState.keepsTold_isProgress.composes telling fun _ _ _ isPlace telling =>
    Telling.ensureType (.nested isPlace) (objectFields_keepsOnFailure enters.lawful _ _) telling
      fun _ known covers => ensures_objectFields_tellsAll enters known covers

private theorem enterWithin_telling (inner : ∀ {component : Component}, component.IsOf resolve? →
      ∀ typeName object, component.schema.NestsWithin component.typeName typeName object →
        places typeName object) (room : Nat) (enter : Component → Build Unit)
    {component : Component} (targets : String → Prop) (isOf : component.IsOf resolve?) :
    Telling taken (BuildContext.sharedComponent? ⟨aliasing, resolve?, enter⟩)
      (IsSource resolve? places) targets (enterWithin aliasing resolve? room component) := by
  induction room generalizing component targets with
  | zero =>
      unfold enterWithin
      exact .ensureType (.component isOf) (fun state => .refl state)
        (.of_keeps fun state => .refl state) fun _ _ _ => trivial
  | succ room induction =>
      have enters := enterWithin_entersNew aliasing resolve? room
      have composes := telling_composes enters induction
      unfold enterWithin
      exact .ensureType (.component isOf) (componentFields_keepsOnFailure enters.lawful component)
        (composes.componentFields_of (fun key => ⟨key, rfl⟩) (inner isOf))
        fun _ known covers => ensures_componentFields_tellsAll enters known covers

/-! ## Models

A model mentions components under its own name, or at the places of the fields that it gets.
Nothing is built or mentioned for a property that is left out. -/

section Models

variable {context : BuildContext} {name typeName : String} (enters : EntersNew context)
  (composes : Composes context.aliasing context.resolve? places fun targets step =>
    Telling taken shared? source targets (step context.enter))

include enters in
private theorem alias?_none_keeps (target : String) (schema : Schema) (state : BuildState) :
    Ensures (alias? context target schema) state
      (fun type? after => type? = none → state.Keeps after) fun _ _ => True := by
  apply ensures_alias?
  · exact fun _ => .refl state
  · intro found _
    apply (enters.lawful found.component state trivial trivial).mono
    · exact fun _ _ _ => nofun
    · exact fun _ _ keeps _ => keeps

include enters composes

private theorem ensures_fieldType_keepsTold {key : String} {schema : Schema}
    (nested : ∀ inner object, schema.Nests (typeName ++ Naming.camelCase key) inner object →
      places inner object) (state : BuildState) :
    Ensures (fieldType context typeName key schema) state
      (fun type? after => state.KeepsTold taken shared? source
        (fun target => type?.isSome ∧ target = fieldTarget typeName key) after)
      fun _ _ => True := by
  have telling : Telling taken shared? source (· = fieldTarget typeName key)
      (fieldType context typeName key schema) := (composes.along schema).field rfl nested
  apply ((telling state).and (ensures_fieldType_introduces enters key schema state)).mono
  · rintro type? after ⟨kept, -, keeps⟩
    cases type? with
    | none => exact (keeps rfl).keepsTold
    | some type => exact kept.imp fun target isPlace => ⟨rfl, isPlace⟩
  · exact fun _ _ _ => trivial

private theorem ensures_propertyFields_keepsTold (required : List String) :
    ∀ (names : List String) (properties : List (String × Schema)),
      (∀ entry ∈ properties, ∀ inner object,
        entry.2.Nests (typeName ++ Naming.camelCase entry.1) inner object → places inner object) →
      ∀ state : BuildState,
        Ensures (propertyFields context typeName required names properties) state
          (fun fields after => state.KeepsTold taken shared? source (HasFieldAt typeName fields)
            after)
          fun _ _ => True
  | _, [], _, state => (BuildState.Keeps.refl state).keepsTold
  | names, (key, property) :: rest, nested, state => by
      have others names := ensures_propertyFields_keepsTold required names rest
        fun entry member => nested entry (List.mem_cons_of_mem _ member)
      have first := ensures_fieldType_keepsTold enters composes
        (nested (key, property) List.mem_cons_self) state
      rw [propertyFields_cons]
      apply first.bind
      intro type? middle kept
      cases type? with
      | none =>
          apply (others names middle).mono
          · intro fields after further
            exact BuildState.keepsTold_isProgress.trans (kept.imp nofun) further
          · exact fun _ _ => id
      | some type =>
          apply (others _ middle).bind
          intro fields after further
          apply ensures_pure
          let named := (nameField required names key property type).1
          exact BuildState.keepsTold_isProgress.trans
            (kept.imp fun target isPlace => ⟨named, List.mem_cons_self, isPlace.2⟩)
            (further.imp fun target ⟨field, isField, isPlace⟩ =>
              ⟨field, List.mem_cons_of_mem named isField, isPlace⟩)

private theorem ensures_objectFields_keepsTold {schema : Schema}
    (within : ∀ inner object, schema.NestsWithin typeName inner object → places inner object)
    (state : BuildState) :
    Ensures (objectFields context typeName schema) state
      (fun list after => state.KeepsTold taken shared? source (HasFieldAt typeName list.fields)
        after)
      fun _ _ => True := by
  apply ensures_fieldList
  have properties := ensures_propertyFields_keepsTold enters composes
    (schema.required.map Naming.normalKey) [] schema.properties
    (fun entry member _ _ nests => within _ _ (.property member nests)) state
  apply properties.mono
  · intro fields middle kept
    have sorted : state.KeepsTold taken shared? source (HasFieldAt typeName (Field.sort fields))
        middle :=
      kept.imp fun target ⟨field, isField, isPlace⟩ =>
        ⟨field, List.mem_mergeSort.mpr isField, isPlace⟩
    split
    · trivial
    · split
      · exact sorted
      · have additional : Telling taken shared? source (HasFieldAt typeName (Field.sort fields))
            (optionalType context (typeName ++ "Value") schema.additional) :=
          composes.optionalType fun value described _ _ nests =>
            within _ _ (.value described nests)
        apply (additional middle).mono
        · exact fun _ _ further => BuildState.keepsTold_isProgress.trans sorted further
        · exact fun _ _ _ => trivial
  · exact fun _ _ => id

private theorem ensures_model_keepsTold {schema : Schema}
    (within : ∀ inner object, schema.NestsWithin name inner object → places inner object)
    (items : ∀ item ∈ schema.items, ∀ inner object,
      item.Nests (name ++ "Item") inner object → places inner object) (state : BuildState) :
    Ensures (model context name schema) state
      (fun body after => state.KeepsTold taken shared? source (body.IsAt name) after)
      fun _ _ => True := by
  have telling : Telling taken shared? source (· = name) (alias? context name schema) := by
    apply composes.alias?
    rfl
  -- The steps that lead to a mere alias may mention a component under the name of the model.
  have aliased {middle : BuildState} {target : TypeRef → TypeRef} {step : Build TypeRef}
      (keeps : state.Keeps middle) (telling : Telling taken shared? source (· = name) step) :
      Ensures (do return TypeBody.alias (target (← step))) middle
        (fun body after => state.KeepsTold taken shared? source (body.IsAt name) after)
        fun _ _ => True := by
    apply ((telling middle).mono_fails fun _ _ _ => trivial).bind
    intro type after kept
    exact ensures_pure (BuildState.keepsTold_isProgress.trans keeps.keepsTold kept)
  apply (((telling state).and (alias?_none_keeps enters name schema state)).mono_fails
    fun _ _ _ => trivial).bind
  rintro type? middle ⟨kept, keeps⟩
  cases type? with
  | some type => exact ensures_pure kept
  | none =>
      have keeps := keeps rfl
      dsimp only
      split
      · exact @aliased _ id _ keeps (composes.placeholderType schema)
      · split
        · exact ensures_pure keeps.keepsTold
        · exact aliased keeps (composes.optionalType fun value described _ _ nests =>
            within _ _ (.value described nests))
        · split
          · exact ensures_throw trivial
          · exact aliased keeps (composes.optionalType items)
        · exact ensures_throw trivial
        · apply (ensures_objectFields_keepsTold enters composes within middle).bind
          intro list after kept
          exact ensures_pure (BuildState.keepsTold_isProgress.trans keeps.keepsTold kept)

end Models

end Steps

end Build

namespace Builder

/-- A call builds a model of a name from a schema. -/
inductive Asks (builder : Builder) : BuilderCall → String → Schema → Prop where
  | model (name : String) (schema : Schema) :
      Asks builder (.build (.model name schema)) name schema
  | operation (name : String) {verb : Verb} {path : String} {part : Part} {found : PartSchema} :
      builder.document.operationSchema verb path part = .ok (some found) →
      Asks builder (.build (.operation name verb path part)) name found.schema

/-- A nested object within the models that are asked for and the components. -/
inductive HasNested (builder : Builder) (calls : List BuilderCall) : String → Schema → Prop where
  | field {call : BuilderCall} {name typeName : String} {schema object : Schema} :
      call ∈ calls → builder.Asks call name schema → schema.NestsWithin name typeName object →
      HasNested builder calls typeName object
  | item {call : BuilderCall} {name typeName : String} {schema item object : Schema} :
      call ∈ calls → builder.Asks call name schema → item ∈ schema.items →
      item.Nests (name ++ "Item") typeName object → HasNested builder calls typeName object
  | inComponent {component : Component} {typeName : String} {object : Schema} :
      component.IsOf builder.document.component? →
      component.schema.NestsWithin component.typeName typeName object →
      HasNested builder calls typeName object

/-- One of the calls builds a model that is at a place. -/
def IsModelPlace (builder : Builder) (calls : List BuilderCall) (target : String) : Prop :=
  ∃ earlier request later body after, calls = earlier ++ .build request :: later ∧
    builder.build request (builder.stateAfter earlier) = .ok body after ∧
    body.IsAt request.name target

theorem telling_composes (builder : Builder) (calls : List BuilderCall) :
    Composes builder.aliasing builder.document.component? (builder.HasNested calls)
      fun targets step => Telling (builder.IsModelPlace calls) builder.context.sharedComponent?
        (IsSource builder.document.component? (builder.HasNested calls)) targets
        (step builder.context.enter) :=
  Build.telling_composes (enterWithin_entersNew _ _ _)
    (enterWithin_telling (fun isOf _ _ => .inComponent isOf) _ _)

private theorem ensures_build_keepsTold (builder : Builder) {calls : List BuilderCall}
    {request : BuildRequest} (isCall : .build request ∈ calls) (state : BuildState) :
    Ensures (builder.build request) state
      (fun body after => state.KeepsTold (builder.IsModelPlace calls)
        builder.context.sharedComponent?
        (IsSource builder.document.component? (builder.HasNested calls))
        (body.IsAt request.name) after)
      fun _ _ => True := by
  have model {name : String} {schema : Schema}
      (asks : builder.Asks (.build request) name schema) :
      Ensures (builder.model name schema) state
        (fun body after => state.KeepsTold (builder.IsModelPlace calls)
          builder.context.sharedComponent?
          (IsSource builder.document.component? (builder.HasNested calls)) (body.IsAt name) after)
        fun _ _ => True := by
    apply ensures_model_keepsTold (enterWithin_entersNew _ _ _) (builder.telling_composes calls)
    · exact fun _ _ => .field isCall asks
    · exact fun item isItem _ _ => .item isCall asks isItem
  cases request with
  | model name schema => exact model (.model name schema)
  | operation name verb path part =>
      rw [build, operation]
      split
      · next found declared => exact model (.operation name declared)
      · exact ensures_throw trivial

/-- The fields of all types are told of after a list of calls, where more calls may follow. -/
theorem stateAfter_told (builder : Builder) (earlier later : List BuilderCall) :
    (builder.stateAfter earlier).Told (builder.IsModelPlace (earlier ++ later))
      builder.context.sharedComponent?
      (IsSource builder.document.component? (builder.HasNested (earlier ++ later))) := by
  induction earlier using List.reverseRecOn generalizing later with
  | nil => exact BuildState.told_empty
  | append_singleton earlier call induction =>
      have told := induction (call :: later)
      rw [List.append_assoc, List.singleton_append]
      rw [stateAfter, List.foldl_concat]
      cases call with
      | takeOmitted => exact told.of_same rfl rfl fun _ known => known
      | build request =>
          have isCall : BuilderCall.build request ∈ earlier ++ .build request :: later := by simp
          have kept := builder.ensures_build_keepsTold isCall (builder.stateAfter earlier)
          have places := ensures_self (builder.build request) (builder.stateAfter earlier)
          have keeps := builder.build_grows request (builder.stateAfter earlier)
          have obeyed := ((kept.and places).and keeps).mono
            (fun body after ⟨⟨kept, run⟩, _⟩ => (kept told fun target isAt =>
              .inl ⟨earlier, request, later, body, after, rfl, run, isAt⟩).2)
            fun _ _ ⟨_, keeps⟩ => told.keeps keeps
          exact obeyed.stateAfter

/-- A field is of the type of the component that its property refers to. Where that type has
the name of the nested object that the property would be built as, it is made from a
component. -/
structure IsAliased (state : BuildState) (typeName : String) (field : Field)
    (found : ComponentMatch) : Prop where
  type : field.type = .wrapped found.typeRef
  component : found.component.typeName = typeName ++ Naming.camelCase field.sourceKey →
    ∀ type, Keyed.get? found.component.typeName state.types = some type → type.component ≠ none

/-- A field of the type of a component is mentioned under the name that it gets from its key
alone. If it has this name, it is mentioned by it with the type that it is of, unless there
is a model at its place. -/
theorem mentioned_of_isAliased (builder : Builder) (calls : List BuilderCall)
    {typeName : String} {type : RecordType}
    (registered : Keyed.get? typeName (builder.stateAfter calls).types = some type) :
    let state := builder.stateAfter calls
    ∃ object,
      IsSource builder.document.component? (builder.HasNested calls) typeName type.component
        object ∧
      ∀ field ∈ type.fields, ∃ property, (field.sourceKey, property) ∈ object.properties ∧
        ∀ found, builder.context.sharedComponent? property = some found →
          IsAliased state typeName field found →
          (∃ mention ∈ state.mentions,
            mention.target = typeName ++ "." ++ Naming.fieldName field.sourceKey) ∧
          (field.name = Naming.fieldName field.sourceKey →
            ¬builder.IsModelPlace calls (typeName ++ "." ++ field.name) →
            found.mention (typeName ++ "." ++ field.name) ∈ state.mentions) := by
  intro state
  have told := builder.stateAfter_told calls []
  rw [List.append_nil] at told
  rcases told.types _ (Keyed.mem_of_get? registered) with ⟨object, isSource, tells⟩
  refine ⟨object, isSource, ?_⟩
  intro field isField
  rcases tells field isField with ⟨property, member, tellsOf⟩
  refine ⟨property, member, ?_⟩
  intro found isFound isAliased
  rcases tellsOf found isFound isAliased.type with tells | ⟨sameName, stored, isStored, isNested⟩
  · refine ⟨tells.exists_target, ?_⟩
    intro own free
    rw [own] at free ⊢
    exact tells.mem own free
  · exact absurd isNested (isAliased.component sameName stored isStored)

/-- The fields of a component are those of its properties, in order, after a model of it is
built from nothing. -/
theorem registered_of_propertyFields (builder : Builder) {schema : Schema}
    {found : ComponentMatch} {fields : List Field} {middle : BuildState}
    (isFound : builder.context.sharedComponent? schema = some found)
    (notMap : found.component.schema.shape ≠ .map)
    (undescribed : found.component.schema.additional = none)
    (run : propertyFields builder.context found.component.typeName
      (found.component.schema.required.map Naming.normalKey) [] found.component.schema.properties
      (BuildState.empty.enclose found.component.typeName) = .ok fields middle)
    (nonempty : fields ≠ []) (name : String) :
    Keyed.get? found.component.typeName
        (builder.stateAfter [.build (.model name schema)]).types =
      some ⟨found.component.typeName, Field.sort fields, none, some found.component.name,
        found.component.schema.description⟩ := by
  have unknown : BuildState.empty.knows found.component.typeName = false := by
    simp [BuildState.knows, BuildState.empty, Keyed.contains, Keyed.get?]
  have isOf := BuildContext.isOf_of_sharedComponent? isFound
  have entered := builder.enter_of_unknown isOf unknown
  rw [componentFields, if_neg notMap,
    objectFields_of_propertyFields run nonempty undescribed] at entered
  have enters : EntersNew builder.context := enterWithin_entersNew _ _ _
  have introduces := (enters.propertyFields_introducing _ _ _ _ _).of_ok run
  have after := model_of_entered isFound entered name
  simp only [stateAfter, List.foldl_cons, List.foldl_nil, call, build, Build.stateAfter]
  rw [model, after]
  exact introduces.get?_register unknown rfl

/-- The component that a schema refers to, with its fields before they are sorted. -/
def componentFields? (builder : Builder) (schema : Schema) :
    Option (ComponentMatch × List Field) :=
  match builder.context.sharedComponent? schema with
  | some found =>
      match propertyFields builder.context found.component.typeName
          (found.component.schema.required.map Naming.normalKey) []
          found.component.schema.properties
          (BuildState.empty.enclose found.component.typeName) with
      | .ok fields _ => some (found, fields)
      | .error _ _ => none
  | none => none

private theorem registered_of_componentFields? {builder : Builder} {schema : Schema}
    {typeName : String}
    {holds : ComponentMatch → Field → Prop}
    (known : ∃ built ∈ builder.componentFields? schema, built.1.component.typeName = typeName ∧
      built.1.component.schema.shape ≠ .map ∧ built.1.component.schema.additional = none ∧
      ∃ field ∈ built.2, holds built.1 field) (name : String) :
    ∃ found, builder.context.sharedComponent? schema = some found ∧
      ∃ type, Keyed.get? typeName (builder.stateAfter [.build (.model name schema)]).types =
          some type ∧
        type.component = some found.component.name ∧ ∃ field ∈ type.fields, holds found field := by
  rcases known with ⟨⟨found, fields⟩, isBuilt, rfl, notMap, undescribed, field, isField, ensured⟩
  simp only [componentFields?, Option.mem_def] at isBuilt
  split at isBuilt
  · next same isFound =>
      split at isBuilt
      · next run =>
          cases isBuilt
          have nonempty : fields ≠ [] := List.ne_nil_of_mem isField
          have registered := builder.registered_of_propertyFields isFound notMap undescribed run
            nonempty
          exact ⟨found, isFound, _, registered name, rfl, field,
            List.mem_mergeSort.mpr isField, ensured⟩
      · contradiction
  · contradiction

/-- A reference to a component, in the form that it is written in. -/
def referenceTo (name : String) : Json :=
  .object [("$ref", .string (Schema.componentPath ++ name))]

/-- Persons with an address and a depot, under keys that are written alike. -/
def persons : Builder where
  document := .ofComponents
    [("Address", .object [("properties", .object
        [("street", .object [("type", .string "string")])])]),
      ("Depot", .object [("properties", .object
        [("city", .object [("type", .string "string")])])]),
      ("Person", .object [("properties", .object
        [("home-address", referenceTo "Address"), ("home_address", referenceTo "Depot")])])]
  aliasing := true

/-- A person as it is described, with references resolved. -/
def person : Schema := persons.document.resolve (referenceTo "Person")

/-- A model of a person. -/
def personCalls : List BuilderCall := [.build (.model "A" person)]

/-- The field of the address is the first one and keeps its name. -/
theorem mentioned_of_isAliased_person :
    let state := persons.stateAfter personCalls
    ∃ type, Keyed.get? "Person" state.types = some type ∧
      ∃ field ∈ type.fields, field.sourceKey = "home-address" ∧ field.name = "home_address" ∧
        ∃ property found, persons.context.sharedComponent? property = some found ∧
          IsAliased state "Person" field found ∧ found.component.name = "Address" ∧
          found.mention "Person.home_address" ∈ state.mentions := by
  intro state
  have built : ∃ person?, persons.context.sharedComponent? person = some person? ∧
      ∃ type, Keyed.get? "Person" state.types = some type ∧
        type.component = some person?.component.name ∧ ∃ field ∈ type.fields,
          field.sourceKey = "home-address" ∧ field.name = "home_address" ∧
          ∀ entry ∈ person?.component.schema.properties, entry.1 = "home-address" →
            ∃ found ∈ persons.context.sharedComponent? entry.2,
              found.component.name = "Address" ∧ found.component.typeName = "Address" ∧
              field.type = .wrapped found.typeRef :=
    registered_of_componentFields? (by decide +kernel) "A"
  rcases built with ⟨person?, isPerson, type, registered, ofComponent, field, isField, isKey,
    isFieldNamed, refers⟩
  rcases mentioned_of_isAliased persons personCalls registered with ⟨object, isSource, told⟩
  rcases told field isField with ⟨property, isProperty, mentioned⟩
  have sameObject : object = person?.component.schema := by
    rw [ofComponent] at isSource
    exact isSource.eq_schema (BuildContext.isOf_of_sharedComponent? isPerson)
  subst sameObject
  rcases refers (field.sourceKey, property) isProperty isKey with
    ⟨found, isFound, isAddress, isTypeNamed, isRef⟩
  have isAliased : IsAliased state "Person" field found := by
    refine ⟨isRef, fun same => ?_⟩
    rw [isTypeNamed, isKey] at same
    exact absurd same (by decide)
  have isOwn : field.name = Naming.fieldName field.sourceKey := by
    rw [isFieldNamed, isKey]
    decide +kernel
  have place : "Person" ++ "." ++ field.name = "Person.home_address" := by
    rw [isFieldNamed]
    decide
  have noModel : ¬persons.IsModelPlace personCalls ("Person" ++ "." ++ field.name) := by
    rintro ⟨earlier, request, later, body, after, isCalls, -, isAt⟩
    have isNamed : request.name = "A" := by
      have isCall : BuilderCall.build request ∈ personCalls := by simp [isCalls]
      rcases List.mem_singleton.mp isCall with ⟨⟩
      rfl
    rw [isNamed] at isAt
    match body, isAt with
    | .alias _, isAt =>
        have isAt : "Person.home_address" = "A" := place ▸ isAt
        exact absurd isAt (by decide)
    | .fields _, ⟨other, _, same⟩ =>
        rw [isOwn] at same
        exact absurd (fieldTarget_inj.mp same).1 (by decide)
  have isMention := (mentioned found isFound isAliased).2 isOwn noModel
  rw [place] at isMention
  exact ⟨type, registered, field, isField, isKey, isFieldNamed, property, found, isFound,
    isAliased, isAddress, isMention⟩

/-- The field of the depot gets another name, and it is not mentioned by that one. -/
theorem mentioned_of_isAliased_renamed :
    let state := persons.stateAfter personCalls
    ∃ type, Keyed.get? "Person" state.types = some type ∧
      ∃ field ∈ type.fields, field.name = "home_address_1" ∧
        ∃ object property found,
          IsSource persons.document.component? (persons.HasNested personCalls) "Person"
            type.component object ∧
          (field.sourceKey, property) ∈ object.properties ∧
          persons.context.sharedComponent? property = some found ∧
          IsAliased state "Person" field found ∧
          ∀ mention ∈ state.mentions, mention.target ≠ "Person" ++ "." ++ field.name := by
  intro state
  have built : ∃ person?, persons.context.sharedComponent? person = some person? ∧
      ∃ type, Keyed.get? "Person" state.types = some type ∧
        type.component = some person?.component.name ∧ ∃ field ∈ type.fields,
          person?.component.typeName = "Person" ∧ field.name = "home_address_1" ∧
          ∃ entry ∈ person?.component.schema.properties, entry.1 = field.sourceKey ∧
            ∃ found ∈ persons.context.sharedComponent? entry.2,
              found.component.typeName ≠ "Person" ++ Naming.camelCase field.sourceKey ∧
              field.type = .wrapped found.typeRef :=
    registered_of_componentFields? (by decide +kernel) "A"
  rcases built with ⟨person?, isPerson, type, registered, ofComponent, field, isField, isNamed,
    isFieldNamed, ⟨_, property⟩, isProperty, rfl, found, isFound, different, isRef⟩
  have isSource : IsSource persons.document.component? (persons.HasNested personCalls) "Person"
      type.component person?.component.schema := by
    rw [ofComponent, ← isNamed]
    exact .component (BuildContext.isOf_of_sharedComponent? isPerson)
  have unmentioned : ∀ mention ∈ state.mentions,
      mention.target ≠ "Person" ++ "." ++ "home_address_1" := by decide +kernel
  rw [← isFieldNamed] at unmentioned
  exact ⟨type, registered, field, isField, isFieldNamed, _, property, found, isSource, isProperty,
    isFound, ⟨isRef, fun same => absurd same different⟩, unmentioned⟩

end Builder

end RestModel
