import RestModel.Proofs.Build.Introductions

/-! # What the fields of a type mention

Where the property of a field refers to a component that can be built, the field is of the
component's type, and this is recorded under the name that the field gets from its key
alone. It is recorded before the field gets its name, so there can be an earlier record for
a property whose key is written alike, and then nothing is recorded. -/

namespace RestModel

open Build

namespace BuildState

/-- A mention is recorded, unless another one was recorded at its place before. -/
structure Records (before after : BuildState) (mention : ComponentMention) : Prop where
  exists_target : ∃ other ∈ after.mentions, other.target = mention.target
  mem : (∀ other ∈ before.mentions, other.target ≠ mention.target) → mention ∈ after.mentions

private theorem records_mention (state : BuildState) (mention : ComponentMention) :
    state.Records (state.mention mention) mention := by
  simp only [BuildState.mention, ComponentMention.record]
  split
  · next recorded =>
      have earlier : ∃ other ∈ state.mentions, other.target = mention.target := by
        simpa using recorded
      refine ⟨earlier, fun none => ?_⟩
      rcases earlier with ⟨other, member, same⟩
      exact absurd same (none other member)
  · exact ⟨⟨mention, by simp⟩, fun _ => by simp⟩

/-- A type is made from a nested object. -/
def IsNested (state : BuildState) (typeName : String) : Prop :=
  ∃ type, Keyed.get? typeName state.types = some type ∧ type.component = none

/-- A type that was not known is registered as it was built: while it is built, no other one
takes its name. -/
theorem Introduces.get?_register {targets : String → Prop} {before after : BuildState}
    {typeName : String} (introduces : (before.enclose typeName).Introduces targets after)
    (unknown : before.knows typeName = false) {type : RecordType} (named : type.name = typeName) :
    Keyed.get? typeName ((after.release typeName).register type).types = some type := by
  subst named
  have unregistered : type.name ∉ Keyed.keys after.types := by
    intro registered
    rcases introduces.types type.name registered with earlier | new
    · have known : before.knows type.name = true := knows_eq_true_iff.mpr (.inl earlier)
      rw [unknown] at known
      contradiction
    · rw [knows_enclose_self] at new
      contradiction
  have absent : Keyed.contains type.name after.types = false :=
    Bool.eq_false_iff.mpr (mt Keyed.contains_eq_true_iff.mp unregistered)
  simp [register, release, TypeTable.register, Keyed.insertNew, absent, Keyed.get?_insert_self]

end BuildState

namespace Build

variable {context : BuildContext} {schema : Schema} {found : ComponentMatch}
  {typeName key name : String} {state : BuildState}

/-! ## Fields -/

theorem alias?_of_shared (isFound : context.sharedComponent? schema = some found)
    (target : String) : alias? context target schema = (do
      if ← succeeds (context.enter found.component) then
        recordMention (found.mention target)
        return some found.typeRef
      else
        return none) := by
  simp [alias?, isFound]

theorem model_of_entered (isFound : context.sharedComponent? schema = some found)
    {after : BuildState} (run : context.enter found.component state = .ok () after)
    (name : String) : model context name schema state =
      .ok (.alias found.typeRef) (after.mention (found.mention name)) := by
  rw [model, alias?_of_shared isFound, bind_apply, bind_apply, succeeds_apply, run]
  rfl

/-- A component that a property refers to is entered and the place of the property is
recorded, unless the type is not known and cannot be built. -/
theorem ensures_alias?_records (enters : EntersNew context)
    (isFound : context.sharedComponent? schema = some found)
    (known : state.knows typeName = true) :
    Ensures (alias? context (fieldTarget typeName key) schema) state
      (fun type? after => match type? with
        | none => after.knows found.component.typeName = false
        | some _ => state.Records after (found.mention (fieldTarget typeName key)))
      fun _ _ => True := by
  rw [alias?_of_shared isFound]
  apply ensures_ite_succeeds
  have introducing := enters.introducing found.component (fun _ => False) state
  have lawful := enters.lawful found.component state trivial trivial
  have unknown : Ensures (context.enter found.component) state (fun _ _ => True)
      fun _ _ => state.knows found.component.typeName = false := by
    cases isKnown : state.knows found.component.typeName with
    | true => simp [Ensures, enters.known isKnown]
    | false => exact introducing.mono (fun _ _ _ => trivial) fun _ _ _ => rfl
  apply (introducing.and (lawful.and unknown)).mono
  · rintro _ after ⟨introduces, -⟩
    have recorded := BuildState.records_mention after (found.mention (fieldTarget typeName key))
    refine ⟨recorded.exists_target, fun none => recorded.mem ?_⟩
    intro other isMention same
    rcases introduces.of_known known isMention same with earlier | none
    · exact none other earlier same
    · exact none
  · rintro _ after ⟨-, keeps, unknown⟩
    exact (keeps.knows _).trans unknown

private theorem ensures_ensureType_isNested (enters : EntersNew context)
    (unknown : state.knows typeName = false) (doc : Option String) (schema : Schema) :
    Ensures (ensureType typeName none doc (objectFields context typeName schema)) state
      (fun _ after => after.IsNested typeName) fun _ _ => True := by
  apply ensures_ensureType
  · intro known
    rw [unknown] at known
    contradiction
  · intro _
    apply (enters.objectFields_introducing typeName schema (state.enclose typeName)).mono
    · intro list after introduces
      exact ⟨⟨typeName, list.fields, list.additional, none, doc⟩,
        introduces.get?_register unknown rfl, rfl⟩
    · exact fun _ _ _ => trivial

/-- A nested object is of the type that is looked for only if it is built under its name. -/
theorem ensures_nestedObject_isNested (enters : EntersNew context)
    (unknown : state.knows typeName = false) {onEmpty : Build α} {built : α} (isRef : α → Prop)
    (isNamed : isRef built → typeName = name)
    (empty : ∀ after, Ensures onEmpty after (fun value _ => ¬isRef value) fun _ _ => True)
    (doc : Option String) (schema : Schema) :
    Ensures (nestedObject (ensureType name none doc (objectFields context name schema)) onEmpty
        (pure built)) state
      (fun value after => isRef value → typeName = name ∧ after.IsNested typeName)
      fun _ _ => True := by
  have notEmpty (after : BuildState) : Ensures onEmpty after
      (fun value after => isRef value → typeName = name ∧ after.IsNested typeName)
      fun _ _ => True :=
    (empty after).mono (fun _ _ notRef isRef => absurd isRef notRef) fun _ _ => id
  apply Ensures.nestedObject
  by_cases same : typeName = name
  · subst same
    apply (ensures_ensureType_isNested enters unknown doc schema).mono
    · exact fun _ _ isNested => ensures_pure fun _ => ⟨rfl, isNested⟩
    · exact fun _ after _ => ⟨trivial, notEmpty after⟩
  · apply (ensures_self _ state).mono
    · exact fun _ _ _ => ensures_pure fun isRef => absurd (isNamed isRef) same
    · exact fun _ after _ => ⟨trivial, notEmpty after⟩

private theorem ensures_elementType_isNested (enters : EntersNew context)
    (unknown : state.knows typeName = false) (notRecursive : schema.recursive = false)
    (name : String) : Ensures (elementType context name schema) state
      (fun type after => type = .named typeName → typeName = name ∧ after.IsNested typeName)
      fun _ _ => True := by
  rw [elementType_eq, notRecursive, if_neg Bool.false_ne_true]
  split
  · exact ensures_pure nofun
  · exact (ensures_of_forall _ state fun _ _ => trivial).bind fun _ _ _ => ensures_pure nofun
  · exact (ensures_of_forall _ state fun _ _ => trivial).bind fun _ _ _ => ensures_pure nofun
  · exact ensures_pure nofun
  · apply ensures_nestedObject_isNested enters unknown (· = TypeRef.named typeName)
    · exact fun isRef => (TypeRef.named.inj isRef).symm
    · exact fun after => ensures_pure nofun

/-- The field of a property that refers to a component is of the component's type, and
recorded, or else it is of another type: that of a nested object, which may go by the
component's name. -/
theorem ensures_fieldType_records (enters : EntersNew context)
    (isFound : context.sharedComponent? schema = some found)
    (known : state.knows typeName = true) :
    Ensures (fieldType context typeName key schema) state
      (fun type? after => type? = some (.wrapped found.typeRef) →
        state.Records after (found.mention (fieldTarget typeName key)) ∨
          found.component.typeName = typeName ++ Naming.camelCase key ∧
            after.IsNested found.component.typeName)
      fun _ _ => True := by
  rw [fieldType_eq]
  apply (ensures_alias?_records enters isFound known).bind
  intro aliased? middle recorded
  cases aliased? with
  | some aliased => exact ensures_pure fun _ => .inl recorded
  | none =>
      have isRef := ComponentMatch.cases_of_ofSchema?
        (BuildContext.ofSchema?_of_sharedComponent? isFound)
      have leftOut (reason : OmissionReason) (after : BuildState) :
          Ensures (do leaveOut typeName key reason; return none) after
            (fun (type? : Option TypeRef) _ => type? ≠ some (.wrapped found.typeRef))
            fun _ _ => True :=
        (ensures_of_forall _ after fun _ _ => trivial).bind fun _ _ _ => ensures_pure (by simp)
      dsimp only
      split
      · next recursive =>
          rcases isRef with ⟨_, notRecursive⟩ | ⟨isArray, noReference, _⟩
          · rw [notRecursive] at recursive
            contradiction
          · have isAny : placeholderType context schema = pure .any := by
              simp [placeholderType, noReference]
            rw [isAny, pure_bind]
            apply ensures_pure
            simp [ComponentMatch.typeRef, isArray, TypeRef.any]
      · split
        · exact ensures_pure (by simp [TypeRef.ofPrimitive])
        · exact (ensures_of_forall _ middle fun _ _ => trivial).bind
            fun _ _ _ => ensures_pure (by simp)
        · split
          · exact (leftOut _ middle).mono (fun _ _ notRef isRef => absurd isRef notRef)
              fun _ _ => id
          · rcases isRef with ⟨notArray, _⟩ | ⟨isArray, _, item, isItem, notRecursive⟩
            · apply (ensures_of_forall _ middle fun _ _ => trivial).bind
              intro type after _
              apply ensures_pure
              simp [ComponentMatch.typeRef, notArray]
            · rw [isItem]
              apply (ensures_elementType_isNested enters recorded notRecursive _).bind
              intro type after isNested
              apply ensures_pure
              intro same
              right
              exact isNested (by simpa [ComponentMatch.typeRef, isArray] using same)
        · exact (leftOut _ middle).mono (fun _ _ notRef isRef => absurd isRef notRef) fun _ _ => id
        · have isNamed (isRef : some (.wrapped (.named (typeName ++ Naming.camelCase key))) =
              some (TypeRef.wrapped found.typeRef)) :
              found.component.typeName = typeName ++ Naming.camelCase key := by
            unfold ComponentMatch.typeRef at isRef
            split at isRef
            · simp at isRef
            · simpa using isRef.symm
          apply (ensures_nestedObject_isNested enters recorded
            (· = some (TypeRef.wrapped found.typeRef)) isNamed (leftOut _) _ _).mono
          · exact fun _ _ nested isRef => .inr (nested isRef)
          · exact fun _ _ => id

end Build

/-! ## All fields of a type -/

namespace BuildState

/-- A component is mentioned for a field: under the name that the field gets from its key
alone, and if this is the field's name, for this very field, unless the place was taken. -/
structure Tells (state : BuildState) (taken : String → Prop) (typeName : String) (field : Field)
    (found : ComponentMatch) : Prop where
  exists_target : ∃ mention ∈ state.mentions,
    mention.target = fieldTarget typeName field.sourceKey
  mem : field.name = Naming.fieldName field.sourceKey →
    ¬taken (fieldTarget typeName field.sourceKey) →
    found.mention (fieldTarget typeName field.sourceKey) ∈ state.mentions

/-- A field of the type of the component that its property refers to has that component
mentioned for it, but where the type is that of a nested object instead. -/
def TellsOf (state : BuildState) (taken : String → Prop)
    (shared? : Schema → Option ComponentMatch) (typeName : String) (field : Field)
    (property : Schema) : Prop :=
  ∀ found, shared? property = some found → field.type = .wrapped found.typeRef →
    state.Tells taken typeName field found ∨
      found.component.typeName = typeName ++ Naming.camelCase field.sourceKey ∧
        state.IsNested found.component.typeName

variable {taken : String → Prop} {shared? : Schema → Option ComponentMatch}
  {before after : BuildState} {typeName : String} {field : Field} {property : Schema}

theorem TellsOf.mono (tells : before.TellsOf taken shared? typeName field property)
    (types : ∀ name type, Keyed.get? name before.types = some type →
      Keyed.get? name after.types = some type)
    (mentions : before.mentions ⊆ after.mentions) :
    after.TellsOf taken shared? typeName field property := by
  intro found isFound isRef
  rcases tells found isFound isRef with told | ⟨sameName, type, registered, isNested⟩
  · rcases told.exists_target with ⟨mention, isMention, isTarget⟩
    exact .inl ⟨⟨mention, mentions isMention, isTarget⟩,
      fun own free => mentions (told.mem own free)⟩
  · exact .inr ⟨sameName, type, types _ type registered, isNested⟩

theorem TellsOf.grows (tells : before.TellsOf taken shared? typeName field property)
    (grows : before.Grows after) : after.TellsOf taken shared? typeName field property :=
  tells.mono grows.types grows.mentions.subset

end BuildState

namespace Build

variable {context : BuildContext} {taken : String → Prop}
  {shared? : Schema → Option ComponentMatch} {typeName key : String} {names : List String}
  {properties : List (String × Schema)} {fields : List Field} {before after : BuildState}

/-- All fields of a type are told of, with the properties that they stand for. -/
def TellsAll (taken : String → Prop) (shared? : Schema → Option ComponentMatch)
    (typeName : String) (properties : List (String × Schema)) (fields : List Field)
    (state : BuildState) : Prop :=
  ∀ field ∈ fields, ∃ property, (field.sourceKey, property) ∈ properties ∧
    state.TellsOf taken shared? typeName field property

theorem TellsAll.mono (tells : TellsAll taken shared? typeName properties fields before)
    (types : ∀ name type, Keyed.get? name before.types = some type →
      Keyed.get? name after.types = some type)
    (mentions : before.mentions ⊆ after.mentions) :
    TellsAll taken shared? typeName properties fields after := by
  intro field isField
  rcases tells field isField with ⟨property, member, told⟩
  exact ⟨property, member, told.mono types mentions⟩

theorem TellsAll.grows (tells : TellsAll taken shared? typeName properties fields before)
    (grows : before.Grows after) : TellsAll taken shared? typeName properties fields after :=
  tells.mono grows.types grows.mentions.subset

private theorem TellsAll.cons_property {entry : String × Schema} {state : BuildState}
    (tells : TellsAll taken shared? typeName properties fields state) :
    TellsAll taken shared? typeName (entry :: properties) fields state := by
  intro field isField
  rcases tells field isField with ⟨property, member, told⟩
  exact ⟨property, List.mem_cons_of_mem _ member, told⟩

theorem TellsAll.cons {field : Field} {property : Schema} {state : BuildState}
    (told : state.TellsOf taken shared? typeName field property)
    (tells : TellsAll taken shared? typeName properties fields state) :
    TellsAll taken shared? typeName ((field.sourceKey, property) :: properties) (field :: fields)
      state := by
  intro other isField
  rcases List.mem_cons.mp isField with rfl | isField
  · exact ⟨property, List.mem_cons_self, told⟩
  · exact tells.cons_property other isField

/-- Where a component is mentioned for a type, the place was taken before, or the name of
the field is. -/
def Covers (taken : String → Prop) (typeName : String) (names : List String)
    (state : BuildState) : Prop :=
  ∀ mention ∈ state.mentions, ∀ key, mention.target = fieldTarget typeName key →
    taken mention.target ∨ Naming.fieldName key ∈ names

theorem Covers.takeName (covers : Covers taken typeName names before)
    (known : before.knows typeName = true)
    (introduces : before.Introduces (· = fieldTarget typeName key) after) :
    Covers taken typeName (Naming.takeName names (Naming.fieldName key)).2 after := by
  intro mention isMention other isTarget
  rcases introduces.of_known known isMention isTarget with earlier | same
  · exact (covers mention earlier other isTarget).imp id
      fun member => Naming.mem_insertText.mpr (.inr member)
  · rw [(fieldTarget_inj.mp (isTarget.symm.trans same)).2]
    exact .inr (Naming.mem_takeName names _)

/-- A field that gets the name of its key is the first one whose key is written so. -/
theorem Covers.tells {field : Field} {found : ComponentMatch}
    (covers : Covers taken typeName names before) (isFree : field.name ∉ names)
    (records : before.Records after (found.mention (fieldTarget typeName field.sourceKey))) :
    after.Tells taken typeName field found := by
  refine ⟨records.exists_target, fun own free => records.mem ?_⟩
  intro mention isMention (isTarget : mention.target = fieldTarget typeName field.sourceKey)
  rcases covers mention isMention field.sourceKey isTarget with taken | member
  · rw [isTarget] at taken
    exact free taken
  · rw [own] at isFree
    exact isFree member

theorem ensures_fieldType_introduces (enters : EntersNew context) (key : String)
    (schema : Schema) (state : BuildState) :
    Ensures (fieldType context typeName key schema) state
      (fun type? after => state.Introduces (· = fieldTarget typeName key) after ∧
        (type? = none → state.Keeps after)) fun _ _ => True := by
  have introducing := enters.fieldType_introducing typeName key schema
  have lawful := (BuildLaw.buildsLawfully (BuildLaw.unrestricted_holds context) enters.lawful
    schema).field typeName key (TypeNames.any_admits _) state trivial
  apply ((introducing state).and lawful).mono
  · exact fun _ _ built => ⟨built.1, built.2.2.1⟩
  · exact fun _ _ _ => trivial

private theorem ensures_propertyFields_tellsAll (enters : EntersNew context)
    (required : List String) :
    ∀ (names : List String) (properties : List (String × Schema)) (state : BuildState),
      state.knows typeName = true → Covers taken typeName names state →
      Ensures (propertyFields context typeName required names properties) state
        (fun fields after =>
          TellsAll taken context.sharedComponent? typeName properties fields after)
        fun _ _ => True
  | _, [], _, _, _ => nofun
  | names, (key, property) :: rest, state, known, covers => by
      have records := ensures_forall fun found => ensures_forall fun isFound =>
        @ensures_fieldType_records _ property found typeName key state enters isFound known
      rw [propertyFields_cons]
      apply (((ensures_fieldType_introduces enters key property state).and records).mono_fails
        fun _ _ _ => trivial).bind
      rintro type? middle ⟨⟨introduces, keeps⟩, records⟩
      have stillKnown := introduces.grows.knows known
      cases type? with
      | none =>
          have covered : Covers taken typeName names middle := by
            rw [Covers, (keeps rfl).mentions]
            exact covers
          have others := ensures_propertyFields_tellsAll enters required names rest middle
            stillKnown covered
          exact others.mono (fun _ _ tells => tells.cons_property) fun _ _ => id
      | some type =>
          have others := ensures_propertyFields_tellsAll enters required
            (nameField required names key property type).2 rest middle stillKnown
            (covers.takeName known introduces)
          have introducing := enters.propertyFields_introducing typeName required
            (nameField required names key property type).2 rest
          apply ((others.and (introducing middle)).mono_fails fun _ _ _ => trivial).bind
          rintro fields after ⟨tells, further⟩
          have told : middle.TellsOf taken context.sharedComponent? typeName
              (nameField required names key property type).1 property := by
            intro found isFound isRef
            rcases records found isFound (congrArg some isRef) with recorded | isNested
            · exact .inl (covers.tells (Naming.freshName_not_mem names _) recorded)
            · exact .inr isNested
          exact ensures_pure (tells.cons (told.grows further.grows))

theorem ensures_objectFields_tellsAll (enters : EntersNew context) {schema : Schema}
    {state : BuildState} (known : state.knows typeName = true)
    (covers : Covers taken typeName [] state) :
    Ensures (objectFields context typeName schema) state (fun list after =>
      TellsAll taken context.sharedComponent? typeName schema.properties list.fields after)
      fun _ _ => True := by
  apply ensures_fieldList
  apply (ensures_propertyFields_tellsAll enters _ [] schema.properties state known covers).mono
  · intro fields middle tells
    have sorted : TellsAll taken context.sharedComponent? typeName schema.properties
        (Field.sort fields) middle :=
      fun field isField => tells field (List.mem_mergeSort.mp isField)
    split
    · trivial
    · split
      · exact sorted
      · have introducing : Introducing (IsFieldTarget typeName)
            (optionalType context (typeName ++ "Value") schema.additional) :=
          enters.optionalType_introducing _ _
        exact (introducing middle).mono (fun _ _ further => sorted.grows further.grows)
          fun _ _ _ => trivial
  · exact fun _ _ => id

theorem ensures_componentFields_tellsAll (enters : EntersNew context) {component : Component}
    {state : BuildState} (known : state.knows component.typeName = true)
    (covers : Covers taken component.typeName [] state) :
    Ensures (componentFields context component) state (fun list after =>
      TellsAll taken context.sharedComponent? component.typeName component.schema.properties
        list.fields after)
      fun _ _ => True := by
  unfold componentFields
  split
  · exact (ensures_of_forall _ state fun _ _ => trivial).bind fun _ _ _ => ensures_pure nofun
  · exact ensures_objectFields_tellsAll enters known covers

end Build

end RestModel
