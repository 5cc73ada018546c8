import RestModel.Proofs.Build.Lawful

/-! # The names that built types mention

Every name that is mentioned is the name of a type that is registered or being
built. A type is known from when it is entered: it is being built, and then it
is registered, or else nothing that mentions it has been built. -/

namespace RestModel

/-- The names that the fields of a type mention. -/
def FieldList.names (list : FieldList) : List String :=
  list.fields.flatMap (·.type.names) ++ list.additional.toList.flatMap (·.names)

/-- The names that a record type mentions. -/
def RecordType.names (type : RecordType) : List String :=
  FieldList.names ⟨type.fields, type.additional⟩

/-- The names that a model mentions. -/
def TypeBody.names : TypeBody → List String
  | .fields list => list.names
  | .alias target => target.names

namespace BuildState

theorem knows_eq_true_iff {state : BuildState} {typeName : String} :
    state.knows typeName = true ↔
      typeName ∈ Keyed.keys state.types ∨ typeName ∈ state.building := by
  simp [BuildState.knows, Keyed.contains_eq_true_iff]

theorem knows_enclose {state : BuildState} {typeName other : String}
    (known : state.knows other = true) : (state.enclose typeName).knows other = true := by
  rw [knows_eq_true_iff] at known ⊢
  exact known.imp id (List.mem_cons_of_mem _)

theorem knows_enclose_self (state : BuildState) (typeName : String) :
    (state.enclose typeName).knows typeName = true :=
  knows_eq_true_iff.mpr (.inr List.mem_cons_self)

/-- A type that is no longer being built is known because it is registered. -/
theorem knows_release_register {state : BuildState} (type : RecordType) {other : String}
    (known : state.knows other = true) :
    ((state.release type.name).register type).knows other = true := by
  by_cases equal : other = type.name
  · rw [equal]
    exact knows_register _ type
  · rw [knows_eq_true_iff] at known ⊢
    rcases known with registered | building
    · left
      have stored := Keyed.contains_eq_true_iff.mpr registered
      exact Keyed.contains_eq_true_iff.mp (Keyed.contains_insertNew_of_contains type stored)
    · right
      exact (List.mem_erase_of_ne equal).mpr building

/-- Types are registered under their own names, once each, and all names that types
and mentions hold are known. -/
structure Closed (state : BuildState) : Prop where
  nodup : (Keyed.keys state.types).Nodup
  named : ∀ entry ∈ state.types, entry.2.name = entry.1
  types : ∀ entry ∈ state.types, ∀ name ∈ entry.2.names, state.knows name = true
  mentions : ∀ mention ∈ state.mentions, state.knows mention.typeName = true

theorem closed_empty : BuildState.empty.Closed :=
  ⟨List.nodup_nil, nofun, nofun, nofun⟩

theorem Closed.keeps {before after : BuildState} (closed : before.Closed)
    (keeps : before.Keeps after) : after.Closed where
  nodup := keeps.types ▸ closed.nodup
  named := keeps.types ▸ closed.named
  types entry member name mentioned :=
    keeps.grows.knows (closed.types entry (keeps.types ▸ member) name mentioned)
  mentions mention member :=
    keeps.grows.knows (closed.mentions mention (keeps.mentions ▸ member))

theorem Closed.enclose {state : BuildState} (closed : state.Closed) (typeName : String) :
    (state.enclose typeName).Closed where
  nodup := closed.nodup
  named := closed.named
  types entry member name mentioned := knows_enclose (closed.types entry member name mentioned)
  mentions mention member := knows_enclose (closed.mentions mention member)

theorem Closed.register {state : BuildState} (closed : state.Closed) (type : RecordType)
    (known : ∀ name ∈ type.names, state.knows name = true) :
    ((state.release type.name).register type).Closed where
  nodup := Keyed.nodup_keys_insertNew _ _ closed.nodup
  named entry member := by
    rcases Keyed.mem_insertNew member with rfl | stored
    · rfl
    · exact closed.named entry stored
  types entry member name mentioned := by
    apply knows_release_register
    rcases Keyed.mem_insertNew member with rfl | stored
    · exact known name mentioned
    · exact closed.types entry stored name mentioned
  mentions mention member := knows_release_register type (closed.mentions mention member)

theorem Closed.mention {state : BuildState} (closed : state.Closed) {mention : ComponentMention}
    (known : state.knows mention.typeName = true) : (state.mention mention).Closed where
  nodup := closed.nodup
  named := closed.named
  types := closed.types
  mentions other member := by
    rcases ComponentMention.mem_record member with earlier | rfl
    · exact closed.mentions other earlier
    · exact known

end BuildState

namespace BuildLaw

/-- Every name that is mentioned is known. -/
def references : BuildLaw where
  state := BuildState.Closed
  element state type := ∀ name ∈ type.names, state.knows name = true
  field state type := ∀ name ∈ type.names, state.knows name = true

theorem references_list {state : BuildState} {list : FieldList} :
    references.list state list ↔ ∀ name ∈ list.names, state.knows name = true := by
  constructor
  · rintro ⟨fields, additional⟩ name mentioned
    rcases List.mem_append.mp mentioned with ofField | ofAdditional
    · rcases List.mem_flatMap.mp ofField with ⟨field, member, mentioned⟩
      exact fields field member name mentioned
    · rcases List.mem_flatMap.mp ofAdditional with ⟨type, member, mentioned⟩
      exact additional type (Option.mem_toList.mp member) name mentioned
  · intro known
    constructor
    · intro field member name mentioned
      exact known name (List.mem_append_left _ (List.mem_flatMap.mpr ⟨field, member, mentioned⟩))
    · intro type member name mentioned
      exact known name (List.mem_append_right _
        (List.mem_flatMap.mpr ⟨type, Option.mem_toList.mpr member, mentioned⟩))

theorem references_body {state : BuildState} : ∀ {body : TypeBody},
    references.body state body ↔ ∀ name ∈ body.names, state.knows name = true
  | .fields _ => references_list
  | .alias _ => Iff.rfl

theorem references_holds (context : BuildContext) : references.Holds .any context where
  covers := TypeNames.any_covers _
  keeps keeps closed := closed.keeps keeps
  takeOmitted closed := ⟨closed.nodup, closed.named, closed.types, closed.mentions⟩
  enclose typeName closed := closed.enclose typeName
  register _ closed list := closed.register _ (references_list.mp list)
  mention _ _ known closed := closed.mention known
  elementGrows grows known name mentioned := grows.knows (known name mentioned)
  fieldGrows grows known name mentioned := grows.knows (known name mentioned)
  elementPrimitive _ _ _ := nofun
  elementNamed known name mentioned := by
    rw [List.mem_singleton.mp mentioned]
    exact known
  elementArray known := known
  elementMap known := known
  fieldPrimitive _ _ _ := nofun
  fieldMap known := known
  fieldWrapped known := known

end BuildLaw
end RestModel
