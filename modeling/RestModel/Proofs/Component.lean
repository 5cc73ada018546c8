import RestModel.Model.Build
import RestModel.Proofs.Keyed

/-! # Components of a description -/

namespace RestModel

/-- A component is made from the description that resolves it by its name. -/
def Component.IsOf (resolve? : String → Option Schema) (component : Component) : Prop :=
  Component.ofName? resolve? component.name = some component

theorem Component.ofName?_eq_some_iff {resolve? : String → Option Schema} {name : String}
    {component : Component} : Component.ofName? resolve? name = some component ↔
      ∃ schema, resolve? name = some schema ∧ schema.shape.isRecord = true ∧
        component = ⟨name, Naming.camelCase name, Schema.componentPath ++ name, schema⟩ := by
  rw [Component.ofName?, Option.bind_eq_some_iff]
  constructor
  · rintro ⟨schema, resolved, made⟩
    split at made
    · next isRecord => exact ⟨schema, resolved, isRecord, (Option.some.inj made).symm⟩
    · contradiction
  · rintro ⟨schema, resolved, isRecord, rfl⟩
    exact ⟨schema, resolved, if_pos isRecord⟩

theorem Component.isOf_of_ofName? {resolve? : String → Option Schema} {name : String}
    {component : Component} (found : Component.ofName? resolve? name = some component) :
    component.IsOf resolve? := by
  rcases Component.ofName?_eq_some_iff.mp found with ⟨schema, _, _, rfl⟩
  exact found

/-- A description of nothing but components. -/
def Document.ofComponents (components : List (String × Json)) : Document where
  title := ""
  paths := []
  components := components
  sharedRequests := []
  sharedResponses := []
  listWrapperKeys := []

/-- What is resolved as a component is declared as one. -/
theorem Document.mem_keys_of_component? {document : Document} {name : String} {schema : Schema}
    (resolved : document.component? name = some schema) :
    name ∈ Keyed.keys document.components := by
  unfold Document.component? at resolved
  split at resolved
  · next stored => exact Keyed.contains_eq_true_iff.mp stored
  · contradiction

theorem ComponentMention.mem_record {mentions : List ComponentMention}
    {mention other : ComponentMention} (member : other ∈ record mentions mention) :
    other ∈ mentions ∨ other = mention := by
  unfold record at member
  split at member
  · exact .inl member
  · exact (List.mem_append.mp member).imp id List.mem_singleton.mp

theorem ComponentMatch.isOf_of_ofSchema? {resolve? : String → Option Schema} {schema : Schema}
    {found : ComponentMatch} (isFound : ComponentMatch.ofSchema? resolve? schema = some found) :
    found.component.IsOf resolve? := by
  unfold ComponentMatch.ofSchema? at isFound
  split at isFound
  · contradiction
  · split at isFound
    · contradiction
    · split at isFound
      · contradiction
      · rcases Option.map_eq_some_iff.mp isFound with ⟨component, named, rfl⟩
        exact Component.isOf_of_ofName? named

theorem BuildContext.ofSchema?_of_sharedComponent? {context : BuildContext} {schema : Schema}
    {found : ComponentMatch} (isFound : context.sharedComponent? schema = some found) :
    ComponentMatch.ofSchema? context.resolve? schema = some found := by
  unfold BuildContext.sharedComponent? at isFound
  split at isFound
  · exact isFound
  · contradiction

theorem BuildContext.isOf_of_sharedComponent? {context : BuildContext} {schema : Schema}
    {found : ComponentMatch} (isFound : context.sharedComponent? schema = some found) :
    found.component.IsOf context.resolve? :=
  ComponentMatch.isOf_of_ofSchema? (ofSchema?_of_sharedComponent? isFound)

/-- A component is found at a reference to it, or at an array of references. -/
theorem ComponentMatch.cases_of_ofSchema? {resolve? : String → Option Schema} {schema : Schema}
    {found : ComponentMatch} (isFound : ComponentMatch.ofSchema? resolve? schema = some found) :
    found.array = false ∧ schema.recursive = false ∨
      found.array = true ∧ schema.reference = none ∧
        ∃ item, schema.items = some item ∧ item.recursive = false := by
  unfold ComponentMatch.ofSchema? at isFound
  split at isFound
  · contradiction
  · next direct array isDirect =>
      split at isFound
      · contradiction
      · next notRecursive =>
          have sameArray : found.array = array := by
            split at isFound
            · contradiction
            · rcases Option.map_eq_some_iff.mp isFound with ⟨component, _, rfl⟩
              rfl
          rw [sameArray]
          unfold direct? at isDirect
          split at isDirect
          · cases isDirect
            exact .inl ⟨rfl, by simpa using notRecursive⟩
          · next item isReference isItem =>
              split at isDirect
              · cases isDirect
                exact .inr ⟨rfl, isReference, _, isItem, by simpa using notRecursive⟩
              · contradiction
          · contradiction

end RestModel
