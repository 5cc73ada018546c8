import RestModel.Proofs.Resolution.Wrapping
import RestModel.Proofs.Text

/-! # The references that are left in resolved schemas

Of a reference, a resolved schema keeps the name of the component. Merging passes on what
is within a schema, but never such a name, so the names and the placeholders that are left
anywhere come from references alone. A component is only on the stack because it is
declared, and that is why every name that is left is a declared one. -/

namespace RestModel.Schema

/-- The schemas that a schema is directly made of. -/
def children (schema : Schema) : List Schema :=
  Keyed.values schema.properties ++ schema.items.toList ++ schema.additional.toList

/-- A schema stands at the root of another one, or anywhere below it. -/
inductive IsNode (node : Schema) : Schema → Prop where
  | root : IsNode node node
  | inside {child root : Schema} (isChild : child ∈ root.children) (isNode : IsNode node child) :
      IsNode node root

/-- A schema refers to nothing but components with some names, and it is the placeholder of
one of them, described or not, if it stands for a component within itself. -/
structure Refers (names : List String) (schema : Schema) : Prop where
  reference : ∀ name ∈ schema.reference, name ∈ names
  placeholder : schema.recursive = true → ∃ name ∈ names,
    schema = { placeholder name with description := schema.description }

/-- So does every schema within a schema. -/
def RefersWithin (names : List String) (schema : Schema) : Prop :=
  ∀ node, IsNode node schema → node.Refers names

variable {names : List String}

private theorem refersWithin_iff {schema : Schema} : schema.RefersWithin names ↔
    schema.Refers names ∧ ∀ child ∈ schema.children, child.RefersWithin names := by
  constructor
  · intro refers
    exact ⟨refers schema .root, fun child isChild node isNode =>
      refers node (.inside isChild isNode)⟩
  · rintro ⟨root, below⟩ node isNode
    cases isNode with
    | root => exact root
    | inside isChild isNode => exact below _ isChild node isNode

/-! ## What merging passes on -/

theorem mem_children_iff {schema child : Schema} : child ∈ schema.children ↔
    (∃ entry ∈ schema.properties, entry.2 = child) ∨ child ∈ schema.items ∨
      child ∈ schema.additional := by
  simp [children, Keyed.values]

private theorem children_merge_subset (schema other : Schema) (keepRequired : Bool) :
    (schema.merge other keepRequired).children ⊆ schema.children ++ other.children := by
  intro child isChild
  rw [List.mem_append, mem_children_iff, mem_children_iff]
  rcases mem_children_iff.mp isChild with ⟨entry, member, rfl⟩ | isItem | isValue
  · rcases Keyed.mem_foldl_insertNew member with member | member
    · exact .inr (.inl ⟨entry, member, rfl⟩)
    · exact .inl (.inl ⟨entry, member, rfl⟩)
  · rcases mem_or_mem_of_mem_orElse isItem with isItem | isItem
    · exact .inl (.inr (.inl isItem))
    · exact .inr (.inr (.inl isItem))
  · rcases mem_or_mem_of_mem_orElse isValue with isValue | isValue
    · exact .inl (.inr (.inr isValue))
    · exact .inr (.inr (.inr isValue))

/-- What is within merged schemas was within one of them. -/
theorem mem_children_foldl_merge {schema child : Schema} {others : List Schema}
    {keepRequired : Bool} (isChild : child ∈
      (others.foldl (fun schema other => schema.merge other keepRequired) schema).children) :
    child ∈ schema.children ∨ ∃ other ∈ others, child ∈ other.children := by
  induction others generalizing schema with
  | nil => exact .inl isChild
  | cons other rest induction =>
      rcases induction isChild with merged | ⟨later, member, isChild⟩
      · rcases List.mem_append.mp (children_merge_subset schema other keepRequired merged) with
          isChild | isChild
        · exact .inl isChild
        · exact .inr ⟨other, List.mem_cons_self, isChild⟩
      · exact .inr ⟨later, List.mem_cons_of_mem _ member, isChild⟩

private theorem mem_children_addVariants {schema child : Schema} {variants : List (Option Schema)}
    (isChild : child ∈ (schema.addVariants variants).children) :
    child ∈ schema.children ∨ ∃ variant, some variant ∈ variants ∧ child ∈ variant.children := by
  have present {others : List Schema} (listed : variants.filterMap id = others)
      (among : ∃ other ∈ others, child ∈ other.children) :
      ∃ variant, some variant ∈ variants ∧ child ∈ variant.children := by
    rcases among with ⟨other, member, isChild⟩
    rw [← listed] at member
    exact ⟨other, by simpa using member, isChild⟩
  unfold addVariants at isChild
  dsimp only at isChild
  split at isChild
  · exact .inl isChild
  · next only alternatives =>
      rcases List.mem_append.mp (children_merge_subset _ only true isChild) with isChild | isChild
      · exact .inl isChild
      · exact .inr (present alternatives ⟨only, List.mem_singleton_self only, isChild⟩)
  · split at isChild
    · exact (mem_children_foldl_merge isChild).imp id (present rfl)
    · exact .inl isChild

/-- What is within an assembled schema is one of the parts that hold schemas, or was within
one of the schemas that are merged. -/
theorem mem_children_assemble {value : Json} {parts : Parts} {child : Schema}
    (isChild : child ∈ (assemble value parts).children) :
    (∃ entry ∈ parts.properties, entry.2 = child) ∨ child ∈ parts.items ∨
      child ∈ parts.additional ∨ (∃ part ∈ parts.allOf, child ∈ part.children) ∨
      ∃ variant, some variant ∈ parts.variants ∧ child ∈ variant.children := by
  unfold assemble at isChild
  rcases mem_children_addVariants isChild with merged | ofVariant
  · rcases mem_children_foldl_merge merged with own | ofPart
    · rcases mem_children_iff.mp own with isProperty | isItem | isValue
      · exact .inl isProperty
      · exact .inr (.inl isItem)
      · exact .inr (.inr (.inl isValue))
    · exact .inr (.inr (.inr (.inl ofPart)))
  · exact .inr (.inr (.inr (.inr ofVariant)))

/-! ## What resolving keeps of references -/

theorem refersWithin_free : free.RefersWithin names :=
  refersWithin_iff.mpr ⟨⟨nofun, nofun⟩, by simp [children, free, Keyed.values]⟩

private theorem refersWithin_placeholder {name : String} (declared : name ∈ names) :
    (placeholder name).RefersWithin names := by
  refine refersWithin_iff.mpr ⟨⟨?_, fun _ => ⟨name, declared, rfl⟩⟩, ?_⟩
  · rintro _ ⟨⟩
    exact declared
  · simp [children, placeholder, free, Keyed.values]

theorem RefersWithin.describe {schema : Schema} (refers : schema.RefersWithin names)
    (description : Option String) : (schema.describe description).RefersWithin names := by
  rcases refersWithin_iff.mp refers with ⟨root, below⟩
  refine refersWithin_iff.mpr ⟨⟨root.reference, ?_⟩, below⟩
  intro isRecursive
  rcases root.placeholder isRecursive with ⟨name, declared, isPlaceholder⟩
  refine ⟨name, declared, ?_⟩
  rw [isPlaceholder]
  rfl

/-- The outermost name of a component that is an alias of another one is kept. -/
theorem RefersWithin.rename {schema : Schema} (refers : schema.RefersWithin names) {name : String}
    (declared : name ∈ names) : { schema with reference := some name }.RefersWithin names := by
  rcases refersWithin_iff.mp refers with ⟨root, below⟩
  refine refersWithin_iff.mpr ⟨⟨?_, ?_⟩, below⟩
  · rintro _ ⟨⟩
    exact declared
  · intro isRecursive
    rcases root.placeholder isRecursive with ⟨_, _, isPlaceholder⟩
    refine ⟨name, declared, ?_⟩
    rw [isPlaceholder]
    rfl

private theorem refersWithin_assemble {value : Json} {parts : Parts}
    (properties : ∀ entry ∈ parts.properties, entry.2.RefersWithin names)
    (items : ∀ item ∈ parts.items, item.RefersWithin names)
    (additional : ∀ other ∈ parts.additional, other.RefersWithin names)
    (allOf : ∀ part ∈ parts.allOf, part.RefersWithin names)
    (variants : ∀ variant, some variant ∈ parts.variants → variant.RefersWithin names) :
    (assemble value parts).RefersWithin names := by
  refine refersWithin_iff.mpr ⟨⟨?_, ?_⟩, fun child isChild => ?_⟩
  · rw [reference_assemble]
    nofun
  · rw [recursive_assemble]
    nofun
  · rcases mem_children_assemble isChild with
      ⟨entry, member, rfl⟩ | isItem | isValue | ⟨part, member, isChild⟩ | ⟨variant, member, isChild⟩
    · exact properties entry member
    · exact items child isItem
    · exact additional child isValue
    · exact (refersWithin_iff.mp (allOf part member)).2 child isChild
    · exact (refersWithin_iff.mp (variants variant member)).2 child isChild

private theorem refersWithin_resolveWith {expand : String → Schema}
    (expansions : ∀ path, (expand path).RefersWithin names) (value : Json) :
    (resolveWith expand value).RefersWithin names := by
  have within {inner : Json} (inside : inner.IsInside value) :
      (resolveWith expand inner).RefersWithin names :=
    have smaller := inside.depth_lt
    refersWithin_resolveWith expansions inner
  rcases isObject : value.members? with _ | members
  · rw [resolveWith_of_not_object expand isObject]
    exact refersWithin_free
  rcases written : value.textAt? "$ref" with _ | path
  · rw [resolveWith_of_assembled expand (by simp [isObject]) written]
    apply refersWithin_assemble
    · intro entry member
      rcases List.mem_map.mp member with ⟨source, listed, rfl⟩
      exact within (Json.isInside_of_mem_membersAt (List.mem_map_of_mem listed))
    · intro item member
      rcases Option.map_eq_some_iff.mp member with ⟨source, listed, rfl⟩
      exact within (Json.isInside_of_get? listed)
    · intro other member
      rcases Option.map_eq_some_iff.mp member with ⟨source, listed, rfl⟩
      exact within (Json.isInside_of_additionalAt? listed)
    · intro part member
      rcases List.mem_map.mp member with ⟨source, listed, rfl⟩
      exact within (Json.isInside_of_mem_itemsAt listed)
    · intro variant member
      rcases List.mem_map.mp member with ⟨source, listed, resolved⟩
      unfold resolveVariant at resolved
      split at resolved
      · contradiction
      · exact Option.some.inj resolved ▸ within (Json.isInside_of_mem_variantsAt listed)
  · rw [resolveWith_of_reference expand written]
    exact (expansions path).describe _
termination_by value.depth

variable {components : List (String × Json)}

/-- All components on a stack are declared, so a placeholder is of a declared one. -/
theorem refersWithin_expand (room : Nat) {stack : List String}
    (declared : stack ⊆ Keyed.keys components) (path : String) :
    (expand components room stack path).RefersWithin (Keyed.keys components) := by
  rcases named : Text.after? componentPath path with _ | name
  · simpa [expand, named] using refersWithin_free
  by_cases entered : name ∈ stack
  · simpa [expand, named, entered] using refersWithin_placeholder (declared entered)
  rcases stored : Keyed.get? name components with _ | component
  · simpa [expand, named, entered, stored] using refersWithin_free
  · cases room with
    | zero => simpa [expand, named, entered, stored] using refersWithin_free
    | succ room =>
        have isKey := mem_keys_of_get? stored
        have inner : name :: stack ⊆ Keyed.keys components := List.cons_subset.mpr ⟨isKey, declared⟩
        have refers := refersWithin_resolveWith (refersWithin_expand room inner) component
        simpa [expand, named, entered, stored] using refers.rename isKey

private theorem refersWithin_resolve (components : List (String × Json)) (value : Json) :
    (resolve components value).RefersWithin (Keyed.keys components) :=
  refersWithin_resolveWith (refersWithin_expand _ (List.nil_subset _)) value

/-- At the root, nothing is being resolved yet: a reference to a declared component leaves
its name, and any other one leaves nothing. -/
theorem reference_expand_iff {path name : String} :
    (expand components components.length [] path).reference = some name ↔
      path = componentPath ++ name ∧ name ∈ Keyed.keys components := by
  rw [← Text.after?_eq_some_iff]
  rcases named : Text.after? componentPath path with _ | found
  · simp [expand, named, free]
  rcases stored : Keyed.get? found components with _ | component
  · have unknown : found ∉ Keyed.keys components := by
      rw [← Keyed.contains_eq_true_iff, Keyed.contains, stored]
      exact Bool.false_ne_true
    have absent : found = name → name ∉ Keyed.keys components := fun same => same ▸ unknown
    simpa [expand, named, stored, free] using absent
  · have isKey := mem_keys_of_get? stored
    obtain ⟨room, enough⟩ : ∃ room, components.length = room + 1 :=
      Nat.exists_eq_succ_of_ne_zero fun empty => by
        rw [List.length_eq_zero_iff.mp empty] at stored
        contradiction
    have kept : (expand components components.length [] path).reference = some found := by
      simp [expand, enough, named, stored]
    rw [kept, Option.some_inj]
    exact ⟨fun same => ⟨same, same ▸ isKey⟩, fun known => known.1⟩

private theorem textAt?_eq_some_iff {key text : String} {value : Json} :
    value.textAt? key = some text ↔
      ∃ members, value = .object members ∧ Keyed.get? key members = some (.string text) := by
  have isText {found : Json} : found.text? = some text ↔ found = .string text := by
    cases found <;> simp [Json.text?]
  cases value with
  | object members => simp [Json.textAt?, Json.get?, Option.bind_eq_some_iff, isText]
  | _ => simp [Json.textAt?, Json.get?]

private theorem reference_resolve_iff {value : Json} {name : String} :
    (resolve components value).reference = some name ↔
      value.textAt? "$ref" = some (componentPath ++ name) ∧ name ∈ Keyed.keys components := by
  rcases isObject : value.members? with _ | members
  · have unwritten : value.textAt? "$ref" = none := by
      cases value with
      | object members => contradiction
      | _ => rfl
    rw [resolve, resolveWithin, resolveWith_of_not_object _ isObject, unwritten]
    simp [free]
  rcases written : value.textAt? "$ref" with _ | path
  · rw [resolve, resolveWithin, resolveWith_of_assembled _ (by simp [isObject]) written,
      reference_assemble]
    simp
  · rw [resolve, resolveWithin, resolveWith_of_reference _ written, Option.some_inj]
    exact reference_expand_iff

/-- Every name that is left anywhere in a resolved schema is that of a declared component,
and whatever stands for a component within itself is the placeholder of a declared one. The
root keeps a name exactly if it is written as a reference to the declared component of that
name. -/
theorem resolve_wellFormed (components : List (String × Json)) (value : Json) :
    (∀ node, IsNode node (resolve components value) →
      (∀ name, node.reference = some name → name ∈ Keyed.keys components) ∧
      (node.recursive = true → ∃ name ∈ Keyed.keys components,
        node = { placeholder name with description := node.description })) ∧
    ∀ name, (resolve components value).reference = some name ↔
      (∃ members, value = .object members ∧ Keyed.get? "$ref" members =
        some (.string ("#/components/schemas/" ++ name))) ∧ name ∈ Keyed.keys components := by
  constructor
  · intro node isNode
    have refers := refersWithin_resolve components value node isNode
    exact ⟨refers.reference, refers.placeholder⟩
  · intro name
    rw [← textAt?_eq_some_iff]
    exact reference_resolve_iff

end RestModel.Schema
