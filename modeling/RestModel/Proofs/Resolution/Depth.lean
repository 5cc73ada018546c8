import RestModel.Proofs.Resolution.Resolver

/-! # The depth of what is resolved

Each component on the way down adds its own depth and is entered at most once, so
no schema is deeper than all components and the written value together. -/

namespace RestModel.Schema

variable {bound : Nat}

private theorem depthOfProperties_le_iff {properties : List (String × Schema)} :
    depthOfProperties properties ≤ bound ↔ ∀ entry ∈ properties, entry.2.depth ≤ bound := by
  induction properties with
  | nil => simp [depthOfProperties]
  | cons entry rest induction =>
      rw [depthOfProperties, Nat.max_le, List.forall_mem_cons, induction]

private theorem depthOfOption_le_iff {part : Option Schema} :
    depthOfOption part ≤ bound ↔ ∀ schema ∈ part, schema.depth ≤ bound := by
  cases part <;> simp [depthOfOption]

/-- The depth of a schema is that of its parts, whatever else it says. -/
theorem depth_eq (schema : Schema) :
    schema.depth = max (depthOfProperties schema.properties)
      (max (depthOfOption schema.items) (depthOfOption schema.additional)) + 1 := by
  rcases schema with ⟨_, _, _, _, _, _, _, _, _, _⟩
  rfl

private theorem depth_describe (schema : Schema) (description : Option String) :
    (schema.describe description).depth = schema.depth := by
  rw [depth_eq, depth_eq schema, describe]

private theorem depth_le_succ_iff {schema : Schema} :
    schema.depth ≤ bound + 1 ↔ (∀ entry ∈ schema.properties, entry.2.depth ≤ bound) ∧
      (∀ item ∈ schema.items, item.depth ≤ bound) ∧
      ∀ value ∈ schema.additional, value.depth ≤ bound := by
  rw [depth_eq, Nat.succ_le_succ_iff, Nat.max_le, Nat.max_le, depthOfProperties_le_iff,
    depthOfOption_le_iff, depthOfOption_le_iff]

private theorem depth_free : free.depth = 1 := rfl

private theorem depth_placeholder (component : String) : (placeholder component).depth = 1 := rfl

private theorem depth_merge_le {schema other : Schema} {keepRequired : Bool}
    (shallow : schema.depth ≤ bound + 1) (otherShallow : other.depth ≤ bound + 1) :
    (schema.merge other keepRequired).depth ≤ bound + 1 := by
  rcases depth_le_succ_iff.mp shallow with ⟨properties, items, additional⟩
  rcases depth_le_succ_iff.mp otherShallow with
    ⟨otherProperties, otherItems, otherAdditional⟩
  refine depth_le_succ_iff.mpr ⟨fun entry member => ?_, fun item member => ?_,
    fun value member => ?_⟩
  · rcases Keyed.mem_foldl_insertNew member with member | member
    · exact otherProperties entry member
    · exact properties entry member
  · rcases mem_or_mem_of_mem_orElse member with member | member
    · exact items item member
    · exact otherItems item member
  · rcases mem_or_mem_of_mem_orElse member with member | member
    · exact additional value member
    · exact otherAdditional value member

/-- Merging any number of schemas makes none that is deeper than all of them. -/
theorem depth_foldl_merge_le {schema : Schema} {others : List Schema} {keepRequired : Bool}
    (shallow : schema.depth ≤ bound + 1)
    (othersShallow : ∀ other ∈ others, other.depth ≤ bound + 1) :
    (others.foldl (fun schema other => schema.merge other keepRequired) schema).depth ≤
      bound + 1 := by
  induction others generalizing schema with
  | nil => exact shallow
  | cons other rest induction =>
      have merged : (schema.merge other keepRequired).depth ≤ bound + 1 :=
        depth_merge_le shallow (othersShallow other List.mem_cons_self)
      exact induction merged fun later member =>
        othersShallow later (List.mem_cons_of_mem _ member)

private theorem depth_addVariants_le {schema : Schema} {variants : List (Option Schema)}
    (shallow : schema.depth ≤ bound + 1)
    (variantsShallow : ∀ variant, some variant ∈ variants → variant.depth ≤ bound + 1) :
    (schema.addVariants variants).depth ≤ bound + 1 := by
  have present {variant : Schema} (member : variant ∈ variants.filterMap id) :
      variant.depth ≤ bound + 1 :=
    variantsShallow variant (by simpa using member)
  have own (nullable : Bool) : { schema with nullable := nullable }.depth ≤ bound + 1 := by
    rwa [depth_eq, ← depth_eq schema]
  unfold addVariants
  dsimp only
  split
  · exact own _
  · next only alternatives =>
      exact depth_merge_le (own _) (present (alternatives ▸ List.mem_singleton_self only))
  · split
    · exact depth_foldl_merge_le (own _) fun _ member => present member
    · exact own _

private theorem depth_assemble_le {value : Json} {parts : Parts}
    (properties : ∀ entry ∈ parts.properties, entry.2.depth ≤ bound)
    (items : ∀ item ∈ parts.items, item.depth ≤ bound)
    (additional : ∀ other ∈ parts.additional, other.depth ≤ bound)
    (allOf : ∀ part ∈ parts.allOf, part.depth ≤ bound)
    (variants : ∀ variant, some variant ∈ parts.variants → variant.depth ≤ bound) :
    (assemble value parts).depth ≤ bound + 1 := by
  unfold assemble
  refine depth_addVariants_le ?_ fun variant member =>
    Nat.le_succ_of_le (variants variant member)
  refine depth_foldl_merge_le ?_ fun part member => Nat.le_succ_of_le (allOf part member)
  exact depth_le_succ_iff.mpr ⟨properties, items, additional⟩

/-- Where references are resolved to schemas of a bounded depth, a written schema
adds at most its own depth. -/
theorem depth_resolveWith_le {expand : String → Schema} (positive : 1 ≤ bound)
    (expansions : ∀ path, (expand path).depth ≤ bound) (value : Json) :
    (resolveWith expand value).depth ≤ value.depth + bound := by
  have within {inner : Json} (inside : inner.IsInside value) :
      (resolveWith expand inner).depth ≤ value.depth - 1 + bound := by
    have smaller := inside.depth_lt
    have := depth_resolveWith_le positive expansions inner
    omega
  rcases isObject : value.members? with _ | members
  · rw [resolveWith_of_not_object expand isObject]
    exact Nat.le_add_left_of_le positive
  rcases written : value.textAt? "$ref" with _ | path
  · have nested : 0 < value.depth := by
      cases value with
      | object members => exact Nat.succ_pos _
      | _ => contradiction
    have shape : value.depth + bound = value.depth - 1 + bound + 1 := by omega
    rw [resolveWith_of_assembled expand (by simp [isObject]) written, shape]
    apply depth_assemble_le
    · intro entry member
      rcases List.mem_map.mp member with ⟨source, listed, rfl⟩
      exact within (Json.isInside_of_mem_membersAt (List.mem_map_of_mem listed))
    · intro item member
      rcases Option.map_eq_some_iff.mp member with ⟨source, listed, rfl⟩
      exact within (Json.isInside_of_get? listed)
    · intro other member
      rcases Option.map_eq_some_iff.mp member with ⟨source, listed, rfl⟩
      exact within (Json.isInside_of_additionalAt? listed)
    · intro part member
      rcases List.mem_map.mp member with ⟨source, listed, rfl⟩
      exact within (Json.isInside_of_mem_itemsAt listed)
    · intro variant member
      rcases List.mem_map.mp member with ⟨source, listed, resolved⟩
      have schema : resolveWith expand source = variant := by
        unfold resolveVariant at resolved
        split at resolved
        · contradiction
        · exact Option.some.inj resolved
      exact schema ▸ within (Json.isInside_of_mem_variantsAt listed)
  · rw [resolveWith_of_reference expand written]
    rw [depth_describe]
    exact Nat.le_add_left_of_le (expansions path)
termination_by value.depth

variable {components : List (String × Json)}

/-- Every component that is entered adds at most the depth of the deepest one. -/
theorem depth_expand_le (room : Nat) (stack : List String) (path : String) :
    (expand components room stack path).depth ≤
      room * Json.depthOfMembers components + 1 := by
  rcases named : Text.after? componentPath path with _ | name
  · simp [expand, named, depth_free]
  by_cases entered : name ∈ stack
  · simp [expand, named, entered, depth_placeholder]
  rcases stored : Keyed.get? name components with _ | component
  · simp [expand, named, entered, stored, depth_free]
  · cases room with
    | zero => simp [expand, named, entered, stored, depth_free]
    | succ room =>
        have inner := depth_resolveWith_le (Nat.le_add_left 1 _)
          (depth_expand_le room (name :: stack)) component
        have shallow : component.depth ≤ Json.depthOfMembers components :=
          Json.depth_le_depthOfMembers (Keyed.mem_of_get? stored)
        have resolved : (expand components (room + 1) stack path).depth =
            (resolveWith (expand components room (name :: stack)) component).depth := by
          simp [expand, named, entered, stored, depth_eq]
        rw [resolved, Nat.succ_mul]
        omega

private theorem depth_resolve_le (value : Json) :
    (resolve components value).depth ≤ (1 + components.length) *
      (max value.depth (Json.depthOfMembers components) + 1) := by
  have deepest := Nat.le_max_right value.depth (Json.depthOfMembers components)
  have entered := Nat.mul_le_mul_left components.length deepest
  have expansions (path : String) : (expand components components.length [] path).depth ≤
      components.length * Json.depthOfMembers components + 1 :=
    depth_expand_le components.length [] path
  calc (resolve components value).depth
      ≤ value.depth + (components.length * Json.depthOfMembers components + 1) :=
        depth_resolveWith_le (Nat.le_add_left 1 _) expansions value
    _ ≤ (1 + components.length) *
          (max value.depth (Json.depthOfMembers components) + 1) := by
        rw [Nat.add_mul, Nat.one_mul, Nat.mul_succ]
        omega

/-- Resolving ends, whatever the components refer to: from every stack there is
exactly one resolved schema, the stack is restored after resolving any value on the
way, and a schema is at most as deep as all components and the value together. -/
theorem resolution_terminates (components : List (String × Json)) :
    (∀ stack value schema after, Resolves components stack value schema after ↔
      schema = resolveWithin components stack value ∧ after = stack) ∧
    ∀ value, (resolve components value).depth ≤ (1 + components.length) *
      (max value.depth (Json.depthOfMembers components) + 1) :=
  ⟨fun _ _ _ _ => resolves_iff, depth_resolve_le⟩

end RestModel.Schema
