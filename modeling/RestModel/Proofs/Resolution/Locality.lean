import RestModel.Proofs.Resolution.Resolver
import RestModel.Proofs.Text

/-! # Resolving sees only what references lead to

A component is asked for only where a reference to it stands, in the value that is resolved or in
a component that references lead to. So descriptions that agree on these components resolve the
value alike, whatever else they declare. -/

namespace RestModel

namespace Json

mutual
/-- The texts under `$ref` anywhere in a value. -/
def references : Json → List String
  | .array items => referencesOfItems items
  | .object members =>
      (textAt? "$ref" (.object members)).toList ++ referencesOfMembers members
  | _ => []

def referencesOfItems : List Json → List String
  | [] => []
  | item :: rest => item.references ++ referencesOfItems rest

def referencesOfMembers : List (String × Json) → List String
  | [] => []
  | (_, value) :: rest => value.references ++ referencesOfMembers rest
end

variable {value inner : Json}

private theorem references_subset_referencesOfItems {items : List Json} (member : inner ∈ items) :
    inner.references ⊆ referencesOfItems items := by
  induction items with
  | nil => contradiction
  | cons first rest induction =>
      rw [referencesOfItems]
      rcases List.mem_cons.mp member with rfl | member
      · exact List.subset_append_left _ _
      · exact List.subset_append_of_subset_right _ (induction member)

private theorem references_subset_referencesOfMembers {entry : String × Json}
    {members : List (String × Json)} (member : entry ∈ members) :
    entry.2.references ⊆ referencesOfMembers members := by
  induction members with
  | nil => contradiction
  | cons first rest induction =>
      rw [referencesOfMembers]
      rcases List.mem_cons.mp member with rfl | member
      · exact List.subset_append_left _ _
      · exact List.subset_append_of_subset_right _ (induction member)

private theorem IsInside.references_subset (inside : inner.IsInside value) :
    inner.references ⊆ value.references := by
  induction inside with
  | @item value item items isArray member =>
      cases value with
      | array written =>
          cases isArray
          exact references_subset_referencesOfItems member
      | _ => contradiction
  | @member value entry members isObject member =>
      cases value with
      | object written =>
          cases isObject
          exact List.subset_append_of_subset_right _ (references_subset_referencesOfMembers member)
      | _ => contradiction
  | within _ _ inner outer => exact List.Subset.trans inner outer

private theorem mem_references_of_textAt? {path : String}
    (written : value.textAt? "$ref" = some path) :
    path ∈ value.references := by
  cases value with
  | object members => simp [references, written]
  | _ => simp [textAt?, get?] at written

end Json

namespace Schema

/-- The components that a written schema refers to anywhere. -/
def referredNames (value : Json) : List String :=
  value.references.filterMap (Text.after? componentPath)

/-- References lead from a value to a component, through any number of other components. -/
inductive Reaches (components : List (String × Json)) (value : Json) : String → Prop where
  | direct {name : String} (refers : name ∈ referredNames value) : Reaches components value name
  | through {name next : String} {component : Json} (reaches : Reaches components value name)
      (stored : Keyed.get? name components = some component)
      (refers : next ∈ referredNames component) : Reaches components value next

/-- Of two resolutions of references, a written schema only tells those apart that differ on a
reference of its own. -/
theorem resolveWith_congr {expand other : String → Schema} {value : Json}
    (same : ∀ path ∈ value.references, expand path = other path) :
    resolveWith expand value = resolveWith other value := by
  have within {inner : Json} (inside : inner.IsInside value) :
      resolveWith expand inner = resolveWith other inner :=
    have smaller := inside.depth_lt
    resolveWith_congr fun path refers => same path (inside.references_subset refers)
  rcases isObject : value.members? with _ | members
  · rw [resolveWith_of_not_object _ isObject, resolveWith_of_not_object _ isObject]
  rcases written : value.textAt? "$ref" with _ | path
  · have properties : (value.membersAt "properties").map
          (fun entry => (entry.1, resolveWith expand entry.2)) =
        (value.membersAt "properties").map fun entry => (entry.1, resolveWith other entry.2) :=
      List.map_congr_left fun entry listed => by
        rw [within (Json.isInside_of_mem_membersAt (List.mem_map_of_mem listed))]
    have items : (value.get? "items").map (resolveWith expand) =
        (value.get? "items").map (resolveWith other) :=
      Option.map_congr fun item listed => within (Json.isInside_of_get? listed)
    have additional : value.additionalAt?.map (resolveWith expand) =
        value.additionalAt?.map (resolveWith other) :=
      Option.map_congr fun others listed => within (Json.isInside_of_additionalAt? listed)
    have parts : (value.itemsAt "allOf").map (resolveWith expand) =
        (value.itemsAt "allOf").map (resolveWith other) :=
      List.map_congr_left fun part listed => within (Json.isInside_of_mem_itemsAt listed)
    have variants : value.variantsAt.map (resolveVariant expand) =
        value.variantsAt.map (resolveVariant other) :=
      List.map_congr_left fun variant listed => by
        rw [resolveVariant, resolveVariant, within (Json.isInside_of_mem_variantsAt listed)]
    rw [resolveWith_of_assembled _ (by simp [isObject]) written,
      resolveWith_of_assembled _ (by simp [isObject]) written, properties, items, additional,
      parts, variants]
  · rw [resolveWith_of_reference _ written, resolveWith_of_reference _ written,
      same path (Json.mem_references_of_textAt? written)]
termination_by value.depth

variable {components others : List (String × Json)}

/-- Two maps of components agree on some names, and the components of these names refer to no
others. -/
structure AgreeOn (known : String → Prop) (components others : List (String × Json)) : Prop where
  same : ∀ name, known name → Keyed.get? name components = Keyed.get? name others
  closed : ∀ name component, known name → Keyed.get? name components = some component →
    ∀ next ∈ referredNames component, known next

namespace AgreeOn

variable {known : String → Prop}

/-- The room that is left does not matter, as long as there is enough on either side. -/
theorem expand_eq (agree : AgreeOn known components others) {stack : List String}
    {room otherRoom : Nat} (enough : outside (Keyed.keys components) stack ≤ room)
    (otherEnough : outside (Keyed.keys others) stack ≤ otherRoom) {path : String}
    (isKnown : ∀ name, Text.after? componentPath path = some name → known name) :
    expand components room stack path = expand others otherRoom stack path := by
  rcases named : Text.after? componentPath path with _ | name
  · simp [expand, named]
  by_cases entered : name ∈ stack
  · simp [expand, named, entered]
  have same := agree.same name (isKnown name named)
  rcases stored : Keyed.get? name components with _ | component
  · have otherStored := same ▸ stored
    simp [expand, named, entered, stored, otherStored]
  · have otherStored := same ▸ stored
    have fewer := outside_cons_lt (mem_keys_of_get? stored) entered
    have otherFewer := outside_cons_lt (mem_keys_of_get? otherStored) entered
    -- There is room for one more component on either side, as fewer of them are left to enter.
    obtain ⟨rest, rfl⟩ : ∃ rest, room = rest + 1 := ⟨room - 1, by omega⟩
    obtain ⟨otherRest, rfl⟩ : ∃ rest, otherRoom = rest + 1 := ⟨otherRoom - 1, by omega⟩
    have inner : resolveWith (expand components rest (name :: stack)) component =
        resolveWith (expand others otherRest (name :: stack)) component :=
      resolveWith_congr fun path refers =>
        agree.expand_eq (by omega) (by omega) fun next isNext =>
          agree.closed name component (isKnown name named) stored next
            (List.mem_filterMap.mpr ⟨path, refers, isNext⟩)
    simp [expand, named, entered, stored, otherStored, inner]
termination_by room

private theorem resolveWithin_eq (agree : AgreeOn known components others) {value : Json}
    (stack : List String) (isKnown : ∀ name ∈ referredNames value, known name) :
    resolveWithin components stack value = resolveWithin others stack value :=
  resolveWith_congr fun path refers =>
    agree.expand_eq (outside_keys_le components stack) (outside_keys_le others stack)
      fun name named => isKnown name (List.mem_filterMap.mpr ⟨path, refers, named⟩)

end AgreeOn

private theorem agreeOn_reaches {value : Json} (same : ∀ name, Reaches components value name →
      Keyed.get? name components = Keyed.get? name others) :
    AgreeOn (Reaches components value) components others where
  same := same
  closed _ _ reaches stored _ refers := .through reaches stored refers

/-- A resolved schema depends on nothing but the components that references lead to from the
value. So it stays as it is when any other component is added, replaced or removed. -/
theorem resolve_local (components : List (String × Json)) (value : Json) :
    (∀ others, (∀ name, Reaches components value name →
        Keyed.get? name components = Keyed.get? name others) →
      resolve components value = resolve others value) ∧
    ∀ name, ¬Reaches components value name →
      resolve (Keyed.erase name components) value = resolve components value ∧
      ∀ component,
        resolve (Keyed.insert name component components) value = resolve components value := by
  have alike : ∀ others, (∀ name, Reaches components value name →
        Keyed.get? name components = Keyed.get? name others) →
      resolve components value = resolve others value :=
    fun others same => (agreeOn_reaches same).resolveWithin_eq [] fun _ refers => .direct refers
  refine ⟨alike, fun name unrelated => ?_⟩
  have differs {other : String} (reaches : Reaches components value other) : other ≠ name :=
    fun equal => unrelated (equal ▸ reaches)
  constructor
  · exact (alike _ fun other reaches => (Keyed.get?_erase_of_ne (differs reaches) _).symm).symm
  · intro component
    exact (alike _ fun other reaches =>
      (Keyed.get?_insert_of_ne (differs reaches) component _).symm).symm

/-! ## Folders and invoices -/

/-- A folder and its owner lead to each other, and an invoice leads to both. -/
def archive : List (String × Json) :=
  [("Folder", .object [("properties", .object [
      ("owner", .object [("$ref", .string "#/components/schemas/Person")])])]),
    ("Invoice", .object [("properties", .object [
      ("folder", .object [("$ref", .string "#/components/schemas/Folder")])])]),
    ("Person", .object [("properties", .object [
      ("home", .object [("$ref", .string "#/components/schemas/Folder")]),
      ("name", .object [("type", .string "string")])])])]

/-- A list of folders, with an owner in an example. -/
def folderList : Json :=
  .object [
    ("example", .array [.object [("$ref", .string "#/components/schemas/Person")]]),
    ("items", .object [("$ref", .string "#/components/schemas/Folder")])]

private theorem mem_of_reaches_folderList {name : String}
    (reaches : Reaches archive folderList name) :
    name ∈ ["Person", "Folder"] := by
  induction reaches with
  | direct refers =>
      have referred : referredNames folderList = ["Person", "Folder"] := by decide +kernel
      exact referred ▸ refers
  | @through name next component _ stored refers known =>
      have closed : ∀ name ∈ ["Person", "Folder"], ∀ next ∈
          ((Keyed.get? name archive).map referredNames).getD [], next ∈ ["Person", "Folder"] := by
        decide +kernel
      exact closed name known next (by rw [stored]; exact refers)

/-- Neither the invoice nor a draft makes a difference to folders. -/
theorem resolve_local_archive :
    let others := Keyed.insert "Draft" .null (Keyed.erase "Invoice" archive)
    (∀ name, Reaches archive folderList name →
        Keyed.get? name archive = Keyed.get? name others) ∧
      resolve archive folderList = resolve others folderList ∧
      ¬Reaches archive folderList "Invoice" ∧
      resolve (Keyed.erase "Invoice" archive) folderList = resolve archive folderList ∧
      resolve (Keyed.insert "Invoice" (.bool true) archive) folderList =
        resolve archive folderList ∧
      (resolve archive folderList).items.bind (·.reference) = some "Folder" := by
  intro others
  have same : ∀ name, Reaches archive folderList name →
      Keyed.get? name archive = Keyed.get? name others := by
    intro name reaches
    have known : name = "Person" ∨ name = "Folder" := by
      simpa using mem_of_reaches_folderList reaches
    rcases known with rfl | rfl <;> rfl
  have unrelated : ¬Reaches archive folderList "Invoice" := fun reaches =>
    absurd (mem_of_reaches_folderList reaches) (by decide)
  have ⟨alike, apart⟩ := resolve_local archive folderList
  exact ⟨same, alike others same, unrelated, (apart "Invoice" unrelated).1,
    (apart "Invoice" unrelated).2 _, by decide +kernel⟩

end Schema

end RestModel
