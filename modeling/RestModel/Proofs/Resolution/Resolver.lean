import RestModel.Proofs.Json
import RestModel.Proofs.Outside
import RestModel.Proofs.Resolution.Unfolding

/-! # A resolver with a stack

Resolving can be read as a machine that holds a stack of components: entering a
component pushes its name, leaving it pops the stack, and every step hands the
stack it leaves to the next one. The relations below say what such a machine
does, with no bound on how far it goes. -/

namespace RestModel.Schema

mutual
/-- `Resolves components stack value schema after` says that resolving `value`
from `stack` ends, gives `schema` and leaves the stack `after`. -/
inductive Resolves (components : List (String × Json)) :
    List String → Json → Schema → List String → Prop where
  /-- What is not an object describes any value. -/
  | other {stack value} (other : value.members? = none) :
      Resolves components stack value free stack
  | reference {stack after value path schema}
      (written : value.textAt? "$ref" = some path)
      (expanded : Expands components stack path schema after) :
      Resolves components stack value (schema.describe (value.textAt? "description")) after
  | assembled {stack afterProperties afterItems afterAdditional afterParts after value
        properties items additional allOf variants}
      (isObject : value.members?.isSome)
      (written : value.textAt? "$ref" = none)
      (named : Keyed.keys properties = Keyed.keys (value.membersAt "properties"))
      (resolvedProperties : ResolvesAll components stack
        (Keyed.values (value.membersAt "properties")) (Keyed.values properties) afterProperties)
      (resolvedItems : ResolvesAll components afterProperties
        (value.get? "items").toList items afterItems)
      (resolvedAdditional : ResolvesAll components afterItems
        value.additionalAt?.toList additional afterAdditional)
      (resolvedParts : ResolvesAll components afterAdditional
        (value.itemsAt "allOf") allOf afterParts)
      (resolvedVariants : ResolvesVariants components afterParts
        value.variantsAt variants after) :
      Resolves components stack value
        (assemble value ⟨properties, items.head?, additional.head?, allOf, some variants, none⟩)
        after

/-- Resolving a reference. -/
inductive Expands (components : List (String × Json)) :
    List String → String → Schema → List String → Prop where
  /-- A path that leads elsewhere is followed no further. -/
  | foreign {stack path} (foreign : Text.after? componentPath path = none) :
      Expands components stack path free stack
  /-- A component within itself is not entered again. -/
  | cycle {stack path name} (named : Text.after? componentPath path = some name)
      (entered : name ∈ stack) :
      Expands components stack path (placeholder name) stack
  | unknown {stack path name} (named : Text.after? componentPath path = some name)
      (fresh : name ∉ stack) (unknown : Keyed.get? name components = none) :
      Expands components stack path free stack
  /-- A component is resolved with its name pushed, and then the stack is popped. -/
  | component {stack after path name component schema}
      (named : Text.after? componentPath path = some name) (fresh : name ∉ stack)
      (stored : Keyed.get? name components = some component)
      (resolved : Resolves components (name :: stack) component schema after) :
      Expands components stack path { schema with reference := some name } after.tail

/-- Resolving values one after another. -/
inductive ResolvesAll (components : List (String × Json)) :
    List String → List Json → List Schema → List String → Prop where
  | nil {stack} : ResolvesAll components stack [] [] stack
  | cons {stack between after value schema rest schemas}
      (first : Resolves components stack value schema between)
      (others : ResolvesAll components between rest schemas after) :
      ResolvesAll components stack (value :: rest) (schema :: schemas) after

/-- Resolving alternatives one after another. -/
inductive ResolvesVariants (components : List (String × Json)) :
    List String → List Json → List (Option Schema) → List String → Prop where
  | nil {stack} : ResolvesVariants components stack [] [] stack
  | null {stack after value rest variants} (isNull : isNullVariant value = true)
      (others : ResolvesVariants components stack rest variants after) :
      ResolvesVariants components stack (value :: rest) (none :: variants) after
  | schema {stack between after value schema rest variants} (isSchema : isNullVariant value = false)
      (first : Resolves components stack value schema between)
      (others : ResolvesVariants components between rest variants after) :
      ResolvesVariants components stack (value :: rest) (some schema :: variants) after
end

variable {components : List (String × Json)} {stack : List String}

/-! ## What a resolver with room resolves -/

theorem resolvesAll_map {resolved : Json → Schema} {values : List Json}
    (each : ∀ value ∈ values, Resolves components stack value (resolved value) stack) :
    ResolvesAll components stack values (values.map resolved) stack := by
  induction values with
  | nil => exact .nil
  | cons value rest induction =>
      have others := induction fun other member => each other (List.mem_cons_of_mem _ member)
      exact .cons (each value List.mem_cons_self) others

private theorem resolvesVariants_map {expand : String → Schema} {values : List Json}
    (each : ∀ value ∈ values, Resolves components stack value (resolveWith expand value) stack) :
    ResolvesVariants components stack values (values.map (resolveVariant expand)) stack := by
  induction values with
  | nil => exact .nil
  | cons value rest induction =>
      have others := induction fun other member => each other (List.mem_cons_of_mem _ member)
      rw [List.map_cons, resolveVariant]
      split
      · next isNull => exact .null isNull others
      · next isSchema =>
          exact .schema (by simpa using isSchema) (each value List.mem_cons_self) others

/-- Where every reference resolves, every value does: the values inside it are
less deep. -/
theorem resolves_of_expands {expand : String → Schema}
    (expands : ∀ path, Expands components stack path (expand path) stack) (value : Json) :
    Resolves components stack value (resolveWith expand value) stack := by
  have all (values : List Json) (inside : ∀ inner ∈ values, inner.IsInside value) :
      ResolvesAll components stack values (values.map (resolveWith expand)) stack :=
    resolvesAll_map fun inner member =>
      have smaller := (inside inner member).depth_lt
      resolves_of_expands expands inner
  rcases isObject : value.members? with _ | members
  · rw [resolveWith_of_not_object expand isObject]
    exact .other isObject
  rcases written : value.textAt? "$ref" with _ | path
  · have properties := all (Keyed.values (value.membersAt "properties")) fun _ member =>
      Json.isInside_of_mem_membersAt member
    have items := all (value.get? "items").toList fun _ member =>
      Json.isInside_of_get? (Option.mem_toList.mp member)
    have additional := all value.additionalAt?.toList fun _ member =>
      Json.isInside_of_additionalAt? (Option.mem_toList.mp member)
    have parts := all (value.itemsAt "allOf") fun _ member => Json.isInside_of_mem_itemsAt member
    have variants : ResolvesVariants components stack value.variantsAt
        (value.variantsAt.map (resolveVariant expand)) stack :=
      resolvesVariants_map fun inner member =>
        have smaller := (Json.isInside_of_mem_variantsAt member).depth_lt
        resolves_of_expands expands inner
    rw [resolveWith_of_assembled expand (by simp [isObject]) written]
    rw [← Keyed.values_map_values] at properties
    have assembled := Resolves.assembled (by simp [isObject]) written
      (Keyed.keys_map_values _ _) properties items additional parts variants
    simpa using assembled
  · rw [resolveWith_of_reference expand written]
    exact .reference written (expands path)
termination_by value.depth

theorem mem_keys_of_get? {name : String} {component : Json}
    (stored : Keyed.get? name components = some component) : name ∈ Keyed.keys components :=
  List.mem_map.mpr ⟨_, Keyed.mem_of_get? stored, rfl⟩

theorem outside_keys_le (components : List (String × Json)) (stack : List String) :
    outside (Keyed.keys components) stack ≤ components.length := by
  simpa [Keyed.keys] using outside_le_length (Keyed.keys components) stack

/-- With room for every component that is not on the stack, expanding a reference
is what the resolver does. -/
theorem expands_expand {stack : List String} {room : Nat}
    (enough : outside (Keyed.keys components) stack ≤ room) (path : String) :
    Expands components stack path (expand components room stack path) stack := by
  rcases named : Text.after? componentPath path with _ | name
  · simpa [expand, named] using Expands.foreign named
  by_cases entered : name ∈ stack
  · simpa [expand, named, entered] using Expands.cycle named entered
  rcases stored : Keyed.get? name components with _ | component
  · simpa [expand, named, entered, stored] using Expands.unknown named entered stored
  · have fewer := outside_cons_lt (mem_keys_of_get? stored) entered
    obtain ⟨rest, rfl⟩ : ∃ rest, room = rest + 1 := ⟨room - 1, by omega⟩
    have inner : outside (Keyed.keys components) (name :: stack) ≤ rest := by omega
    have resolved := resolves_of_expands (expands_expand inner) component
    simpa [expand, named, entered, stored] using
      Expands.component named entered stored resolved
termination_by room

theorem resolves_resolveWithin (value : Json) :
    Resolves components stack value (resolveWithin components stack value) stack :=
  resolves_of_expands (expands_expand (outside_keys_le components stack)) value

/-! ## What a resolver does has one outcome -/

mutual
/-- Whatever is resolved on the way, the stack is restored at the end, and the
schema is the one that any sufficient room gives. -/
theorem Resolves.unique {stack after : List String} {value : Json} {schema : Schema} :
    Resolves components stack value schema after →
      after = stack ∧ ∀ room, outside (Keyed.keys components) stack ≤ room →
        schema = resolveWith (expand components room stack) value
  | .other other => ⟨rfl, fun _ _ => (resolveWith_of_not_object _ other).symm⟩
  | .reference written expanded => by
      have ⟨restored, expansion⟩ := Expands.unique expanded
      refine ⟨restored, fun room enough => ?_⟩
      rw [resolveWith_of_reference _ written, expansion room enough]
  | .assembled isObject written named properties items additional parts variants => by
      have ⟨restoredProperties, properties⟩ := ResolvesAll.unique properties
      have ⟨restoredItems, items⟩ := ResolvesAll.unique items
      have ⟨restoredAdditional, additional⟩ := ResolvesAll.unique additional
      have ⟨restoredParts, parts⟩ := ResolvesAll.unique parts
      have ⟨restored, variants⟩ := ResolvesVariants.unique variants
      subst restoredProperties restoredItems restoredAdditional restoredParts restored
      refine ⟨rfl, fun room enough => ?_⟩
      have resolvedProperties : _ = (value.membersAt "properties").map fun entry =>
          (entry.1, resolveWith (expand components room after) entry.2) :=
        Keyed.eq_of_keys_of_values (by rw [named, Keyed.keys_map_values])
          (by rw [properties room enough, Keyed.values_map_values])
      rw [resolveWith_of_assembled _ isObject written, resolvedProperties, items room enough,
        additional room enough, parts room enough, variants room enough]
      simp

theorem Expands.unique {stack after : List String} {path : String} {schema : Schema} :
    Expands components stack path schema after →
      after = stack ∧ ∀ room, outside (Keyed.keys components) stack ≤ room →
        schema = expand components room stack path
  | .foreign foreign => ⟨rfl, fun room _ => by simp [expand, foreign]⟩
  | .cycle named entered => ⟨rfl, fun room _ => by simp [expand, named, entered]⟩
  | .unknown named fresh unknown =>
      ⟨rfl, fun room _ => by simp [expand, named, fresh, unknown]⟩
  | .component named fresh stored resolved => by
      have ⟨restored, resolution⟩ := Resolves.unique resolved
      refine ⟨by rw [restored, List.tail_cons], fun room enough => ?_⟩
      have fewer := outside_cons_lt (mem_keys_of_get? stored) fresh
      obtain ⟨rest, rfl⟩ : ∃ rest, room = rest + 1 := ⟨room - 1, by omega⟩
      have same := resolution rest (by omega)
      simp [expand, named, fresh, stored, ← same]

theorem ResolvesAll.unique {stack after : List String} {values : List Json}
    {schemas : List Schema} :
    ResolvesAll components stack values schemas after →
      after = stack ∧ ∀ room, outside (Keyed.keys components) stack ≤ room →
        schemas = values.map (resolveWith (expand components room stack))
  | .nil => ⟨rfl, fun _ _ => rfl⟩
  | .cons first others => by
      have ⟨restoredFirst, first⟩ := Resolves.unique first
      have ⟨restored, others⟩ := ResolvesAll.unique others
      subst restoredFirst restored
      refine ⟨rfl, fun room enough => ?_⟩
      rw [List.map_cons, ← first room enough, ← others room enough]

theorem ResolvesVariants.unique {stack after : List String} {values : List Json}
    {variants : List (Option Schema)} :
    ResolvesVariants components stack values variants after →
      after = stack ∧ ∀ room, outside (Keyed.keys components) stack ≤ room →
        variants = values.map (resolveVariant (expand components room stack))
  | .nil => ⟨rfl, fun _ _ => rfl⟩
  | .null isNull others => by
      have ⟨restored, others⟩ := ResolvesVariants.unique others
      refine ⟨restored, fun room enough => ?_⟩
      rw [List.map_cons, ← others room enough, resolveVariant, if_pos isNull]
  | .schema isSchema first others => by
      have ⟨restoredFirst, first⟩ := Resolves.unique first
      have ⟨restored, others⟩ := ResolvesVariants.unique others
      subst restoredFirst restored
      refine ⟨rfl, fun room enough => ?_⟩
      rw [List.map_cons, ← others room enough, resolveVariant, isSchema, ← first room enough]
      rfl
end

/-- Resolving from a stack has exactly one outcome, which leaves the stack as it was. -/
theorem resolves_iff {stack after : List String} {value : Json} {schema : Schema} :
    Resolves components stack value schema after ↔
      schema = resolveWithin components stack value ∧ after = stack := by
  constructor
  · intro resolves
    have ⟨restored, resolution⟩ := resolves.unique
    exact ⟨resolution components.length (outside_keys_le components stack), restored⟩
  · rintro ⟨rfl, rfl⟩
    exact resolves_resolveWithin value

end RestModel.Schema
