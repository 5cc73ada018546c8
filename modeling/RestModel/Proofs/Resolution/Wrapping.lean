import RestModel.Proofs.Resolution.Resolver
import RestModel.Proofs.Schema

/-! # Schemas wrapped in a composition

A composition of a single schema, alone or beside the null value, says what the
schema says. Merging passes on everything that a shape is read from, except that a
schema stands for a component that it is part of. So the shape is kept unless the
wrapped schema is the placeholder that ends a cycle of references. -/

namespace RestModel.Schema

/-- A written schema that is nothing but a composition. -/
def composition (key : String) (parts : List Json) : Json :=
  .object [(key, .array parts)]

/-- The alternative that stands for the null value. -/
def nullVariant : Json := .object [("type", .string "null")]

/-- Following the references from a written schema, each of which stands alone in its
component, ends at a component that is being resolved already. -/
inductive LeadsBack (components : List (String × Json)) : List String → Json → Prop where
  | cycle {stack : List String} {value : Json} {path name : String}
      (written : value.textAt? "$ref" = some path)
      (named : Text.after? componentPath path = some name) (entered : name ∈ stack) :
      LeadsBack components stack value
  | component {stack : List String} {value component : Json} {path name : String}
      (written : value.textAt? "$ref" = some path)
      (named : Text.after? componentPath path = some name) (fresh : name ∉ stack)
      (stored : Keyed.get? name components = some component)
      (leads : LeadsBack components (name :: stack) component) :
      LeadsBack components stack value

variable {components : List (String × Json)} {stack : List String} {value : Json}

/-! ## The placeholder of a cycle -/

/-- What a schema was written as a reference to, and whether it ends a cycle of references. -/
def origin (schema : Schema) : Option String × Bool := (schema.reference, schema.recursive)

private theorem origin_foldl_merge (schema : Schema) (others : List Schema)
    (keepRequired : Bool) :
    (others.foldl (fun schema other => schema.merge other keepRequired) schema).origin =
      schema.origin := by
  induction others generalizing schema with
  | nil => rfl
  | cons other rest induction =>
      rw [List.foldl_cons, induction]
      rfl

private theorem origin_addVariants (schema : Schema) (variants : List (Option Schema)) :
    (schema.addVariants variants).origin = schema.origin := by
  unfold addVariants
  dsimp only
  split
  · rfl
  · rfl
  · split
    · rw [origin_foldl_merge]
      rfl
    · rfl

private theorem origin_assemble (value : Json) (parts : Parts) :
    (assemble value parts).origin = (none, false) := by
  rw [assemble, origin_addVariants, origin_foldl_merge]
  rfl

theorem reference_assemble (value : Json) (parts : Parts) :
    (assemble value parts).reference = none :=
  congrArg Prod.fst (origin_assemble value parts)

theorem recursive_assemble (value : Json) (parts : Parts) :
    (assemble value parts).recursive = false :=
  congrArg Prod.snd (origin_assemble value parts)

private theorem describe_describe (schema : Schema) (inner outer : Option String) :
    (schema.describe inner).describe outer = schema.describe (outer <|> inner) := by
  cases outer <;> rfl

private theorem reference_placeholder (component name : String) (description : Option String) :
    { (placeholder component).describe description with reference := some name } =
      (placeholder name).describe description := rfl

mutual
/-- What stands for a component within itself is a placeholder, and references alone
lead to it. -/
theorem Resolves.of_recursive {stack after : List String} {value : Json} {schema : Schema} :
    Resolves components stack value schema after → schema.recursive = true →
      LeadsBack components stack value ∧
        ∃ name description, schema = (placeholder name).describe description
  | .other _, isRecursive => by contradiction
  | .assembled .., isRecursive => by rw [recursive_assemble] at isRecursive; contradiction
  | .reference written expanded, isRecursive => by
      have ⟨leads, name, inner, expansion⟩ := Expands.of_recursive expanded isRecursive
      exact ⟨leads _ written, name, _, by rw [expansion, describe_describe]⟩

theorem Expands.of_recursive {stack after : List String} {path : String} {schema : Schema} :
    Expands components stack path schema after → schema.recursive = true →
      (∀ value : Json, value.textAt? "$ref" = some path → LeadsBack components stack value) ∧
        ∃ name description, schema = (placeholder name).describe description
  | .foreign _, isRecursive => by contradiction
  | .unknown .., isRecursive => by contradiction
  | .cycle named entered, _ =>
      ⟨fun _ written => .cycle written named entered, _, none, rfl⟩
  | .component named fresh stored resolved, isRecursive => by
      have ⟨leads, _, _, resolution⟩ := Resolves.of_recursive resolved isRecursive
      refine ⟨fun _ written => .component written named fresh stored leads, ?_⟩
      rw [resolution]
      exact ⟨_, _, reference_placeholder _ _ _⟩
end

private theorem resolveWithin_of_component {component : Json} {path name : String}
    (written : value.textAt? "$ref" = some path)
    (named : Text.after? componentPath path = some name) (fresh : name ∉ stack)
    (stored : Keyed.get? name components = some component) :
    resolveWithin components stack value =
      { resolveWithin components (name :: stack) component with
        reference := some name }.describe (value.textAt? "description") :=
  have resolved : Resolves components (name :: stack) component
      (resolveWithin components (name :: stack) component) (name :: stack) :=
    resolves_resolveWithin component
  (resolves_iff.mp (.reference written (.component named fresh stored resolved))).1.symm

private theorem recursive_resolveWithin_iff :
    (resolveWithin components stack value).recursive = true ↔
      LeadsBack components stack value := by
  constructor
  · exact fun isRecursive => (resolves_resolveWithin value).of_recursive isRecursive |>.1
  · intro leads
    induction leads with
    | cycle written named entered =>
        rw [← (resolves_iff.mp (.reference written (.cycle named entered))).1]
        rfl
    | component written named fresh stored _ induction =>
        rw [resolveWithin_of_component written named fresh stored]
        exact induction

/-! ## What merging keeps of a shape -/

/-- A schema that says at most that there may be a null value takes over everything that
a shape is read from, but for the mark of a placeholder. -/
theorem shape_merge_free (nullable : Bool) (other : Schema) (keepRequired : Bool) :
    ({ free with nullable := nullable }.merge other keepRequired).shape =
      { other with recursive := false }.shape := by
  simp [shape_eq, shapeWith, merge, isScalar, isUntyped, isArray, free,
    Keyed.isEmpty_foldl_insertNew]

private theorem unmarked_eq {schema : Schema} (notRecursive : schema.recursive = false) :
    { schema with recursive := false } = schema := by
  rcases schema with ⟨_, _, _, _, _, _, _, _, _, recursive⟩
  exact congrArg _ notRecursive.symm

private theorem shape_merge_free_eq_iff (nullable : Bool) (value : Json) (keepRequired : Bool) :
    ({ free with nullable := nullable }.merge (resolveWithin components stack value)
        keepRequired).shape = (resolveWithin components stack value).shape ↔
      ¬LeadsBack components stack value := by
  rw [shape_merge_free, ← recursive_resolveWithin_iff]
  cases isRecursive : (resolveWithin components stack value).recursive with
  | false => simp [unmarked_eq isRecursive]
  | true =>
      rcases (resolves_resolveWithin value).of_recursive isRecursive with
        ⟨_, name, description, isPlaceholder⟩
      have ambiguous : { resolveWithin components stack value with recursive := false }.shape =
          .ambiguousObject := by
        rw [isPlaceholder]
        rfl
      simp [ambiguous, shape_of_recursive isRecursive]

private theorem resolveWithin_allOf (components : List (String × Json)) (stack : List String)
    (value : Json) : resolveWithin components stack (composition "allOf" [value]) =
      free.merge (resolveWithin components stack value) true := by
  have assembled : resolveWithin components stack (composition "allOf" [value]) =
      (free.merge (resolveWithin components stack value) true).addVariants [] := by
    rw [resolveWithin, resolveWith_of_assembled _ rfl rfl]
    rfl
  simp [assembled, addVariants, merge]

private theorem resolveWithin_nullable (components : List (String × Json)) (stack : List String)
    (value : Json) {key : String} (variants : key ∈ ["oneOf", "anyOf"]) :
    resolveWithin components stack (composition key [value, nullVariant]) =
      if isNullVariant value then
        { free with nullable := true }
      else
        { free with nullable := true }.merge (resolveWithin components stack value) true := by
  have offered : resolveWithin components stack (composition key [value, nullVariant]) =
      free.addVariants
        [resolveVariant (expand components components.length stack) value, none] := by
    have isVariants : key = "oneOf" ∨ key = "anyOf" := by simpa using variants
    rcases isVariants with rfl | rfl <;>
      rw [resolveWithin, resolveWith_of_assembled _ rfl rfl] <;>
      rfl
  rw [offered, resolveVariant]
  split <;> simp [addVariants, free, resolveWithin]

/-- A composition of one schema has the shape of that schema, whatever it says, unless it
ends a cycle of references; where it is the null value itself, the shape of any value is
left. -/
theorem shape_composition_iff (components : List (String × Json)) (stack : List String)
    (value : Json) :
    ((resolveWithin components stack (composition "allOf" [value])).shape =
        (resolveWithin components stack value).shape ↔ ¬LeadsBack components stack value) ∧
      ∀ key ∈ ["oneOf", "anyOf"],
        ((resolveWithin components stack (composition key [value, nullVariant])).shape =
            (resolveWithin components stack value).shape ↔
          if isNullVariant value then
            (resolveWithin components stack value).shape = .primitive
          else
            ¬LeadsBack components stack value) := by
  constructor
  · rw [resolveWithin_allOf]
    exact shape_merge_free_eq_iff false value true
  · intro key variants
    rw [resolveWithin_nullable components stack value variants]
    split
    · exact eq_comm
    · exact shape_merge_free_eq_iff true value true

/-- A component whose next one may be missing. -/
def nodes : List (String × Json) :=
  [("Node", .object [("properties", .object [
    ("next", composition "oneOf"
      [.object [("$ref", .string "#/components/schemas/Node")], nullVariant]),
    ("value", .object [("type", .string "string")])])])]

theorem shape_composition_nodes :
    let node := Json.object [("$ref", .string "#/components/schemas/Node")]
    (resolveWithin nodes ["Node"] node).shape = .object ∧
      (resolveWithin nodes ["Node"] (composition "allOf" [node])).shape = .ambiguousObject ∧
      (resolveWithin nodes ["Node"] (composition "oneOf" [node, nullVariant])).shape =
        .ambiguousObject ∧
      (resolveWithin nodes ["Node"] (composition "anyOf" [node, nullVariant])).shape =
        .ambiguousObject ∧
      (resolve nodes node).properties.map (fun entry => (entry.1, entry.2.shape)) =
        [("next", .ambiguousObject), ("value", .primitive)] := by
  decide +kernel

end RestModel.Schema
