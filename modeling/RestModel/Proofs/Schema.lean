import RestModel.Schema.Shape

/-! # Schemas and their parts -/

namespace RestModel.Schema

/-- A property of schemas holds of all of them if each schema has it as soon as its
properties, its items and the values of its other properties do. -/
theorem parts_induction {property : Schema → Prop}
    (step : ∀ schema : Schema, (∀ entry ∈ schema.properties, property entry.2) →
      (∀ item ∈ schema.items, property item) →
      (∀ value ∈ schema.additional, property value) → property schema)
    (schema : Schema) : property schema := by
  apply step schema
  · intro entry member
    exact parts_induction step entry.2
  · intro item member
    exact parts_induction step item
  · intro value member
    exact parts_induction step value
termination_by sizeOf schema
decreasing_by
  all_goals
    rcases schema with
      ⟨type, format, description, nullable, properties, required, items, additional,
      reference, recursive⟩
  · have smaller := List.sizeOf_lt_of_mem member
    rcases entry with ⟨key, part⟩
    simp only [Prod.mk.sizeOf_spec, mk.sizeOf_spec] at smaller ⊢
    omega
  · simp only [Option.mem_def] at member
    subst member
    simp only [Option.some.sizeOf_spec, mk.sizeOf_spec]
    omega
  · simp only [Option.mem_def] at member
    subst member
    simp only [Option.some.sizeOf_spec, mk.sizeOf_spec]
    omega

/-! ## What a shape says -/

theorem shape_eq (schema : Schema) :
    schema.shape = schema.shapeWith (shapeOfItems schema.items) := by
  cases schema
  rfl

theorem shape_of_recursive {schema : Schema} (isRecursive : schema.recursive = true) :
    schema.shape = .object := by
  rw [shape_eq, shapeWith, if_pos isRecursive]

theorem not_recursive_of_shape {schema : Schema} (notObject : schema.shape ≠ .object) :
    ¬schema.recursive = true :=
  fun isRecursive => notObject (shape_of_recursive isRecursive)

theorem properties_ne_nil_of_object {schema : Schema} (notRecursive : schema.recursive = false)
    (isObject : schema.shape = .object) : schema.properties ≠ [] := by
  intro empty
  rw [shape_eq, shapeWith, notRecursive, if_neg Bool.false_ne_true, empty] at isObject
  split at isObject
  · contradiction
  · split at isObject
    · contradiction
    · split at isObject
      · contradiction
      · split at isObject <;> contradiction

end RestModel.Schema
