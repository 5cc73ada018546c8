/-! # Names that are not on a stack

A recursion that pushes a listed name before it goes on, and never pushes a name
twice, is bounded by the number of listed names that are not on its stack. -/

namespace RestModel

/-- The number of names that are not on a stack. -/
def outside (names stack : List String) : Nat :=
  (names.filter (· ∉ stack)).length

theorem outside_le_length (names stack : List String) : outside names stack ≤ names.length :=
  List.length_filter_le _ names

theorem outside_le_of_subset {names stack other : List String} (subset : stack ⊆ other) :
    outside names other ≤ outside names stack := by
  have kept : names.filter (· ∉ other) = (names.filter (· ∉ stack)).filter (· ∉ other) := by
    rw [List.filter_filter]
    apply List.filter_congr
    intro name _
    have onBoth : name ∉ other → name ∉ stack := fun fresh member => fresh (subset member)
    by_cases fresh : name ∉ other <;> simp [fresh, onBoth]
  unfold outside
  rw [kept]
  exact List.length_filter_le _ _

/-- Pushing a listed name leaves fewer names outside. -/
theorem outside_cons_lt {names stack : List String} {name : String} (listed : name ∈ names)
    (fresh : name ∉ stack) : outside names (name :: stack) < outside names stack := by
  have narrowed : names.filter (· ∉ name :: stack) =
      (names.filter (· ∉ stack)).filter (· ≠ name) := by
    simp [List.filter_filter]
  unfold outside
  rw [narrowed, List.length_filter_lt_length_iff_exists]
  exact ⟨name, by simp [listed, fresh], by simp⟩

end RestModel
