import Mathlib.Data.List.Nodup
import RestModel.Naming

/-! # Names that are not taken

The candidates for a name are the name itself and then the name with each number.
They are all different, so whatever is taken, one of the first few is free, and the
first of those is chosen. -/

namespace RestModel.Naming

/-- The candidate for a name at an index. -/
def candidate (name : String) : Nat → String
  | 0 => name
  | index + 1 => numbered name (index + 1)

theorem length_le_candidate (name : String) (index : Nat) :
    name.length ≤ (candidate name index).length := by
  cases index with
  | zero => exact Nat.le_refl _
  | succ index =>
      rw [candidate, numbered, String.length_append, String.length_append, Nat.add_assoc]
      exact Nat.le_add_right _ _

private theorem candidates_eq (name : String) (count : Nat) :
    candidates name count = (List.range (count + 1)).map (candidate name) := by
  rw [candidates, List.range_succ_eq_map, List.map_cons, List.map_map]
  rfl

/-- A number is read back from its digits. -/
theorem toString_injective {number other : Nat} (equal : toString number = toString other) :
    number = other := by
  have digits : Nat.toDigits 10 number = Nat.toDigits 10 other := by
    rw [← Nat.toList_repr, ← Nat.toList_repr]
    exact congrArg String.toList equal
  rw [← @Nat.ofDigitChars_ten_toDigits number, digits, Nat.ofDigitChars_ten_toDigits]

private theorem candidate_injective (name : String) : Function.Injective (candidate name) := by
  have longer (number : Nat) : name ≠ numbered name number := by
    intro equal
    have lengths := congrArg String.length equal
    have blank : "_".length = 1 := by decide
    simp only [numbered, String.length_append, blank] at lengths
    omega
  intro index other equal
  cases index with
  | zero =>
      cases other with
      | zero => rfl
      | succ other => exact absurd equal (longer _)
  | succ index =>
      cases other with
      | zero => exact absurd equal.symm (longer _)
      | succ other =>
          have digits : toString (index + 1) = toString (other + 1) := by
            simpa [candidate, numbered, String.append_assoc, String.append_right_inj] using equal
          exact congrArg (· + 1) (Nat.succ.inj (toString_injective digits))

/-- Of one candidate more than there are taken names, one is free. -/
theorem exists_free (taken : List String) (name : String) :
    ∃ index < taken.length + 1, candidate name index ∉ taken := by
  apply Classical.byContradiction
  intro none
  have all : (List.range (taken.length + 1)).map (candidate name) ⊆ taken := by
    intro chosen member
    rcases List.mem_map.mp member with ⟨index, bounded, rfl⟩
    apply Classical.byContradiction
    intro free
    exact none ⟨index, List.mem_range.mp bounded, free⟩
  have distinct : ((List.range (taken.length + 1)).map (candidate name)).Nodup :=
    List.nodup_range.map (candidate_injective name)
  have bounded := distinct.length_le_of_subset all
  rw [List.length_map, List.length_range] at bounded
  exact Nat.not_succ_le_self _ bounded

/-- The chosen name is the first candidate that is free. -/
theorem freshName_eq_candidate (taken : List String) (name : String) :
    ∃ index, freshName taken name = candidate name index ∧ candidate name index ∉ taken ∧
      ∀ earlier < index, candidate name earlier ∈ taken := by
  rcases exists_free taken name with ⟨free, bounded, isFree⟩
  have found : ((List.range (taken.length + 1)).find?
      ((fun chosen => decide (chosen ∉ taken)) ∘ candidate name)).isSome = true :=
    List.find?_isSome.mpr ⟨free, List.mem_range.mpr bounded, by simpa using isFree⟩
  rcases Option.isSome_iff_exists.mp found with ⟨index, isFirst⟩
  rcases List.find?_range_eq_some.mp isFirst with ⟨isChosen, _, earlier⟩
  refine ⟨index, ?_, by simpa using isChosen, by simpa using earlier⟩
  rw [freshName, candidates_eq, List.find?_map, isFirst]
  rfl

theorem freshName_not_mem (taken : List String) (name : String) :
    freshName taken name ∉ taken := by
  rcases freshName_eq_candidate taken name with ⟨index, chosen, free, _⟩
  rwa [chosen]

private theorem freshName_eq {taken : List String} {name : String} {index : Nat}
    (free : candidate name index ∉ taken)
    (first : ∀ earlier < index, candidate name earlier ∈ taken) :
    freshName taken name = candidate name index := by
  rcases freshName_eq_candidate taken name with ⟨other, chosen, otherFree, otherFirst⟩
  rcases Nat.lt_trichotomy index other with less | rfl | more
  · exact absurd (otherFirst index less) free
  · exact chosen
  · exact absurd (first other more) otherFree

theorem mem_insertText {text other : String} {texts : List String} :
    other ∈ insertText text texts ↔ other = text ∨ other ∈ texts := by
  induction texts with
  | nil => simp [insertText]
  | cons stored rest induction =>
      unfold insertText
      split
      · simp
      · split
        · next equal => simp [equal]
        · rw [List.mem_cons, induction, List.mem_cons]
          exact or_left_comm

/-- Once a name was chosen from, it is taken. -/
theorem mem_takeName (taken : List String) (name : String) : name ∈ (takeName taken name).2 := by
  apply mem_insertText.mpr
  rcases freshName_eq_candidate taken name with ⟨index, chosen, _, earlier⟩
  cases index with
  | zero => exact .inl chosen.symm
  | succ index => exact .inr (earlier 0 (Nat.zero_lt_succ _))

private theorem identifierChar_ne_point (c : Char) : identifierChar c ≠ '.' := by
  unfold identifierChar
  split
  · rintro rfl
    contradiction
  · decide

theorem point_not_mem_fieldName (key : String) : '.' ∉ (fieldName key).toList := by
  have mapped : '.' ∉ (snakeCase key).toList.map identifierChar := by
    intro member
    rcases List.mem_map.mp member with ⟨c, _, isPoint⟩
    exact identifierChar_ne_point c isPoint
  have started : '.' ∉ withIdentifierStart ((snakeCase key).toList.map identifierChar) := by
    generalize (snakeCase key).toList.map identifierChar = chars at mapped
    unfold withIdentifierStart
    split
    · decide
    · split
      · simpa using mapped
      · exact mapped
  unfold fieldName escapeKeyword
  split
  · simpa using started
  · simpa using started

/-- The last mark in a list separates what is before it from what is after it. -/
theorem append_cons_inj_of_not_mem {mark : α} {before other after rest : List α}
    (notAfter : mark ∉ after) (notRest : mark ∉ rest)
    (equal : before ++ mark :: after = other ++ mark :: rest) : before = other ∧ after = rest := by
  rcases List.append_eq_append_iff.mp equal with ⟨middle, rfl, tail⟩ | ⟨middle, rfl, tail⟩
  · cases middle with
    | nil => simpa using tail
    | cons first middle =>
        rw [(List.cons.inj tail).2] at notAfter
        simp at notAfter
  · cases middle with
    | nil => simpa using tail.symm
    | cons first middle =>
        rw [(List.cons.inj tail).2] at notRest
        simp at notRest

/-- Where two lists agree on every name but stray ones, and nothing stray is taken in
the second list or chosen there, the same name is chosen in both. -/
theorem freshName_eq_freshName {taken other : List String} {name : String}
    {stray : String → Prop} (agree : ∀ text, ¬stray text → (text ∈ taken ↔ text ∈ other))
    (clean : ∀ text ∈ other, ¬stray text) (chosenClean : ¬stray (freshName other name)) :
    freshName taken name = freshName other name := by
  rcases freshName_eq_candidate other name with ⟨index, chosen, free, first⟩
  rw [chosen] at chosenClean ⊢
  apply freshName_eq
  · exact fun member => free ((agree _ chosenClean).mp member)
  · intro earlier before
    have member := first earlier before
    exact (agree _ (clean _ member)).mpr member

end RestModel.Naming
