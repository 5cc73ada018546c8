import Mathlib.Tactic.ByContra

/-! # The first of a sorted list

Sorting keeps what is equally small in order. So the first item of a sorted list that is found is
the least one that is found in the list before it was sorted, and of equally small ones the
first. -/

namespace RestModel

variable {α : Type} {le : α → α → Bool} {isFound : α → Prop}

/-- An item is the first that is found in a list. -/
def IsFirstFound (isFound : α → Prop) (items : List α) (item : α) : Prop :=
  ∃ earlier later, items = earlier ++ item :: later ∧ isFound item ∧
    ∀ other ∈ earlier, ¬isFound other

/-- An item is the least that is found in a list, and the first of those that are equally
small. -/
def IsLeastFound (le : α → α → Bool) (isFound : α → Prop) (items : List α) (item : α) : Prop :=
  ∃ earlier later, items = earlier ++ item :: later ∧ isFound item ∧
    (∀ other ∈ earlier, isFound other → le other item = false) ∧
    ∀ other ∈ later, isFound other → le item other = true

private theorem exists_firstFound {items : List α} (isSome : ∃ item ∈ items, isFound item) :
    ∃ first, IsFirstFound isFound items first := by
  classical
  rcases isSome with ⟨item, member, found⟩
  have isSome : (items.find? (decide <| isFound ·)).isSome = true :=
    List.find?_isSome.mpr ⟨item, member, decide_eq_true found⟩
  rcases Option.isSome_iff_exists.mp isSome with ⟨first, isFirst⟩
  rcases List.find?_eq_some_iff_append.mp isFirst with ⟨firstFound, earlier, later, split, none⟩
  refine ⟨first, earlier, later, split, of_decide_eq_true firstFound, ?_⟩
  intro other member
  simpa using none other member

/-- Of two items in a list, one comes before the other, or they stand at one place. -/
theorem cases_of_splits {earlier later otherEarlier otherLater : List α} {item other : α}
    (same : earlier ++ item :: later = otherEarlier ++ other :: otherLater) :
    item = other ∨ item ∈ otherEarlier ∧ other ∈ later ∨ other ∈ earlier ∧ item ∈ otherLater := by
  rcases List.append_eq_append_iff.mp same with ⟨between, rfl, rests⟩ | ⟨between, rfl, rests⟩
  · cases between with
    | nil => exact .inl (List.cons.inj rests).1
    | cons first rest =>
        rcases List.cons.inj rests with ⟨rfl, rfl⟩
        exact .inr (.inl (by simp))
  · cases between with
    | nil => exact .inl (List.cons.inj rests).1.symm
    | cons first rest =>
        rcases List.cons.inj rests with ⟨rfl, rfl⟩
        exact .inr (.inr (by simp))

theorem IsLeastFound.unique {items : List α} {item other : α}
    (least : IsLeastFound le isFound items item) (also : IsLeastFound le isFound items other) :
    item = other := by
  rcases least with ⟨earlier, later, split, found, less, notLess⟩
  rcases also with ⟨otherEarlier, otherLater, otherSplit, otherFound, otherLess, otherNotLess⟩
  rcases cases_of_splits (split.symm.trans otherSplit) with
    equal | ⟨itemFirst, otherAfter⟩ | ⟨otherFirst, itemAfter⟩
  · exact equal
  · have greater := notLess other otherAfter otherFound
    rw [otherLess item itemFirst found] at greater
    contradiction
  · have greater := otherNotLess item itemAfter found
    rw [less other otherFirst otherFound] at greater
    contradiction

private theorem sublist_of_sublist_append {item : α} {rest earlier later : List α}
    (sublist : (item :: rest).Sublist (earlier ++ later)) (absent : item ∉ earlier) :
    (item :: rest).Sublist later := by
  rcases List.sublist_append_iff.mp sublist with ⟨front, back, split, isEarlier, isLater⟩
  cases front with
  | nil => exact split ▸ isLater
  | cons first others =>
      rcases List.cons.inj split with ⟨rfl, _⟩
      exact absurd (isEarlier.subset List.mem_cons_self) absent

section Stability

variable (trans : ∀ first second third : α,
    le first second = true → le second third = true → le first third = true)
  (total : ∀ left right, (le left right || le right left) = true)

include trans total

/-- What comes before the first copy of an item, and is not greater, comes before all its
copies in the sorted list. -/
theorem copies_sublist_mergeSort [BEq α] [LawfulBEq α] {items earlier later : List α}
    {item other : α} (split : items = earlier ++ item :: later) (fresh : item ∉ earlier)
    (isEarlier : other ∈ earlier) (notGreater : le other item = true) :
    (other :: List.replicate (items.count item) item).Sublist (items.mergeSort le) := by
  have reflexive : le item item = true := by simpa using total item item
  have counted : items.count item = (item :: later).count item := by
    rw [split, List.count_append, List.count_eq_zero.mpr fresh, Nat.zero_add]
  apply List.sublist_mergeSort trans total
  · refine List.pairwise_cons.mpr ⟨?_, List.pairwise_replicate.mpr (.inr reflexive)⟩
    intro copy isCopy
    exact List.eq_of_mem_replicate isCopy ▸ notGreater
  · rw [counted, split]
    exact (List.singleton_sublist.mpr isEarlier).append
      (List.replicate_sublist_iff.mpr (Nat.le_refl _))

/-- Sorting keeps what is equally small in order, so the first that is found in a sorted list
is the least one before it was sorted. -/
theorem leastFound_of_firstFound {items : List α} {item : α}
    (first : IsFirstFound isFound (items.mergeSort le) item) :
    IsLeastFound le isFound items item := by
  classical
  rcases first with ⟨before, after, sorted, found, notFound⟩
  have counts := (List.mergeSort_perm items le).count_eq item
  rw [sorted, List.count_append, List.count_cons_self] at counts
  have member : item ∈ items := List.count_pos_iff.mp (by omega)
  rcases List.eq_append_cons_of_mem member with ⟨earlier, later, split, fresh⟩
  refine ⟨earlier, later, split, found, ?_, ?_⟩
  · intro other isEarlier otherFound
    by_contra notLess
    have copies := copies_sublist_mergeSort trans total split fresh isEarlier
      (by simpa using notLess)
    rw [sorted] at copies
    -- The other item is not before the found one, so too many copies are after it.
    have rest := sublist_of_sublist_append copies fun isBefore => notFound other isBefore otherFound
    cases rest with
    | cons_cons => exact fresh isEarlier
    | cons _ isAfter =>
        have enough := List.replicate_sublist_iff.mp ((List.sublist_cons_self _ _).trans isAfter)
        omega
  · intro other isLater otherFound
    have isSorted := List.pairwise_mergeSort trans total items
    rw [sorted] at isSorted
    have inSorted : other ∈ before ++ item :: after := by
      rw [← sorted, List.mem_mergeSort, split]
      simp [isLater]
    rcases List.mem_append.mp inSorted with isBefore | notBefore
    · exact absurd otherFound (notFound other isBefore)
    · rcases List.mem_cons.mp notBefore with rfl | isAfter
      · simpa using total other other
      · exact List.rel_of_pairwise_cons (List.pairwise_append.mp isSorted).2.1 isAfter

theorem firstFound_mergeSort_iff {items : List α} {item : α} :
    IsFirstFound isFound (items.mergeSort le) item ↔ IsLeastFound le isFound items item := by
  refine ⟨leastFound_of_firstFound trans total, fun least => ?_⟩
  have member : item ∈ items := by
    rcases least with ⟨earlier, later, rfl, _⟩
    simp
  have found : isFound item := by
    rcases least with ⟨_, _, _, found, _⟩
    exact found
  rcases exists_firstFound ⟨item, List.mem_mergeSort.mpr member, found⟩ with ⟨other, first⟩
  rwa [least.unique (leastFound_of_firstFound trans total first)]

end Stability

theorem firstFound_cons_iff {first item : α} {rest : List α} :
    IsFirstFound isFound (first :: rest) item ↔
      isFound first ∧ item = first ∨ ¬isFound first ∧ IsFirstFound isFound rest item := by
  constructor
  · rintro ⟨earlier, later, split, found, notFound⟩
    cases earlier with
    | nil =>
        rcases List.cons.inj split with ⟨rfl, _⟩
        exact .inl ⟨found, rfl⟩
    | cons other others =>
        rcases List.cons.inj split with ⟨rfl, rfl⟩
        refine .inr ⟨notFound _ List.mem_cons_self, others, later, rfl, found, ?_⟩
        exact fun other member => notFound other (List.mem_cons_of_mem _ member)
  · rintro (⟨found, rfl⟩ | ⟨firstNotFound, earlier, later, rfl, found, notFound⟩)
    · exact ⟨[], rest, rfl, found, nofun⟩
    · refine ⟨first :: earlier, later, rfl, found, ?_⟩
      intro other member
      rcases List.mem_cons.mp member with rfl | member
      · exact firstNotFound
      · exact notFound other member

private theorem find?_eq_some_iff_firstFound {isWanted : α → Bool} {items : List α} {item : α} :
    items.find? isWanted = some item ↔ IsFirstFound (isWanted · = true) items item := by
  rw [List.find?_eq_some_iff_append]
  constructor
  · rintro ⟨wanted, earlier, later, split, unwanted⟩
    exact ⟨earlier, later, split, wanted, fun other member => by simpa using unwanted other member⟩
  · rintro ⟨earlier, later, split, wanted, unwanted⟩
    exact ⟨wanted, earlier, later, split, fun other member => by simpa using unwanted other member⟩

section Numbered

variable {β : Type} {items : List (Nat × β)} {isWanted : Nat × β → Bool} {number : Nat} {item : β}

private theorem find?_of_find?_mergeSort
    (found : (items.mergeSort fun left right => left.1 ≤ right.1).find? isWanted =
      some (number, item)) :
    (items.filter (·.1 = number)).find? isWanted = some (number, item) ∧
      ∀ other ∈ items, isWanted other = true → number ≤ other.1 := by
  have least := leastFound_of_firstFound
    (fun first second third => by simpa using Nat.le_trans) (fun left right => by
      simpa using Nat.le_total left.1 right.1) (find?_eq_some_iff_firstFound.mp found)
  rcases least with ⟨earlier, later, rfl, wanted, less, notLess⟩
  refine ⟨?_, ?_⟩
  · rw [List.filter_append, List.find?_append, List.filter_cons_of_pos (by simp),
      List.find?_cons_of_pos wanted]
    have unwanted : (earlier.filter (·.1 = number)).find? isWanted = none := by
      rw [List.find?_eq_none]
      intro other member isFound
      rcases List.mem_filter.mp member with ⟨isEarlier, same⟩
      have greater := less other isEarlier isFound
      simp_all
    rw [unwanted, Option.none_or]
  · intro other member isFound
    rcases List.mem_append.mp member with isEarlier | isLater
    · have greater := less other isEarlier isFound
      simp only [decide_eq_false_iff_not] at greater
      omega
    · rcases List.mem_cons.mp isLater with rfl | isLater
      · exact Nat.le_refl _
      · simpa using notLess other isLater isFound

/-- Among items that are sorted by number, what is found is the first item of the least number
under which there is any to be found. -/
theorem find?_mergeSort_iff :
    (items.mergeSort fun left right => left.1 ≤ right.1).find? isWanted = some (number, item) ↔
      (items.filter (·.1 = number)).find? isWanted = some (number, item) ∧
        ∀ other ∈ items, isWanted other = true → number ≤ other.1 := by
  refine ⟨find?_of_find?_mergeSort, ?_⟩
  rintro ⟨isFirst, least⟩
  have wanted := List.find?_some isFirst
  have member := (List.mem_filter.mp (List.mem_of_find?_eq_some isFirst)).1
  have isSome : ((items.mergeSort fun left right => left.1 ≤ right.1).find? isWanted).isSome :=
    List.find?_isSome.mpr ⟨(number, item), List.mem_mergeSort.mpr member, wanted⟩
  rcases Option.isSome_iff_exists.mp isSome with ⟨⟨other, found⟩, isFound⟩
  rcases find?_of_find?_mergeSort isFound with ⟨otherFirst, otherLeast⟩
  have otherMember := List.mem_mergeSort.mp (List.mem_of_find?_eq_some isFound)
  have same : other = number :=
    Nat.le_antisymm (otherLeast _ member wanted)
      (least _ otherMember (List.find?_some isFound))
  subst same
  rw [isFound, ← otherFirst, isFirst]

end Numbered

end RestModel
