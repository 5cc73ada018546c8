/-! # Lists in which the first of several alike items stays

Items are put at the end of a list one after another, unless an item with the same key is there
already. A list that is filled with what another list was filled with holds what it holds when
everything is put into it at once. -/

namespace RestModel

/-- Put an item at the end of a list, unless one with its key is there. -/
def addNew [DecidableEq κ] (key : α → κ) (items : List α) (item : α) : List α :=
  if key item ∈ items.map key then items else items ++ [item]

variable [DecidableEq κ] {key : α → κ} {item : α}

theorem mem_foldl_addNew {items others : List α} (member : item ∈ others.foldl (addNew key) items) :
    item ∈ items ∨ item ∈ others := by
  induction others generalizing items with
  | nil => exact .inl member
  | cons other rest induction =>
      rcases induction member with added | later
      · unfold addNew at added
        split at added
        · exact .inl added
        · rcases List.mem_append.mp added with old | new
          · exact .inl old
          · exact .inr (List.mem_singleton.mp new ▸ List.mem_cons_self)
      · exact .inr (List.mem_cons_of_mem _ later)

/-- Every key that is put into a list is found there afterwards. -/
theorem keys_subset_foldl_addNew (items others : List α) :
    (items ++ others).map key ⊆ (others.foldl (addNew key) items).map key := by
  induction others generalizing items with
  | nil => simp
  | cons other rest induction =>
      refine List.Subset.trans ?_ (induction (addNew key items other))
      intro asked among
      unfold addNew
      split
      · next present =>
          have known : asked ∈ items.map key ∨ asked = key other ∨ asked ∈ rest.map key := by
            simpa [List.map_append] using among
          rw [List.map_append, List.mem_append]
          rcases known with old | rfl | later
          · exact .inl old
          · exact .inl present
          · exact .inr later
      · simpa using among

private theorem foldl_addNew_addNew (items others : List α) (item : α) :
    (addNew key others item).foldl (addNew key) items =
      addNew key (others.foldl (addNew key) items) item := by
  by_cases present : key item ∈ others.map key
  · have kept : key item ∈ (others.foldl (addNew key) items).map key := by
      apply keys_subset_foldl_addNew items others
      rw [List.map_append]
      exact List.mem_append_right _ present
    rw [addNew, if_pos present, addNew, if_pos kept]
  · rw [addNew, if_neg present, List.foldl_append]
    rfl

/-- Filling a list with another one that was filled before comes to filling it at once. -/
theorem foldl_addNew_foldl (items others more : List α) :
    (more.foldl (addNew key) others).foldl (addNew key) items =
      more.foldl (addNew key) (others.foldl (addNew key) items) := by
  induction more generalizing others with
  | nil => rfl
  | cons item rest induction =>
      rw [List.foldl_cons, induction, foldl_addNew_addNew, List.foldl_cons]

/-- A list is filled with those items whose keys come for the first time. -/
theorem foldl_addNew_nil (items : List α) :
    items.foldl (addNew key) [] = items.eraseDupsBy fun item other => key item = key other := by
  -- The loop collects what it keeps in front, so it runs beside a fold over the reversed list.
  have filled : ∀ others kept : List α,
      List.eraseDupsBy.loop (fun item other => key item = key other) others kept.reverse =
        others.foldl (addNew key) kept := by
    intro others
    induction others with
    | nil => simp [List.eraseDupsBy.loop]
    | cons item rest induction =>
        intro kept
        have present : (kept.reverse.any fun other => decide (key item = key other)) =
            decide (key item ∈ kept.map key) := by
          rw [Bool.eq_iff_iff]
          simp [@eq_comm _ (key item)]
        rw [List.eraseDupsBy.loop, List.foldl_cons, addNew, present]
        by_cases isKnown : key item ∈ kept.map key
        · rw [decide_eq_true isKnown, if_pos isKnown]
          exact induction kept
        · rw [decide_eq_false isKnown, if_neg isKnown, ← induction, List.reverse_append]
          rfl
  exact (filled items []).symm

theorem nodup_keys_foldl_addNew {items : List α} (distinct : (items.map key).Nodup)
    (others : List α) : ((others.foldl (addNew key) items).map key).Nodup := by
  induction others generalizing items with
  | nil => exact distinct
  | cons item rest induction =>
      apply induction
      unfold addNew
      split
      · exact distinct
      · next absent =>
          rw [List.map_append, List.nodup_append]
          refine ⟨distinct, List.nodup_cons.mpr ⟨List.not_mem_nil, .nil⟩, ?_⟩
          intro asked known last isLast same
          have isItem : last = key item := by simpa using isLast
          exact absent (isItem ▸ same ▸ known)

/-- It does not matter whether items are left out before or after duplicates are. -/
theorem eraseDups_filter [DecidableEq α] (keep : α → Bool) (items : List α) :
    (items.filter keep).eraseDups = items.eraseDups.filter keep := by
  match items with
  | [] => rfl
  | item :: rest =>
      -- Erasing leaves out later copies of the first item, so the induction is on the length.
      have shorter := eraseDups_filter keep (rest.filter fun other => !other == item)
      rw [List.eraseDups_cons]
      by_cases kept : keep item = true
      · rw [List.filter_cons_of_pos kept, List.filter_cons_of_pos kept, List.eraseDups_cons,
          ← shorter, List.filter_filter, List.filter_filter]
        simp only [Bool.and_comm]
      · have apart : ∀ other, keep other = true → (!other == item) = true := by
          intro other keepsOther
          have different : other ≠ item := fun equal => kept (equal ▸ keepsOther)
          simpa using different
        rw [List.filter_cons_of_neg kept, List.filter_cons_of_neg kept, ← shorter,
          List.filter_filter]
        congr 1
        apply List.filter_congr
        intro other _
        rw [Bool.eq_iff_iff, Bool.and_eq_true]
        exact ⟨fun keeps => ⟨keeps, apart other keeps⟩, And.left⟩
termination_by items.length
decreasing_by exact Nat.lt_succ_of_le (List.length_filter_le _ _)

end RestModel
