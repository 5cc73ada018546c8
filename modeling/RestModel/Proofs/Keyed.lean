import Mathlib.Data.List.Induction
import RestModel.Keyed

/-! # Maps with ordered keys, and what storing does to them -/

namespace RestModel.Keyed

theorem get?_cons_self (key : String) (value : α) (rest : List (String × α)) :
    get? key ((key, value) :: rest) = some value :=
  if_pos rfl

theorem get?_cons_of_ne {stored key : String} (different : stored ≠ key) (value : α)
    (rest : List (String × α)) : get? key ((stored, value) :: rest) = get? key rest :=
  if_neg different

theorem get?_insert_self (key : String) (value : α) (entries : List (String × α)) :
    get? key (insert key value entries) = some value := by
  induction entries with
  | nil => simp [insert, get?]
  | cons entry rest induction =>
      rcases entry with ⟨stored, old⟩
      simp only [insert]
      split
      · simp [get?]
      · split
        · simp [get?]
        · next different => simp [get?, Ne.symm different, induction]

theorem get?_insert_of_ne {key other : String} (different : other ≠ key) (value : α)
    (entries : List (String × α)) :
    get? other (insert key value entries) = get? other entries := by
  induction entries with
  | nil => simp [insert, get?, Ne.symm different]
  | cons entry rest induction =>
      rcases entry with ⟨stored, old⟩
      simp only [insert]
      split
      · simp [get?, Ne.symm different]
      · split
        · next equal => subst equal; simp [get?, Ne.symm different]
        · simp [get?, induction]

theorem get?_erase_of_ne {key other : String} (different : other ≠ key)
    (entries : List (String × α)) : get? other (erase key entries) = get? other entries := by
  induction entries with
  | nil => rfl
  | cons entry rest induction =>
      rcases entry with ⟨stored, value⟩
      by_cases isOther : stored = other
      · have kept : erase key ((stored, value) :: rest) = (stored, value) :: erase key rest :=
          List.filter_cons_of_pos (by simp [isOther, different])
        rw [kept, isOther, get?_cons_self, get?_cons_self]
      · rw [get?_cons_of_ne isOther, ← induction]
        unfold erase
        rw [List.filter_cons]
        split
        · exact get?_cons_of_ne isOther ..
        · rfl

theorem contains_eq_true_iff {key : String} {entries : List (String × α)} :
    contains key entries = true ↔ key ∈ keys entries := by
  induction entries with
  | nil => simp [contains, get?, keys]
  | cons entry rest induction =>
      rcases entry with ⟨stored, value⟩
      by_cases equal : stored = key
      · simp [contains, get?, keys, equal]
      · have shifted : contains key ((stored, value) :: rest) = contains key rest := by
          simp [contains, get?, equal]
        rw [shifted, induction]
        simp [keys, Ne.symm equal]

/-- What is found under a key is stored there. -/
theorem mem_of_get? {key : String} {value : α} {entries : List (String × α)}
    (found : get? key entries = some value) : (key, value) ∈ entries := by
  induction entries with
  | nil => contradiction
  | cons entry rest induction =>
      rcases entry with ⟨stored, old⟩
      simp only [get?] at found
      split at found
      · next equal =>
          subst equal
          cases found
          exact List.mem_cons_self
      · exact List.mem_cons_of_mem _ (induction found)

theorem exists_mem_of_mem_keys {key : String} {entries : List (String × α)}
    (member : key ∈ keys entries) : ∃ value, (key, value) ∈ entries := by
  rcases List.mem_map.mp member with ⟨entry, listed, equal⟩
  exact ⟨entry.2, equal ▸ listed⟩

@[simp]
theorem keys_map_values (change : α → β) (entries : List (String × α)) :
    keys (entries.map fun entry => (entry.1, change entry.2)) = keys entries := by
  simp [keys, Function.comp_def]

@[simp]
theorem values_map_values (change : α → β) (entries : List (String × α)) :
    values (entries.map fun entry => (entry.1, change entry.2)) =
      (values entries).map change := by
  simp [values, Function.comp_def]

theorem get?_map_values (change : α → β) (key : String) (entries : List (String × α)) :
    get? key (entries.map fun entry => (entry.1, change entry.2)) =
      (get? key entries).map change := by
  induction entries with
  | nil => rfl
  | cons entry rest induction =>
      simp only [List.map_cons, get?]
      split
      · rfl
      · exact induction

theorem eq_of_keys_of_values {entries other : List (String × α)}
    (sameKeys : keys entries = keys other) (sameValues : values entries = values other) :
    entries = other := by
  induction entries generalizing other with
  | nil => simpa [keys] using sameKeys
  | cons entry rest induction =>
      cases other with
      | nil => simp [keys] at sameKeys
      | cons first others =>
          simp only [keys, values, List.map_cons, List.cons.injEq] at sameKeys sameValues
          rw [Prod.ext sameKeys.1 sameValues.1, induction sameKeys.2 sameValues.2]

/-- Storing a value keeps every entry that was there under another key. -/
theorem mem_insert {key : String} {value : α} {entry : String × α}
    {entries : List (String × α)} (member : entry ∈ insert key value entries) :
    entry = (key, value) ∨ entry ∈ entries := by
  induction entries with
  | nil => simpa [insert] using member
  | cons first rest induction =>
      rcases first with ⟨stored, old⟩
      simp only [insert] at member
      split at member
      · simpa using member
      · split at member
        · rcases List.mem_cons.mp member with equal | member
          · exact .inl equal
          · exact .inr (List.mem_cons_of_mem _ member)
        · rcases List.mem_cons.mp member with equal | member
          · exact .inr (List.mem_cons.mpr (.inl equal))
          · rcases induction member with equal | member
            · exact .inl equal
            · exact .inr (List.mem_cons_of_mem _ member)

/-- A key that is stored for the first time is added to the keys. -/
theorem keys_insert_perm {key : String} (value : α) {entries : List (String × α)}
    (fresh : key ∉ keys entries) :
    (keys (insert key value entries)).Perm (key :: keys entries) := by
  induction entries with
  | nil => exact .refl _
  | cons entry rest induction =>
      rcases entry with ⟨stored, old⟩
      have parts : key ≠ stored ∧ key ∉ keys rest := by simpa [keys] using fresh
      simp only [insert]
      split
      · exact .refl _
      · rw [if_neg parts.1]
        exact (List.Perm.cons stored (induction parts.2)).trans (.swap key stored _)

/-- The first value stored under a key stays. -/
theorem get?_insertNew_of_some {key other : String} {value stored : α}
    {entries : List (String × α)} (found : get? other entries = some stored) :
    get? other (insertNew key value entries) = some stored := by
  unfold insertNew
  split
  · exact found
  · next absent =>
      have different : other ≠ key := by
        intro equal
        subst equal
        exact absent (by simp [contains, found])
      rw [get?_insert_of_ne different, found]

theorem contains_insertNew_self (key : String) (value : α) (entries : List (String × α)) :
    contains key (insertNew key value entries) = true := by
  unfold insertNew
  split
  · assumption
  · simp [contains, get?_insert_self]

theorem contains_insertNew_of_contains {key other : String} (value : α)
    {entries : List (String × α)} (stored : contains other entries = true) :
    contains other (insertNew key value entries) = true := by
  rcases Option.isSome_iff_exists.mp stored with ⟨old, found⟩
  simp [contains, get?_insertNew_of_some found]

private theorem isEmpty_insertNew (key : String) (value : α) (entries : List (String × α)) :
    (insertNew key value entries).isEmpty = false := by
  have stored := contains_insertNew_self key value entries
  cases inserted : insertNew key value entries with
  | nil => simp [inserted, contains, get?] at stored
  | cons first rest => rfl

theorem isEmpty_foldl_insertNew (others entries : List (String × α)) :
    (others.foldl (fun map (key, value) => insertNew key value map) entries).isEmpty =
      (others.isEmpty && entries.isEmpty) := by
  induction others generalizing entries with
  | nil => rfl
  | cons other rest induction => simp [induction, isEmpty_insertNew]

theorem mem_insertNew {key : String} {value : α} {entry : String × α}
    {entries : List (String × α)} (member : entry ∈ insertNew key value entries) :
    entry = (key, value) ∨ entry ∈ entries := by
  unfold insertNew at member
  split at member
  · exact .inr member
  · exact mem_insert member

theorem mem_foldl_insertNew {entry : String × α} {others entries : List (String × α)}
    (member : entry ∈ others.foldl (fun map (key, value) => insertNew key value map) entries) :
    entry ∈ others ∨ entry ∈ entries := by
  induction others generalizing entries with
  | nil => exact .inr member
  | cons other rest induction =>
      rcases induction member with member | member
      · exact .inl (List.mem_cons_of_mem _ member)
      · rcases mem_insertNew member with rfl | member
        · exact .inl List.mem_cons_self
        · exact .inr member

theorem nodup_keys_insertNew (key : String) (value : α) {entries : List (String × α)}
    (nodup : (keys entries).Nodup) : (keys (insertNew key value entries)).Nodup := by
  unfold insertNew
  split
  · exact nodup
  · next absent =>
      have fresh : key ∉ keys entries := fun member =>
        absent (contains_eq_true_iff.mpr member)
      exact (keys_insert_perm value fresh).nodup_iff.mpr (List.nodup_cons.mpr ⟨fresh, nodup⟩)

/-! ## Maps are determined by what is stored in them -/

theorem get?_eq_none {key : String} {entries : List (String × α)} (absent : key ∉ keys entries) :
    get? key entries = none := by
  rw [← contains_eq_true_iff] at absent
  simpa [contains] using absent

theorem ordered_insert (key : String) (value : α) {entries : List (String × α)}
    (ordered : Ordered entries) : Ordered (insert key value entries) := by
  induction entries with
  | nil => exact List.pairwise_singleton _ _
  | cons entry rest induction =>
      rcases entry with ⟨stored, old⟩
      rcases List.pairwise_cons.mp ordered with ⟨first, later⟩
      simp only [insert]
      split
      · next less =>
          apply List.pairwise_cons.mpr ⟨?_, ordered⟩
          intro entry member
          rcases List.mem_cons.mp member with rfl | member
          · exact less
          · exact String.lt_trans less (first entry member)
      · next notLess =>
          split
          · next equal => exact List.pairwise_cons.mpr ⟨equal ▸ first, later⟩
          · next different =>
              have greater : stored < key :=
                Std.lt_of_le_of_ne (String.not_lt.mp notLess) (Ne.symm different)
              apply List.pairwise_cons.mpr ⟨?_, induction later⟩
              intro entry member
              rcases mem_insert member with rfl | member
              · exact greater
              · exact first entry member

theorem ordered_ofList (entries : List (String × α)) : Ordered (ofList entries) := by
  refine List.foldlRecOn entries _ .nil fun map ordered entry _ => ?_
  exact ordered_insert entry.1 entry.2 ordered

/-- The first key of a map is the least one that is stored. -/
theorem Ordered.first_le {first key : String} {old value : α} {rest : List (String × α)}
    (ordered : Ordered ((first, old) :: rest))
    (found : get? key ((first, old) :: rest) = some value) : first ≤ key := by
  rcases List.mem_cons.mp (mem_of_get? found) with equal | member
  · exact (Prod.mk.inj equal).1 ▸ String.le_refl _
  · exact Std.le_of_lt ((List.pairwise_cons.mp ordered).1 _ member)

theorem Ordered.get?_rest {first : String} {old : α} {rest : List (String × α)}
    (ordered : Ordered ((first, old) :: rest)) : get? first rest = none := by
  apply get?_eq_none
  intro member
  rcases List.mem_map.mp member with ⟨entry, isEntry, isFirst⟩
  have less := (List.pairwise_cons.mp ordered).1 entry isEntry
  exact String.lt_irrefl _ (isFirst ▸ less)

/-- An item that is put behind those of a key is added to all of them. -/
theorem Ordered.flatMap_alter_perm {entries : List (String × List α)} (ordered : Ordered entries)
    (key : String) (item : α) :
    ((alter key [] (· ++ [item]) entries).flatMap (·.2)).Perm
      (entries.flatMap (·.2) ++ [item]) := by
  induction entries with
  | nil => exact .refl _
  | cons entry rest induction =>
      rcases entry with ⟨stored, own⟩
      have others := induction (List.pairwise_cons.mp ordered).2
      unfold alter at others ⊢
      simp only [Keyed.insert]
      split
      · next less =>
          have absent : get? key ((stored, own) :: rest) = none := by
            apply Option.eq_none_iff_forall_ne_some.mpr
            intro value found
            exact String.not_lt.mpr (ordered.first_le found) less
          rw [absent]
          exact List.perm_append_comm
      · split
        · next equal =>
            subst equal
            rw [get?_cons_self, List.flatMap_cons, List.flatMap_cons, Option.getD_some,
              List.append_assoc, List.append_assoc]
            exact List.perm_append_comm.append_left own
        · next different =>
            rw [get?_cons_of_ne (Ne.symm different), List.flatMap_cons, List.flatMap_cons,
              List.append_assoc]
            exact others.append_left own

/-- What is stored is found under its key. -/
theorem Ordered.get?_of_mem {key : String} {value : α} {entries : List (String × α)}
    (ordered : Ordered entries) (member : (key, value) ∈ entries) :
    get? key entries = some value := by
  induction entries with
  | nil => cases member
  | cons entry rest induction =>
      rcases List.pairwise_cons.mp ordered with ⟨first, later⟩
      rcases List.mem_cons.mp member with equal | member
      · rw [← equal, get?_cons_self]
      · have different : entry.1 ≠ key := Std.ne_of_lt (first _ member)
        rw [← induction later member]
        exact get?_cons_of_ne different ..

/-- Of several values for a key, the last one counts. -/
theorem get?_ofList (key : String) (entries : List (String × α)) :
    get? key (ofList entries) = ((entries.filter (·.1 = key)).getLast?).map (·.2) := by
  induction entries using List.reverseRecOn with
  | nil => rfl
  | append_singleton entries last induction =>
      have stored : ofList (entries ++ [last]) = insert last.1 last.2 (ofList entries) :=
        List.foldl_append ..
      rw [stored, List.filter_append]
      by_cases isKey : last.1 = key
      · rw [List.filter_cons_of_pos (by simpa using isKey), List.filter_nil, List.getLast?_concat,
          ← isKey, get?_insert_self]
        rfl
      · rw [List.filter_cons_of_neg (by simpa using isKey), List.filter_nil, List.append_nil,
          get?_insert_of_ne (Ne.symm isKey), induction]

theorem mem_ofList_iff {key : String} {value : α} {entries : List (String × α)} :
    (key, value) ∈ ofList entries ↔
      (entries.filter (·.1 = key)).getLast? = some (key, value) := by
  constructor
  · intro member
    have found := (ordered_ofList entries).get?_of_mem member
    rw [get?_ofList] at found
    rcases Option.map_eq_some_iff.mp found with ⟨last, isLast, same⟩
    have isKey := (List.mem_filter.mp (List.mem_of_getLast? isLast)).2
    exact isLast.trans (congrArg some (Prod.ext (of_decide_eq_true isKey) same))
  · intro isLast
    apply mem_of_get?
    rw [get?_ofList, isLast, Option.map_some]

theorem mem_of_mem_ofList {entry : String × α} {entries : List (String × α)}
    (member : entry ∈ ofList entries) : entry ∈ entries :=
  (List.mem_filter.mp (List.mem_of_getLast? (mem_ofList_iff.mp member))).1

theorem Ordered.map_values {entries : List (String × α)} (ordered : Ordered entries)
    (change : α → β) : Ordered (entries.map fun entry => (entry.1, change entry.2)) :=
  List.pairwise_map.mpr ordered

/-- At most one value is stored under a key. -/
theorem Ordered.values_filter {entries : List (String × α)} (ordered : Ordered entries)
    (key : String) : values (entries.filter (·.1 = key)) = (get? key entries).toList := by
  induction entries with
  | nil => rfl
  | cons entry rest induction =>
      rcases entry with ⟨stored, value⟩
      have others := induction (List.pairwise_cons.mp ordered).2
      by_cases isKey : stored = key
      · subst isKey
        rw [ordered.get?_rest] at others
        rw [get?_cons_self, List.filter_cons_of_pos (by simp)]
        exact congrArg (value :: ·) others
      · rw [get?_cons_of_ne isKey, List.filter_cons_of_neg (by simpa using isKey), others]

theorem Ordered.ext {entries others : List (String × α)} (ordered : Ordered entries)
    (otherOrdered : Ordered others) (same : ∀ key, get? key entries = get? key others) :
    entries = others := by
  induction entries generalizing others with
  | nil =>
      cases others with
      | nil => rfl
      | cons entry rest =>
          have found := same entry.1
          rw [get?_cons_self] at found
          contradiction
  | cons entry rest induction =>
      rcases entry with ⟨key, value⟩
      have found := same key
      rw [get?_cons_self] at found
      cases others with
      | nil => contradiction
      | cons other otherRest =>
          rcases other with ⟨otherKey, otherValue⟩
          have otherFound := same otherKey
          rw [get?_cons_self] at otherFound
          have sameKey : key = otherKey :=
            String.le_antisymm (ordered.first_le otherFound) (otherOrdered.first_le found.symm)
          subst sameKey
          rw [get?_cons_self] at found
          cases found
          congr 1
          apply induction (List.pairwise_cons.mp ordered).2 (List.pairwise_cons.mp otherOrdered).2
          intro asked
          by_cases equal : key = asked
          · rw [← equal, ordered.get?_rest, otherOrdered.get?_rest]
          · have shifted := same asked
            rwa [get?_cons_of_ne equal, get?_cons_of_ne equal] at shifted

/-! ## Adding one map to another -/

theorem insert_insert_of_ne {key other : String} (different : key ≠ other) (value otherValue : α)
    (entries : List (String × α)) :
    insert key value (insert other otherValue entries) =
      insert other otherValue (insert key value entries) := by
  induction entries with
  | nil => grind [insert]
  | cons entry rest induction =>
      rcases entry with ⟨stored, old⟩
      grind [insert]

private theorem contains_insertNew_of_ne {key other : String} (different : other ≠ key) (value : α)
    (entries : List (String × α)) :
    contains other (insertNew key value entries) = contains other entries := by
  unfold insertNew
  split
  · rfl
  · rw [contains, contains, get?_insert_of_ne different]

private theorem insertNew_insertNew_of_ne {key other : String} (different : key ≠ other)
    (value otherValue : α) (entries : List (String × α)) :
    insertNew key value (insertNew other otherValue entries) =
      insertNew other otherValue (insertNew key value entries) := by
  have own := contains_insertNew_of_ne different otherValue entries
  have others := contains_insertNew_of_ne different.symm value entries
  by_cases stored : contains key entries = true
  · have kept : insertNew key value entries = entries := if_pos stored
    rw [kept]
    exact if_pos (own.trans stored)
  by_cases otherStored : contains other entries = true
  · have kept : insertNew other otherValue entries = entries := if_pos otherStored
    rw [kept]
    exact (if_pos (others.trans otherStored)).symm
  · have added : insertNew key value entries = insert key value entries := if_neg stored
    have otherAdded : insertNew other otherValue entries = insert other otherValue entries :=
      if_neg otherStored
    calc insertNew key value (insertNew other otherValue entries)
        = insert key value (insert other otherValue entries) := by
          rw [insertNew, if_neg (own ▸ stored), otherAdded]
      _ = insert other otherValue (insert key value entries) :=
          insert_insert_of_ne different value otherValue entries
      _ = insertNew other otherValue (insertNew key value entries) := by
          rw [insertNew.eq_def other, if_neg (others ▸ otherStored), added]

/-- Add the entries of a map to another one, which keeps what it has. -/
def addAll (entries others : List (String × α)) : List (String × α) :=
  others.foldl (fun map (key, value) => insertNew key value map) entries

section AddAll

variable {key : String} {value : α} {entries others : List (String × α)}

private theorem contains_addAll_left (stored : contains key entries = true)
    (others : List (String × α)) : contains key (addAll entries others) = true := by
  induction others generalizing entries with
  | nil => exact stored
  | cons entry rest induction => exact induction (contains_insertNew_of_contains _ stored)

private theorem contains_addAll_right (stored : key ∈ keys others) (entries : List (String × α)) :
    contains key (addAll entries others) = true := by
  induction others generalizing entries with
  | nil => contradiction
  | cons entry rest induction =>
      rcases List.mem_cons.mp stored with rfl | stored
      · exact contains_addAll_left (contains_insertNew_self ..) rest
      · exact induction stored _

/-- A key that is not among the others may as well be stored first. -/
theorem addAll_insertNew_left (fresh : key ∉ keys others) :
    addAll (insertNew key value entries) others = insertNew key value (addAll entries others) := by
  induction others generalizing entries with
  | nil => rfl
  | cons entry rest induction =>
      rcases entry with ⟨stored, old⟩
      have parts : key ≠ stored ∧ key ∉ keys rest := by simpa [keys] using fresh
      have step := @induction (insertNew stored old entries) parts.2
      rwa [insertNew_insertNew_of_ne parts.1] at step

private theorem addAll_insert_right (fresh : key ∉ keys others) :
    addAll entries (insert key value others) = insertNew key value (addAll entries others) := by
  induction others generalizing entries with
  | nil => rfl
  | cons entry rest induction =>
      rcases entry with ⟨stored, old⟩
      have parts : key ≠ stored ∧ key ∉ keys rest := by simpa [keys] using fresh
      rw [insert]
      split
      · exact addAll_insertNew_left fresh
      · rw [if_neg parts.1]
        exact induction parts.2

private theorem addAll_insertNew_right (key : String) (value : α)
    (entries others : List (String × α)) :
    addAll entries (insertNew key value others) = insertNew key value (addAll entries others) := by
  by_cases stored : contains key others = true
  · have kept := contains_addAll_right (contains_eq_true_iff.mp stored) entries
    rw [insertNew, if_pos stored, insertNew, if_pos kept]
  · have fresh : key ∉ keys others := fun member => stored (contains_eq_true_iff.mpr member)
    rw [insertNew, if_neg stored]
    exact addAll_insert_right fresh

theorem addAll_addAll (entries others more : List (String × α)) :
    addAll entries (addAll others more) = addAll (addAll entries others) more := by
  induction more generalizing others with
  | nil => rfl
  | cons entry rest induction =>
      have step := induction (insertNew entry.1 entry.2 others)
      rwa [addAll_insertNew_right] at step

end AddAll

/-! ## Maps that are filled one item after another -/

/-- A step that stores an item sees and changes only what is stored under the key of the
item. -/
structure StoresOwn (keyOf : ι → String)
    (step : List (String × α) → ι → List (String × α)) : Prop where
  ordered {entries : List (String × α)} (item : ι) : Ordered entries → Ordered (step entries item)
  other {key : String} {item : ι} (entries : List (String × α)) : keyOf item ≠ key →
    get? key (step entries item) = get? key entries
  own {entries others : List (String × α)} (item : ι) :
    get? (keyOf item) entries = get? (keyOf item) others →
    get? (keyOf item) (step entries item) = get? (keyOf item) (step others item)

namespace StoresOwn

variable {keyOf : ι → String} {step : List (String × α) → ι → List (String × α)}

theorem ordered_foldl (stores : StoresOwn keyOf step) (items : List ι)
    {entries : List (String × α)} (ordered : Ordered entries) :
    Ordered (items.foldl step entries) := by
  induction items generalizing entries with
  | nil => exact ordered
  | cons item rest induction => exact induction (stores.ordered item ordered)

/-- Only the items of a key matter for what is stored under it. -/
theorem get?_foldl (stores : StoresOwn keyOf step) (key : String) (items : List ι)
    {entries others : List (String × α)} (same : get? key entries = get? key others) :
    get? key (items.foldl step entries) =
      get? key ((items.filter (keyOf · = key)).foldl step others) := by
  induction items generalizing entries others with
  | nil => exact same
  | cons item rest induction =>
      by_cases isKey : keyOf item = key
      · rw [List.filter_cons_of_pos (by simpa using isKey)]
        subst isKey
        exact induction (stores.own item same)
      · rw [List.filter_cons_of_neg (by simpa using isKey)]
        exact induction ((stores.other entries isKey).trans same)

/-- Items may come in any order in which those of each key keep theirs. -/
theorem foldl_eq (stores : StoresOwn keyOf step) {items others : List ι}
    (same : ∀ key, items.filter (keyOf · = key) = others.filter (keyOf · = key)) :
    items.foldl step [] = others.foldl step [] := by
  apply Ordered.ext (stores.ordered_foldl items .nil) (stores.ordered_foldl others .nil)
  intro key
  rw [stores.get?_foldl key items rfl, same key, ← stores.get?_foldl key others rfl]

end StoresOwn

end RestModel.Keyed
