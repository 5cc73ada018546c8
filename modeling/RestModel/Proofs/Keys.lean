import Mathlib.Data.List.SplitBy
import RestModel.Proofs.Build.Listings

/-! # The normal form of keys

A key falls into runs of equal characters. Its normal form has the same runs, each run of a
delimiter shortened to a single one, so two keys have one normal form exactly if they differ in
nothing but the lengths of runs of delimiters. By that a property counts as required. -/

namespace RestModel

namespace Naming

/-- The runs of equal characters in a text, each as long as possible. -/
def runs (text : List Char) : List (List Char) := text.splitBy (· == ·)

/-- Two runs are equal, or of one delimiter. -/
inductive RunsAgree : List Char → List Char → Prop
  | same (run : List Char) : RunsAgree run run
  | delimiters {delimiter : Char}
      (isDelimiter : delimiter = '_' ∨ delimiter = '-' ∨ delimiter = '.') (length other : Nat) :
      RunsAgree (.replicate (length + 1) delimiter) (.replicate (other + 1) delimiter)

/-- Two keys have the same runs, but for the lengths of runs of delimiters. -/
def KeysAgree (key other : String) : Prop :=
  List.Forall₂ RunsAgree (runs key.toList) (runs other.toList)

private theorem isDelimiter_iff {c : Char} :
    isDelimiter c = true ↔ c = '_' ∨ c = '-' ∨ c = '.' := by
  simp [isDelimiter, or_assoc]

/-! ## Texts without a delimiter twice in a row -/

/-- Shorten each run of one delimiter to a single one. -/
def collapseDelimiters : List Char → List Char
  | [] => []
  | c :: rest =>
      match rest with
      | [] => [c]
      | next :: _ =>
          if isDelimiter c && next == c then collapseDelimiters rest
          else c :: collapseDelimiters rest

/-- To look back at what is written is to look ahead from the last character of it. -/
theorem reverse_collapseFrom_cons (last : Char) (written text : List Char) :
    (collapseFrom (last :: written) text).reverse =
      written.reverse ++ collapseDelimiters (last :: text) := by
  induction text generalizing last written with
  | nil => exact List.reverse_cons
  | cons c rest induction =>
      rw [collapseFrom, List.head?_cons, collapseDelimiters]
      by_cases same : c = last
      · subst same
        cases isDelimiter c <;> simp [induction]
      · have different : ¬last = c := Ne.symm same
        simp [same, different, induction]

private theorem reverse_collapseFrom (text : List Char) :
    (collapseFrom [] text).reverse = collapseDelimiters text := by
  cases text with
  | nil => rfl
  | cons c rest =>
      rw [collapseFrom, List.head?_nil]
      simpa using reverse_collapseFrom_cons c [] rest

/-- No delimiter stands twice in a row. -/
def IsCollapsed (text : List Char) : Prop :=
  text.IsChain fun c next => isDelimiter c = true → next ≠ c

private theorem head?_collapseDelimiters (text : List Char) :
    (collapseDelimiters text).head? = text.head? := by
  fun_induction collapseDelimiters text with
  | case1 => rfl
  | case2 c => rfl
  | case3 c next rest isRepeated induction =>
      have same : next = c := by simpa using (Bool.and_eq_true_iff.mp isRepeated).2
      rw [induction, same, List.head?_cons, List.head?_cons]
  | case4 c next rest isKept induction => rfl

private theorem isCollapsed_collapseDelimiters (text : List Char) :
    IsCollapsed (collapseDelimiters text) := by
  fun_induction collapseDelimiters text with
  | case1 => exact .nil
  | case2 c => exact .singleton c
  | case3 c next rest isRepeated induction => exact induction
  | case4 c next rest isKept induction =>
      refine List.isChain_cons.mpr ⟨?_, induction⟩
      rw [head?_collapseDelimiters, List.head?_cons]
      rintro _ ⟨⟩ isDelimiter rfl
      exact isKept (by simp [isDelimiter])

private theorem collapseDelimiters_of_kept {c : Char} {rest : List Char}
    (kept : ∀ next ∈ rest.head?, isDelimiter c = true → next ≠ c) :
    collapseDelimiters (c :: rest) = c :: collapseDelimiters rest := by
  cases rest with
  | nil => rfl
  | cons next rest =>
      have different : ¬(isDelimiter c = true ∧ next = c) := by simpa using kept
      rw [collapseDelimiters]
      simp [different]

private theorem IsCollapsed.collapseDelimiters_eq {text : List Char}
    (collapsed : IsCollapsed text) :
    collapseDelimiters text = text := by
  induction text with
  | nil => rfl
  | cons c rest induction =>
      rcases List.isChain_cons.mp collapsed with ⟨kept, restCollapsed⟩
      rw [collapseDelimiters_of_kept kept, induction restCollapsed]

/-! ## Runs -/

/-- Runs of equal characters, each of which ends where another character starts. -/
inductive AreRuns : List (List Char) → Prop
  | nil : AreRuns []
  | cons {c : Char} {length : Nat} {rest : List (List Char)} (areRuns : AreRuns rest)
      (ends : rest.flatten.head? ≠ some c) : AreRuns (.replicate (length + 1) c :: rest)

private theorem areRuns_of_apart {list : List (List Char)} (filled : [] ∉ list)
    (equal : ∀ run ∈ list, run.IsChain fun c next => (c == next) = true)
    (apart : list.IsChain fun run next =>
      ∃ isFilled nextIsFilled, (run.getLast isFilled == next.head nextIsFilled) = false) :
    AreRuns list := by
  induction list with
  | nil => exact .nil
  | cons run rest induction =>
      have restRuns := induction (fun member => filled (List.mem_cons_of_mem _ member))
        (fun other member => equal other (List.mem_cons_of_mem _ member)) apart.tail
      cases run with
      | nil => exact absurd List.mem_cons_self filled
      | cons c tail =>
          have isChain : (c :: tail).IsChain (· = ·) := by simpa using equal _ List.mem_cons_self
          have isRun : c :: tail = List.replicate (tail.length + 1) c := by
            rw [List.replicate_succ, ← List.isChain_cons_eq_iff_eq_replicate.mp isChain]
          rw [isRun] at apart ⊢
          refine .cons restRuns ?_
          cases rest with
          | nil => simp
          | cons next others =>
              rcases (List.isChain_cons_cons.mp apart).1 with ⟨_, nextIsFilled, different⟩
              rw [List.getLast_replicate, beq_eq_false_iff_ne] at different
              rw [List.flatten_cons, List.head?_append_of_ne_nil _ nextIsFilled,
                List.head?_eq_some_head nextIsFilled]
              exact fun same => different (Option.some.inj same).symm

private theorem areRuns_runs (text : List Char) : AreRuns (runs text) :=
  areRuns_of_apart (List.nil_notMem_splitBy _ _) (fun _ => List.isChain_of_mem_splitBy)
    (List.isChain_getLast_head_splitBy _ _)

private theorem flatten_runs (text : List Char) : (runs text).flatten = text :=
  List.flatten_splitBy _ _

private theorem AreRuns.runs_flatten {list : List (List Char)} (areRuns : AreRuns list) :
    runs list.flatten = list := by
  induction areRuns with
  | nil => rfl
  | @cons c length rest _ ends induction =>
      have isRun : (List.replicate (length + 1) c).splitBy (· == ·) =
          [List.replicate (length + 1) c] :=
        List.splitBy_of_isChain (by simp) (List.isChain_replicate_of_rel _ (beq_self_eq_true c))
      rw [runs, List.flatten_cons, List.splitBy_append, isRun]
      · exact congrArg _ induction
      · rintro last isLast first isFirst
        rw [List.getLast?_replicate] at isLast
        rw [beq_eq_false_iff_ne]
        rintro rfl
        exact ends (by simpa [← Option.some.inj isLast] using isFirst)

/-! ## Shortened runs -/

/-- A run of a delimiter is shortened to a single one. -/
def shortened : List Char → List Char
  | [] => []
  | c :: rest => if isDelimiter c then [c] else c :: rest

private theorem shortened_replicate (c : Char) (length : Nat) :
    shortened (.replicate (length + 1) c) =
      .replicate ((if isDelimiter c then 0 else length) + 1) c := by
  rw [List.replicate_succ, shortened]
  split <;> rfl

private theorem collapseDelimiters_replicate_append {c : Char} {rest : List Char}
    (ends : rest.head? ≠ some c) (length : Nat) :
    collapseDelimiters (.replicate (length + 1) c ++ rest) =
      shortened (.replicate (length + 1) c) ++ collapseDelimiters rest := by
  have last : collapseDelimiters (c :: rest) = c :: collapseDelimiters rest :=
    collapseDelimiters_of_kept fun next isNext _ same => ends (same ▸ isNext)
  induction length with
  | zero => simpa [shortened] using last
  | succ length induction =>
      rw [shortened_replicate] at induction ⊢
      rw [List.replicate_succ, List.replicate_succ, List.cons_append, List.cons_append,
        collapseDelimiters, ← List.cons_append, ← List.replicate_succ, induction]
      cases isDelimiter c <;> simp [List.replicate_succ]

private theorem AreRuns.collapseDelimiters_flatten {list : List (List Char)}
    (areRuns : AreRuns list) :
    collapseDelimiters list.flatten = (list.map shortened).flatten := by
  induction areRuns with
  | nil => rfl
  | cons _ ends induction =>
      rw [List.flatten_cons, collapseDelimiters_replicate_append ends, induction, List.map_cons,
        List.flatten_cons]

private theorem AreRuns.map_shortened {list : List (List Char)} (areRuns : AreRuns list) :
    AreRuns (list.map shortened) := by
  induction areRuns with
  | nil => exact .nil
  | cons restRuns ends induction =>
      rw [List.map_cons, shortened_replicate]
      refine .cons induction ?_
      rwa [← restRuns.collapseDelimiters_flatten, head?_collapseDelimiters]

private theorem runs_collapseDelimiters (text : List Char) :
    runs (collapseDelimiters text) = (runs text).map shortened := by
  have areRuns := areRuns_runs text
  calc runs (collapseDelimiters text)
      = runs (collapseDelimiters (runs text).flatten) := by rw [flatten_runs]
    _ = runs ((runs text).map shortened).flatten := by rw [areRuns.collapseDelimiters_flatten]
    _ = (runs text).map shortened := areRuns.map_shortened.runs_flatten

private theorem replicate_eq_iff {c d : Char} {length other : Nat} :
    List.replicate (length + 1) c = List.replicate (other + 1) d ↔ c = d ∧ length = other := by
  simp [List.replicate_inj, and_comm]

private theorem runsAgree_iff {c d : Char} {length other : Nat} :
    RunsAgree (.replicate (length + 1) c) (.replicate (other + 1) d) ↔
      c = d ∧ (isDelimiter c = true ∨ length = other) := by
  constructor
  · generalize isRun : List.replicate (length + 1) c = run
    generalize isOther : List.replicate (other + 1) d = otherRun
    rintro (_ | ⟨isDelimiter, _, _⟩)
    · rcases replicate_eq_iff.mp (isRun.trans isOther.symm) with ⟨sameChar, sameLength⟩
      exact ⟨sameChar, .inr sameLength⟩
    · rcases replicate_eq_iff.mp isRun with ⟨rfl, _⟩
      rcases replicate_eq_iff.mp isOther with ⟨rfl, _⟩
      exact ⟨rfl, .inl (isDelimiter_iff.mpr isDelimiter)⟩
  · rintro ⟨rfl, isDelimiter | rfl⟩
    · exact .delimiters (isDelimiter_iff.mp isDelimiter) length other
    · exact .same _

/-- Runs agree exactly if they are the same when shortened. -/
theorem shortened_eq_iff {c d : Char} {length other : Nat} :
    shortened (.replicate (length + 1) c) = shortened (.replicate (other + 1) d) ↔
      RunsAgree (.replicate (length + 1) c) (.replicate (other + 1) d) := by
  rw [shortened_replicate, shortened_replicate, replicate_eq_iff, runsAgree_iff]
  apply and_congr_right
  rintro rfl
  cases isDelimiter c <;> simp

private theorem AreRuns.map_shortened_eq_iff {list others : List (List Char)}
    (areRuns : AreRuns list)
    (otherRuns : AreRuns others) :
    list.map shortened = others.map shortened ↔ List.Forall₂ RunsAgree list others := by
  induction areRuns generalizing others with
  | nil => cases otherRuns <;> simp
  | cons _ _ induction =>
      cases otherRuns with
      | nil => simp
      | cons otherRuns _ =>
          rw [List.map_cons, List.map_cons, List.cons.injEq, List.forall₂_cons, shortened_eq_iff,
            induction otherRuns]

/-! ## Keys -/

theorem toList_normalKey (key : String) :
    (normalKey key).toList = collapseDelimiters key.toList := by
  rw [normalKey, String.toList_ofList, reverse_collapseFrom]

private theorem isCollapsed_normalKey (key : String) : IsCollapsed (normalKey key).toList :=
  toList_normalKey key ▸ isCollapsed_collapseDelimiters key.toList

private theorem normalKey_normalKey (key : String) : normalKey (normalKey key) = normalKey key := by
  rw [← String.toList_inj, toList_normalKey, (isCollapsed_normalKey key).collapseDelimiters_eq]

private theorem normalKey_eq_iff {key other : String} :
    normalKey key = normalKey other ↔ KeysAgree key other := by
  have areRuns := areRuns_runs key.toList
  have otherRuns := areRuns_runs other.toList
  rw [KeysAgree, ← areRuns.map_shortened_eq_iff otherRuns, ← String.toList_inj, toList_normalKey,
    toList_normalKey]
  constructor
  · intro same
    rw [← runs_collapseDelimiters, ← runs_collapseDelimiters, same]
  · intro same
    rw [← flatten_runs key.toList, ← flatten_runs other.toList,
      areRuns.collapseDelimiters_flatten, otherRuns.collapseDelimiters_flatten, same]

end Naming

namespace Build

/-- A property is required exactly if an entry of its object's list agrees with its key. -/
theorem ensures_objectFields_required (builder : Builder) (typeName : String) (schema : Schema)
    (state : BuildState) :
    Ensures (objectFields builder.context typeName schema) state
      (fun list _ => ∀ field ∈ list.fields, field.required = true ↔
        ∃ entry ∈ schema.required, Naming.KeysAgree field.sourceKey entry) fun _ _ => True := by
  apply ensures_fieldList
  apply (ensures_propertyFields_lists builder _ [] schema.properties state).mono
  · intro fields middle lists
    have agree : ∀ field ∈ Field.sort fields, field.required = true ↔
        ∃ entry ∈ schema.required, Naming.KeysAgree field.sourceKey entry := by
      intro field isField
      rw [lists.isRequired field ((Field.sort_perm fields).mem_iff.mp isField),
        List.contains_iff_mem, List.mem_map]
      simp only [← Naming.normalKey_eq_iff, eq_comm]
    split
    · trivial
    · split
      · exact agree
      · exact ensures_of_forall _ middle fun _ _ => agree
  · exact fun _ _ => False.elim

end Build

namespace Naming

/-- The normal form of a key has no delimiter twice in a row and is its own normal form. It is
that of exactly the keys with the same runs, but for the lengths of runs of delimiters, and these
are what is required together with it. -/
theorem normalKey_canonical (key : String) :
    (¬∃ c, (c = '_' ∨ c = '-' ∨ c = '.') ∧ [c, c] <:+: (normalKey key).toList) ∧
      normalKey (normalKey key) = normalKey key ∧
      (∀ other, normalKey key = normalKey other ↔ KeysAgree key other) ∧
      ∀ (builder : Builder) (typeName : String) (schema : Schema) (state : BuildState),
        Build.Ensures (Build.objectFields builder.context typeName schema) state
          (fun list _ => ∀ field ∈ list.fields, field.sourceKey = key →
            (field.required = true ↔ ∃ entry ∈ schema.required, KeysAgree key entry))
          fun _ _ => True := by
  refine ⟨?_, normalKey_normalKey key, fun other => normalKey_eq_iff, ?_⟩
  · rintro ⟨c, isDelimiter, before, after, equal⟩
    have collapsed := isCollapsed_normalKey key
    rw [← equal] at collapsed
    have kept := List.isChain_pair.mp collapsed.left_of_append.right_of_append
    exact kept (isDelimiter_iff.mpr isDelimiter) rfl
  · intro builder typeName schema state
    apply (Build.ensures_objectFields_required builder typeName schema state).mono
    · rintro list after agree field isField rfl
      exact agree field isField
    · exact fun _ _ => id

/-- A run of one delimiter counts as a single one, and a delimiter is no other one. -/
example :
    normalKey "policy__id" = normalKey "policy_id" ∧ normalKey "policy_-id" = "policy_-id" ∧
      normalKey "policy-id" ≠ normalKey "policy_id" := by
  decide +kernel

end Naming

end RestModel
