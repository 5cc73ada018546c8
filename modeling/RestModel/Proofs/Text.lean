import Mathlib.Data.List.DropRight
import RestModel.Text.Blank
import RestModel.Text.Pieces

/-! # Cutting and joining texts -/

namespace RestModel.Text

/-! ## Blanks at the ends -/

theorem trimEndChars_sublist (text : List Char) : (trimEndChars text).Sublist text := by
  unfold trimEndChars
  rw [← List.reverse_sublist, List.reverse_reverse]
  exact List.dropWhile_sublist _

theorem trimChars_sublist (text : List Char) : (trimChars text).Sublist text :=
  (trimEndChars_sublist _).trans (List.dropWhile_sublist _)

theorem mem_of_mem_trimChars {c : Char} {text : List Char} (member : c ∈ trimChars text) :
    c ∈ text :=
  (trimChars_sublist text).subset member

/-- Only what follows the last character that is not blank is trimmed at the end. -/
theorem trimEndChars_append_cons {c : Char} (filled : isBlank c = false)
    (before after : List Char) :
    trimEndChars (before ++ c :: after) = before ++ c :: trimEndChars after := by
  unfold trimEndChars
  rw [List.reverse_append, List.reverse_cons, List.append_assoc, List.dropWhile_append]
  split
  · next nothing => simp_all
  · simp

theorem trimChars_cons {c : Char} (filled : isBlank c = false) (rest : List Char) :
    trimChars (c :: rest) = c :: trimEndChars rest := by
  unfold trimChars
  rw [List.dropWhile_cons_of_neg (by simp [filled])]
  exact trimEndChars_append_cons filled [] rest

private theorem trimEndChars_trimEndChars (text : List Char) :
    trimEndChars (trimEndChars text) = trimEndChars text :=
  List.rdropWhile_idempotent isBlank text

/-- Nothing is left to trim of a trimmed text. -/
theorem trimChars_trimChars (text : List Char) : trimChars (trimChars text) = trimChars text := by
  cases found : text.dropWhile isBlank with
  | nil => simp [trimChars, found, trimEndChars]
  | cons first rest =>
      have filled : isBlank first = false := by
        simpa [found] using List.head?_dropWhile_not isBlank text
      have trimmed : trimChars text = first :: trimEndChars rest := by
        rw [trimChars, found]
        exact trimEndChars_append_cons filled [] rest
      rw [trimmed, trimChars_cons filled, trimEndChars_trimEndChars]

theorem trim_trim (text : String) : trim (trim text) = trim text := by
  rw [trim, trim, String.toList_ofList, trimChars_trimChars]

/-! ## The longest beginning whose characters satisfy a test -/

theorem satisfies_of_mem_takeWhile {test : Char → Bool} {text : List Char} {c : Char}
    (member : c ∈ text.takeWhile test) : test c = true :=
  List.all_eq_true.mp List.all_takeWhile c member

/-- A text is cut where a test first fails in one way only. -/
theorem cut_iff {test : Char → Bool} {text before after : List Char} :
    (text = before ++ after ∧ (∀ c ∈ before, test c = true) ∧ ∀ c ∈ after.head?, test c = false) ↔
      before = text.takeWhile test ∧ after = text.dropWhile test := by
  constructor
  · rintro ⟨rfl, passes, fails⟩
    rw [List.takeWhile_append_of_pos passes, List.dropWhile_append_of_pos passes]
    cases after with
    | nil => simp
    | cons c rest => simp [fails c rfl]
  · rintro ⟨rfl, rfl⟩
    refine ⟨List.takeWhile_append_dropWhile.symm, fun c => satisfies_of_mem_takeWhile, ?_⟩
    intro c first
    have stops := List.head?_dropWhile_not test text
    rwa [Option.mem_def.mp first] at stops

theorem takeWhile_append_cons {test : Char → Bool} {before : List Char} {c : Char}
    (passes : ∀ c ∈ before, test c = true) (fails : test c = false) (after : List Char) :
    (before ++ c :: after).takeWhile test = before := by
  simp [List.takeWhile_append_of_pos passes, fails]

theorem dropWhile_append_cons {test : Char → Bool} {before : List Char} {c : Char}
    (passes : ∀ c ∈ before, test c = true) (fails : test c = false) (after : List Char) :
    (before ++ c :: after).dropWhile test = c :: after := by
  simp [List.dropWhile_append_of_pos passes, fails]

/-! ## Blank texts -/

/-- Nothing is left of a text exactly if all of it is blank. -/
theorem trimChars_eq_nil_iff {text : List Char} :
    trimChars text = [] ↔ ∀ c ∈ text, isBlank c = true := by
  constructor
  · intro nothing
    have all : text.takeWhile isBlank ++ text.dropWhile isBlank = text :=
      List.takeWhile_append_dropWhile
    cases found : text.dropWhile isBlank with
    | nil =>
        rw [found, List.append_nil] at all
        exact fun c member => satisfies_of_mem_takeWhile (all ▸ member)
    | cons first rest =>
        have filled := List.head?_dropWhile_not isBlank text
        rw [found] at filled
        rw [trimChars, found, ← List.nil_append (first :: rest),
          trimEndChars_append_cons (by simpa using filled)] at nothing
        cases nothing
  · intro blank
    have dropped : (text ++ []).dropWhile isBlank = [] := List.dropWhile_append_of_pos blank
    rw [List.append_nil] at dropped
    rw [trimChars, dropped]
    rfl

theorem trim_eq_empty_iff {text : String} : trim text = "" ↔ isBlankText text = true := by
  rw [isBlankText, List.all_eq_true, ← trimChars_eq_nil_iff, trim, ← String.toList_inj,
    String.toList_ofList, String.toList_empty]

theorem nonBlank?_eq_some_iff {text trimmed : String} :
    nonBlank? text = some trimmed ↔ trimmed ≠ "" ∧ trimmed = trim text := by
  unfold nonBlank?
  rw [Option.ite_none_left_eq_some, ← trim_eq_empty_iff, Option.some.injEq]
  constructor
  · rintro ⟨filled, rfl⟩
    exact ⟨filled, rfl⟩
  · rintro ⟨filled, rfl⟩
    exact ⟨filled, rfl⟩

/-! ## The first separator -/

theorem differs_of_not_mem {separator : Char} {text : List Char} (absent : separator ∉ text) :
    ∀ c ∈ text, (c != separator) = true := by
  intro c member
  have different : c ≠ separator := fun equal => absent (equal ▸ member)
  simpa using different

theorem not_mem_takeWhile (separator : Char) (text : List Char) :
    separator ∉ text.takeWhile (· != separator) := by
  intro member
  simpa using satisfies_of_mem_takeWhile member

theorem takeWhile_ne_of_not_mem {separator : Char} {text : List Char} (absent : separator ∉ text) :
    text.takeWhile (· != separator) = text := by
  have whole : (text ++ []).takeWhile (· != separator) =
      text ++ [].takeWhile (· != separator) :=
    List.takeWhile_append_of_pos (differs_of_not_mem absent)
  simpa using whole

/-- A text is cut at its first separator in one way only. -/
theorem append_separator_inj {separator : Char} {before after other rest : List Char}
    (absent : separator ∉ before) (otherAbsent : separator ∉ other)
    (equal : before ++ separator :: after = other ++ separator :: rest) :
    before = other ∧ after = rest := by
  have isSeparator : (separator != separator) = false := by simp
  have sameBefore : before = other := by
    rw [← takeWhile_append_cons (differs_of_not_mem absent) isSeparator, equal,
      takeWhile_append_cons (differs_of_not_mem otherAbsent) isSeparator]
  subst sameBefore
  exact ⟨rfl, (List.cons.inj (List.append_cancel_left equal)).2⟩

theorem dropWhile_ne_eq_nil_iff {separator : Char} {text : List Char} :
    text.dropWhile (· != separator) = [] ↔ separator ∉ text := by
  constructor
  · intro nothing
    have whole : text.takeWhile (· != separator) ++ text.dropWhile (· != separator) = text :=
      List.takeWhile_append_dropWhile
    rw [nothing, List.append_nil] at whole
    exact whole ▸ not_mem_takeWhile separator text
  · intro absent
    have dropped : (text ++ []).dropWhile (· != separator) = [] :=
      List.dropWhile_append_of_pos (differs_of_not_mem absent)
    rwa [List.append_nil] at dropped

theorem head_dropWhile_ne {separator c : Char} {text rest : List Char}
    (found : text.dropWhile (· != separator) = c :: rest) : c = separator := by
  have stops := List.head?_dropWhile_not (· != separator) text
  rw [found] at stops
  simpa using stops

theorem append_separator_iff {separator : Char} {text before after : List Char} :
    text = before ++ separator :: after ∧ separator ∉ before ↔
      before = text.takeWhile (· != separator) ∧
        text.dropWhile (· != separator) = separator :: after := by
  constructor
  · rintro ⟨rfl, absent⟩
    have isSeparator : (separator != separator) = false := by simp
    have differs := differs_of_not_mem absent
    exact ⟨(takeWhile_append_cons differs isSeparator _).symm,
      dropWhile_append_cons differs isSeparator _⟩
  · rintro ⟨rfl, found⟩
    refine ⟨?_, not_mem_takeWhile separator text⟩
    rw [← found, List.takeWhile_append_dropWhile]

theorem cutFirstChars_eq_some_iff {separator : Char} {text before after : List Char} :
    cutFirstChars separator text = some (before, after) ↔
      text = before ++ separator :: after ∧ separator ∉ before := by
  rw [append_separator_iff]
  unfold cutFirstChars
  split
  · next nothing => simp [nothing]
  · next c rest found => simp [found, head_dropWhile_ne found, eq_comm]

theorem cutFirstChars_eq_none_iff {separator : Char} {text : List Char} :
    cutFirstChars separator text = none ↔ separator ∉ text := by
  rw [← dropWhile_ne_eq_nil_iff]
  unfold cutFirstChars
  split
  · next nothing => simp [nothing]
  · next found => simp [found]

/-! ## The last separator -/

theorem beforeLast?_eq_some_iff {separator : Char} {text before : String} :
    beforeLast? separator text = some before ↔
      ∃ last, text.toList = before.toList ++ separator :: last ∧ separator ∉ last := by
  unfold beforeLast?
  constructor
  · intro found
    split at found
    · contradiction
    · next c rest dropped =>
        cases found
        cases head_dropWhile_ne dropped
        rcases append_separator_iff.mpr ⟨rfl, dropped⟩ with ⟨written, absent⟩
        refine ⟨(text.toList.reverse.takeWhile (· != separator)).reverse, ?_, ?_⟩
        · simpa using congrArg List.reverse written
        · rwa [List.mem_reverse]
  · rintro ⟨last, written, absent⟩
    have backwards : text.toList.reverse = last.reverse ++ separator :: before.toList.reverse := by
      simp [written]
    rw [(append_separator_iff.mp ⟨backwards, by rwa [List.mem_reverse]⟩).2]
    simp

theorem beforeLast?_eq_none_iff {separator : Char} {text : String} :
    beforeLast? separator text = none ↔ separator ∉ text.toList := by
  rw [← List.mem_reverse, ← dropWhile_ne_eq_nil_iff]
  unfold beforeLast?
  split
  · next nothing => simp [nothing]
  · next found => simp [found]

theorem length_lt_of_beforeLast? {separator : Char} {text before : String}
    (found : beforeLast? separator text = some before) : before.length < text.length := by
  rcases beforeLast?_eq_some_iff.mp found with ⟨last, written, _⟩
  rw [← String.length_toList, ← String.length_toList, written]
  simp

/-! ## What follows a beginning -/

theorem afterChars?_eq_some_iff {beginning text rest : List Char} :
    afterChars? beginning text = some rest ↔ text = beginning ++ rest := by
  induction beginning generalizing text with
  | nil => simp [afterChars?]
  | cons c beginning induction =>
      cases text with
      | nil => simp [afterChars?]
      | cons d text =>
          by_cases same : c = d
          · simp [afterChars?, same, induction]
          · simp [afterChars?, same, Ne.symm same]

theorem after?_eq_some_iff {beginning text rest : String} :
    after? beginning text = some rest ↔ text = beginning ++ rest := by
  rw [after?, Option.map_eq_some_iff]
  constructor
  · rintro ⟨characters, found, rfl⟩
    rw [← String.toList_inj, String.toList_append, String.toList_ofList]
    exact afterChars?_eq_some_iff.mp found
  · rintro rfl
    exact ⟨rest.toList, afterChars?_eq_some_iff.mpr (String.toList_append ..), String.ofList_toList⟩

theorem beginsWith_iff {beginning text : String} :
    beginsWith beginning text = true ↔ ∃ rest, text = beginning ++ rest := by
  simp only [beginsWith, Option.isSome_iff_exists, after?_eq_some_iff]

/-! ## Pieces -/

theorem toList_join (separator : String) (texts : List String) :
    (join separator texts).toList = separator.toList.intercalate (texts.map (·.toList)) := by
  fun_induction join separator texts with
  | case1 => rfl
  | case2 => simp
  | case3 first rest nonempty induction =>
      have filled : rest.map (·.toList) ≠ [] := by simpa using nonempty
      rw [String.toList_append, String.toList_append, induction, List.map_cons,
        List.intercalate_cons_of_ne_nil filled]

theorem piecesBy_ne_nil (isSeparator : Char → Bool) (text : List Char) :
    piecesBy isSeparator text ≠ [] := by
  fun_induction piecesBy isSeparator text <;> simp

variable {separator : Char}

theorem piecesBy_append_separator (before after : List Char) :
    piecesBy (· == separator) (before ++ separator :: after) =
      piecesBy (· == separator) before ++ piecesBy (· == separator) after := by
  induction before with
  | nil => simp [piecesBy]
  | cons c rest induction =>
      by_cases isSeparator : c = separator
      · simp [piecesBy, isSeparator, induction]
      · cases found : piecesBy (· == separator) rest with
        | nil => exact absurd found (piecesBy_ne_nil _ rest)
        | cons first others => simp [piecesBy, isSeparator, induction, found]

theorem piecesBy_of_not_mem {text : List Char} (absent : separator ∉ text) :
    piecesBy (· == separator) text = [text] := by
  induction text with
  | nil => rfl
  | cons c rest induction =>
      have parts : separator ≠ c ∧ separator ∉ rest := by simpa using absent
      simp [piecesBy, parts.1.symm, induction parts.2]

private theorem intercalate_piecesBy (text : List Char) :
    [separator].intercalate (piecesBy (· == separator) text) = text := by
  induction text with
  | nil => rfl
  | cons c rest induction =>
      by_cases isSeparator : c = separator
      · simp [piecesBy, isSeparator, List.intercalate_cons_of_ne_nil (piecesBy_ne_nil _ rest),
          induction]
      · cases found : piecesBy (· == separator) rest with
        | nil => exact absurd found (piecesBy_ne_nil _ rest)
        | cons first others =>
            rw [found] at induction
            have joined : [separator].intercalate ((c :: first) :: others) =
                c :: [separator].intercalate (first :: others) := by
              cases others <;> simp [List.intercalate_cons_cons]
            simp [piecesBy, isSeparator, found, joined, induction]

theorem join_pieces (text : String) : join ":" (pieces ':' text) = text := by
  rw [← String.toList_inj, toList_join]
  simpa [pieces, Function.comp_def] using intercalate_piecesBy text.toList

private theorem intercalate_take_piecesBy_separator (rest : List Char) (count : Nat) :
    [separator].intercalate ((piecesBy (· == separator) (separator :: rest)).take (count + 2)) =
      separator :: [separator].intercalate ((piecesBy (· == separator) rest).take (count + 1)) := by
  have filled : (piecesBy (· == separator) rest).take (count + 1) ≠ [] := by
    simp [List.take_eq_nil_iff, piecesBy_ne_nil]
  simp [piecesBy, List.intercalate_cons_of_ne_nil filled]

private theorem intercalate_take_piecesBy_cons {c : Char} (different : c ≠ separator)
    (rest : List Char)
    (count : Nat) :
    [separator].intercalate ((piecesBy (· == separator) (c :: rest)).take (count + 1)) =
      c :: [separator].intercalate ((piecesBy (· == separator) rest).take (count + 1)) := by
  cases found : piecesBy (· == separator) rest with
  | nil => exact absurd found (piecesBy_ne_nil _ rest)
  | cons first others =>
      simp only [piecesBy, beq_iff_eq, different, if_false, found, List.take_succ_cons]
      cases others.take count with
      | nil => simp
      | cons second more => simp [List.intercalate_cons_cons]

/-- The first pieces of a text, put together again, are the text itself or what stands before
one of its separators. -/
theorem exists_intercalate_take_iff {text beginning : List Char} :
    (∃ count, beginning =
        [separator].intercalate ((piecesBy (· == separator) text).take (count + 1))) ↔
      beginning = text ∨ ∃ rest, text = beginning ++ separator :: rest := by
  induction text generalizing beginning with
  | nil => simp [piecesBy]
  | cons c rest induction =>
      have begins : ∀ others : List Char, (∃ count, others =
          [separator].intercalate ((piecesBy (· == separator) rest).take (count + 1))) ↔
            c :: others = c :: rest ∨ ∃ after, c :: rest = c :: others ++ separator :: after := by
        intro others
        simpa using induction
      by_cases isSeparator : c = separator
      · subst isSeparator
        constructor
        · rintro ⟨_ | count, rfl⟩
          · exact .inr ⟨rest, by simp [piecesBy]⟩
          · rw [intercalate_take_piecesBy_separator]
            exact (begins _).mp ⟨count, rfl⟩
        · intro begun
          cases beginning with
          | nil => exact ⟨0, by simp [piecesBy]⟩
          | cons d others =>
              have same : d = c := by
                rcases begun with equal | ⟨after, equal⟩ <;> simp at equal <;> simp [equal]
              subst same
              rcases (begins others).mpr begun with ⟨count, rfl⟩
              exact ⟨count + 1, (intercalate_take_piecesBy_separator rest count).symm⟩
      · simp only [intercalate_take_piecesBy_cons isSeparator]
        constructor
        · rintro ⟨count, rfl⟩
          exact (begins _).mp ⟨count, rfl⟩
        · intro begun
          cases beginning with
          | nil => simp [isSeparator] at begun
          | cons d others =>
              have same : d = c := by
                rcases begun with equal | ⟨after, equal⟩ <;> simp at equal <;> simp [equal]
              subst same
              rcases (begins others).mpr begun with ⟨count, rfl⟩
              exact ⟨count, rfl⟩

/-- A piece of a text stands between neighbouring separators, where one more is thought before
the text and one behind it. -/
def IsPiece (separator : Char) (text piece : List Char) : Prop :=
  separator ∉ piece ∧ ∃ before after,
    separator :: (text ++ [separator]) = before ++ separator :: (piece ++ separator :: after)

private theorem not_mem_of_mem_piecesBy {text piece : List Char}
    (member : piece ∈ piecesBy (· == separator) text) : separator ∉ piece := by
  induction text generalizing piece with
  | nil => simp_all [piecesBy]
  | cons c rest induction =>
      by_cases isSeparator : c = separator
      · simp only [piecesBy, isSeparator, beq_self_eq_true, if_true, List.mem_cons] at member
        rcases member with rfl | member
        · exact List.not_mem_nil
        · exact induction member
      · cases found : piecesBy (· == separator) rest with
        | nil => exact absurd found (piecesBy_ne_nil _ rest)
        | cons first others =>
            simp only [piecesBy, beq_iff_eq, isSeparator, if_false, found, List.mem_cons] at member
            rw [found] at induction
            rcases member with rfl | member
            · have absent := induction List.mem_cons_self
              simp [Ne.symm isSeparator, absent]
            · exact induction (List.mem_cons_of_mem _ member)

private theorem flatMap_piecesBy (text : List Char) :
    (piecesBy (· == separator) text).flatMap (separator :: ·) = separator :: text := by
  induction text with
  | nil => rfl
  | cons c rest induction =>
      by_cases isSeparator : c = separator
      · simp [piecesBy, isSeparator, induction]
      · cases found : piecesBy (· == separator) rest with
        | nil => exact absurd found (piecesBy_ne_nil _ rest)
        | cons first others =>
            rw [found] at induction
            simpa [piecesBy, isSeparator, found] using induction

theorem mem_piecesBy_iff {text piece : List Char} :
    piece ∈ piecesBy (· == separator) text ↔ IsPiece separator text piece := by
  constructor
  · intro member
    refine ⟨not_mem_of_mem_piecesBy member, ?_⟩
    rcases List.append_of_mem member with ⟨earlier, later, split⟩
    have ends : ∃ after, later.flatMap (separator :: ·) ++ [separator] = separator :: after := by
      cases later <;> simp
    rcases ends with ⟨after, isAfter⟩
    refine ⟨earlier.flatMap (separator :: ·), after, ?_⟩
    rw [← List.cons_append, ← flatMap_piecesBy, split, ← isAfter]
    simp
  · rintro ⟨absent, before, after, split⟩
    have whole : piecesBy (· == separator) (separator :: (text ++ [separator])) =
        [] :: (piecesBy (· == separator) text ++ [[]]) := by
      have divided := @piecesBy_append_separator separator [] (text ++ [separator])
      rwa [piecesBy_append_separator text []] at divided
    have divided : [] :: (piecesBy (· == separator) text ++ [[]]) =
        piecesBy (· == separator) before ++ piece :: piecesBy (· == separator) after := by
      rw [← whole, split, piecesBy_append_separator, piecesBy_append_separator,
        piecesBy_of_not_mem absent]
      rfl
    -- Neither the first nor the last of all these pieces is the given one.
    cases isBefore : piecesBy (· == separator) before with
    | nil => exact absurd isBefore (piecesBy_ne_nil _ before)
    | cons first earlier =>
        rw [isBefore, ← List.dropLast_concat_getLast (piecesBy_ne_nil _ after)] at divided
        have inner : piecesBy (· == separator) text =
            earlier ++ piece :: (piecesBy (· == separator) after).dropLast := by
          rw [List.cons_append, ← List.cons_append (a := piece), ← List.append_assoc] at divided
          exact (List.append_inj' (List.cons.inj divided).2 rfl).1
        simp [inner]

end RestModel.Text
