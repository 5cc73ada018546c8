import RestModel.Proofs.Directive.Grammar

/-! # The patterns of directives

A directive and the option in its brackets are each described by a pattern:

    ^\+(?P<name>[^=\[\]]+?)(?:\[(?P<option>[^\]]*)\])?(?:=(?P<payload>.*))?$
    ^(?P<key>[A-Za-z][A-Za-z0-9_]*)\((?P<value>[^()]*)\)$

Where a pattern leaves a choice, one way to match it is tried before another. Neither of the
two matches a text in two ways, so the order is of no account, and the readers find what the
groups of the patterns capture. -/

namespace RestModel.Directive

/-- A pattern, with as much of the notation as directives need. -/
inductive Pattern where
  /-- A character of a class. -/
  | char (accepts : Char → Bool)
  /-- Any number of characters of a class: as many as possible first, or as few. -/
  | many (isGreedy : Bool) (accepts : Char → Bool)
  | optional (pattern : Pattern)
  | group (name : String) (pattern : Pattern)
  | seq (first second : Pattern)

/-- What groups capture, without the groups that are not met. -/
abbrev Captures := List (String × List Char)

namespace Pattern

/-! ## Matching -/

/-- The ways to divide a text behind characters of a class, in the order in which they are
tried. -/
def divisions (isGreedy : Bool) (accepts : Char → Bool) : List Char → List (List Char × List Char)
  | [] => [([], [])]
  | c :: rest =>
      let longer :=
        if accepts c then
          (divisions isGreedy accepts rest).map fun (taken, left) => (c :: taken, left)
        else
          []
      if isGreedy then longer ++ [([], c :: rest)] else ([], c :: rest) :: longer

/-- A beginning of a text that a pattern matches, and the rest of the text. -/
structure Start where
  taken : List Char
  captures : Captures
  left : List Char

/-- The beginnings of a text that a pattern matches, in the order in which they are tried. -/
def starts : Pattern → List Char → List Start
  | .char accepts, text =>
      match text with
      | [] => []
      | c :: rest => if accepts c then [⟨[c], [], rest⟩] else []
  | .many isGreedy accepts, text =>
      (divisions isGreedy accepts text).map fun (taken, left) => ⟨taken, [], left⟩
  | .optional pattern, text => pattern.starts text ++ [⟨[], [], text⟩]
  | .group name pattern, text =>
      (pattern.starts text).map fun start =>
        { start with captures := (name, start.taken) :: start.captures }
  | .seq first second, text =>
      (first.starts text).flatMap fun start =>
        (second.starts start.left).map fun next =>
          ⟨start.taken ++ next.taken, start.captures ++ next.captures, next.left⟩

/-- What groups capture in the first way to match a whole text. -/
def captures? (pattern : Pattern) (text : List Char) : Option Captures :=
  ((pattern.starts text).find? (·.left.isEmpty)).map (·.captures)

/-- A pattern matches a text, of which its groups capture parts. -/
inductive Matches : Pattern → List Char → Captures → Prop
  | char {accepts : Char → Bool} {c : Char} : accepts c = true → Matches (.char accepts) [c] []
  | many {isGreedy : Bool} {accepts : Char → Bool} {text : List Char} :
      (∀ c ∈ text, accepts c = true) → Matches (.many isGreedy accepts) text []
  | absent {pattern : Pattern} : Matches (.optional pattern) [] []
  | present {pattern : Pattern} {text : List Char} {captures : Captures} :
      Matches pattern text captures → Matches (.optional pattern) text captures
  | group {name : String} {pattern : Pattern} {text : List Char} {captures : Captures} :
      Matches pattern text captures → Matches (.group name pattern) text ((name, text) :: captures)
  | seq {first second : Pattern} {text other : List Char} {captures others : Captures} :
      Matches first text captures → Matches second other others →
      Matches (.seq first second) (text ++ other) (captures ++ others)

variable {pattern first second : Pattern} {accepts : Char → Bool} {isGreedy : Bool}
  {text taken left : List Char} {captures : Captures} {name : String}

private theorem matches_char_iff :
    (char accepts).Matches text captures ↔
      ∃ c, accepts c = true ∧ text = [c] ∧ captures = [] := by
  constructor
  · intro matched
    cases matched with
    | char accepted => exact ⟨_, accepted, rfl, rfl⟩
  · rintro ⟨c, accepted, rfl, rfl⟩
    exact .char accepted

private theorem matches_many_iff :
    (many isGreedy accepts).Matches text captures ↔
      (∀ c ∈ text, accepts c = true) ∧ captures = [] := by
  constructor
  · intro matched
    cases matched with
    | many accepted => exact ⟨accepted, rfl⟩
  · rintro ⟨accepted, rfl⟩
    exact .many accepted

private theorem matches_optional_iff :
    (optional pattern).Matches text captures ↔
      (text = [] ∧ captures = []) ∨ pattern.Matches text captures := by
  constructor
  · intro matched
    cases matched with
    | absent => exact .inl ⟨rfl, rfl⟩
    | present matched => exact .inr matched
  · rintro (⟨rfl, rfl⟩ | matched)
    · exact .absent
    · exact .present matched

private theorem matches_group_iff :
    (group name pattern).Matches text captures ↔
      ∃ others, pattern.Matches text others ∧ captures = (name, text) :: others := by
  constructor
  · intro matched
    cases matched with
    | group matched => exact ⟨_, matched, rfl⟩
  · rintro ⟨others, matched, rfl⟩
    exact .group matched

private theorem matches_seq_iff :
    (seq first second).Matches text captures ↔
      ∃ before found, first.Matches before found ∧ ∃ after others, second.Matches after others ∧
        text = before ++ after ∧ captures = found ++ others := by
  constructor
  · intro matched
    cases matched with
    | seq isFirst isSecond => exact ⟨_, _, isFirst, _, _, isSecond, rfl, rfl⟩
  · rintro ⟨before, found, isFirst, after, others, isSecond, rfl, rfl⟩
    exact .seq isFirst isSecond

private theorem mem_divisions_iff :
    (taken, left) ∈ divisions isGreedy accepts text ↔
      text = taken ++ left ∧ ∀ c ∈ taken, accepts c = true := by
  induction text generalizing taken with
  | nil => cases taken <;> simp [divisions]
  | cons c rest induction =>
      have isDivision : (taken, left) ∈ divisions isGreedy accepts (c :: rest) ↔
          (accepts c = true ∧ ∃ others, (others, left) ∈ divisions isGreedy accepts rest ∧
            c :: others = taken) ∨ [] = taken ∧ c :: rest = left := by
        by_cases accepted : accepts c = true <;> cases isGreedy <;>
          simp [divisions, accepted, or_comm, eq_comm]
      rw [isDivision]
      cases taken with
      | nil => simp
      | cons first others =>
          simp only [induction, List.cons.injEq, List.cons_append, List.forall_mem_cons]
          constructor
          · rintro (⟨accepted, _, ⟨rfl, acceptsAll⟩, rfl, rfl⟩ | ⟨⟨⟩, _⟩)
            exact ⟨⟨rfl, rfl⟩, accepted, acceptsAll⟩
          · rintro ⟨⟨rfl, rfl⟩, accepted, acceptsAll⟩
            exact .inl ⟨accepted, others, ⟨rfl, acceptsAll⟩, rfl, rfl⟩

/-- The beginnings that are tried are those that the pattern matches. -/
theorem mem_starts_iff :
    (⟨taken, captures, left⟩ : Start) ∈ pattern.starts text ↔
      text = taken ++ left ∧ pattern.Matches taken captures := by
  induction pattern generalizing text taken captures left with
  | char accepts =>
      rw [matches_char_iff]
      cases text with
      | nil =>
          simp only [starts, List.not_mem_nil, false_iff]
          rintro ⟨equal, c, -, rfl, -⟩
          contradiction
      | cons c rest =>
          simp only [starts]
          constructor
          · intro member
            split at member
            · next accepted =>
                cases List.mem_singleton.mp member
                exact ⟨rfl, c, accepted, rfl, rfl⟩
            · contradiction
          · rintro ⟨equal, other, accepted, rfl, rfl⟩
            rcases List.cons_eq_cons.mp equal with ⟨rfl, rfl⟩
            simp [accepted]
  | many isGreedy accepts =>
      have divided : (taken, left) ∈ divisions isGreedy accepts text ↔
          text = taken ++ left ∧ ∀ c ∈ taken, accepts c = true := mem_divisions_iff
      rw [matches_many_iff, ← and_assoc, ← divided, starts]
      simp [and_comm, eq_comm]
  | optional pattern induction =>
      rw [matches_optional_iff, starts, List.mem_append, induction, List.mem_singleton,
        Start.mk.injEq]
      constructor
      · rintro (⟨equal, matched⟩ | ⟨rfl, rfl, rfl⟩)
        · exact ⟨equal, .inr matched⟩
        · exact ⟨rfl, .inl ⟨rfl, rfl⟩⟩
      · rintro ⟨equal, ⟨rfl, rfl⟩ | matched⟩
        · exact .inr ⟨rfl, rfl, equal.symm⟩
        · exact .inl ⟨equal, matched⟩
  | group name pattern induction =>
      rw [matches_group_iff, starts, List.mem_map]
      constructor
      · rintro ⟨start, isStart, ⟨⟩⟩
        rcases induction.mp isStart with ⟨equal, matched⟩
        exact ⟨equal, _, matched, rfl⟩
      · rintro ⟨equal, others, matched, rfl⟩
        exact ⟨⟨taken, others, left⟩, induction.mpr ⟨equal, matched⟩, rfl⟩
  | seq first second ofFirst ofSecond =>
      rw [matches_seq_iff, starts, List.mem_flatMap]
      simp only [List.mem_map]
      constructor
      · rintro ⟨start, isStart, next, isNext, ⟨⟩⟩
        rcases ofFirst.mp isStart with ⟨rfl, isFirst⟩
        rcases ofSecond.mp isNext with ⟨equal, isSecond⟩
        exact ⟨by rw [equal, List.append_assoc], _, _, isFirst, _, _, isSecond, rfl, rfl⟩
      · rintro ⟨rfl, before, found, isFirst, after, others, isSecond, rfl, rfl⟩
        exact ⟨⟨before, found, after ++ left⟩, ofFirst.mpr ⟨List.append_assoc _ _ _, isFirst⟩,
          ⟨after, others, left⟩, ofSecond.mpr ⟨rfl, isSecond⟩, rfl⟩

/-- Where a text is matched with the same captures in whatever way, those are what is found. -/
theorem captures?_eq_some_iff
    (unique : ∀ captures others, pattern.Matches text captures → pattern.Matches text others →
      captures = others) :
    pattern.captures? text = some captures ↔ pattern.Matches text captures := by
  have matched_of_found {start : Start}
      (found : (pattern.starts text).find? (·.left.isEmpty) = some start) :
      pattern.Matches text start.captures := by
    have ends : start.left = [] := by simpa using List.find?_some found
    rcases mem_starts_iff.mp (List.mem_of_find?_eq_some found) with ⟨equal, matched⟩
    rw [ends, List.append_nil] at equal
    exact equal ▸ matched
  rw [captures?, Option.map_eq_some_iff]
  constructor
  · rintro ⟨start, found, rfl⟩
    exact matched_of_found found
  · intro matched
    have isStart : (⟨text, captures, []⟩ : Start) ∈ pattern.starts text :=
      mem_starts_iff.mpr ⟨(List.append_nil text).symm, matched⟩
    cases found : (pattern.starts text).find? (·.left.isEmpty) with
    | none => exact absurd rfl (List.find?_eq_none.mp found _ isStart)
    | some start => exact ⟨start, rfl, unique _ _ (matched_of_found found) matched⟩

/-- A reader that finds what a pattern captures, in whatever way it matches, finds what it
captures in the first one. -/
theorem eq_map_captures? {read : Captures → α} {found? : Option α}
    (unique : ∀ captures others, pattern.Matches text captures → pattern.Matches text others →
      captures = others)
    (finds : ∀ value, found? = some value ↔
      ∃ captures, pattern.Matches text captures ∧ read captures = value) :
    found? = (pattern.captures? text).map read := by
  apply Option.ext
  intro value
  rw [finds, Option.map_eq_some_iff]
  simp only [captures?_eq_some_iff unique]

end Pattern

/-! ## The two patterns -/

open Pattern

/-- The pattern of a directive. -/
def directivePattern : Pattern :=
  .seq (.char (· == '+'))
    (.seq (.group "name" (.seq (.char isNameChar) (.many false isNameChar)))
      (.seq
        (.optional
          (.seq (.char (· == '['))
            (.seq (.group "option" (.many true (· != ']'))) (.char (· == ']')))))
        (.optional (.seq (.char (· == '=')) (.group "payload" (.many true (· != '\n')))))))

/-- The pattern of an option in brackets. -/
def optionPattern : Pattern :=
  .seq (.group "key" (.seq (.char Char.isAlpha) (.many true isOptionNameChar)))
    (.seq (.char (· == '('))
      (.seq (.group "value" (.many true isOptionValueChar)) (.char (· == ')'))))

section Parts

variable {text : List Char} {captures : Captures} {isGreedy : Bool} {name : String}

private theorem matches_sign_iff {sign : Char} :
    (Pattern.char (· == sign)).Matches text captures ↔ text = [sign] ∧ captures = [] := by
  simp [matches_char_iff]

private theorem matches_sign_seq_iff {pattern : Pattern} {sign : Char} :
    (Pattern.seq (.char (· == sign)) pattern).Matches text captures ↔
      ∃ rest, text = sign :: rest ∧ pattern.Matches rest captures := by
  simp only [matches_seq_iff, matches_sign_iff]
  constructor
  · rintro ⟨_, _, ⟨rfl, rfl⟩, rest, _, matched, rfl, rfl⟩
    exact ⟨rest, rfl, matched⟩
  · rintro ⟨rest, rfl, matched⟩
    exact ⟨_, _, ⟨rfl, rfl⟩, rest, captures, matched, rfl, rfl⟩

private theorem matches_word_iff {accepts acceptsNext : Char → Bool} :
    (Pattern.group name (.seq (.char accepts) (.many isGreedy acceptsNext))).Matches text
        captures ↔
      (∃ first rest, text = first :: rest ∧ accepts first = true ∧
        ∀ c ∈ rest, acceptsNext c = true) ∧ captures = [(name, text)] := by
  simp only [matches_group_iff, matches_seq_iff, matches_char_iff, matches_many_iff]
  constructor
  · rintro ⟨_, ⟨_, _, ⟨first, accepted, rfl, rfl⟩, rest, _, ⟨acceptsAll, rfl⟩, rfl, rfl⟩, rfl⟩
    exact ⟨⟨first, rest, rfl, accepted, acceptsAll⟩, rfl⟩
  · rintro ⟨⟨first, rest, rfl, accepted, acceptsAll⟩, rfl⟩
    exact ⟨[], ⟨[first], [], ⟨first, accepted, rfl, rfl⟩, rest, [], ⟨acceptsAll, rfl⟩, rfl, rfl⟩,
      rfl⟩

private theorem matches_part_iff {accepts : Char → Bool} :
    (Pattern.group name (.many isGreedy accepts)).Matches text captures ↔
      (∀ c ∈ text, accepts c = true) ∧ captures = [(name, text)] := by
  simp only [matches_group_iff, matches_many_iff]
  constructor
  · rintro ⟨_, ⟨accepted, rfl⟩, rfl⟩
    exact ⟨accepted, rfl⟩
  · rintro ⟨accepted, rfl⟩
    exact ⟨[], ⟨accepted, rfl⟩, rfl⟩

private theorem matches_closed_part_iff {accepts : Char → Bool} {sign : Char} :
    (Pattern.seq (.group name (.many isGreedy accepts)) (.char (· == sign))).Matches text
        captures ↔
      ∃ part, text = part ++ [sign] ∧ (∀ c ∈ part, accepts c = true) ∧
        captures = [(name, part)] := by
  simp only [matches_seq_iff, matches_part_iff, matches_sign_iff]
  constructor
  · rintro ⟨part, _, ⟨accepted, rfl⟩, _, _, ⟨rfl, rfl⟩, rfl, rfl⟩
    exact ⟨part, rfl, accepted, rfl⟩
  · rintro ⟨part, rfl, accepted, rfl⟩
    exact ⟨part, _, ⟨accepted, rfl⟩, _, _, ⟨rfl, rfl⟩, rfl, rfl⟩

/-- A part behind a sign, which may be left out together with the sign. -/
theorem matches_optional_part_iff {pattern : Pattern} {sign : Char} {close : List Char}
    {accepts : Char → Bool}
    (isPart : ∀ {text captures}, pattern.Matches text captures ↔
      ∃ part, text = part ++ close ∧ (∀ c ∈ part, accepts c = true) ∧ captures = [(name, part)]) :
    (Pattern.optional (.seq (.char (· == sign)) pattern)).Matches text captures ↔
      ∃ part? : Option (List Char), text = led sign (part?.map (· ++ close)) ∧
        (∀ part ∈ part?, ∀ c ∈ part, accepts c = true) ∧
        captures = (part?.map fun part => (name, part)).toList := by
  simp only [matches_optional_iff, matches_sign_seq_iff, isPart]
  constructor
  · rintro (⟨rfl, rfl⟩ | ⟨_, rfl, part, rfl, accepted, rfl⟩)
    · exact ⟨none, rfl, nofun, rfl⟩
    · exact ⟨some part, rfl, by simpa using accepted, rfl⟩
  · rintro ⟨_ | part, rfl, accepted, rfl⟩
    · exact .inl ⟨rfl, rfl⟩
    · exact .inr ⟨_, rfl, part, rfl, accepted part rfl, rfl⟩

end Parts

/-- What the groups of the pattern capture where a directive has some parts. -/
def Parts.captures (parts : Parts) : Captures :=
  ("name", parts.name) ::
    ((parts.option.map fun part => ("option", part)).toList ++
      (parts.payload.map fun part => ("payload", part)).toList)

private theorem accepts_iff_not_mem {sign : Char} {text : List Char} :
    (∀ c ∈ text, (c != sign) = true) ↔ sign ∉ text := by
  simp only [bne_iff_ne]
  exact ⟨fun different member => different sign member rfl,
    fun absent c member same => absent (same ▸ member)⟩

private theorem matches_directivePattern_iff {text : List Char} {captures : Captures} :
    directivePattern.Matches ('+' :: text) captures ↔
      ∃ parts, parts? text = some parts ∧ captures = parts.captures := by
  have payloadPart {text : List Char} {captures : Captures} :
      (Pattern.group "payload" (.many true (· != '\n'))).Matches text captures ↔
        ∃ part, text = part ++ [] ∧ (∀ c ∈ part, (c != '\n') = true) ∧
          captures = [("payload", part)] := by
    simp [matches_part_iff]
  rw [directivePattern, matches_sign_seq_iff]
  simp only [List.cons.injEq, true_and, exists_eq_left', matches_seq_iff, matches_word_iff,
    matches_optional_part_iff matches_closed_part_iff, matches_optional_part_iff payloadPart,
    accepts_iff_not_mem, List.append_nil, Option.map_id_fun', id_eq, parts?_eq_some_iff]
  constructor
  · rintro ⟨_, _, ⟨⟨first, rest, rfl, accepted, acceptsAll⟩, rfl⟩, _, _,
      ⟨_, _, ⟨option, rfl, unclosed, rfl⟩, _, _, ⟨payload, rfl, unbroken, rfl⟩, rfl, rfl⟩, rfl, rfl⟩
    have nameChars : ∀ c ∈ first :: rest, isNameChar c = true :=
      List.forall_mem_cons.mpr ⟨accepted, acceptsAll⟩
    exact ⟨⟨first :: rest, option, payload⟩,
      ⟨List.cons_ne_nil _ _, nameChars, rfl, unclosed, unbroken⟩, rfl⟩
  · rintro ⟨⟨name, option, payload⟩, ⟨named, nameChars, rfl, unclosed, unbroken⟩, rfl⟩
    rcases List.exists_cons_of_ne_nil named with ⟨first, rest, rfl⟩
    have nameChars := List.forall_mem_cons.mp nameChars
    exact ⟨_, _, ⟨⟨first, rest, rfl, nameChars⟩, rfl⟩, _, _,
      ⟨_, _, ⟨option, rfl, unclosed, rfl⟩, _, _, ⟨payload, rfl, unbroken, rfl⟩, rfl, rfl⟩, rfl, rfl⟩

/-- The parts that captures of the pattern of a directive tell of. -/
def Parts.ofCaptures (captures : Captures) : Parts where
  name := (captures.lookup "name").getD []
  option := captures.lookup "option"
  payload := captures.lookup "payload"

private theorem Parts.ofCaptures_captures (parts : Parts) : ofCaptures parts.captures = parts := by
  rcases parts with ⟨name, _ | option, _ | payload⟩ <;> rfl

/-- The parts of a directive are what the groups of its pattern capture. -/
theorem parts?_eq_captures (text : List Char) :
    parts? text = (directivePattern.captures? ('+' :: text)).map Parts.ofCaptures := by
  apply Pattern.eq_map_captures?
  · intro captures others matched alsoMatched
    rcases matches_directivePattern_iff.mp matched with ⟨parts, isRead, rfl⟩
    rcases matches_directivePattern_iff.mp alsoMatched with ⟨_, alsoRead, rfl⟩
    cases isRead.symm.trans alsoRead
    rfl
  · intro parts
    simp only [matches_directivePattern_iff]
    constructor
    · intro isRead
      exact ⟨parts.captures, ⟨parts, isRead, rfl⟩, parts.ofCaptures_captures⟩
    · rintro ⟨_, ⟨others, isRead, rfl⟩, rfl⟩
      rw [isRead, Parts.ofCaptures_captures]

private theorem matches_optionPattern_iff {text : List Char} {captures : Captures} :
    optionPattern.Matches text captures ↔
      ∃ key value, text = key ++ '(' :: (value ++ [')']) ∧
        (∃ first rest, key = first :: rest ∧ first.isAlpha = true ∧
          ∀ c ∈ rest, c.isAlphanum = true ∨ c = '_') ∧
        (∀ c ∈ value, c ≠ '(' ∧ c ≠ ')') ∧ captures = [("key", key), ("value", value)] := by
  rw [optionPattern, matches_seq_iff]
  simp only [matches_sign_seq_iff, matches_word_iff, matches_closed_part_iff,
    isOptionNameChar_eq_true_iff, isOptionValueChar_eq_true_iff]
  constructor
  · rintro ⟨key, _, ⟨isKey, rfl⟩, _, _, ⟨_, rfl, value, rfl, isValue, rfl⟩, rfl, rfl⟩
    exact ⟨key, value, rfl, isKey, isValue, rfl⟩
  · rintro ⟨key, value, rfl, isKey, isValue, rfl⟩
    exact ⟨key, _, ⟨isKey, rfl⟩, _, _, ⟨_, rfl, value, rfl, isValue, rfl⟩, rfl, rfl⟩

/-- The option that captures of the pattern of an option tell of. -/
def optionOfCaptures (captures : Captures) : DirectiveOption where
  name := String.ofList ((captures.lookup "key").getD [])
  value := String.ofList (Text.trimChars ((captures.lookup "value").getD []))

/-- An option is what the groups of its pattern capture, with its value trimmed. -/
theorem option?_eq_captures (text : List Char) :
    option? text = (optionPattern.captures? text).map optionOfCaptures := by
  apply Pattern.eq_map_captures?
  · intro captures others matched alsoMatched
    rcases matches_optionPattern_iff.mp matched with ⟨key, value, equal, isKey, -, rfl⟩
    rcases matches_optionPattern_iff.mp alsoMatched with ⟨_, _, alsoEqual, alsoKey, -, rfl⟩
    rcases Text.append_separator_inj (opening_not_mem_of_key isKey)
      (opening_not_mem_of_key alsoKey) (equal.symm.trans alsoEqual) with ⟨rfl, sameRest⟩
    rw [List.append_cancel_right sameRest]
  · intro option
    simp only [option?_eq_some_iff, matches_optionPattern_iff]
    constructor
    · rintro ⟨key, value, equal, isKey, isValue, rfl⟩
      exact ⟨_, ⟨key, value, equal, isKey, isValue, rfl⟩, rfl⟩
    · rintro ⟨_, ⟨key, value, equal, isKey, isValue, rfl⟩, rfl⟩
      exact ⟨key, value, equal, isKey, isValue, rfl⟩

end RestModel.Directive
