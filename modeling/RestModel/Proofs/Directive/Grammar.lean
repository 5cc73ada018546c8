import RestModel.Directive.Reader
import RestModel.Proofs.Text

/-! # The grammar of directives

A text is a directive exactly if it can be divided by the signs of the grammar. It can be
divided in one way only, and what is read are the trimmed parts of this division. -/

namespace RestModel.Directive

/-- A part that may be left out, behind the sign that announces it. -/
def led (sign : Char) : Option (List Char) → List Char
  | none => []
  | some part => sign :: part

@[simp] theorem led_none (sign : Char) : led sign none = [] := rfl

@[simp] theorem led_some (sign : Char) (part : List Char) :
    led sign (some part) = sign :: part := rfl

/-- The text that parts are divided from. -/
def Parts.written (parts : Parts) : List Char :=
  parts.name ++ (led '[' (parts.option.map (· ++ [']'])) ++ led '=' parts.payload)

/-- What the brackets of a directive hold, divided into a name and a value in parentheses. -/
structure OptionDivision where
  inside : List Char
  name : List Char
  value : List Char

structure OptionDivision.Obeys (division : OptionDivision) : Prop where
  inside : ']' ∉ division.inside
  trimmed : Text.trimChars division.inside = division.name ++ '(' :: (division.value ++ [')'])
  name : ∃ first rest, division.name = first :: rest ∧ first.isAlpha = true ∧
    ∀ c ∈ rest, c.isAlphanum = true ∨ c = '_'
  value : ∀ c ∈ division.value, c ≠ '(' ∧ c ≠ ')'

def OptionDivision.option (division : OptionDivision) : DirectiveOption :=
  ⟨String.ofList division.name, String.ofList (Text.trimChars division.value)⟩

/-- A directive divided by the signs of the grammar, every part as it is written. The
vocabulary, the feature and the arguments are what colons divide the trimmed name into. -/
structure Division where
  name : List Char
  vocabulary : List Char
  feature : List Char
  arguments : Option (List Char)
  option : Option OptionDivision
  payload : Option (List Char)

namespace Division

def parts (division : Division) : Parts :=
  ⟨division.name, division.option.map (·.inside), division.payload⟩

/-- The text that is divided. -/
def text (division : Division) : List Char := '+' :: division.parts.written

structure Obeys (division : Division) : Prop where
  name_ne_nil : division.name ≠ []
  name : ∀ c ∈ division.name, c ≠ '=' ∧ c ≠ '[' ∧ c ≠ ']'
  trimmed : Text.trimChars division.name =
    division.vocabulary ++ ':' :: (division.feature ++ led ':' division.arguments)
  vocabulary : ':' ∉ division.vocabulary ∧ Text.trimChars division.vocabulary ≠ []
  feature : ':' ∉ division.feature ∧ Text.trimChars division.feature ≠ []
  option : ∀ option ∈ division.option, option.Obeys
  payload : ∀ payload ∈ division.payload, '\n' ∉ payload

/-- The directive of a division: its trimmed parts, without arguments and payload that are
blank. -/
def directive (division : Division) (text : String) : Directive where
  text
  vocabulary := String.ofList (Text.trimChars division.vocabulary)
  feature := .ofName (String.ofList (Text.trimChars division.feature))
  arguments := division.arguments.bind nonEmptyPart?
  option := division.option.map (·.option)
  payload := division.payload.bind nonEmptyPart?

end Division

/-! ## What the reader accepts -/

theorem payloadPart?_eq_some_iff {text : List Char} {payload : Option (List Char)} :
    payloadPart? text = some payload ↔
      text = led '=' payload ∧ ∀ part ∈ payload, '\n' ∉ part := by
  unfold payloadPart?
  split
  · cases payload <;> simp
  · next written =>
      cases payload with
      | none => by_cases broken : '\n' ∈ written <;> simp [broken]
      | some part =>
          by_cases broken : '\n' ∈ written <;> simp [broken] <;> rintro rfl <;> exact broken
  · next filled unpaid =>
      cases payload with
      | none => simpa using filled
      | some part => simpa using fun equal => (unpaid part equal).elim

private theorem tailParts?_eq_some_iff {text : List Char} {option payload : Option (List Char)} :
    tailParts? text = some (option, payload) ↔
      text = led '[' (option.map (· ++ [']'])) ++ led '=' payload ∧
        (∀ inside ∈ option, ']' ∉ inside) ∧ ∀ part ∈ payload, '\n' ∉ part := by
  unfold tailParts?
  split
  · next written =>
      split
      · next close after found =>
          have cut : written = written.takeWhile (· != ']') ++ ']' :: after ∧
              ']' ∉ written.takeWhile (· != ']') :=
            Text.append_separator_iff.mpr ⟨rfl, Text.head_dropWhile_ne found ▸ found⟩
          cases option with
          | none => cases payload <;> simp
          | some inside =>
              simp only [Option.map_eq_some_iff, Prod.mk.injEq, Option.some.injEq,
                payloadPart?_eq_some_iff]
              constructor
              · rintro ⟨_, ⟨rfl, unbroken⟩, rfl, rfl⟩
                refine ⟨?_, ?_, unbroken⟩
                · simpa using cut.1
                · simpa using cut.2
              · rintro ⟨equal, absent, unbroken⟩
                have equal : written = inside ++ ']' :: led '=' payload := by simpa using equal
                have same := Text.append_separator_inj (absent inside rfl) cut.2
                  (equal.symm.trans cut.1)
                exact ⟨payload, ⟨same.2.symm, unbroken⟩, same.1.symm, rfl⟩
      · next nothing =>
          have unclosed := Text.dropWhile_ne_eq_nil_iff.mp nothing
          cases option with
          | none => cases payload <;> simp
          | some inside =>
              simp
              rintro rfl
              simp at unclosed
  · next unbracketed =>
      cases option with
      | none => simp [payloadPart?_eq_some_iff]
      | some inside => simpa using fun equal => (unbracketed _ equal).elim

private theorem isNameChar_eq_true_iff {c : Char} :
    isNameChar c = true ↔ c ≠ '=' ∧ c ≠ '[' ∧ c ≠ ']' := by
  simp [isNameChar, and_assoc]

private theorem parts?_eq_some_iff_takeWhile {text : List Char} {parts : Parts} :
    parts? text = some parts ↔
      parts.name ≠ [] ∧ parts.name = text.takeWhile isNameChar ∧
        tailParts? (text.dropWhile isNameChar) = some (parts.option, parts.payload) := by
  rcases parts with ⟨name, option, payload⟩
  unfold parts?
  dsimp only
  split
  · next unnamed =>
      simp only [reduceCtorEq, false_iff]
      rintro ⟨named, rfl, _⟩
      exact named (List.isEmpty_iff.mp unnamed)
  · next named =>
      simp only [Option.map_eq_some_iff, Parts.mk.injEq]
      constructor
      · rintro ⟨⟨_, _⟩, found, rfl, rfl, rfl⟩
        exact ⟨fun unnamed => named (List.isEmpty_iff.mpr unnamed), rfl, found⟩
      · rintro ⟨_, rfl, found⟩
        exact ⟨(option, payload), found, rfl, rfl, rfl⟩

theorem parts?_eq_some_iff {text : List Char} {parts : Parts} :
    parts? text = some parts ↔
      parts.name ≠ [] ∧ (∀ c ∈ parts.name, isNameChar c = true) ∧ text = parts.written ∧
        (∀ inside ∈ parts.option, ']' ∉ inside) ∧ ∀ part ∈ parts.payload, '\n' ∉ part := by
  rcases parts with ⟨name, option, payload⟩
  have stops : ∀ c ∈ (led '[' (option.map (· ++ [']'])) ++ led '=' payload).head?,
      isNameChar c = false := by
    intro c first
    cases option <;> cases payload <;> simp at first <;> subst first <;> rfl
  rw [parts?_eq_some_iff_takeWhile, tailParts?_eq_some_iff]
  constructor
  · rintro ⟨named, isName, tail, unbroken⟩
    have cut := Text.cut_iff.mpr ⟨isName, tail.symm⟩
    exact ⟨named, cut.2.1, cut.1, unbroken⟩
  · rintro ⟨named, passes, equal, unbroken⟩
    have cut := Text.cut_iff.mp ⟨equal, passes, stops⟩
    exact ⟨named, cut.1, cut.2.symm, unbroken⟩

private theorem nonEmptyPart?_eq_some_iff {part : List Char} {text : String} :
    nonEmptyPart? part = some text ↔
      Text.trimChars part ≠ [] ∧ text = String.ofList (Text.trimChars part) := by
  unfold nonEmptyPart?
  split
  · next nothing =>
      simp only [nothing, reduceCtorEq, ne_eq, not_true_eq_false, false_and]
  · next trimmed filled =>
      rw [Option.some.injEq, eq_comm]
      exact ⟨fun equal => ⟨filled, equal⟩, fun equal => equal.2⟩

private theorem nameParts?_eq_some_iff {name : List Char} {vocabulary feature : String}
    {arguments : Option String} :
    nameParts? name = some (vocabulary, feature, arguments) ↔
      ∃ first second third,
        Text.trimChars name = first ++ ':' :: (second ++ led ':' third) ∧ ':' ∉ first ∧
          ':' ∉ second ∧ nonEmptyPart? first = some vocabulary ∧
          nonEmptyPart? second = some feature ∧ arguments = third.bind nonEmptyPart? := by
  unfold nameParts?
  simp only [Option.bind_eq_bind, Option.bind_eq_some_iff, Prod.exists,
    Text.cutFirstChars_eq_some_iff]
  constructor
  · rintro ⟨first, rest, ⟨written, absent⟩, read⟩
    cases cut : Text.cutFirstChars ':' rest with
    | none =>
        simp only [cut, pure, Option.some.injEq, Prod.mk.injEq] at read
        rcases read with ⟨_, isVocabulary, _, isFeature, rfl, rfl, rfl⟩
        have secondAbsent := Text.cutFirstChars_eq_none_iff.mp cut
        exact ⟨first, rest, none, by simpa using written, absent, secondAbsent, isVocabulary,
          isFeature, rfl⟩
    | some parts =>
        rcases parts with ⟨second, part⟩
        simp only [cut, pure, Option.some.injEq, Prod.mk.injEq] at read
        rcases read with ⟨_, isVocabulary, _, isFeature, rfl, rfl, rfl⟩
        rcases Text.cutFirstChars_eq_some_iff.mp cut with ⟨rfl, secondAbsent⟩
        exact ⟨first, second, some part, written, absent, secondAbsent, isVocabulary, isFeature,
          rfl⟩
  · rintro ⟨first, second, third, written, absent, secondAbsent, isVocabulary, isFeature, rfl⟩
    refine ⟨first, second ++ led ':' third, ⟨written, absent⟩, ?_⟩
    cases third with
    | none =>
        have cut : Text.cutFirstChars ':' second = none :=
          Text.cutFirstChars_eq_none_iff.mpr secondAbsent
        simp [cut, isVocabulary, isFeature]
    | some part =>
        have cut : Text.cutFirstChars ':' (second ++ ':' :: part) = some (second, part) :=
          Text.cutFirstChars_eq_some_iff.mpr ⟨rfl, secondAbsent⟩
        simp [cut, isVocabulary, isFeature]

theorem isOptionNameChar_eq_true_iff {c : Char} :
    isOptionNameChar c = true ↔ c.isAlphanum = true ∨ c = '_' := by
  simp [isOptionNameChar]

theorem isOptionValueChar_eq_true_iff {c : Char} :
    isOptionValueChar c = true ↔ c ≠ '(' ∧ c ≠ ')' := by
  simp [isOptionValueChar]

private theorem isOptionNameChar_of_isAlpha {c : Char} (letter : c.isAlpha = true) :
    isOptionNameChar c = true := by
  simp [isOptionNameChar, Char.isAlphanum, letter]

theorem opening_not_mem_of_key {key : List Char}
    (isKey : ∃ first rest, key = first :: rest ∧ first.isAlpha = true ∧
      ∀ c ∈ rest, c.isAlphanum = true ∨ c = '_') : '(' ∉ key := by
  rcases isKey with ⟨first, rest, rfl, letter, others⟩
  intro member
  rcases List.mem_cons.mp member with rfl | member
  · exact absurd letter (by decide)
  · exact absurd (others _ member) (by decide)

theorem option?_eq_some_iff {text : List Char} {option : DirectiveOption} :
    option? text = some option ↔
      ∃ name value, text = name ++ '(' :: (value ++ [')']) ∧
        (∃ first rest, name = first :: rest ∧ first.isAlpha = true ∧
          ∀ c ∈ rest, c.isAlphanum = true ∨ c = '_') ∧
        (∀ c ∈ value, c ≠ '(' ∧ c ≠ ')') ∧
        option = ⟨String.ofList name, String.ofList (Text.trimChars value)⟩ := by
  constructor
  · intro read
    unfold option? at read
    split at read
    · contradiction
    · next first others =>
        dsimp only at read
        split at read
        · next rest opened =>
            split at read
            · next accepted =>
                cases read
                simp only [Bool.and_eq_true, beq_iff_eq] at accepted
                rcases accepted with ⟨letter, closed⟩
                have isName : isOptionNameChar first = true := isOptionNameChar_of_isAlpha letter
                refine ⟨_, rest.takeWhile isOptionValueChar, ?_,
                  ⟨first, others.takeWhile isOptionNameChar,
                    List.takeWhile_cons_of_pos isName, letter, ?_⟩, ?_, rfl⟩
                · rw [← closed, List.takeWhile_append_dropWhile, ← opened,
                    List.takeWhile_append_dropWhile]
                · intro c member
                  exact isOptionNameChar_eq_true_iff.mp (Text.satisfies_of_mem_takeWhile member)
                · intro c member
                  exact isOptionValueChar_eq_true_iff.mp (Text.satisfies_of_mem_takeWhile member)
            · contradiction
        · contradiction
  · rintro ⟨_, value, rfl, ⟨first, rest, rfl, letter, others⟩, inside, rfl⟩
    have nameChars : ∀ c ∈ first :: rest, isOptionNameChar c = true := by
      intro c member
      rcases List.mem_cons.mp member with rfl | member
      · exact isOptionNameChar_of_isAlpha letter
      · exact isOptionNameChar_eq_true_iff.mpr (others c member)
    have valueChars : ∀ c ∈ value, isOptionValueChar c = true :=
      fun c member => isOptionValueChar_eq_true_iff.mpr (inside c member)
    have opening : isOptionNameChar '(' = false := rfl
    have closing : isOptionValueChar ')' = false := rfl
    have nameTaken := Text.takeWhile_append_cons nameChars opening (value ++ [')'])
    have nameDropped := Text.dropWhile_append_cons nameChars opening (value ++ [')'])
    have valueTaken := Text.takeWhile_append_cons valueChars closing []
    have valueDropped := Text.dropWhile_append_cons valueChars closing []
    rw [List.cons_append] at nameTaken nameDropped
    simp only [option?, List.cons_append, nameTaken, nameDropped, valueTaken, valueDropped, letter]
    rfl

/-! ## Divisions -/

namespace OptionDivision

theorem Obeys.read {division : OptionDivision} (obeys : division.Obeys) :
    option? (Text.trimChars division.inside) = some division.option :=
  option?_eq_some_iff.mpr
    ⟨division.name, division.value, obeys.trimmed, obeys.name, obeys.value, rfl⟩

private theorem exists_of_option? {inside : List Char} {option : DirectiveOption}
    (closed : ']' ∉ inside)
    (read : option? (Text.trimChars inside) = some option) :
    ∃ division : OptionDivision, division.Obeys ∧ division.inside = inside := by
  rcases option?_eq_some_iff.mp read with ⟨name, value, trimmed, isName, isValue, _⟩
  exact ⟨⟨inside, name, value⟩, ⟨closed, trimmed, isName, isValue⟩, rfl⟩

theorem Obeys.unique {division other : OptionDivision} (obeys : division.Obeys)
    (otherObeys : other.Obeys) (same : division.inside = other.inside) : division = other := by
  have equal : division.name ++ '(' :: (division.value ++ [')']) =
      other.name ++ '(' :: (other.value ++ [')']) := by
    rw [← obeys.trimmed, ← otherObeys.trimmed, same]
  rcases Text.append_separator_inj (opening_not_mem_of_key obeys.name)
    (opening_not_mem_of_key otherObeys.name) equal with ⟨sameName, sameRest⟩
  have sameValue : division.value = other.value := List.append_cancel_right sameRest
  cases division
  cases other
  simp_all

end OptionDivision

namespace Division

private theorem Obeys.parts_read {division : Division} (obeys : division.Obeys) :
    parts? division.parts.written = some division.parts := by
  refine parts?_eq_some_iff.mpr ⟨obeys.name_ne_nil, ?_, rfl, ?_, obeys.payload⟩
  · intro c member
    exact isNameChar_eq_true_iff.mpr (obeys.name c member)
  · intro inside member
    rcases Option.map_eq_some_iff.mp member with ⟨option, given, rfl⟩
    exact (obeys.option option given).inside

private theorem Obeys.name_read {division : Division} (obeys : division.Obeys) :
    nameParts? division.name =
      some (String.ofList (Text.trimChars division.vocabulary),
        String.ofList (Text.trimChars division.feature), division.arguments.bind nonEmptyPart?) :=
  nameParts?_eq_some_iff.mpr
    ⟨division.vocabulary, division.feature, division.arguments, obeys.trimmed,
      obeys.vocabulary.1, obeys.feature.1,
      nonEmptyPart?_eq_some_iff.mpr ⟨obeys.vocabulary.2, rfl⟩,
      nonEmptyPart?_eq_some_iff.mpr ⟨obeys.feature.2, rfl⟩, rfl⟩

theorem Obeys.read {division : Division} (obeys : division.Obeys) {text : String}
    (divides : division.text = (Text.trim text).toList) :
    ofText text = .ok (division.directive (Text.trim text)) := by
  unfold ofText
  simp only [← divides, Division.text, obeys.parts_read]
  unfold ofParts
  simp only [parts, obeys.name_read]
  cases given : division.option with
  | none => simp [directive, given]
  | some option => simp [directive, given, (obeys.option option given).read]

end Division

private theorem ofParts_eq_ok {text : String} {parts : Parts} {read : Directive}
    (found : ofParts text parts = .ok read) :
    (nameParts? parts.name).isSome = true ∧
      ∀ inside ∈ parts.option, (option? (Text.trimChars inside)).isSome = true := by
  unfold ofParts at found
  split at found
  · contradiction
  · next named =>
      refine ⟨by simp [named], ?_⟩
      dsimp only at found
      split at found
      · next absent => simp [absent]
      · next inside given =>
          split at found
          · contradiction
          · next option optionRead =>
              intro other same
              cases given.symm.trans same
              simp [optionRead]

/-- A text that is read can be divided. -/
theorem exists_division {text : String} {read : Directive} (found : ofText text = .ok read) :
    ∃ division : Division, division.Obeys ∧ division.text = (Text.trim text).toList := by
  unfold ofText at found
  dsimp only at found
  split at found
  · next rest begins =>
      split at found
      · cases found
      · next parts divided =>
          rcases parts?_eq_some_iff.mp divided with ⟨named, nameChars, written, closed, unbroken⟩
          rcases ofParts_eq_ok found with ⟨nameRead, optionRead⟩
          rcases Option.isSome_iff_exists.mp nameRead with ⟨⟨_, _, _⟩, nameRead⟩
          rcases nameParts?_eq_some_iff.mp nameRead with
            ⟨first, second, third, trimmed, firstCut, secondCut, isVocabulary, isFeature, _⟩
          have options : ∃ option : Option OptionDivision,
              (∀ division ∈ option, division.Obeys) ∧ option.map (·.inside) = parts.option := by
            cases given : parts.option with
            | none => exact ⟨none, by simp, rfl⟩
            | some inside =>
                rcases Option.isSome_iff_exists.mp (optionRead inside given) with ⟨option, read⟩
                rcases OptionDivision.exists_of_option? (closed inside given) read with
                  ⟨division, obeys, rfl⟩
                exact ⟨some division, by simpa using obeys, rfl⟩
          rcases options with ⟨option, optionObeys, sameOption⟩
          refine ⟨⟨parts.name, first, second, third, option, parts.payload⟩, ?_, ?_⟩
          · exact ⟨named, fun c member => isNameChar_eq_true_iff.mp (nameChars c member), trimmed,
              ⟨firstCut, (nonEmptyPart?_eq_some_iff.mp isVocabulary).1⟩,
              ⟨secondCut, (nonEmptyPart?_eq_some_iff.mp isFeature).1⟩, optionObeys, unbroken⟩
          · rw [begins, written, Division.text, Division.parts, sameOption]
  · cases found

namespace Division

theorem led_append_inj {sign : Char} {before other : List Char}
    {part otherPart : Option (List Char)}
    (absent : sign ∉ before) (otherAbsent : sign ∉ other)
    (equal : before ++ led sign part = other ++ led sign otherPart) :
    before = other ∧ part = otherPart := by
  cases part with
  | none =>
      cases otherPart with
      | none => simpa using equal
      | some otherPart =>
          simp at equal
          simp [equal] at absent
  | some part =>
      cases otherPart with
      | none =>
          simp at equal
          simp [← equal] at otherAbsent
      | some otherPart => simpa using Text.append_separator_inj absent otherAbsent equal

theorem Obeys.unique {division other : Division} (obeys : division.Obeys)
    (otherObeys : other.Obeys) (same : division.text = other.text) : division = other := by
  have sameParts : division.parts = other.parts := by
    have read := obeys.parts_read
    rw [(List.cons.inj same).2, otherObeys.parts_read] at read
    exact (Option.some.inj read).symm
  have sameName : division.name = other.name := congrArg Parts.name sameParts
  have samePayload : division.payload = other.payload := congrArg Parts.payload sameParts
  have sameOption : division.option = other.option := by
    have sameInside : division.option.map (·.inside) = other.option.map (·.inside) :=
      congrArg Parts.option sameParts
    rcases given : division.option with _ | option <;>
      rcases otherGiven : other.option with _ | otherOption <;>
      simp only [given, otherGiven, Option.map_none, Option.map_some, reduceCtorEq,
        Option.some.injEq] at sameInside ⊢
    exact (obeys.option option given).unique (otherObeys.option otherOption otherGiven) sameInside
  have equal :=
    obeys.trimmed.symm.trans ((congrArg Text.trimChars sameName).trans otherObeys.trimmed)
  rcases Text.append_separator_inj obeys.vocabulary.1 otherObeys.vocabulary.1 equal with
    ⟨sameVocabulary, sameRest⟩
  rcases led_append_inj obeys.feature.1 otherObeys.feature.1 sameRest with
    ⟨sameFeature, sameArguments⟩
  cases division
  cases other
  simp_all

end Division

/-- A text is read exactly if it can be divided by the grammar, which goes in one way only,
and what is read are the trimmed parts of the division. -/
theorem ofText_grammar (text : String) :
    ((∃ read, ofText text = .ok read) ↔
        ∃ division : Division, division.Obeys ∧ division.text = (Text.trim text).toList) ∧
      (∀ division other : Division, division.Obeys → other.Obeys →
        division.text = other.text → division = other) ∧
      ∀ division : Division, division.Obeys → division.text = (Text.trim text).toList →
        ofText text = .ok (division.directive (Text.trim text)) := by
  refine ⟨⟨?_, ?_⟩, ?_, ?_⟩
  · rintro ⟨read, found⟩
    exact exists_division found
  · rintro ⟨division, obeys, divides⟩
    exact ⟨_, obeys.read divides⟩
  · intro division other obeys otherObeys
    exact obeys.unique otherObeys
  · intro division obeys
    exact obeys.read

/-- Blanks stand around every part, and the payload holds signs of the grammar. -/
def packText : String := " +shop : extraMethod: POST|PUT [wait( 10m )]= /items[0]=new "

def packDivision : Division where
  name := "shop : extraMethod: POST|PUT ".toList
  vocabulary := "shop ".toList
  feature := " extraMethod".toList
  arguments := some " POST|PUT".toList
  option := some ⟨"wait( 10m )".toList, "wait".toList, " 10m ".toList⟩
  payload := some " /items[0]=new".toList

theorem ofText_grammar_pack :
    packDivision.Obeys ∧ packDivision.text = (Text.trim packText).toList ∧
      ofText packText = .ok ⟨Text.trim packText, "shop", .extraMethod, some "POST|PUT",
        some ⟨"wait", "10m"⟩, some "/items[0]=new"⟩ := by
  have nameChars : (packDivision.name.all fun c => c ≠ '=' ∧ c ≠ '[' ∧ c ≠ ']') = true := by
    decide +kernel
  have waitChars : ("ait".toList.all fun c => c.isAlphanum = true ∨ c = '_') = true := by
    decide +kernel
  have minuteChars : (" 10m ".toList.all fun c => c ≠ '(' ∧ c ≠ ')') = true := by
    decide +kernel
  have obeys : packDivision.Obeys := by
    refine ⟨by decide +kernel, ?_, by decide +kernel, by decide +kernel, by decide +kernel, ?_, ?_⟩
    · exact fun c member => of_decide_eq_true (List.all_eq_true.mp nameChars c member)
    · rintro option ⟨⟩
      refine ⟨by decide +kernel, by decide +kernel, ⟨'w', "ait".toList, rfl, rfl, ?_⟩, ?_⟩
      · exact fun c member => of_decide_eq_true (List.all_eq_true.mp waitChars c member)
      · exact fun c member => of_decide_eq_true (List.all_eq_true.mp minuteChars c member)
    · rintro payload ⟨⟩
      decide +kernel
  have divides : packDivision.text = (Text.trim packText).toList := by decide +kernel
  have isRead : packDivision.directive (Text.trim packText) =
      ⟨Text.trim packText, "shop", .extraMethod, some "POST|PUT", some ⟨"wait", "10m"⟩,
        some "/items[0]=new"⟩ := by decide +kernel
  exact ⟨obeys, divides, isRead ▸ (ofText_grammar packText).2.2 packDivision obeys divides⟩

end RestModel.Directive
