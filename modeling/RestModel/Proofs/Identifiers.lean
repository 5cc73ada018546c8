import RestModel.Proofs.Build.Steps
import RestModel.Proofs.Naming

/-! # Identifiers of fields

A field gets a word of ASCII letters, digits and underscores for its name, which is marked as a raw
identifier where it is a keyword. That is not enough everywhere: some words are reserved although
they are no keywords yet, and a few keywords are not to be had as raw identifiers either. -/

namespace RestModel.Naming

/-- A word of ASCII letters, digits and underscores that does not start with a digit. -/
structure IsWord (word : String) : Prop where
  filled : word ≠ ""
  chars : ∀ c ∈ word.toList, c.isAlphanum = true ∨ c = '_'
  start : ∀ first ∈ word.toList.head?, first.isDigit = false

def strictKeywords : List String :=
  ["Self", "as", "async", "await", "break", "const", "continue", "crate", "dyn", "else", "enum",
    "extern", "false", "fn", "for", "if", "impl", "in", "let", "loop", "match", "mod", "move",
    "mut", "pub", "ref", "return", "self", "static", "struct", "super", "trait", "true", "type",
    "unsafe", "use", "where", "while"]

def reservedKeywords : List String :=
  ["abstract", "become", "box", "do", "final", "macro", "override", "priv", "try", "typeof",
    "unsized", "virtual", "yield"]

/-- The keywords that stand for places in paths also as raw identifiers. -/
def pathKeywords : List String := ["Self", "crate", "self", "super"]

/-- A word, or a raw identifier made of one. The lone underscore is neither. -/
inductive IsFieldIdentifier : String → Prop
  | plain {word : String} (isWord : IsWord word) (notLone : word ≠ "_")
      (notStrict : word ∉ strictKeywords) (notReserved : word ∉ reservedKeywords) :
      IsFieldIdentifier word
  | raw {word : String} (isWord : IsWord word) (notLone : word ≠ "_")
      (notPath : word ∉ pathKeywords) : IsFieldIdentifier ("r#" ++ word)

/-- The names of fields that are no identifiers. -/
def misnamed : List String := ["_", "r#crate", "r#self", "r#super"] ++ reservedKeywords

/-- A name of a field is a word, unmarked only if it is no keyword, and it is an identifier but for
some names. -/
structure NamesField (name : String) : Prop where
  spelt : ∃ word, IsWord word ∧ (name = word ∧ word ∉ strictKeywords ∨ name = "r#" ++ word)
  valid : IsFieldIdentifier name ↔ name ∉ misnamed

/-! ## Words and raw identifiers -/

theorem mem_keywords_iff {word : String} : word ∈ keywords ↔ word ∈ strictKeywords := by
  have same : keywords.Perm strictKeywords := by decide +kernel
  exact same.mem_iff

private theorem IsWord.mark_not_mem {word : String} (isWord : IsWord word) : '#' ∉ word.toList := by
  intro member
  have isMark := isWord.chars '#' member
  revert isMark
  decide

private theorem IsWord.ne_raw {word : String} (isWord : IsWord word) (other : String) :
    word ≠ "r#" ++ other := by
  rintro rfl
  exact isWord.mark_not_mem (by simp)

private theorem IsWord.isFieldIdentifier_iff {word : String} (isWord : IsWord word) :
    IsFieldIdentifier word ↔
      word ≠ "_" ∧ word ∉ strictKeywords ∧ word ∉ reservedKeywords := by
  constructor
  · rintro (⟨_, notLone, notStrict, notReserved⟩ | _)
    · exact ⟨notLone, notStrict, notReserved⟩
    · exact absurd rfl (isWord.ne_raw _)
  · rintro ⟨notLone, notStrict, notReserved⟩
    exact .plain isWord notLone notStrict notReserved

private theorem IsWord.isFieldIdentifier_raw_iff {word : String} (isWord : IsWord word) :
    IsFieldIdentifier ("r#" ++ word) ↔ word ≠ "_" ∧ word ∉ pathKeywords := by
  constructor
  · generalize marked : "r#" ++ word = name
    rintro (⟨nameIsWord, _, _, _⟩ | ⟨_, notLone, notPath⟩)
    · exact absurd marked.symm (nameIsWord.ne_raw word)
    · rcases (String.append_right_inj "r#").mp marked with rfl
      exact ⟨notLone, notPath⟩
  · rintro ⟨notLone, notPath⟩
    exact .raw isWord notLone notPath

/-! ## The word that a key is made into -/

/-- The name of a property's field before it is marked. -/
def fieldWord (key : String) : String :=
  String.ofList (withIdentifierStart ((snakeCase key).toList.map identifierChar))

private theorem isWord_fieldWord (key : String) : IsWord (fieldWord key) := by
  have mapped : ∀ c ∈ (snakeCase key).toList.map identifierChar, c.isAlphanum = true ∨ c = '_' := by
    intro c member
    rcases List.mem_map.mp member with ⟨original, _, rfl⟩
    unfold identifierChar
    split
    · next isKept => simpa [Text.isAsciiAlphanumeric] using isKept
    · exact .inr rfl
  unfold fieldWord
  generalize (snakeCase key).toList.map identifierChar = chars at mapped
  cases chars with
  | nil => exact ⟨by decide, by simp [withIdentifierStart], by simp [withIdentifierStart]⟩
  | cons first rest =>
      rw [withIdentifierStart]
      split
      · refine ⟨by simp [← String.toList_inj], ?_, by simp⟩
        rw [String.toList_ofList]
        exact List.forall_mem_cons.mpr ⟨.inr rfl, mapped⟩
      · next noDigit =>
          refine ⟨by simp [← String.toList_inj], ?_, by simpa using noDigit⟩
          rwa [String.toList_ofList]

private theorem fieldName_eq (key : String) :
    fieldName key = fieldWord key ∧ fieldWord key ∉ strictKeywords ∨
      fieldName key = "r#" ++ fieldWord key ∧ fieldWord key ∈ strictKeywords := by
  change escapeKeyword (fieldWord key) = _ ∧ _ ∨ escapeKeyword (fieldWord key) = _ ∧ _
  unfold escapeKeyword
  split
  · next isKeyword => exact .inr ⟨rfl, mem_keywords_iff.mp isKeyword⟩
  · next noKeyword => exact .inl ⟨rfl, fun isStrict => noKeyword (mem_keywords_iff.mpr isStrict)⟩

/-! ## Capitals

Snake case has no capitals, so the one keyword with a capital letter is no field's word. -/

theorem isCapital_iff {c : Char} : c.val ≥ 65 ∧ c.val ≤ 90 ↔ 65 ≤ c.toNat ∧ c.toNat ≤ 90 :=
  and_congr UInt32.le_iff_toNat_le UInt32.le_iff_toNat_le

private theorem isUpper_iff {c : Char} : c.isUpper = true ↔ 65 ≤ c.toNat ∧ c.toNat ≤ 90 :=
  decide_eq_true_iff.trans isCapital_iff

private theorem not_isUpper_of_gt {c : Char} (above : 90 < c.toNat) : c.isUpper = false := by
  rw [Bool.eq_false_iff, ne_eq, isUpper_iff]
  exact fun isUpper => Nat.not_le_of_gt above isUpper.2

private theorem not_isUpper_ofNat {code : Nat} (above : 90 < code) :
    (Char.ofNat code).isUpper = false := by
  by_cases valid : code.isValidChar
  · have isChar : Char.ofNat code = Char.ofNatAux code valid := dif_pos valid
    rw [isChar]
    exact not_isUpper_of_gt above
  · have isNul : Char.ofNat code = '\x00' := dif_neg valid
    rw [isNul]
    decide

private theorem not_isUpper_toLower (c : Char) : c.toLower.isUpper = false := by
  unfold Char.toLower
  split
  · next isCapital =>
      have bounds := isCapital_iff.mp isCapital
      have shifted : (c.val + 32).toNat = c.toNat + 32 := by
        rw [UInt32.toNat_add]
        exact Nat.mod_eq_of_lt (by change c.toNat + 32 < 2 ^ 32; omega)
      apply not_isUpper_of_gt
      change 90 < (c.val + 32).toNat
      omega
  · next noCapital =>
      rw [Bool.eq_false_iff, ne_eq, isUpper_iff]
      exact fun isUpper => noCapital (isCapital_iff.mpr isUpper)

private theorem not_isUpper_smallLetters {c small : Char} (member : small ∈ Text.smallLetters c) :
    small.isUpper = false := by
  have shifted : ∀ shift ∈ Text.smallLetterTable, 90 < shift.first + shift.distance := by
    decide +kernel
  unfold Text.smallLetters at member
  split at member
  · rcases List.mem_singleton.mp member with rfl
    exact not_isUpper_toLower c
  · next beyond =>
      split at member
      · rcases List.mem_pair.mp member with rfl | rfl
        · decide
        · exact not_isUpper_ofNat (by decide)
      · split at member
        · next shift found =>
            rcases List.mem_singleton.mp member with rfl
            have above := shifted shift (List.mem_of_find?_eq_some found)
            have within : shift.first ≤ c.toNat := by
              have isWithin := List.find?_some found
              simp only [Text.CodeSpan.contains, Bool.and_eq_true, decide_eq_true_eq] at isWithin
              exact isWithin.1.1
            exact not_isUpper_ofNat (by omega)
        · rcases List.mem_singleton.mp member with rfl
          exact not_isUpper_of_gt (by omega)

private theorem not_isUpper_snakeCaseFrom {written rest : List Char} (previous : Option Char)
    (noCapitals : ∀ c ∈ written, c.isUpper = false) :
    ∀ c ∈ snakeCaseFrom written previous rest, c.isUpper = false := by
  have underscored {written : List Char} (noCapitals : ∀ c ∈ written, c.isUpper = false) :
      ∀ c ∈ withUnderscore written, c.isUpper = false := by
    intro c member
    unfold withUnderscore at member
    split at member
    · cases member
    · exact noCapitals c member
    · rcases List.mem_cons.mp member with rfl | member
      · decide
      · exact noCapitals c member
  induction rest generalizing written previous with
  | nil => exact noCapitals
  | cons c rest induction =>
      rw [snakeCaseFrom]
      apply induction
      split
      · intro small member
        rcases List.mem_append.mp member with isSmall | member
        · exact not_isUpper_smallLetters (List.mem_reverse.mp isSmall)
        · split at member
          · exact underscored noCapitals small member
          · exact noCapitals small member
      · next noUppercase =>
          split
          · exact underscored noCapitals
          · refine List.forall_mem_cons.mpr ⟨?_, noCapitals⟩
            unfold Text.isUppercase at noUppercase
            split at noUppercase
            · simpa using noUppercase
            · exact not_isUpper_of_gt (by omega)

private theorem not_isUpper_fieldWord (key : String) :
    ∀ c ∈ (fieldWord key).toList, c.isUpper = false := by
  have mapped : ∀ c ∈ (snakeCase key).toList.map identifierChar, c.isUpper = false := by
    intro c member
    rcases List.mem_map.mp member with ⟨original, isOriginal, rfl⟩
    unfold identifierChar
    split
    · apply @not_isUpper_snakeCaseFrom [] key.toList none nofun
      simpa [snakeCase] using isOriginal
    · decide
  rw [fieldWord, String.toList_ofList]
  generalize (snakeCase key).toList.map identifierChar = chars at mapped
  unfold withIdentifierStart
  split
  · simp
  · split
    · exact List.forall_mem_cons.mpr ⟨by decide, mapped⟩
    · exact mapped

/-! ## Numbered names -/

theorem toList_numbered (name : String) (number : Nat) :
    (numbered name number).toList = name.toList ++ '_' :: Nat.toDigits 10 number := by
  simp [numbered]

private theorem exists_digit_numbered (name : String) (number : Nat) :
    ∃ c ∈ (numbered name number).toList, c.isDigit = true := by
  rcases List.exists_mem_of_ne_nil _ (Nat.toDigits_ne_nil (n := number) (b := 10)) with ⟨c, member⟩
  refine ⟨c, ?_, Nat.isDigit_of_mem_toDigits (by decide) (by decide) member⟩
  rw [toList_numbered]
  exact List.mem_append_right _ (List.mem_cons_of_mem _ member)

theorem IsWord.numbered {word : String} (isWord : IsWord word) (number : Nat) :
    IsWord (numbered word number) where
  filled := by
    rcases exists_digit_numbered word number with ⟨c, member, _⟩
    rintro empty
    rw [empty] at member
    cases member
  chars := by
    intro c member
    rw [toList_numbered] at member
    rcases List.mem_append.mp member with member | member
    · exact isWord.chars c member
    · rcases List.mem_cons.mp member with rfl | member
      · exact .inr rfl
      · left
        rw [Char.isAlphanum, Nat.isDigit_of_mem_toDigits (by decide) (by decide) member,
          Bool.or_true]
  start := by
    have filled : word.toList ≠ [] := fun empty => isWord.filled (String.toList_inj.mp empty)
    rw [toList_numbered, List.head?_append_of_ne_nil _ filled]
    exact isWord.start

private theorem no_digit_of_mem {name : String}
    (member : name ∈ misnamed ++ strictKeywords ++ pathKeywords) :
    ∀ c ∈ name.toList, c.isDigit = false := by
  have all : (misnamed ++ strictKeywords ++ pathKeywords).all
      (fun name => name.toList.all fun c => !c.isDigit) = true := by
    decide +kernel
  simpa using List.all_eq_true.mp (List.all_eq_true.mp all name member)

/-- A number keeps a name from being the lone underscore or a keyword. -/
theorem numbered_not_mem (name : String) (number : Nat) :
    numbered name number ∉ misnamed ∧ numbered name number ∉ strictKeywords ∧
      numbered name number ∉ pathKeywords := by
  have listed : numbered name number ∉ misnamed ++ strictKeywords ++ pathKeywords := by
    intro member
    rcases exists_digit_numbered name number with ⟨c, isChar, isDigit⟩
    rw [no_digit_of_mem member c isChar] at isDigit
    cases isDigit
  simpa only [List.mem_append, not_or, and_assoc] using listed

/-! ## Names of fields -/

theorem IsWord.not_mem_misnamed_iff {word : String} (isWord : IsWord word) :
    word ∉ misnamed ↔ word ≠ "_" ∧ word ∉ reservedKeywords := by
  have marked : ∀ name ∈ ["r#crate", "r#self", "r#super"], '#' ∈ name.toList := by decide +kernel
  have unmarked : word ∉ ["r#crate", "r#self", "r#super"] :=
    fun member => isWord.mark_not_mem (marked word member)
  simp only [List.mem_cons, List.not_mem_nil, or_false, not_or] at unmarked
  simp [misnamed, unmarked]

private theorem namesField_numbered (key : String) (number : Nat) :
    NamesField (numbered (fieldName key) number) := by
  have isWord := (isWord_fieldWord key).numbered number
  rcases numbered_not_mem (fieldWord key) number with ⟨notMisnamed, notStrict, notPath⟩
  rcases isWord.not_mem_misnamed_iff.mp notMisnamed with ⟨notLone, notReserved⟩
  have free := (numbered_not_mem (fieldName key) number).1
  rcases fieldName_eq key with ⟨named, _⟩ | ⟨named, _⟩
  · rw [named] at free ⊢
    exact ⟨⟨_, isWord, .inl ⟨rfl, notStrict⟩⟩,
      iff_of_true (.plain isWord notLone notStrict notReserved) free⟩
  · have marked : numbered (fieldName key) number = "r#" ++ numbered (fieldWord key) number := by
      simp only [named, numbered, String.append_assoc]
    rw [marked] at free ⊢
    exact ⟨⟨_, isWord, .inr rfl⟩, iff_of_true (.raw isWord notLone notPath) free⟩

private theorem namesField_fieldName (key : String) : NamesField (fieldName key) := by
  have isWord := isWord_fieldWord key
  rcases fieldName_eq key with ⟨named, notStrict⟩ | ⟨named, isStrict⟩
  · rw [named]
    refine ⟨⟨_, isWord, .inl ⟨rfl, notStrict⟩⟩, ?_⟩
    rw [isWord.isFieldIdentifier_iff, isWord.not_mem_misnamed_iff, and_iff_right notStrict]
  · rw [named]
    refine ⟨⟨_, isWord, .inr rfl⟩, ?_⟩
    have notCapital : fieldWord key ≠ "Self" := by
      intro capital
      have small := not_isUpper_fieldWord key 'S' (by rw [capital]; decide)
      revert small
      decide
    have marks : ∀ word ∈ strictKeywords, word ≠ "Self" →
        (word ≠ "_" ∧ word ∉ pathKeywords ↔ "r#" ++ word ∉ misnamed) := by
      decide +kernel
    rw [isWord.isFieldIdentifier_raw_iff, marks _ isStrict notCapital]

private theorem namesField_freshName (taken : List String) (key : String) :
    NamesField (freshName taken (fieldName key)) := by
  rcases freshName_eq_candidate taken (fieldName key) with ⟨index, chosen, _⟩
  rw [chosen]
  cases index with
  | zero => exact namesField_fieldName key
  | succ index => exact namesField_numbered key (index + 1)

private theorem namesField_of_mem_takeNames {keys : List String} {name : String} :
    ∀ {taken : List String}, name ∈ (takeNames taken (keys.map fieldName)).1 → NamesField name := by
  induction keys with
  | nil => nofun
  | cons key rest induction =>
      intro taken member
      rcases List.mem_cons.mp member with rfl | later
      · exact namesField_freshName taken key
      · exact induction later

end RestModel.Naming

namespace RestModel.Build

open Naming

private theorem ensures_propertyFields_namesField {context : BuildContext} {typeName : String}
    (required : List String) :
    ∀ (taken : List String) (properties : List (String × Schema)) (state : BuildState),
      Ensures (propertyFields context typeName required taken properties) state
        (fun fields _ => ∀ field ∈ fields, NamesField field.name) fun _ _ => True
  | _, [], _ => ensures_pure nofun
  | taken, (key, property) :: rest, state => by
      rw [propertyFields_cons]
      have typed : Ensures (fieldType context typeName key property) state (fun _ _ => True)
          fun _ _ => True := by
        unfold Ensures
        split <;> trivial
      apply typed.bind
      intro type? after _
      cases type? with
      | none => exact ensures_propertyFields_namesField required taken rest after
      | some type =>
          apply (ensures_propertyFields_namesField required _ rest after).bind
          intro fields last named
          exact ensures_pure (List.forall_mem_cons.mpr ⟨namesField_freshName taken key, named⟩)

end RestModel.Build

namespace RestModel.Naming

/-- The names that properties get are words of the right letters. They are identifiers but for
seventeen names, each of which some key gets. Where a name is numbered it is always one. -/
theorem namesField_of_key (key : String) (taken keys : List String) :
    NamesField (fieldName key) ∧
      (∀ name ∈ (takeNames taken (keys.map fieldName)).1, NamesField name) ∧
      (∀ context typeName required taken properties before fields after,
        Build.propertyFields context typeName required taken properties before =
            .ok fields after →
          ∀ field ∈ fields, NamesField field.name) ∧
      ∀ name ∈ misnamed, ∃ key, fieldName key = name := by
  refine ⟨namesField_fieldName key, fun _ => namesField_of_mem_takeNames, ?_, ?_⟩
  · intro _ _ required taken properties before fields after run
    exact (Build.ensures_propertyFields_namesField required taken properties before).of_ok run
  · have named : misnamed = (["", "crate", "self", "super"] ++ reservedKeywords).map fieldName := by
      decide +kernel
    rw [named]
    intro name member
    rcases List.mem_map.mp member with ⟨key, _, isName⟩
    exact ⟨key, isName⟩

/-- Properties that are named by a keyword, by a word with a digit first, and by the keyword once
more. -/
def tokenProperties : List (String × Schema) :=
  ["type", "2fa", "Type"].map fun key => (key, { Schema.free with type := some .string })

def tokenNames? : Option (List String) :=
  match Build.propertyFields (Builder.context ⟨.ofComponents [], false⟩) "Token" [] []
      tokenProperties .empty with
  | .ok fields _ => some (fields.map (·.name))
  | .error _ _ => none

theorem namesField_of_key_token :
    ∃ fields after, Build.propertyFields (Builder.context ⟨.ofComponents [], false⟩) "Token" [] []
        tokenProperties .empty = .ok fields after ∧
      fields.map (·.name) = ["r#type", "_2fa", "r#type_1"] ∧
      ∀ field ∈ fields, IsFieldIdentifier field.name := by
  have built : tokenNames? = some ["r#type", "_2fa", "r#type_1"] := by decide +kernel
  unfold tokenNames? at built
  split at built
  · next fields after run =>
      have names := Option.some.inj built
      refine ⟨fields, after, run, names, fun field member => ?_⟩
      have named := (namesField_of_key "type" [] []).2.2.1 _ _ _ _ _ _ _ _ run field member
      rw [named.valid]
      have listed : field.name ∈ ["r#type", "_2fa", "r#type_1"] :=
        names ▸ List.mem_map_of_mem member
      have free : ∀ name ∈ ["r#type", "_2fa", "r#type_1"], name ∉ misnamed := by decide +kernel
      exact free _ listed
  · cases built

/-- A reserved word stays as it is, a keyword of paths is marked in vain, and an empty key leaves
the lone underscore. -/
theorem not_isFieldIdentifier_fieldName :
    (fieldName "abstract" = "abstract" ∧ ¬IsFieldIdentifier (fieldName "abstract")) ∧
      (fieldName "self" = "r#self" ∧ ¬IsFieldIdentifier (fieldName "self")) ∧
      fieldName "" = "_" ∧ ¬IsFieldIdentifier (fieldName "") := by
  have invalid {key : String} (isMisnamed : fieldName key ∈ misnamed) :
      ¬IsFieldIdentifier (fieldName key) :=
    fun identifier => (namesField_fieldName key).valid.mp identifier isMisnamed
  refine ⟨⟨?_, invalid ?_⟩, ⟨?_, invalid ?_⟩, ?_, invalid ?_⟩
  all_goals decide +kernel

end RestModel.Naming
