import Mathlib.Data.List.Forall2
import RestModel.Proofs.Directive.Registration
import RestModel.Proofs.Keyed

/-! # Reading payloads

A payload is read by the shape that its marker was registered with. Lists and maps divide a text
into pieces, of which those that are blank do not count, and whatever is wrong with one of the
others spoils the payload. -/

namespace RestModel

/-- A text spells an integer of 64 bits: decimal digits with or without a sign. -/
def SpellsInt (text : List Char) (value : Int) : Prop :=
  ∃ sign digits : List Char, text = sign ++ digits ∧ digits ≠ [] ∧
    (∀ c ∈ digits, c.isDigit = true) ∧
    ((sign = [] ∨ sign = ['+']) ∧ value = Text.digitsValue digits ∨
      sign = ['-'] ∧ value = -(Text.digitsValue digits : Int)) ∧
    -(Nat.pow 2 63 : Int) ≤ value ∧ value < Nat.pow 2 63

/-- One of the pieces that separators divide a text into, trimmed, where something is left of
it. -/
def IsFilledPiece (separator : Char) (text piece : String) : Prop :=
  piece ≠ "" ∧ ∃ raw, Text.IsPiece separator text.toList raw ∧ piece = Text.trim (String.ofList raw)

/-- The first colon of an entry stands between its key and the text of its value. -/
def DividesEntry (entry key raw : String) : Prop :=
  ∃ before after : List Char, entry.toList = before ++ ':' :: after ∧ ':' ∉ before ∧
    key = Text.trim (String.ofList before) ∧ raw = Text.trim (String.ofList after)

namespace PayloadShape

/-- A value is of a shape at every level, and nothing in it is absent. -/
inductive Fits : PayloadShape → PayloadValue → Prop
  | string (text : String) : Fits .string (.string text)
  | int (value : Int) : Fits .int (.int value)
  | bool (value : Bool) : Fits .bool (.bool value)
  | any (text : String) : Fits .any (.any text)
  | list {item : PayloadShape} {items : List PayloadValue}
      (each : ∀ value ∈ items, Fits item value) : Fits (.list item) (.list items)
  | map {value : PayloadShape} {entries : List (String × PayloadValue)}
      (ordered : Keyed.Ordered entries) (each : ∀ entry ∈ entries, Fits value entry.2) :
      Fits (.map .string value) (.map entries)
  | optional {inner : PayloadShape} {value : PayloadValue} (fits : Fits inner value) :
      Fits (.optional inner) value

theorem Fits.isPresent {shape : PayloadShape} {value : PayloadValue} (fits : shape.Fits value) :
    value ≠ .absent := by
  induction fits with
  | optional _ induction => exact induction
  | _ => nofun

/-- What a text means by a shape. Of several entries with one key the last one counts. -/
def Means : PayloadShape → String → PayloadValue → Prop
  | .string, raw, value => value = .string raw
  | .any, raw, value => value = .any raw
  | .int, raw, value => ∃ number, SpellsInt (Text.trimChars raw.toList) number ∧ value = .int number
  | .bool, raw, value =>
      Text.trim raw = "true" ∧ value = .bool true ∨ Text.trim raw = "false" ∧ value = .bool false
  | .list item, raw, value =>
      ∃ items, List.Forall₂ item.Means (payloadPieces ';' raw) items ∧ value = .list items
  | .map _ shape, raw, value =>
      ∃ entries, List.Forall₂
          (fun piece entry => ∃ rest, DividesEntry piece entry.1 rest ∧ shape.Means rest entry.2)
          (payloadPieces ',' raw) entries ∧
        value = .map (Keyed.ofList entries)
  | .optional inner, raw, value => inner.Means raw value

/-- A text cannot be read by a shape: it is no leaf of the shape, or one of its pieces fails, or
an entry of a map lacks the colon. -/
def Fails : PayloadShape → String → Prop
  | .string, _ => False
  | .any, _ => False
  | .int, raw => ¬∃ number, SpellsInt (Text.trimChars raw.toList) number
  | .bool, raw => Text.trim raw ≠ "true" ∧ Text.trim raw ≠ "false"
  | .list item, raw => ∃ piece, IsFilledPiece ';' raw piece ∧ item.Fails piece
  | .map _ shape, raw =>
      ∃ entry, IsFilledPiece ',' raw entry ∧
        (':' ∉ entry.toList ∨ ∃ key rest, DividesEntry entry key rest ∧ shape.Fails rest)
  | .optional inner, raw => inner.Fails raw

end PayloadShape

/-! ## Integers -/

theorem isDigit_iff_le {c : Char} : c.isDigit = true ↔ '0' ≤ c ∧ c ≤ '9' := by
  simp [Char.isDigit, Char.le_def]

/-- Of the digits of base sixteen only those of base ten stay below ten. -/
theorem hexValue?_lt_ten_iff {c : Char} {digit : Nat} :
    Text.hexValue? c = some digit ∧ digit < 10 ↔ c.isDigit = true ∧ digit = c.toNat - 48 := by
  have position {bound : Char} (above : bound ≤ c) : bound.toNat ≤ c.toNat :=
    UInt32.le_iff_toNat_le.mp (Char.le_def.mp above)
  rw [isDigit_iff_le]
  unfold Text.hexValue?
  split
  · next isDigit =>
      have below : c.toNat ≤ '9'.toNat := UInt32.le_iff_toNat_le.mp (Char.le_def.mp isDigit.2)
      have nine : '9'.toNat = 57 := rfl
      rw [Option.some.injEq, and_iff_right isDigit, and_iff_left_iff_imp.mpr, eq_comm]
      omega
  · next noDigit =>
      have letter {first : Char} {offset : Nat} (above : first ≤ c)
          (far : offset + 10 ≤ first.toNat) : ¬c.toNat - offset < 10 := by
        have := position above
        omega
      rw [iff_false_right (fun isDigit => noDigit isDigit.1)]
      rintro ⟨found, less⟩
      split at found
      · next small =>
          cases found
          exact letter small.1 (by decide) less
      · split at found
        · next capital =>
            cases found
            exact letter capital.1 (by decide) less
        · cases found

private theorem nextDigit_iff {start next : Nat} {c : Char} :
    (do
      let digit ← Text.hexValue? c
      if digit < 10 then some (start * 10 + digit) else none) = some next ↔
        c.isDigit = true ∧ start * 10 + (c.toNat - 48) = next := by
  rw [Option.bind_eq_bind, Option.bind_eq_some_iff]
  constructor
  · rintro ⟨digit, found, shifted⟩
    rcases Option.ite_none_right_eq_some.mp shifted with ⟨less, equal⟩
    rcases hexValue?_lt_ten_iff.mp ⟨found, less⟩ with ⟨isDigit, rfl⟩
    exact ⟨isDigit, Option.some.inj equal⟩
  · rintro ⟨isDigit, rfl⟩
    rcases hexValue?_lt_ten_iff.mpr ⟨isDigit, rfl⟩ with ⟨found, less⟩
    exact ⟨_, found, if_pos less⟩

private theorem nextDigits_iff {digits : List Char} {start value : Nat} :
    digits.foldlM (fun value c => do
        let digit ← Text.hexValue? c
        if digit < 10 then some (value * 10 + digit) else none) start = some value ↔
      (∀ c ∈ digits, c.isDigit = true) ∧
        digits.foldl (fun value c => value * 10 + (c.toNat - 48)) start = value := by
  induction digits generalizing start with
  | nil => simp
  | cons c rest induction =>
      rw [List.foldlM_cons, Option.bind_eq_bind, Option.bind_eq_some_iff, List.foldl_cons,
        List.forall_mem_cons]
      constructor
      · rintro ⟨next, isNext, others⟩
        rcases nextDigit_iff.mp isNext with ⟨isDigit, rfl⟩
        rcases induction.mp others with ⟨areDigits, equal⟩
        exact ⟨⟨isDigit, areDigits⟩, equal⟩
      · rintro ⟨⟨isDigit, areDigits⟩, equal⟩
        exact ⟨_, nextDigit_iff.mpr ⟨isDigit, rfl⟩, induction.mpr ⟨areDigits, equal⟩⟩

private theorem digitsOf?_ten_eq_some_iff {digits : List Char} {value : Nat} :
    Text.digitsOf? 10 digits = some value ↔
      digits ≠ [] ∧ (∀ c ∈ digits, c.isDigit = true) ∧ Text.digitsValue digits = value := by
  unfold Text.digitsOf? Text.digitsValue
  cases digits with
  | nil => simp
  | cons c rest =>
      rw [List.isEmpty_cons, if_neg Bool.false_ne_true, nextDigits_iff,
        and_iff_right (List.cons_ne_nil c rest)]

/-- Digits are read as a number, of which a sign makes another one within the limits. -/
theorem readSigned_iff (sign : Int → Int) {digits : List Char} {value : Int} :
    ((Text.digitsOf? 10 digits).map fun value => sign value).bind (fun value =>
        if -(Nat.pow 2 63 : Int) ≤ value ∧ value < Nat.pow 2 63 then some value else none) =
          some value ↔
      digits ≠ [] ∧ (∀ c ∈ digits, c.isDigit = true) ∧ value = sign (Text.digitsValue digits) ∧
        -(Nat.pow 2 63 : Int) ≤ value ∧ value < Nat.pow 2 63 := by
  simp only [Option.bind_eq_some_iff, Option.map_eq_some_iff, bind, pure,
    Option.ite_none_right_eq_some, Option.some.injEq]
  constructor
  · rintro ⟨_, ⟨_, ⟨number, found, rfl⟩, rfl⟩, bounds, rfl⟩
    rcases digitsOf?_ten_eq_some_iff.mp found with ⟨filled, areDigits, rfl⟩
    exact ⟨filled, areDigits, rfl, bounds⟩
  · rintro ⟨filled, areDigits, rfl, bounds⟩
    exact ⟨_, ⟨_, ⟨_, digitsOf?_ten_eq_some_iff.mpr ⟨filled, areDigits, rfl⟩, rfl⟩, rfl⟩, bounds,
      rfl⟩

/-- A sign is no digit, so it does not matter that it is looked for first. -/
theorem readInt?_eq_some_iff {text : List Char} {value : Int} :
    readInt? text = some value ↔ SpellsInt text value := by
  constructor
  · intro read
    unfold readInt? at read
    dsimp only at read
    split at read
    · next digits =>
        rcases (readSigned_iff fun value => -value).mp read with ⟨filled, areDigits, equal, bounds⟩
        exact ⟨['-'], digits, rfl, filled, areDigits, .inr ⟨rfl, equal⟩, bounds⟩
    · next digits =>
        rcases (readSigned_iff id).mp read with ⟨filled, areDigits, equal, bounds⟩
        exact ⟨['+'], digits, rfl, filled, areDigits, .inl ⟨.inr rfl, equal⟩, bounds⟩
    · rcases (readSigned_iff id).mp read with ⟨filled, areDigits, equal, bounds⟩
      exact ⟨[], text, rfl, filled, areDigits, .inl ⟨.inl rfl, equal⟩, bounds⟩
  · rintro ⟨sign, digits, rfl, filled, areDigits, ⟨rfl | rfl, equal⟩ | ⟨rfl, equal⟩, bounds⟩
    · have noSign {c : Char} {rest : List Char} (written : [] ++ digits = c :: rest) :
          c.isDigit = true := by
        rw [List.nil_append] at written
        exact areDigits c (written ▸ List.mem_cons_self)
      unfold readInt?
      split
      · next written => exact absurd (noSign written) (by decide)
      · next written => exact absurd (noSign written) (by decide)
      · exact (readSigned_iff id).mpr ⟨filled, areDigits, equal, bounds⟩
    · exact (readSigned_iff id).mpr ⟨filled, areDigits, equal, bounds⟩
    · exact (readSigned_iff fun value => -value).mpr ⟨filled, areDigits, equal, bounds⟩

/-! ## Pieces and entries -/

theorem mem_payloadPieces_iff {separator : Char} {text piece : String} :
    piece ∈ payloadPieces separator text ↔ IsFilledPiece separator text piece := by
  unfold payloadPieces Text.pieces IsFilledPiece
  simp only [List.mem_filterMap, List.mem_map, Text.nonBlank?_eq_some_iff]
  constructor
  · rintro ⟨_, ⟨raw, member, rfl⟩, filled, rfl⟩
    exact ⟨filled, raw, Text.mem_piecesBy_iff.mp member, rfl⟩
  · rintro ⟨filled, raw, isPiece, rfl⟩
    exact ⟨_, ⟨raw, Text.mem_piecesBy_iff.mpr isPiece, rfl⟩, filled, rfl⟩

private theorem cutFirst?_eq_none_iff {entry : String} :
    Text.cutFirst? ':' entry = none ↔ ':' ∉ entry.toList := by
  rw [Text.cutFirst?, Option.map_eq_none_iff, Text.cutFirstChars_eq_none_iff]

private theorem dividesEntry_iff {entry key rest : String} :
    DividesEntry entry key rest ↔
      ∃ before after, Text.cutFirst? ':' entry = some (before, after) ∧
        key = Text.trim before ∧ rest = Text.trim after := by
  unfold DividesEntry Text.cutFirst?
  constructor
  · rintro ⟨before, after, written, absent, rfl, rfl⟩
    rw [Text.cutFirstChars_eq_some_iff.mpr ⟨written, absent⟩]
    exact ⟨_, _, rfl, rfl, rfl⟩
  · rintro ⟨_, _, cut, rfl, rfl⟩
    rcases Option.map_eq_some_iff.mp cut with ⟨⟨before, after⟩, isCut, equal⟩
    cases equal
    rcases Text.cutFirstChars_eq_some_iff.mp isCut with ⟨written, absent⟩
    exact ⟨before, after, written, absent, rfl, rfl⟩

/-- The first colon of an entry is the only one that divides it. -/
theorem exists_dividesEntry_iff {entry : String} {holds : String → String → Prop} :
    (∃ key rest, DividesEntry entry key rest ∧ holds key rest) ↔
      ':' ∈ entry.toList ∧ ∀ key rest, DividesEntry entry key rest → holds key rest := by
  cases cut : Text.cutFirst? ':' entry with
  | none => simp [dividesEntry_iff, cut, cutFirst?_eq_none_iff.mp cut]
  | some parts =>
      rcases parts with ⟨before, after⟩
      have divided : ':' ∈ entry.toList := by
        apply Classical.byContradiction
        intro absent
        rw [cutFirst?_eq_none_iff.mpr absent] at cut
        cases cut
      simp [dividesEntry_iff, cut, divided]

/-! ## Texts that can be read -/

theorem exists_forall₂_iff {relation : α → β → Prop} {items : List α} :
    (∃ others, List.Forall₂ relation items others) ↔
      ∀ item ∈ items, ∃ other, relation item other := by
  induction items with
  | nil => simp
  | cons item rest induction =>
      simp only [List.forall₂_cons_left_iff, List.forall_mem_cons, ← induction]
      constructor
      · rintro ⟨_, other, others, related, relatedOthers, _⟩
        exact ⟨⟨other, related⟩, others, relatedOthers⟩
      · rintro ⟨⟨other, related⟩, others, relatedOthers⟩
        exact ⟨_, other, others, related, relatedOthers, rfl⟩

private theorem exists_of_mem_right {relation : α → β → Prop} {items : List α} {others : List β}
    (related : List.Forall₂ relation items others) {other : β} (member : other ∈ others) :
    ∃ item, relation item other := by
  induction related with
  | nil => cases member
  | cons first _ induction =>
      rcases List.mem_cons.mp member with rfl | member
      · exact ⟨_, first⟩
      · exact induction member

namespace PayloadShape

variable {read : String → Except DirectiveError PayloadValue} {pieces : List String}

private theorem readAll_eq_ok_iff {values : List PayloadValue} :
    readAll read pieces = .ok values ↔
      List.Forall₂ (fun piece value => read piece = .ok value) pieces values := by
  induction pieces generalizing values with
  | nil => simp [readAll, eq_comm]
  | cons piece rest induction =>
      simp only [readAll, bind_eq_ok_iff, induction, List.forall₂_cons_left_iff, pure, Except.pure,
        Except.ok.injEq, eq_comm (b := values)]
      simp only [exists_and_left]

private theorem readEntries_eq_ok_iff {invalid : DirectiveError}
    {entries result : List (String × PayloadValue)} :
    readEntries invalid read entries pieces = .ok result ↔
      ∃ added, List.Forall₂
          (fun piece entry => ∃ rest, DividesEntry piece entry.1 rest ∧ read rest = .ok entry.2)
          pieces added ∧
        result = added.foldl (fun map (key, value) => Keyed.insert key value map) entries := by
  induction pieces generalizing entries with
  | nil => simp [readEntries, eq_comm]
  | cons piece rest induction =>
      simp only [readEntries, List.forall₂_cons_left_iff, dividesEntry_iff]
      cases cut : Text.cutFirst? ':' piece with
      | none => simp
      | some parts =>
          rcases parts with ⟨before, after⟩
          simp only [bind_eq_ok_iff, induction, dividesEntry_iff, Option.some.injEq, Prod.mk.injEq]
          constructor
          · rintro ⟨value, isRead, added, areAdded, rfl⟩
            exact ⟨_, ⟨(Text.trim before, value), added,
              ⟨_, ⟨before, after, ⟨rfl, rfl⟩, rfl, rfl⟩, isRead⟩, areAdded, rfl⟩, rfl⟩
          · rintro ⟨_, ⟨⟨_, value⟩, added, ⟨_, ⟨_, _, ⟨rfl, rfl⟩, rfl, rfl⟩, isRead⟩, areAdded,
              rfl⟩, rfl⟩
            exact ⟨value, isRead, added, areAdded, rfl⟩

private theorem read_eq_ok_iff {shape : PayloadShape} {raw : String} {value : PayloadValue} :
    shape.read raw = .ok value ↔ shape.Means raw value := by
  induction shape generalizing raw value with
  | string | any => simp [PayloadShape.read, Means, eq_comm]
  | int =>
      simp only [PayloadShape.read, Means, ← readInt?_eq_some_iff]
      cases readInt? (Text.trimChars raw.toList) <;> simp [eq_comm]
  | bool =>
      simp only [PayloadShape.read, Means]
      split
      · next isTrue => simp [isTrue, eq_comm]
      · next isFalse => simp [isFalse, eq_comm]
      · next noTrue noFalse =>
          have isNeither : Text.trim raw ≠ "true" ∧ Text.trim raw ≠ "false" := ⟨noTrue, noFalse⟩
          simp [isNeither]
  | list item induction =>
      simp only [PayloadShape.read, Means, map_eq_ok_iff, readAll_eq_ok_iff, induction,
        eq_comm (b := value)]
  | map key shape _ induction =>
      simp only [PayloadShape.read, Means, map_eq_ok_iff, readEntries_eq_ok_iff, induction]
      constructor
      · rintro ⟨_, ⟨added, areAdded, rfl⟩, rfl⟩
        exact ⟨added, areAdded, rfl⟩
      · rintro ⟨added, areAdded, rfl⟩
        exact ⟨_, ⟨added, areAdded, rfl⟩, rfl⟩
  | optional inner induction => simp only [PayloadShape.read, Means, induction]

/-! ## Texts that cannot be read -/

theorem not_fails_iff {shape : PayloadShape} {raw : String} :
    ¬shape.Fails raw ↔ ∃ value, shape.Means raw value := by
  induction shape generalizing raw with
  | string | any => simp [Fails, Means]
  | int =>
      simp only [Fails, Means, not_not]
      exact ⟨fun ⟨number, spelled⟩ => ⟨_, number, spelled, rfl⟩,
        fun ⟨_, number, spelled, _⟩ => ⟨number, spelled⟩⟩
  | bool =>
      simp only [Fails, Means, not_and_or, not_not, exists_or]
      simp
  | list item induction =>
      have each : ¬(PayloadShape.list item).Fails raw ↔
          ∀ piece ∈ payloadPieces ';' raw, ∃ value, item.Means piece value := by
        simp only [Fails, not_exists, not_and, ← mem_payloadPieces_iff, ← induction]
      rw [each, ← exists_forall₂_iff]
      exact ⟨fun ⟨items, areItems⟩ => ⟨_, items, areItems, rfl⟩,
        fun ⟨_, items, areItems, _⟩ => ⟨items, areItems⟩⟩
  | map key shape _ induction =>
      have each : ¬(PayloadShape.map key shape).Fails raw ↔
          ∀ piece ∈ payloadPieces ',' raw, ∃ entry : String × PayloadValue,
            ∃ rest, DividesEntry piece entry.1 rest ∧ shape.Means rest entry.2 := by
        have divided (piece : String) := @exists_dividesEntry_iff piece
          fun _ rest => ∃ value, shape.Means rest value
        simp only [Fails, not_exists, not_and, not_or, not_not, induction, ← divided,
          ← mem_payloadPieces_iff]
        refine forall₂_congr fun piece _ => ?_
        constructor
        · rintro ⟨key, rest, divides, value, means⟩
          exact ⟨(key, value), rest, divides, means⟩
        · rintro ⟨⟨key, value⟩, rest, divides, means⟩
          exact ⟨key, rest, divides, value, means⟩
      rw [each, ← exists_forall₂_iff]
      exact ⟨fun ⟨entries, areEntries⟩ => ⟨_, entries, areEntries, rfl⟩,
        fun ⟨_, entries, areEntries, _⟩ => ⟨entries, areEntries⟩⟩
  | optional inner induction => simp only [Fails, Means, induction]

private theorem readAll_eq_error {problem : DirectiveError}
    (failed : readAll read pieces = .error problem) :
    ∃ piece, read piece = .error problem := by
  induction pieces with
  | nil => cases failed
  | cons piece rest induction =>
      cases first : read piece with
      | error other =>
          rw [readAll, first] at failed
          cases failed
          exact ⟨piece, first⟩
      | ok value =>
          cases others : readAll read rest with
          | error other =>
              rw [readAll, first, others] at failed
              cases failed
              exact induction others
          | ok values =>
              rw [readAll, first, others] at failed
              cases failed

private theorem readEntries_eq_error {invalid problem : DirectiveError}
    {entries : List (String × PayloadValue)}
    (failed : readEntries invalid read entries pieces = .error problem) :
    problem = invalid ∨ ∃ piece, read piece = .error problem := by
  induction pieces generalizing entries with
  | nil => cases failed
  | cons piece rest induction =>
      rw [readEntries] at failed
      split at failed
      · cases failed
        exact .inl rfl
      · next key raw _ =>
          cases first : read (Text.trim raw) with
          | error other =>
              rw [first] at failed
              cases failed
              exact .inr ⟨_, first⟩
          | ok value =>
              rw [first] at failed
              exact induction failed

/-- Whatever is wrong with a payload, it is called invalid. -/
theorem read_eq_error {shape : PayloadShape} {raw : String} {problem : DirectiveError}
    (failed : shape.read raw = .error problem) :
    ∃ piece expected, problem = .invalidPayload piece expected := by
  induction shape generalizing raw with
  | string | any => cases failed
  | int | bool =>
      rw [PayloadShape.read] at failed
      split at failed
      all_goals
        cases failed
        try exact ⟨_, _, rfl⟩
  | list item induction =>
      rcases readAll_eq_error (map_eq_error_iff.mp failed) with ⟨piece, failedPiece⟩
      exact induction failedPiece
  | map key shape _ induction =>
      rcases readEntries_eq_error (map_eq_error_iff.mp failed) with rfl | ⟨piece, failedPiece⟩
      · exact ⟨_, _, rfl⟩
      · exact induction failedPiece
  | optional inner induction => exact induction failed

/-- What a text means by a shape that may be registered is of that shape. -/
theorem IsSound.fits {shape : PayloadShape} {raw : String} {value : PayloadValue}
    (sound : shape.IsSound) (means : shape.Means raw value) : shape.Fits value := by
  induction shape generalizing raw value with
  | string =>
      cases means
      exact .string raw
  | any =>
      cases means
      exact .any raw
  | int =>
      rcases means with ⟨number, _, rfl⟩
      exact .int number
  | bool =>
      rcases means with ⟨_, rfl⟩ | ⟨_, rfl⟩
      · exact .bool true
      · exact .bool false
  | list item induction =>
      rcases means with ⟨items, areItems, rfl⟩
      refine .list fun value member => ?_
      rcases exists_of_mem_right areItems member with ⟨piece, means⟩
      exact induction ((isSound_iff.mp sound).2 item List.mem_cons_self).2 means
  | map key shape _ induction =>
      rcases means with ⟨entries, areEntries, rfl⟩
      rcases (isSound_iff.mp sound).1 key shape rfl with rfl
      refine .map (Keyed.ordered_ofList entries) fun entry member => ?_
      rcases exists_of_mem_right areEntries (Keyed.mem_of_mem_ofList member) with
        ⟨piece, rest, _, means⟩
      exact induction ((isSound_iff.mp sound).2 shape (by simp [children])).2 means
  | optional inner induction =>
      exact .optional (induction ((isSound_iff.mp sound).2 inner List.mem_cons_self).2 means)

end PayloadShape

/-! ## Payloads -/

/-- There is no payload, or a blank one. -/
def IsMissing (payload : Option String) : Prop := ∀ text ∈ payload, Text.trim text = ""

private theorem bind_nonBlank?_eq_some_iff {payload : Option String} {raw : String} :
    payload.bind Text.nonBlank? = some raw ↔
      ∃ text, payload = some text ∧ raw ≠ "" ∧ raw = Text.trim text := by
  simp only [Option.bind_eq_some_iff, Text.nonBlank?_eq_some_iff]

private theorem bind_nonBlank?_eq_none_iff {payload : Option String} :
    payload.bind Text.nonBlank? = none ↔ IsMissing payload := by
  cases payload with
  | none => simp [IsMissing]
  | some text => simp [IsMissing, Text.nonBlank?, Text.trim_eq_empty_iff]

namespace Marker

/-- What reading a payload comes to: it may be missing from an optional shape only, and what is
read is what it means, unless it fails. -/
structure ReadsPayload (definition : Marker) (payload : Option String) : Prop where
  absent : definition.readPayload payload = .ok .absent ↔
    IsMissing payload ∧ definition.shape.isOptional = true
  missing : definition.readPayload payload = .error (.missingPayload definition.name) ↔
    IsMissing payload ∧ definition.shape.isOptional = false
  value {value : PayloadValue} (isPresent : value ≠ .absent) :
    definition.readPayload payload = .ok value ↔
      ∃ text, payload = some text ∧ Text.trim text ≠ "" ∧
        definition.shape.Means (Text.trim text) value
  fits {value : PayloadValue} (isPresent : value ≠ .absent) :
    definition.readPayload payload = .ok value → definition.shape.Fits value
  invalid : (∃ piece expected,
      definition.readPayload payload = .error (.invalidPayload piece expected)) ↔
    ∃ text, payload = some text ∧ Text.trim text ≠ "" ∧
      definition.shape.Fails (Text.trim text)
  problem {problem : DirectiveError} : definition.readPayload payload = .error problem →
    problem = .missingPayload definition.name ∨
      ∃ piece expected, problem = .invalidPayload piece expected

variable {definition : Marker} {payload : Option String} {text : String}

private theorem readPayload_of_missing (definition : Marker) (isMissing : IsMissing payload) :
    definition.readPayload payload =
      if definition.shape.isOptional then .ok .absent
      else .error (.missingPayload definition.name) := by
  rw [readPayload, bind_nonBlank?_eq_none_iff.mpr isMissing]

private theorem readPayload_of_given (definition : Marker) (filled : Text.trim text ≠ "") :
    definition.readPayload (some text) = definition.shape.read (Text.trim text) := by
  rw [readPayload, bind_nonBlank?_eq_some_iff.mpr ⟨text, rfl, filled, rfl⟩]

private theorem readsPayload_of_missing (isMissing : IsMissing payload) :
    definition.ReadsPayload payload := by
  have reads := definition.readPayload_of_missing isMissing
  have notGiven (holds : String → Prop) : ¬∃ text, payload = some text ∧ Text.trim text ≠ "" ∧
      holds (Text.trim text) := by
    rintro ⟨text, rfl, filled, _⟩
    exact filled (isMissing text rfl)
  cases isOptional : definition.shape.isOptional with
  | true =>
      rw [isOptional, if_pos rfl] at reads
      have noOther {value : PayloadValue} (isPresent : value ≠ .absent) :
          definition.readPayload payload ≠ .ok value := by
        rw [reads]
        rintro ⟨⟩
        exact isPresent rfl
      constructor
      case value =>
        intro value isPresent
        exact iff_of_false (noOther isPresent) (notGiven (definition.shape.Means · value))
      case fits => exact fun isPresent isRead => absurd isRead (noOther isPresent)
      case invalid => exact iff_of_false (by simp [reads]) (notGiven definition.shape.Fails)
      all_goals simp [reads, isMissing, isOptional]
  | false =>
      rw [isOptional, if_neg Bool.false_ne_true] at reads
      constructor
      case value =>
        intro value _
        exact iff_of_false (by simp [reads]) (notGiven (definition.shape.Means · value))
      case invalid => exact iff_of_false (by simp [reads]) (notGiven definition.shape.Fails)
      case problem =>
        intro problem failed
        rw [reads] at failed
        cases failed
        exact .inl rfl
      all_goals simp [reads, isMissing, isOptional]

private theorem readsPayload_of_given (sound : definition.shape.IsSound)
    (filled : Text.trim text ≠ "") :
    definition.ReadsPayload (some text) := by
  have reads := definition.readPayload_of_given filled
  have given (holds : String → Prop) : (∃ other, some text = some other ∧ Text.trim other ≠ "" ∧
      holds (Text.trim other)) ↔ holds (Text.trim text) := by
    simp [filled]
  have notMissing : ¬IsMissing (some text) := fun isMissing => filled (isMissing text rfl)
  constructor
  case absent =>
    rw [reads, PayloadShape.read_eq_ok_iff]
    exact iff_of_false (fun means => (sound.fits means).isPresent rfl)
      fun missing => notMissing missing.1
  case missing =>
    rw [reads]
    refine iff_of_false (fun failed => ?_) fun missing => notMissing missing.1
    rcases PayloadShape.read_eq_error failed with ⟨_, _, invalid⟩
    cases invalid
  case value =>
    intro value _
    rw [reads, given (definition.shape.Means · value), PayloadShape.read_eq_ok_iff]
  case fits =>
    intro value _ isRead
    rw [reads, PayloadShape.read_eq_ok_iff] at isRead
    exact sound.fits isRead
  case invalid =>
    rw [given definition.shape.Fails, ← not_not (a := definition.shape.Fails _),
      PayloadShape.not_fails_iff]
    simp only [reads, ← PayloadShape.read_eq_ok_iff]
    cases isRead : definition.shape.read (Text.trim text) with
    | ok value => simp
    | error problem =>
        rcases PayloadShape.read_eq_error isRead with ⟨piece, expected, rfl⟩
        simp
  case problem =>
    intro problem failed
    rw [reads] at failed
    exact .inr (PayloadShape.read_eq_error failed)

/-- A payload of a shape that is accepted for registration is missing, means something of its
shape or fails. -/
theorem readsPayload_of_accepted {registry next : Registry} {call : Marker}
    (accepted : registry.register call = .ok next) (sameShape : definition.shape = call.shape)
    (payload : Option String) : definition.ReadsPayload payload := by
  have sound : definition.shape.IsSound := sameShape ▸ (Registry.register_eq_ok_iff.mp accepted).2.1
  by_cases isMissing : IsMissing payload
  · exact readsPayload_of_missing isMissing
  · simp only [IsMissing, not_forall] at isMissing
    rcases isMissing with ⟨text, rfl, filled⟩
    exact readsPayload_of_given sound filled

/-! ## Sizes by colour -/

def sizesMarker : Marker :=
  ⟨"shop:sizes", .type, .optional (.map .string (.list .int)), "sizes by colour"⟩

/-- Blank pieces do not count, and of two entries for one colour the last one does. -/
def sizesText : String := " red: 4; 5, , blue: -7;;+08 ,red:3 "

def sizesOf : PayloadValue → List (String × List Int)
  | .map entries => entries.map fun (colour, sizes) =>
      match sizes with
      | .list items => (colour, items.filterMap fun | .int size => some size | _ => none)
      | _ => (colour, [])
  | _ => []

/-- One of the sizes is too large by one. -/
def oversizeText : String := "blue:1,red:2;9223372036854775808"

theorem readsPayload_sizes :
    ∃ registry value, Registry.empty.register sizesMarker = .ok registry ∧
      sizesMarker.readPayload none = .ok .absent ∧
      sizesMarker.readPayload (some sizesText) = .ok value ∧
      sizesOf value = [("blue", [-7, 8]), ("red", [3])] ∧ sizesMarker.shape.Fits value ∧
      sizesMarker.readPayload (some oversizeText) =
        .error (.invalidPayload "9223372036854775808" "int") ∧
      sizesMarker.shape.Fails (Text.trim oversizeText) := by
  have accepted : Registry.empty.register sizesMarker = .ok ⟨[sizesMarker]⟩ := by decide +kernel
  have reads := readsPayload_of_accepted accepted rfl
  have known : (sizesMarker.readPayload (some sizesText)).toOption.map sizesOf =
      some [("blue", [-7, 8]), ("red", [3])] := by decide +kernel
  rcases exists_of_toOption_map known with ⟨value, isRead, sizes⟩
  have isPresent : value ≠ .absent := by
    rintro rfl
    cases sizes
  have failed : sizesMarker.readPayload (some oversizeText) =
      .error (.invalidPayload "9223372036854775808" "int") := by
    have refused : (match sizesMarker.readPayload (some oversizeText) with
        | .error problem => some problem
        | .ok _ => none) = some (.invalidPayload "9223372036854775808" "int") := by
      decide +kernel
    split at refused
    · next problem isProblem => rw [isProblem, Option.some.inj refused]
    · cases refused
  refine ⟨_, value, accepted, ?_, isRead, sizes, (reads _).fits isPresent isRead, failed, ?_⟩
  · exact (reads none).absent.mpr ⟨nofun, rfl⟩
  · rcases (reads _).invalid.mp ⟨_, _, failed⟩ with ⟨_, same, _, fails⟩
    cases same
    exact fails

end Marker

end RestModel
