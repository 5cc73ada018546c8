import RestModel.Document.Reader
import RestModel.Proofs.Keyed
import RestModel.Proofs.Sorting
import RestModel.Proofs.Text

/-! # Which successful answer counts

An operation may declare several successful answers with several media types each. The schema of
the operation's answer is chosen among theirs: JSON of status 200, or else JSON of the least
status that has any, or else whatever comes first under the least status that has anything. -/

namespace RestModel

/-- A text spells a number of sixteen bits: decimal digits, with or without a plus sign. -/
def SpellsStatus (text : String) (code : Nat) : Prop :=
  ∃ sign digits : List Char, text.toList = sign ++ digits ∧ (sign = [] ∨ sign = ['+']) ∧
    digits ≠ [] ∧ (∀ c ∈ digits, c.isDigit = true) ∧ Text.digitsValue digits = code ∧
      code < 65536

/-- The statuses of success. -/
def IsSuccess (code : Nat) : Prop := 200 ≤ code ∧ code ≤ 299

instance (code : Nat) : Decidable (IsSuccess code) := inferInstanceAs (Decidable (_ ∧ _))

def IsSuccessStatus (text : String) : Prop := ∃ code, SpellsStatus text code ∧ IsSuccess code

private theorem statusOfDigits_eq_some_iff {digits : List Char} {code : Nat} :
    (if digits.isEmpty || digits.any (!·.isDigit) then none
      else if Text.digitsValue digits < 65536 then some (Text.digitsValue digits) else none) =
        some code ↔
      digits ≠ [] ∧ (∀ c ∈ digits, c.isDigit = true) ∧ Text.digitsValue digits = code ∧
        code < 65536 := by
  by_cases refused : (digits.isEmpty || digits.any (!·.isDigit)) = true
  · rw [if_pos refused]
    have invalid : digits = [] ∨ ∃ c ∈ digits, c.isDigit = false := by simpa using refused
    simp only [reduceCtorEq, false_iff]
    rintro ⟨written, valid, _⟩
    rcases invalid with nothing | ⟨c, member, noDigit⟩
    · exact written nothing
    · simp [valid c member] at noDigit
  · rw [if_neg refused, Option.ite_none_right_eq_some, Option.some.injEq]
    have valid : digits ≠ [] ∧ ∀ c ∈ digits, c.isDigit = true := by simpa using refused
    constructor
    · rintro ⟨bound, rfl⟩
      exact ⟨valid.1, valid.2, rfl, bound⟩
    · rintro ⟨_, _, rfl, bound⟩
      exact ⟨bound, rfl⟩

/-- A plus sign is no digit, so it does not matter that it is taken off first. -/
theorem readStatusCode?_eq_some_iff {text : String} {code : Nat} :
    readStatusCode? text = some code ↔ SpellsStatus text code := by
  have noDigit : '+'.isDigit = false := rfl
  constructor
  · intro read
    unfold readStatusCode? at read
    split at read
    · next digits written =>
        exact ⟨['+'], digits, written, .inr rfl, statusOfDigits_eq_some_iff.mp read⟩
    · next digits _ =>
        exact ⟨[], text.toList, rfl, .inl rfl, statusOfDigits_eq_some_iff.mp read⟩
  · rintro ⟨sign, digits, written, rfl | rfl, spells⟩
    · unfold readStatusCode?
      split
      · next rest signed =>
          rw [List.nil_append] at written
          have valid := spells.2.1 '+' (by simp [← written, signed])
          simp [noDigit] at valid
      · rw [written]
        exact statusOfDigits_eq_some_iff.mpr spells
    · unfold readStatusCode?
      rw [written]
      exact statusOfDigits_eq_some_iff.mpr spells

instance (text : String) : Decidable (IsSuccessStatus text) :=
  decidable_of_iff (∃ code ∈ readStatusCode? text, IsSuccess code) <| by
    simp only [Option.mem_def, readStatusCode?_eq_some_iff, IsSuccessStatus]

/-- An operation with its successful answers only. -/
def Endpoint.succeeding (endpoint : Endpoint) : Endpoint :=
  { endpoint with responses := endpoint.responses.filter fun (status, _) => IsSuccessStatus status }

namespace Document

/-- The content that an answer declares in its place, or that is shared under the name it refers
to. -/
inductive Declares (document : Document) : Body → Content → Prop
  | inline (content : Content) : Declares document (.inline content) content
  | shared {name : String} {content : Content}
      (found : Keyed.get? name document.sharedResponses = some content) :
      Declares document (.reference ("#/components/responses/" ++ name)) content

/-- A successful answer of an operation has a media type with a schema. A shared answer may write
`null` for a schema. -/
def Offers (document : Document) (endpoint : Endpoint) (schema : Json) : Prop :=
  ∃ status body code content mediaType, (status, body) ∈ endpoint.responses ∧
    SpellsStatus status code ∧ IsSuccess code ∧ document.Declares body content ∧
      (mediaType, some schema) ∈ content

/-- What an operation declares under a status, in whatever way the status is spelled: media types
and their schemas, in the order in which they are written. -/
def schemasUnder (document : Document) (endpoint : Endpoint) (code : Nat) :
    List (String × Json) :=
  endpoint.responses.flatMap fun (status, body) =>
    if readStatusCode? status = some code then
      Content.schemas (contentOf document.sharedResponses "responses" body)
    else
      []

/-- The first schema under a status of those whose media type is wanted. -/
def schemaUnder? (document : Document) (endpoint : Endpoint) (isWanted : String → Bool)
    (code : Nat) : Option Json :=
  ((document.schemasUnder endpoint code).find? fun entry => isWanted entry.1).map (·.2)

def jsonUnder? (document : Document) (endpoint : Endpoint) : Nat → Option Json :=
  document.schemaUnder? endpoint (· == jsonMediaType)

def anyUnder? (document : Document) (endpoint : Endpoint) : Nat → Option Json :=
  document.schemaUnder? endpoint fun _ => true

/-- A schema stands under the least status of success that has any. -/
def IsLeastUnder (under? : Nat → Option Json) (schema : Json) : Prop :=
  ∃ code, IsSuccess code ∧ under? code = some schema ∧
    ∀ less, IsSuccess less → less < code → under? less = none

/-- A schema is the one that is preferred among those of successful answers. -/
inductive IsPreferred (document : Document) (endpoint : Endpoint) (schema : Json) : Prop
  | jsonOfOk (found : document.jsonUnder? endpoint 200 = some schema)
  | leastJson (missing : document.jsonUnder? endpoint 200 = none)
      (least : IsLeastUnder (document.jsonUnder? endpoint) schema)
  | least (missing : ∀ code, IsSuccess code → document.jsonUnder? endpoint code = none)
      (least : IsLeastUnder (document.anyUnder? endpoint) schema)

/-! ## Contents -/

variable {document : Document} {endpoint : Endpoint}

private theorem mem_schemas_iff {content : Content} {mediaType : String} {schema : Json} :
    (mediaType, schema) ∈ Content.schemas content ↔ (mediaType, some schema) ∈ content := by
  unfold Content.schemas
  rw [List.mem_filterMap]
  constructor
  · rintro ⟨⟨written, declared⟩, member, found⟩
    cases declared with
    | none => cases found
    | some value =>
        cases found
        exact member
  · intro member
    exact ⟨_, member, rfl⟩

private theorem declares_inline_iff {content other : Content} :
    document.Declares (.inline content) other ↔ other = content := by
  constructor
  · rintro ⟨⟩
    rfl
  · rintro rfl
    exact .inline other

private theorem declares_reference_iff {path : String} {content : Content} :
    document.Declares (.reference path) content ↔ ∃ name,
      Text.after? "#/components/responses/" path = some name ∧
        Keyed.get? name document.sharedResponses = some content := by
  simp only [Text.after?_eq_some_iff]
  constructor
  · rintro ⟨⟩
    exact ⟨_, rfl, ‹_›⟩
  · rintro ⟨name, rfl, found⟩
    exact .shared found

private theorem contentOf_reference (path : String) :
    contentOf document.sharedResponses "responses" (.reference path) =
      ((Text.after? "#/components/responses/" path).bind
        (Keyed.get? · document.sharedResponses)).getD [] := by
  have sameStart : "#/components/" ++ "responses" ++ "/" = "#/components/responses/" := rfl
  rw [contentOf, sameStart]
  cases Text.after? "#/components/responses/" path <;> rfl

private theorem mem_contentOf_iff {body : Body} {entry : String × Option Json} :
    entry ∈ contentOf document.sharedResponses "responses" body ↔
      ∃ content, document.Declares body content ∧ entry ∈ content := by
  cases body with
  | inline content => simp [contentOf, declares_inline_iff]
  | reference path =>
      simp only [contentOf_reference, declares_reference_iff]
      cases Text.after? "#/components/responses/" path with
      | none => simp
      | some name =>
          cases found : Keyed.get? name document.sharedResponses <;> simp [found]

/-! ## Schemas by status -/

/-- What the successful answers of an operation declare, each schema with its status. -/
def declaredSchemas (document : Document) (endpoint : Endpoint) : List (Nat × String × Json) :=
  endpoint.responses.flatMap fun (status, body) =>
    match readStatusCode? status with
    | none => []
    | some code =>
        if 200 ≤ code ∧ code < 300 then
          (Content.schemas (contentOf document.sharedResponses "responses" body)).map (code, ·)
        else
          []

/-- The first of all schemas, by status, whose status counts and whose media type is wanted. -/
def firstSchema? (document : Document) (endpoint : Endpoint) (counts : Nat → Bool)
    (isWanted : String → Bool) : Option Json :=
  ((document.successSchemas endpoint).find? fun item =>
    counts item.1 && isWanted item.2.1).map (·.2.2)

private theorem successSchemas_eq (document : Document) (endpoint : Endpoint) :
    document.successSchemas endpoint =
      (document.declaredSchemas endpoint).mergeSort fun left right => left.1 ≤ right.1 :=
  rfl

private theorem isSuccess_of_mem {entry : Nat × String × Json}
    (member : entry ∈ document.declaredSchemas endpoint) : IsSuccess entry.1 := by
  rcases List.mem_flatMap.mp member with ⟨⟨status, body⟩, _, declared⟩
  dsimp only at declared
  split at declared
  · cases declared
  · next code _ =>
      split at declared
      · next success =>
          rcases List.mem_map.mp declared with ⟨_, _, rfl⟩
          exact ⟨success.1, Nat.le_of_lt_succ success.2⟩
      · cases declared

private theorem filter_declaredSchemas {code : Nat} (success : IsSuccess code) :
    (document.declaredSchemas endpoint).filter (·.1 = code) =
      (document.schemasUnder endpoint code).map (code, ·) := by
  unfold declaredSchemas schemasUnder
  rw [List.filter_flatMap, List.map_flatMap]
  congr 1
  funext ⟨status, body⟩
  dsimp only
  cases readStatusCode? status with
  | none => simp
  | some other =>
      by_cases same : other = code
      · subst same
        have within : 200 ≤ other ∧ other < 300 := ⟨success.1, Nat.lt_succ_of_le success.2⟩
        rw [if_pos rfl]
        dsimp only
        rw [if_pos within, List.filter_map, List.filter_eq_self.mpr (by simp)]
      · rw [if_neg (by simpa using same)]
        dsimp only
        split
        · rw [List.filter_map]
          simp [Function.comp_def, same]
        · rfl

private theorem mem_declaredSchemas_iff {code : Nat} {entry : String × Json} :
    (code, entry) ∈ document.declaredSchemas endpoint ↔
      IsSuccess code ∧ entry ∈ document.schemasUnder endpoint code := by
  have isItem : ∀ success : IsSuccess code,
      (code, entry) ∈ document.declaredSchemas endpoint ↔
        entry ∈ document.schemasUnder endpoint code := by
    intro success
    have same := @filter_declaredSchemas document endpoint code success
    constructor
    · intro member
      have isUnder : (code, entry) ∈ (document.schemasUnder endpoint code).map (code, ·) :=
        same ▸ List.mem_filter.mpr ⟨member, by simp⟩
      simpa using isUnder
    · intro member
      exact (List.mem_filter.mp (same ▸ List.mem_map_of_mem member)).1
  constructor
  · intro member
    have success := isSuccess_of_mem member
    exact ⟨success, (isItem success).mp member⟩
  · rintro ⟨success, member⟩
    exact (isItem success).mpr member

section Choice

variable {counts : Nat → Bool} {isWanted : String → Bool}

private theorem find?_filter_declaredSchemas {code : Nat} {entry : String × Json}
    (success : IsSuccess code) :
    ((document.declaredSchemas endpoint).filter (·.1 = code)).find?
        (fun item => counts item.1 && isWanted item.2.1) = some (code, entry) ↔
      counts code = true ∧
        (document.schemasUnder endpoint code).find? (fun item => isWanted item.1) = some entry := by
  have paired : (fun item : Nat × String × Json => counts item.1 && isWanted item.2.1) ∘
      (fun item : String × Json => (code, item)) =
        fun item => counts code && isWanted item.1 := rfl
  rw [filter_declaredSchemas success, List.find?_map, paired]
  cases counts code with
  | true => simp
  | false =>
      have nothing : (document.schemasUnder endpoint code).find? (fun _ => false) = none :=
        List.find?_eq_none.mpr (by simp)
      simp [nothing]

private theorem schemaUnder?_eq_none_iff {code : Nat} :
    document.schemaUnder? endpoint isWanted code = none ↔
      ∀ entry ∈ document.schemasUnder endpoint code, isWanted entry.1 = false := by
  simp [schemaUnder?]

/-- Nothing is found among all schemas, where only some statuses count, if there is nothing to be
found under any of them. -/
theorem firstSchema?_eq_none_iff :
    document.firstSchema? endpoint counts isWanted = none ↔
      ∀ code, IsSuccess code → counts code = true →
        document.schemaUnder? endpoint isWanted code = none := by
  simp only [firstSchema?, Option.map_eq_none_iff, List.find?_eq_none, schemaUnder?_eq_none_iff,
    successSchemas_eq, List.mem_mergeSort]
  constructor
  · intro missing code success isCounted entry member
    simpa [isCounted] using missing (code, entry) (mem_declaredSchemas_iff.mpr ⟨success, member⟩)
  · rintro missing ⟨code, entry⟩ member
    rcases mem_declaredSchemas_iff.mp member with ⟨success, isUnder⟩
    rw [Bool.and_eq_true]
    rintro ⟨isCounted, wanted⟩
    simp [missing code success isCounted entry isUnder] at wanted

/-- What is found among all schemas stands under the least of the statuses that count and under
which there is any to be found. -/
theorem firstSchema?_eq_some_iff {schema : Json} :
    document.firstSchema? endpoint counts isWanted = some schema ↔
      ∃ code, IsSuccess code ∧ counts code = true ∧
        document.schemaUnder? endpoint isWanted code = some schema ∧
          ∀ less, IsSuccess less → counts less = true → less < code →
            document.schemaUnder? endpoint isWanted less = none := by
  simp only [firstSchema?, Option.map_eq_some_iff, schemaUnder?, successSchemas_eq]
  constructor
  · rintro ⟨⟨code, entry⟩, found, rfl⟩
    rcases find?_mergeSort_iff.mp found with ⟨first, least⟩
    have success : IsSuccess code :=
      isSuccess_of_mem (List.mem_filter.mp (List.mem_of_find?_eq_some first)).1
    rcases (find?_filter_declaredSchemas success).mp first with ⟨isCounted, isFirst⟩
    refine ⟨code, success, isCounted, ⟨entry, isFirst, rfl⟩, ?_⟩
    intro less lessSuccess lessCounts isLess
    refine schemaUnder?_eq_none_iff.mpr fun other member => ?_
    by_contra wanted
    have notLess := least (less, other) (mem_declaredSchemas_iff.mpr ⟨lessSuccess, member⟩)
      (by simpa [lessCounts] using wanted)
    exact absurd isLess (Nat.not_lt.mpr notLess)
  · rintro ⟨code, success, isCounted, ⟨entry, isFirst, rfl⟩, least⟩
    refine ⟨(code, entry), find?_mergeSort_iff.mpr ⟨?_, ?_⟩, rfl⟩
    · exact (find?_filter_declaredSchemas success).mpr ⟨isCounted, isFirst⟩
    · rintro ⟨other, item⟩ member wanted
      rw [Bool.and_eq_true] at wanted
      rcases mem_declaredSchemas_iff.mp member with ⟨otherSuccess, isUnder⟩
      by_contra isLess
      have missing := least other otherSuccess wanted.1 (Nat.not_le.mp isLess)
      rw [schemaUnder?_eq_none_iff.mp missing item isUnder] at wanted
      simp at wanted

end Choice

/-! ## The answer of an operation -/

theorem mem_schemasUnder_iff {code : Nat} {entry : String × Json} :
    entry ∈ document.schemasUnder endpoint code ↔ ∃ status body content,
      (status, body) ∈ endpoint.responses ∧ SpellsStatus status code ∧
        document.Declares body content ∧ (entry.1, some entry.2) ∈ content := by
  unfold schemasUnder
  rw [List.mem_flatMap]
  constructor
  · rintro ⟨⟨status, body⟩, member, isUnder⟩
    dsimp only at isUnder
    split at isUnder
    · next read =>
        rcases mem_contentOf_iff.mp (mem_schemas_iff.mp isUnder) with ⟨content, declares, declared⟩
        exact ⟨status, body, content, member, readStatusCode?_eq_some_iff.mp read, declares,
          declared⟩
    · cases isUnder
  · rintro ⟨status, body, content, member, spells, declares, declared⟩
    refine ⟨(status, body), member, ?_⟩
    dsimp only
    rw [if_pos (readStatusCode?_eq_some_iff.mpr spells)]
    exact mem_schemas_iff.mpr (mem_contentOf_iff.mpr ⟨content, declares, declared⟩)

private theorem anyUnder?_eq_none_iff {code : Nat} :
    document.anyUnder? endpoint code = none ↔ document.schemasUnder endpoint code = [] := by
  unfold anyUnder?
  rw [schemaUnder?_eq_none_iff, List.eq_nil_iff_forall_not_mem]
  simp

private theorem jsonUnder?_eq_none_of_any {code : Nat}
    (missing : document.anyUnder? endpoint code = none) :
    document.jsonUnder? endpoint code = none := by
  unfold jsonUnder? schemaUnder?
  rw [anyUnder?_eq_none_iff.mp missing]
  rfl

/-- The three wishes, one after another. -/
theorem responseSchema?_eq (document : Document) (endpoint : Endpoint) :
    document.responseSchema? endpoint =
      (document.firstSchema? endpoint (· == 200) (· == jsonMediaType)).or
        ((document.firstSchema? endpoint (fun _ => true) (· == jsonMediaType)).or
          (document.firstSchema? endpoint (fun _ => true) fun _ => true)) := by
  have isHead : (document.successSchemas endpoint).find? (fun _ => true) =
      (document.successSchemas endpoint).head? := by
    cases document.successSchemas endpoint <;> rfl
  simp only [firstSchema?, Bool.true_and, isHead, ← Option.map_or]
  simp only [responseSchema?, Option.orElse_eq_orElse, Option.orElse_eq_or]

private theorem firstSchema?_ok :
    document.firstSchema? endpoint (· == 200) (· == jsonMediaType) =
      document.jsonUnder? endpoint 200 := by
  apply Option.ext
  intro schema
  rw [firstSchema?_eq_some_iff]
  simp only [beq_iff_eq]
  constructor
  · rintro ⟨code, _, rfl, found, _⟩
    exact found
  · intro found
    refine ⟨200, by decide, rfl, found, ?_⟩
    rintro less _ rfl isLess
    exact absurd isLess (Nat.lt_irrefl 200)

private theorem firstSchema?_least_iff {isWanted : String → Bool} {schema : Json} :
    document.firstSchema? endpoint (fun _ => true) isWanted = some schema ↔
      IsLeastUnder (document.schemaUnder? endpoint isWanted) schema := by
  rw [firstSchema?_eq_some_iff]
  simp [IsLeastUnder]

private theorem firstSchema?_none_iff {isWanted : String → Bool} :
    document.firstSchema? endpoint (fun _ => true) isWanted = none ↔
      ∀ code, IsSuccess code → document.schemaUnder? endpoint isWanted code = none := by
  rw [firstSchema?_eq_none_iff]
  simp

private theorem responseSchema?_eq_some_iff {schema : Json} :
    document.responseSchema? endpoint = some schema ↔ document.IsPreferred endpoint schema := by
  rw [responseSchema?_eq, firstSchema?_ok, Option.or_eq_some_iff, Option.or_eq_some_iff,
    firstSchema?_least_iff, firstSchema?_none_iff, firstSchema?_least_iff]
  constructor
  · rintro (found | ⟨missing, least | ⟨nowhere, least⟩⟩)
    · exact .jsonOfOk found
    · exact .leastJson missing least
    · exact .least nowhere least
  · rintro (found | ⟨missing, least⟩ | ⟨nowhere, least⟩)
    · exact .inl found
    · exact .inr ⟨missing, .inl least⟩
    · exact .inr ⟨nowhere 200 (by decide), .inr ⟨nowhere, least⟩⟩

private theorem offers_iff {schema : Json} : document.Offers endpoint schema ↔
    ∃ code mediaType, IsSuccess code ∧
      (mediaType, schema) ∈ document.schemasUnder endpoint code := by
  simp only [mem_schemasUnder_iff]
  constructor
  · rintro ⟨status, body, code, content, mediaType, member, spells, success, declares, declared⟩
    exact ⟨code, mediaType, success, status, body, content, member, spells, declares, declared⟩
  · rintro ⟨code, mediaType, success, status, body, content, member, spells, declares, declared⟩
    exact ⟨status, body, code, content, mediaType, member, spells, success, declares, declared⟩

private theorem responseSchema?_eq_none_iff :
    document.responseSchema? endpoint = none ↔ ¬∃ schema, document.Offers endpoint schema := by
  rw [responseSchema?_eq, firstSchema?_ok, Option.or_eq_none_iff, Option.or_eq_none_iff,
    firstSchema?_none_iff, firstSchema?_none_iff]
  simp only [offers_iff]
  constructor
  · rintro ⟨_, _, nowhere⟩ ⟨schema, code, mediaType, success, member⟩
    rw [anyUnder?_eq_none_iff.mp (nowhere code success)] at member
    cases member
  · intro nothing
    have nowhere : ∀ code, IsSuccess code → document.anyUnder? endpoint code = none := by
      intro code success
      rw [anyUnder?_eq_none_iff, List.eq_nil_iff_forall_not_mem]
      intro entry member
      exact nothing ⟨entry.2, code, entry.1, success, member⟩
    have noJson code (success : IsSuccess code) : document.jsonUnder? endpoint code = none :=
      jsonUnder?_eq_none_of_any (nowhere code success)
    exact ⟨noJson 200 (by decide), noJson, nowhere⟩

/-! ## Other answers -/

theorem isSuccessStatus_of_read {status : String} {code : Nat}
    (read : readStatusCode? status = some code) (success : 200 ≤ code ∧ code < 300) :
    IsSuccessStatus status :=
  ⟨code, readStatusCode?_eq_some_iff.mp read, success.1, Nat.le_of_lt_succ success.2⟩

private theorem declaredSchemas_succeeding (document : Document) (endpoint : Endpoint) :
    document.declaredSchemas endpoint.succeeding = document.declaredSchemas endpoint := by
  unfold declaredSchemas Endpoint.succeeding
  dsimp only
  induction endpoint.responses with
  | nil => rfl
  | cons response others induction =>
      rw [List.filter_cons, List.flatMap_cons]
      split
      · rw [List.flatMap_cons, induction]
      · next fails =>
          rw [induction, List.self_eq_append_left]
          rw [decide_eq_true_eq] at fails
          split
          · rfl
          · next code read =>
              rw [if_neg fun success => fails (isSuccessStatus_of_read read success)]

/-- A successful answer has a schema if and only if one is declared, it is the one that is
preferred, and answers under other statuses have no part in the choice. -/
theorem responseSchema?_preference (document : Document) (endpoint : Endpoint) :
    (document.responseSchema? endpoint = none ↔ ¬∃ schema, document.Offers endpoint schema) ∧
      (∀ schema, document.responseSchema? endpoint = some schema ↔
        document.IsPreferred endpoint schema) ∧
      document.responseSchema? endpoint.succeeding = document.responseSchema? endpoint := by
  refine ⟨responseSchema?_eq_none_iff, fun _ => responseSchema?_eq_some_iff, ?_⟩
  have same : document.successSchemas endpoint.succeeding = document.successSchemas endpoint := by
    rw [successSchemas_eq, successSchemas_eq, declaredSchemas_succeeding]
  rw [responseSchema?, responseSchema?, same]

/-- A content that writes `null` for a schema. -/
def nullContent : Json := .object [("application/json", .object [("schema", .null)])]

/-- One operation declares this content in its place, and the other one refers to it. -/
def nullDocument : Json :=
  .object [("openapi", .string "3.1.0"),
    ("info", .object [("title", .string "t"), ("version", .string "1")]),
    ("paths", .object [
      ("/inline", .object [("get", .object [("responses", .object [
        ("200", .object [("description", .string "ok"), ("content", nullContent)])])])]),
      ("/shared", .object [("get", .object [("responses", .object [
        ("200", .object [("$ref", .string "#/components/responses/Nothing")])])])])]),
    ("components", .object [("responses", .object [
      ("Nothing", .object [("description", .string "ok"), ("content", nullContent)])])])]

/-- Of the same content, `null` is no schema where it is declared in its place, and is one where
it is shared. -/
theorem responseSchema?_null :
    ((ofJson? nullDocument).map fun document => ["/inline", "/shared"].map fun path =>
      ((document.endpoint? .get path).bind document.responseSchema?).isSome) =
        some [false, true] := by
  decide +kernel

end Document

end RestModel
