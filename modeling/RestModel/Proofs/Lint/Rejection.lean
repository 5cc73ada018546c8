import RestModel.Proofs.Lint.Kinds
import RestModel.Proofs.Outcome

/-! # Findings where repeated operation sets are rejected

Reading directives never fails where the first of several operation sets counts: a repeated set is
only noted. Where repeated sets are rejected, reading goes the same way until there is one and then
ends with nothing but that, so that whatever else was found in the reading is lost. Only what is
found about each directive by itself is found in any case. -/

namespace RestModel

namespace Lint

/-- A finding is about a repeated operation set. -/
def IsRepeat (lint : Lint) : Prop := lint.kind = .duplicateOperationSet

/-- No finding is about a repeated operation set. -/
def NoRepeat (lints : List Lint) : Prop := ∀ lint ∈ lints, ¬lint.IsRepeat

section Basic

variable {location message suggestion : String} {kind : LintKind} {lint : Lint}
  {lints others : List Lint}

@[simp]
theorem isRepeat_error : (error location kind message).IsRepeat ↔ kind = .duplicateOperationSet :=
  Iff.rfl

@[simp]
theorem isRepeat_warning :
    (warning location kind message).IsRepeat ↔ kind = .duplicateOperationSet :=
  Iff.rfl

@[simp]
theorem isRepeat_suggesting : (lint.suggesting suggestion).IsRepeat ↔ lint.IsRepeat := Iff.rfl

@[simp]
theorem noRepeat_nil : NoRepeat [] := List.forall_mem_nil _

@[simp]
theorem noRepeat_cons : NoRepeat (lint :: lints) ↔ ¬lint.IsRepeat ∧ NoRepeat lints :=
  List.forall_mem_cons

@[simp]
theorem noRepeat_append : NoRepeat (lints ++ others) ↔ NoRepeat lints ∧ NoRepeat others :=
  List.forall_mem_append

private theorem noRepeat_flatMap {of : α → List Lint} {items : List α} :
    NoRepeat (items.flatMap of) ↔ ∀ item ∈ items, NoRepeat (of item) := by
  simp only [NoRepeat, List.forall_mem_flatMap]

end Basic

end Lint

open Lint

private theorem Lint.AreOf.noRepeat {kinds : List LintKind} {lints : List Lint}
    (areOf : AreOf kinds lints) (other : .duplicateOperationSet ∉ kinds) : NoRepeat lints :=
  fun lint member isRepeat => other (isRepeat ▸ areOf lint member)

private theorem Facts.noRepeat_directiveLints (vocabulary : Vocabulary) (facts : Facts) :
    NoRepeat (facts.directiveLints vocabulary) := by
  refine noRepeat_append.mpr ⟨noRepeat_flatMap.mpr ?_, noRepeat_flatMap.mpr ?_⟩
  · exact fun fact _ => (Directive.areOf_lintText _ _ _ _).noRepeat (by decide)
  · exact fun fact _ => noRepeat_flatMap.mpr fun line _ =>
      (Directive.areOf_lintText _ _ _ _).noRepeat (by decide)

/-! ## Two ways of reading -/

/-- One computation succeeds. Another one comes to the same unless a repeated operation set was
found, and fails for that otherwise. -/
def StopsAtRepeat (lintsOf : α → List Lint) (lenient strict : Except Failure α) : Prop :=
  ∃ value, lenient = .ok value ∧
    (NoRepeat (lintsOf value) ∧ strict = .ok value ∨
      ¬NoRepeat (lintsOf value) ∧
        ∃ resource marker, strict = .error (.duplicateOperationSet resource marker))

namespace StopsAtRepeat

variable {lintsOf : α → List Lint} {lenient strict : Except Failure α}

theorem of_ok {value : α} (clean : NoRepeat (lintsOf value)) :
    StopsAtRepeat lintsOf (.ok value) (.ok value) :=
  ⟨value, rfl, .inl ⟨clean, rfl⟩⟩

theorem map {lintsOf' : β → List Lint} (stops : StopsAtRepeat lintsOf lenient strict)
    (change : α → β)
    (same : ∀ value, NoRepeat (lintsOf' (change value)) ↔ NoRepeat (lintsOf value)) :
    StopsAtRepeat lintsOf' (lenient.map change) (strict.map change) := by
  rcases stops with ⟨value, rfl, ⟨clean, rfl⟩ | ⟨repeated, resource, marker, rfl⟩⟩
  · exact ⟨change value, rfl, .inl ⟨(same value).mpr clean, rfl⟩⟩
  · exact ⟨change value, rfl, .inr ⟨fun clean => repeated ((same value).mp clean), resource, marker,
      rfl⟩⟩

/-- What is found in two steps is found in the first or in the second. -/
theorem join {lintsOf' : β → List Lint} {lintsOf'' : γ → List Lint} {make : α → β → γ}
    {next strictNext : α → Except Failure β} (first : StopsAtRepeat lintsOf lenient strict)
    (others : ∀ value, StopsAtRepeat lintsOf' (next value) (strictNext value))
    (appended : ∀ value other, lintsOf'' (make value other) = lintsOf value ++ lintsOf' other) :
    StopsAtRepeat lintsOf''
      (lenient >>= fun value => next value >>= fun other => .ok (make value other))
      (strict >>= fun value => strictNext value >>= fun other => .ok (make value other)) := by
  rcases first with ⟨value, rfl, both⟩
  rcases others value with ⟨other, isOther, bothOther⟩
  refine ⟨make value other, bind_eq_ok_iff.mpr ⟨value, rfl, bind_eq_ok_iff.mpr ⟨other, isOther,
    rfl⟩⟩, ?_⟩
  rw [appended, noRepeat_append]
  rcases both with ⟨clean, rfl⟩ | ⟨repeated, resource, marker, rfl⟩
  · rcases bothOther with ⟨otherClean, isStrict⟩ | ⟨repeated, resource, marker, isStrict⟩
    · exact .inl ⟨⟨clean, otherClean⟩, bind_eq_ok_iff.mpr ⟨value, rfl, bind_eq_ok_iff.mpr ⟨other,
        isStrict, rfl⟩⟩⟩
    · refine .inr ⟨fun all => repeated all.2, resource, marker, ?_⟩
      change strictNext value >>= _ = _
      rw [isStrict]
      rfl
  · exact .inr ⟨fun all => repeated all.1, resource, marker, rfl⟩

end StopsAtRepeat

namespace DeclaredType

variable {vocabulary : Vocabulary} {paths : List (String × String)}

private theorem declare_stopsAtRepeat (type : DeclaredType) (declaration : Declaration)
    (location : String) :
    StopsAtRepeat Reading.lints (type.declare .firstWins declaration location)
      (type.declare .reject declaration location) := by
  cases declaration with
  | operations set =>
      unfold declare declareSet
      dsimp only
      split
      · exact .of_ok noRepeat_nil
      · refine ⟨_, rfl, .inr ⟨?_, _, _, rfl⟩⟩
        simp [repeatedSet]
  | requestUrl url | responseUrl url =>
      unfold declare
      dsimp only
      split
      · exact .of_ok noRepeat_nil
      · exact .of_ok (by simp [repeatedOverride])
  | _ => exact .of_ok noRepeat_nil

private theorem addFact_stopsAtRepeat (type : DeclaredType) (fact : DirectiveFact) :
    StopsAtRepeat Reading.lints (type.addFact vocabulary .firstWins paths fact)
      (type.addFact vocabulary .reject paths fact) := by
  have own := (Declaration.areOf_ofText vocabulary (Keyed.get? fact.origin paths) fact.text
    fact.location).noRepeat (by decide)
  unfold addFact
  dsimp only
  generalize Declaration.ofText vocabulary (Keyed.get? fact.origin paths) fact.text
    fact.location = reading at own ⊢
  rcases reading with ⟨declaration?, lints⟩
  cases declaration? with
  | none => exact .of_ok own
  | some declaration =>
      refine (type.declare_stopsAtRepeat declaration fact.location).map _ fun declared => ?_
      rw [noRepeat_append, and_iff_right own]

private theorem addFacts_stopsAtRepeat (facts : List DirectiveFact) : ∀ type : DeclaredType,
    StopsAtRepeat Reading.lints (type.addFacts vocabulary .firstWins paths facts)
      (type.addFacts vocabulary .reject paths facts) := by
  induction facts with
  | nil => exact fun type => .of_ok noRepeat_nil
  | cons fact rest induction =>
      intro type
      exact (type.addFact_stopsAtRepeat fact).join (fun first => induction first.value)
        fun _ _ => rfl

end DeclaredType

namespace Declared

private theorem typesOf_stopsAtRepeat (vocabulary : Vocabulary) (paths : List (String × String))
    (entries : List (String × List DirectiveFact)) :
    StopsAtRepeat (fun types => types.flatMap Reading.lints)
      (typesOf vocabulary .firstWins paths entries) (typesOf vocabulary .reject paths entries) := by
  induction entries with
  | nil => exact .of_ok noRepeat_nil
  | cons entry rest induction =>
      exact (DeclaredType.addFacts_stopsAtRepeat entry.2 _).join (fun _ => induction) fun _ _ => rfl

private theorem ofDirectives_stopsAtRepeat (vocabulary : Vocabulary) (facts : List DirectiveFact) :
    StopsAtRepeat Declared.lints (ofDirectives vocabulary .firstWins facts)
      (ofDirectives vocabulary .reject facts) := by
  have packages : NoRepeat ((facts.filter (·.target = .package)).flatMap fun fact =>
      (basePathOf vocabulary fact).lints) :=
    noRepeat_flatMap.mpr fun fact _ => (areOf_basePathOf vocabulary fact).noRepeat (by decide)
  refine (typesOf_stopsAtRepeat vocabulary _ _).map _ fun types => ?_
  rw [noRepeat_append, and_iff_right packages]

end Declared

private theorem Inventory.ofFacts_stopsAtRepeat (vocabulary : Vocabulary) (facts : Facts) :
    StopsAtRepeat Inventory.lints (ofFacts vocabulary .firstWins facts)
      (ofFacts vocabulary .reject facts) := by
  have wired : NoRepeat (wiredDescriptors vocabulary facts.wiring).lints :=
    noRepeat_flatMap.mpr fun fact _ => (fact.areOf_lints vocabulary).noRepeat (by decide)
  refine (Declared.ofDirectives_stopsAtRepeat vocabulary facts.directives).map _ fun declared => ?_
  rw [noRepeat_append, and_iff_left wired]

/-! ## All findings -/

theorem lintFacts_eq_of_inventoryLints {vocabulary : Vocabulary} {policy : OperationSetPolicy}
    {facts : Facts} {lints : List Lint}
    (collected : facts.inventoryLints vocabulary policy = .ok lints) :
    ∃ found, lintFacts vocabulary policy facts = .ok found ∧
      ∀ lint, lint ∈ found ↔ lint ∈ facts.directiveLints vocabulary ∨ lint ∈ lints := by
  refine ⟨_, bind_eq_ok_iff.mpr ⟨lints, collected, rfl⟩, fun lint => ?_⟩
  rw [List.mem_mergeSort, List.mem_append]

/-- Where repeated operation sets are rejected, the same is found if no set is repeated. If one is,
this is found too, as an error, but of everything else only what is found about each directive by
itself, and nothing of what the reading of all of them comes to. -/
theorem lintFacts_reject (vocabulary : Vocabulary) (facts : Facts) :
    ∃ inventory lenient strict,
      Inventory.ofFacts vocabulary .firstWins facts = .ok inventory ∧
      lintFacts vocabulary .firstWins facts = .ok lenient ∧
      lintFacts vocabulary .reject facts = .ok strict ∧
      (∀ lint, lint ∈ lenient ↔
        lint ∈ facts.directiveLints vocabulary ∨ lint ∈ inventory.lints) ∧
      (NoRepeat lenient → strict = lenient) ∧
      (¬NoRepeat lenient →
        (∃ lint ∈ strict, lint.IsRepeat ∧ lint.severity = .error) ∧
        ∀ lint, ¬lint.IsRepeat → (lint ∈ strict ↔ lint ∈ facts.directiveLints vocabulary)) := by
  have alone := facts.noRepeat_directiveLints vocabulary
  rcases Inventory.ofFacts_stopsAtRepeat vocabulary facts with ⟨inventory, collected, both⟩
  have lenientLints : facts.inventoryLints vocabulary .firstWins = .ok inventory.lints := by
    rw [Facts.inventoryLints, collected]
  rcases lintFacts_eq_of_inventoryLints lenientLints with ⟨lenient, isLenient, mem_lenient⟩
  have clean_iff : NoRepeat lenient ↔ NoRepeat inventory.lints := by
    constructor
    · exact fun clean lint member => clean lint ((mem_lenient lint).mpr (.inr member))
    · exact fun clean lint member => ((mem_lenient lint).mp member).elim (alone lint) (clean lint)
  rcases both with ⟨clean, isStrict⟩ | ⟨repeated, resource, marker, isStrict⟩
  · have same : lintFacts vocabulary .reject facts = lintFacts vocabulary .firstWins facts := by
      rw [lintFacts, lintFacts, lenientLints, Facts.inventoryLints, isStrict]
    exact ⟨inventory, lenient, lenient, collected, isLenient, same.trans isLenient, mem_lenient,
      fun _ => rfl, fun repeated => absurd (clean_iff.mpr clean) repeated⟩
  · have strictLints : facts.inventoryLints vocabulary .reject =
        .ok [.error resource .duplicateOperationSet
          ("`" ++ marker ++ "` repeats an operation set; rejected by policy")] := by
      rw [Facts.inventoryLints, isStrict]
    rcases lintFacts_eq_of_inventoryLints strictLints with ⟨strict, isStrict, mem_strict⟩
    refine ⟨inventory, lenient, strict, collected, isLenient, isStrict, mem_lenient,
      fun clean => absurd (clean_iff.mp clean) repeated, fun _ => ⟨?_, fun lint other => ?_⟩⟩
    · exact ⟨_, (mem_strict _).mpr (.inr List.mem_cons_self), rfl, rfl⟩
    · rw [mem_strict, List.mem_singleton, or_iff_left]
      rintro rfl
      exact other rfl

def garageVocabulary : Vocabulary :=
  ⟨"garage", ⟨[⟨"garage:extraMethod", .type, .string, "path of a method"⟩,
    ⟨"garage:ops", .type, .string, "operations and their path"⟩]⟩, .standard⟩

/-- A method of bikes has a verb that there is none of, and cars have two operation sets. -/
def garageFacts : Facts where
  directives :=
    [⟨"Bike", .type, "+garage:extraMethod:FETCH=/bikes/refresh", "garage"⟩,
      ⟨"Car", .type, "+garage:ops:R=/cars", "garage"⟩,
      ⟨"Car", .type, "+garage:ops:L=/cars", "garage"⟩]
  wiring := []

/-- The verb is found to be unsupported only where repeated operation sets are not rejected. -/
theorem lintFacts_reject_garage : ∃ lenient strict,
    lintFacts garageVocabulary .firstWins garageFacts = .ok lenient ∧
      lintFacts garageVocabulary .reject garageFacts = .ok strict ∧
      (∃ lint ∈ lenient, lint.kind = .unsupportedVerb) ∧
      ∀ lint ∈ strict, lint.kind ≠ .unsupportedVerb := by
  have found {policy : OperationSetPolicy} {kinds : List LintKind}
      (known : (garageFacts.inventoryLints garageVocabulary policy).toOption.map
        (·.map Lint.kind) = some kinds) :
      ∃ found, lintFacts garageVocabulary policy garageFacts = .ok found ∧
        ∀ kind, (∃ lint ∈ found, lint.kind = kind) ↔ kind ∈ kinds := by
    have alone : garageFacts.directiveLints garageVocabulary = [] := by decide +kernel
    rcases exists_of_toOption_map known with ⟨lints, collected, rfl⟩
    rcases lintFacts_eq_of_inventoryLints collected with ⟨found, isFound, members⟩
    refine ⟨found, isFound, fun kind => ?_⟩
    simp only [members, alone, List.not_mem_nil, false_or, List.mem_map]
  have lenientKinds : (garageFacts.inventoryLints garageVocabulary .firstWins).toOption.map
      (·.map Lint.kind) = some [.unsupportedVerb, .duplicateOperationSet] := by decide +kernel
  have strictKinds : (garageFacts.inventoryLints garageVocabulary .reject).toOption.map
      (·.map Lint.kind) = some [.duplicateOperationSet] := by decide +kernel
  rcases found lenientKinds with ⟨lenient, isLenient, inLenient⟩
  rcases found strictKinds with ⟨strict, isStrict, inStrict⟩
  refine ⟨lenient, strict, isLenient, isStrict, (inLenient _).mpr List.mem_cons_self, ?_⟩
  intro lint member isVerb
  have listed := (inStrict .unsupportedVerb).mp ⟨lint, member, isVerb⟩
  revert listed
  decide

end RestModel
