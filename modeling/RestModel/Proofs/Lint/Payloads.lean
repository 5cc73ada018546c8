import RestModel.Proofs.Directive.Lookup
import RestModel.Proofs.Lint.Kinds
import RestModel.Proofs.Resource.Types

/-! # Findings about payloads

The shape of a marker tells whether its payload may be absent. Reading the directives of types
leaves this to the marker only where a directive tells whether its type is left out. Every other
directive needs a payload, whatever its marker says. -/

namespace RestModel

namespace Lint

/-- Those of several findings that are about payloads. -/
def aboutPayloads (lints : List Lint) : List Lint :=
  lints.filter (·.kind ∈ LintKind.ofPayloads)

private theorem aboutPayloads_append (lints others : List Lint) :
    aboutPayloads (lints ++ others) = aboutPayloads lints ++ aboutPayloads others :=
  List.filter_append ..

theorem AreOf.aboutPayloads {kinds : List LintKind} {lints : List Lint}
    (areOf : AreOf kinds lints) (others : ∀ kind ∈ kinds, kind ∉ LintKind.ofPayloads) :
    aboutPayloads lints = [] := by
  refine List.filter_eq_nil_iff.mpr fun lint member => ?_
  simpa using others _ (areOf lint member)

end Lint

open Lint

/-- What is found about the payload of a directive with its marker. -/
def Directive.payloadLint? (directive : Directive) (definition : Marker) (location : String) :
    Option Lint :=
  if directive.feature = .skip then
    match definition.readPayload directive.payload with
    | .ok _ => none
    | .error problem => some (.error location .invalidPayload problem.message)
  else
    match directive.requirePayload with
    | .ok _ => none
    | .error problem => some (.error location .missingPayload problem.message)

/-- What is found about the payload of a directive, if it belongs to the vocabulary and may stand
at types. -/
def DirectiveFact.payloadLint? (vocabulary : Vocabulary) (fact : DirectiveFact) : Option Lint :=
  (fact.marked? vocabulary).bind fun (directive, definition) =>
    directive.payloadLint? definition fact.location

/-- A payload that the marker accepts is found to be at fault exactly if it is absent and the
directive tells something else than whether its type is left out. -/
theorem Directive.payloadLint?_eq_none_iff {directive : Directive} {definition : Marker}
    {value : PayloadValue} (accepts : definition.readPayload directive.payload = .ok value)
    (location : String) :
    directive.payloadLint? definition location = none ↔
      directive.feature = .skip ∨ directive.payload ≠ none := by
  unfold payloadLint?
  split
  · next isSkip => simp [isSkip, accepts]
  · next other =>
      unfold requirePayload
      cases directive.payload <;> simp [other]

/-! ## From one directive to all of them -/

theorem Declaration.aboutPayloads_ofDirective (directive : Directive) (definition : Marker)
    (basePath : Option String) (wait : Wait) (location : String) :
    aboutPayloads (ofDirective directive definition basePath wait location).lints =
      (directive.payloadLint? definition location).toList := by
  unfold ofDirective Directive.payloadLint?
  split
  · cases definition.readPayload directive.payload with
    | ok value => cases value with
      | bool skipped => cases skipped <;> rfl
      | _ => rfl
    | error problem => rfl
  · cases directive.requirePayload with
    | ok payload => exact (areOf_ofPath _ _ _ _).aboutPayloads (by decide)
    | error problem => rfl

private theorem Declaration.aboutPayloads_ofText (vocabulary : Vocabulary)
    (basePath : Option String)
    (fact : DirectiveFact) :
    aboutPayloads (ofText vocabulary basePath fact.text fact.location).lints =
      (fact.payloadLint? vocabulary).toList := by
  rw [ofText_eq_elim, DirectiveFact.payloadLint?]
  cases fact.marked? vocabulary with
  | none =>
      have own := Directive.areOf_readOwn vocabulary.name fact.text fact.location
      simpa only [Option.elim_none, Option.bind_none, Option.toList_none] using
        own.aboutPayloads (by decide)
  | some marked =>
      rw [Option.elim_some, Option.bind_some]
      exact aboutPayloads_ofDirective ..

namespace DeclaredType

variable {vocabulary : Vocabulary} {policy : OperationSetPolicy}
  {paths : List (String × String)} {type : DeclaredType} {reading : Reading DeclaredType}

private theorem aboutPayloads_addFact {fact : DirectiveFact}
    (added : type.addFact vocabulary policy paths fact = .ok reading) :
    aboutPayloads reading.lints = (fact.payloadLint? vocabulary).toList := by
  have own := Declaration.aboutPayloads_ofText vocabulary (Keyed.get? fact.origin paths) fact
  unfold addFact at added
  dsimp only at added
  split at added
  · cases added
    simpa only using own
  · rcases map_eq_ok_iff.mp added with ⟨declared, isDeclared, rfl⟩
    rw [aboutPayloads_append, own, (areOf_declare isDeclared).aboutPayloads (by decide),
      List.append_nil]

private theorem aboutPayloads_addFacts {facts : List DirectiveFact}
    (added : type.addFacts vocabulary policy paths facts = .ok reading) :
    aboutPayloads reading.lints = facts.filterMap (·.payloadLint? vocabulary) := by
  induction facts generalizing type reading with
  | nil =>
      cases added
      rfl
  | cons fact rest induction =>
      rcases bind_eq_ok_iff.mp added with ⟨first, isFirst, added⟩
      rcases bind_eq_ok_iff.mp added with ⟨others, areOthers, added⟩
      cases added
      rw [aboutPayloads_append, aboutPayloads_addFact isFirst, induction areOthers,
        filterMap_cons_eq_append]

end DeclaredType

namespace Declared

variable {vocabulary : Vocabulary} {policy : OperationSetPolicy}
  {facts : List DirectiveFact} {declared : Declared}

private theorem aboutPayloads_typesOf {paths : List (String × String)}
    {entries : List (String × List DirectiveFact)} {types : List (Reading DeclaredType)}
    (read : typesOf vocabulary policy paths entries = .ok types) :
    aboutPayloads (types.flatMap (·.lints)) =
      (entries.flatMap (·.2)).filterMap (·.payloadLint? vocabulary) := by
  induction entries generalizing types with
  | nil =>
      cases read
      rfl
  | cons entry rest induction =>
      rcases exists_of_typesOf_cons read with ⟨first, others, isFirst, areOthers, rfl⟩
      rw [List.flatMap_cons, List.flatMap_cons, aboutPayloads_append, List.filterMap_append,
        DeclaredType.aboutPayloads_addFacts isFirst, induction areOthers]

/-- The findings about payloads are those about the single directives of types. -/
theorem aboutPayloads_perm (read : ofDirectives vocabulary policy facts = .ok declared) :
    (aboutPayloads declared.lints).Perm
      ((facts.filter (·.target = .type)).filterMap (·.payloadLint? vocabulary)) := by
  rcases bind_eq_ok_iff.mp read with ⟨types, areTypes, read⟩
  cases read
  have packages : AreOf [.malformedDirective] ((facts.filter (·.target = .package)).flatMap
      fun fact => (basePathOf vocabulary fact).lints) :=
    areOf_flatMap.mpr fun fact _ => areOf_basePathOf vocabulary fact
  rw [aboutPayloads_append, packages.aboutPayloads (by decide), List.nil_append,
    aboutPayloads_typesOf areTypes]
  exact (byType_perm _).filterMap _

end Declared

/-! ## Markers beside the built-in ones -/

namespace DirectiveFact

variable {vocabulary : Vocabulary} {fact : DirectiveFact} {directive : Directive}
  {definition : Marker}

private theorem marked?_eq_some_iff :
    fact.marked? vocabulary = some (directive, definition) ↔
      Directive.ofText fact.text = .ok directive ∧ directive.vocabulary = vocabulary.name ∧
        vocabulary.registry.lookup? directive.text .type = some definition := by
  unfold marked?
  cases Directive.ofText fact.text with
  | error problem => simp
  | ok read =>
      dsimp only
      split
      · next own =>
          simp only [Option.map_eq_some_iff, Prod.mk.injEq, Except.ok.injEq]
          constructor
          · rintro ⟨_, found, rfl, rfl⟩
            exact ⟨rfl, own, found⟩
          · rintro ⟨rfl, _, found⟩
            exact ⟨definition, found, rfl, rfl⟩
      · next foreign =>
          simp only [reduceCtorEq, Except.ok.injEq, false_iff, not_and]
          rintro rfl own
          exact absurd own foreign

/-- Where a directive's marker accepts that there is no payload, but the directive is found to be
at fault for it, the marker is none of the built-in ones. -/
theorem mem_of_payloadLint? {start : Registry} {further : List Marker} {value : PayloadValue}
    (built : Registry.withBuiltIn vocabulary.name = .ok start)
    (registered : start.registerAll further = .ok vocabulary.registry)
    (marked : fact.marked? vocabulary = some (directive, definition))
    (accepts : definition.readPayload directive.payload = .ok value)
    (other : directive.feature ≠ .skip) (absent : directive.payload = none) :
    definition ∈ further ∧ definition.shape.isOptional = true := by
  rcases marked?_eq_some_iff.mp marked with ⟨read, own, found⟩
  have isOptional : definition.shape.isOptional = true := by
    rw [absent, Marker.readPayload, Option.bind_none] at accepts
    by_contra isNot
    simp [isNot] at accepts
  refine ⟨?_, isOptional⟩
  rcases List.exists_of_findSome?_eq_some found with ⟨name, _, isFound⟩
  rcases Registry.mem_of_registerAll registered (Registry.mem_of_find? isFound).1 with
    listed | known
  · exact listed
  · rcases Registry.mem_of_registerAll built known with listed | impossible
    · exact absurd (Registry.feature_of_lookup? read found (own ▸ listed) isOptional) other
    · exact absurd impossible List.not_mem_nil

end DirectiveFact

namespace Declared

/-- Each finding about payloads is one about a single directive of a type. A directive whose marker
accepts its payload, absent or not, is found to be at fault exactly if there is no payload and it
does not tell whether its type is left out. Its marker is then a further one, whose payload may be
absent. -/
theorem payloadLint?_ofDirectives {vocabulary : Vocabulary} {policy : OperationSetPolicy}
    {facts : List DirectiveFact} {declared : Declared} {start : Registry} {further : List Marker}
    (built : Registry.withBuiltIn vocabulary.name = .ok start)
    (registered : start.registerAll further = .ok vocabulary.registry)
    (read : ofDirectives vocabulary policy facts = .ok declared) :
    (aboutPayloads declared.lints).Perm
        ((facts.filter (·.target = .type)).filterMap (·.payloadLint? vocabulary)) ∧
      ∀ (fact : DirectiveFact) (directive : Directive) (definition : Marker) (value : PayloadValue),
        fact.marked? vocabulary = some (directive, definition) →
        definition.readPayload directive.payload = .ok value →
          (fact.payloadLint? vocabulary = none ↔
            directive.feature = .skip ∨ directive.payload ≠ none) ∧
          (fact.payloadLint? vocabulary ≠ none →
            definition ∈ further ∧ definition.shape.isOptional = true) := by
  refine ⟨aboutPayloads_perm read, fun fact directive definition value marked accepts => ?_⟩
  have faultless : fact.payloadLint? vocabulary = none ↔
      directive.feature = .skip ∨ directive.payload ≠ none := by
    rw [DirectiveFact.payloadLint?, marked, Option.bind_some]
    exact Directive.payloadLint?_eq_none_iff accepts fact.location
  refine ⟨faultless, fun faulty => ?_⟩
  rw [ne_eq, faultless, not_or, not_not] at faulty
  exact DirectiveFact.mem_of_payloadLint? built registered marked accepts faulty.1 faulty.2

/-! ## A note that may be empty -/

def noteMarker : Marker := ⟨"shop:note", .type, .optional .string, "remark about the type"⟩

def noteVocabulary : Vocabulary :=
  ⟨"shop", (Registry.shopRegistry.register noteMarker).toOption.getD .empty, .standard⟩

def lampFact : DirectiveFact := ⟨"Lamp", .type, "+shop:skip", "shop"⟩

def lampDirective : Directive := ⟨"+shop:skip", "shop", .skip, none, none, none⟩

def skipMarker : Marker :=
  ⟨"shop:skip", .type, .optional .bool, "exclude the type from generation"⟩

def tableFact : DirectiveFact := ⟨"Table", .type, "+shop:note", "shop"⟩

def tableDirective : Directive := ⟨"+shop:note", "shop", .other "note", none, none, none⟩

def tableLint : Lint :=
  .error tableFact.location .missingPayload (DirectiveError.missingPayload "+shop:note").message

private theorem withBuiltIn_noteVocabulary :
    Registry.withBuiltIn noteVocabulary.name = .ok Registry.shopRegistry :=
  Registry.withBuiltIn_shop

/-- What the lamp and the table come to. It is computed at once, for the sake of the registry. -/
theorem lamp_table :
    (Registry.shopRegistry.registerAll [noteMarker]).toOption = some noteVocabulary.registry ∧
      lampFact.marked? noteVocabulary = some (lampDirective, skipMarker) ∧
      tableFact.marked? noteVocabulary = some (tableDirective, noteMarker) ∧
      (ofDirectives noteVocabulary .firstWins [lampFact, tableFact]).toOption.map (·.lints) =
        some [tableLint] := by
  decide +kernel

private theorem registerAll_noteMarker :
    Registry.shopRegistry.registerAll [noteMarker] = .ok noteVocabulary.registry :=
  eq_ok_of_toOption lamp_table.1

private theorem exists_lamp_table : ∃ declared,
    ofDirectives noteVocabulary .firstWins [lampFact, tableFact] = .ok declared ∧
      declared.lints = [tableLint] :=
  exists_of_toOption_map lamp_table.2.2.2

theorem payloadLint?_ofDirectives_note : ∃ declared,
    Registry.withBuiltIn noteVocabulary.name = .ok Registry.shopRegistry ∧
      Registry.shopRegistry.registerAll [noteMarker] = .ok noteVocabulary.registry ∧
      ofDirectives noteVocabulary .firstWins [lampFact, tableFact] = .ok declared ∧
      (aboutPayloads declared.lints).Perm
        ([lampFact, tableFact].filterMap (·.payloadLint? noteVocabulary)) ∧
      lampFact.payloadLint? noteVocabulary = none ∧
      tableFact.payloadLint? noteVocabulary ≠ none := by
  rcases exists_lamp_table with ⟨declared, read, _⟩
  rcases payloadLint?_ofDirectives withBuiltIn_noteVocabulary registerAll_noteMarker read with
    ⟨findings, each⟩
  have lamp := (each lampFact _ _ _ lamp_table.2.1 rfl).1
  have table := (each tableFact _ _ _ lamp_table.2.2.1 rfl).1
  refine ⟨declared, withBuiltIn_noteVocabulary, registerAll_noteMarker, read, findings,
    lamp.mpr (.inl rfl), fun faultless => ?_⟩
  exact absurd (table.mp faultless) (by decide)

/-- The marker accepts that there is no payload, and the payload is found to be missing. -/
theorem missingPayload_note : ∃ declared,
    Registry.withBuiltIn noteVocabulary.name = .ok Registry.shopRegistry ∧
      Registry.shopRegistry.registerAll [noteMarker] = .ok noteVocabulary.registry ∧
      tableFact.marked? noteVocabulary = some (tableDirective, noteMarker) ∧
      noteMarker.readPayload tableDirective.payload = .ok .absent ∧
      ofDirectives noteVocabulary .firstWins [lampFact, tableFact] = .ok declared ∧
      tableLint ∈ declared.lints ∧ tableLint.kind = .missingPayload ∧
      tableLint.location = tableFact.location := by
  rcases exists_lamp_table with ⟨declared, read, lints⟩
  exact ⟨declared, withBuiltIn_noteVocabulary, registerAll_noteMarker, lamp_table.2.2.1, rfl, read,
    lints ▸ List.mem_singleton_self _, rfl, rfl⟩

end Declared

end RestModel
