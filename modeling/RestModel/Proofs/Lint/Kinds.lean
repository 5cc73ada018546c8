import RestModel.Lint.Directives

/-! # Kinds of findings

Each step of reading directives comes to findings of a few kinds only. -/

namespace RestModel

namespace Lint

/-- All findings are of certain kinds. -/
def AreOf (kinds : List LintKind) (lints : List Lint) : Prop := ∀ lint ∈ lints, lint.kind ∈ kinds

variable {kinds others : List LintKind} {lints rest : List Lint} {lint : Lint}
  {location message suggestion : String} {kind : LintKind}

@[simp]
theorem kind_error : (error location kind message).kind = kind := rfl

@[simp]
theorem kind_warning : (warning location kind message).kind = kind := rfl

@[simp]
theorem kind_suggesting : (lint.suggesting suggestion).kind = lint.kind := rfl

@[simp]
theorem areOf_nil : AreOf kinds [] := List.forall_mem_nil _

@[simp]
theorem areOf_cons : AreOf kinds (lint :: lints) ↔ lint.kind ∈ kinds ∧ AreOf kinds lints :=
  List.forall_mem_cons

@[simp]
theorem areOf_append : AreOf kinds (lints ++ rest) ↔ AreOf kinds lints ∧ AreOf kinds rest :=
  List.forall_mem_append

theorem areOf_flatMap {of : α → List Lint} {items : List α} :
    AreOf kinds (items.flatMap of) ↔ ∀ item ∈ items, AreOf kinds (of item) :=
  List.forall_mem_flatMap

theorem AreOf.mono (areOf : AreOf kinds lints) (more : kinds ⊆ others) : AreOf others lints :=
  fun lint member => more (areOf lint member)

end Lint

open Lint

namespace LintKind

/-- What can be found about the verbs and the option of a method. -/
def ofMethods : List LintKind := [.unsupportedVerb, .unsupportedWait, .unknownOption]

/-- What can be found about a directive with a path. -/
def ofPaths : List LintKind := .unknownOperationLetter :: ofMethods

/-- What can be found about a payload. -/
def ofPayloads : List LintKind := [.missingPayload, .invalidPayload]

/-- What can be found in reading one directive. -/
def ofReading : List LintKind := .malformedDirective :: (ofPayloads ++ ofPaths)

end LintKind

/-! ## One directive -/

namespace Directive

theorem areOf_readOwn (vocabulary text location : String) :
    AreOf [.malformedDirective] (readOwn vocabulary text location).lints := by
  unfold readOwn
  split
  · split <;> simp
  · split <;> simp

private theorem areOf_optionWait (directive : Directive) (wait : Wait) (location : String) :
    AreOf LintKind.ofMethods (directive.optionWait wait location).lints := by
  unfold optionWait
  split
  · simp
  · split
    · split <;> simp [LintKind.ofMethods]
    · simp [LintKind.ofMethods]

private theorem areOf_extraMethods (directive : Directive) (path : String) (wait : Wait)
    (location : String) :
    AreOf LintKind.ofMethods (directive.extraMethods path wait location).lints := by
  unfold extraMethods
  split
  · simp [LintKind.ofMethods]
  · exact directive.areOf_optionWait wait location

private theorem areOf_letterLints (directive : Directive) (location : String) :
    AreOf [.unknownOperationLetter] (directive.letterLints location) := by
  intro lint member
  rcases List.mem_map.mp member with ⟨letter, _, rfl⟩
  simp

private theorem areOf_override (directive : Directive) (path location : String) :
    AreOf [.unsupportedVerb] (directive.override path location).lints := by
  unfold override
  split <;> simp

theorem areOf_lintText (vocabulary : Vocabulary) (text : String) (target : Target)
    (location : String) :
    AreOf [.unknownMarker, .wrongTarget, .invalidPayload, .relativePath]
      (lintText vocabulary text target location) := by
  unfold lintText
  split
  · simp
  · split
    · simp
    · split
      · unfold unknownLint
        split <;> simp
      · split
        · simp
        · unfold pathLints
          split
          · simp
          · split <;> simp

end Directive

namespace Declaration

theorem areOf_ofPath (directive : Directive) (path : String) (wait : Wait) (location : String) :
    AreOf LintKind.ofPaths (ofPath directive path wait location).lints := by
  have methods := (directive.areOf_extraMethods path wait location).mono
    (List.subset_cons_self .unknownOperationLetter LintKind.ofMethods)
  have url := (directive.areOf_override path location).mono
    (show [LintKind.unsupportedVerb] ⊆ LintKind.ofPaths by decide)
  unfold ofPath
  split
  · exact (directive.areOf_letterLints location).mono (by decide)
  · exact methods
  · exact methods
  · exact url
  · exact url
  all_goals simp

theorem areOf_ofText (vocabulary : Vocabulary) (basePath : Option String)
    (text location : String) :
    AreOf LintKind.ofReading (ofText vocabulary basePath text location).lints := by
  have own := (Directive.areOf_readOwn vocabulary.name text location).mono
    (show [LintKind.malformedDirective] ⊆ LintKind.ofReading by decide)
  unfold ofText
  split
  · next read => rwa [read] at own
  · next read =>
      rw [read] at own
      split
      · exact own
      · refine areOf_append.mpr ⟨own, ?_⟩
        unfold ofDirective
        split
        · split <;> simp [LintKind.ofReading, LintKind.ofPayloads]
        · split
          · simp [LintKind.ofReading, LintKind.ofPayloads]
          · exact (areOf_ofPath _ _ _ _).mono (by decide)

end Declaration

theorem DeclaredType.areOf_declare {policy : OperationSetPolicy} {type : DeclaredType}
    {declaration : Declaration} {location : String} {reading : Reading DeclaredType}
    (declared : type.declare policy declaration location = .ok reading) :
    AreOf [.duplicateOperationSet, .duplicateUrlOverride] reading.lints := by
  cases declaration with
  | operations set =>
      unfold declare declareSet at declared
      dsimp only at declared
      split at declared
      · cases declared
        simp
      · cases policy <;> cases declared <;> simp [repeatedSet]
  | requestUrl url | responseUrl url =>
      unfold declare at declared
      dsimp only at declared
      split at declared <;> cases declared <;> simp [repeatedOverride]
  | _ =>
      cases declared
      simp

theorem Declared.areOf_basePathOf (vocabulary : Vocabulary) (fact : DirectiveFact) :
    AreOf [.malformedDirective] (basePathOf vocabulary fact).lints := by
  have own := Directive.areOf_readOwn vocabulary.name fact.text fact.origin
  unfold basePathOf
  split
  · next read => rwa [read] at own
  · next read =>
      rw [read] at own
      split <;> exact own

/-! ## Handles -/

namespace WiringFact

private theorem areOf_lineMethods (vocabulary : Vocabulary) (location line : String) :
    AreOf LintKind.ofReading (lineMethods vocabulary location line).lints := by
  have own := (Directive.areOf_readOwn vocabulary.name line location).mono
    (show [LintKind.malformedDirective] ⊆ LintKind.ofReading by decide)
  unfold lineMethods
  split
  · next read => rwa [read] at own
  · next directive lints read =>
      rw [read] at own
      split
      · split
        · simpa [LintKind.ofReading, LintKind.ofPayloads] using own
        · exact areOf_append.mpr ⟨own, (directive.areOf_extraMethods _ _ _).mono (by decide)⟩
      · exact own

theorem areOf_lints (vocabulary : Vocabulary) (fact : WiringFact) :
    AreOf LintKind.ofReading (fact.lints vocabulary) := by
  refine areOf_append.mpr ⟨?_, areOf_flatMap.mpr ?_⟩
  · intro lint member
    rcases List.mem_map.mp member with ⟨identifier, _, rfl⟩
    simp [LintKind.ofReading, LintKind.ofPaths]
  · intro reading member
    rcases List.mem_map.mp member with ⟨line, _, rfl⟩
    exact areOf_lineMethods _ _ _

end WiringFact

end RestModel
