import RestModel.Proofs.Build.Omissions
import RestModel.Proofs.Generation.Names
import RestModel.Proofs.Support.Agreement

/-! # Runs that agree

What is generated depends on a support only in what decides about operations, and
on a state only in what is built there and in the names that are taken. Even a name
that is taken does not matter if it is never asked for. -/

namespace RestModel

namespace GenerationState

/-- The same is built in two states, and the same names are taken but for stray ones. -/
structure Agrees (stray : String → Prop) (state other : GenerationState) : Prop where
  build : state.build.SameBuilt other.build
  names : ∀ name, ¬stray name → (name ∈ state.names ↔ name ∈ other.names)

/-- No stray name is taken. -/
def IsClean (stray : String → Prop) (state : GenerationState) : Prop :=
  ∀ name ∈ state.names, ¬stray name

variable {stray : String → Prop} {state other : GenerationState}

theorem Agrees.refl (state : GenerationState) : state.Agrees stray state :=
  ⟨.refl _, fun _ _ => Iff.rfl⟩

theorem IsClean.of_subset {after : GenerationState} (clean : after.IsClean stray)
    (subset : state.names ⊆ after.names) : state.IsClean stray :=
  fun name taken => clean name (subset taken)

/-- Taking a name does not see stray names, if the name is not stray itself. -/
theorem Agrees.takeName (agrees : state.Agrees stray other) {name chosen : String}
    {after : GenerationState} (run : other.takeName name = (chosen, after))
    (clean : after.IsClean stray) :
    ∃ before, state.takeName name = (chosen, before) ∧ before.Agrees stray after := by
  cases run
  have chosenClean : ¬stray (other.takeName name).1 := clean _ (mem_takeName.mpr (.inl rfl))
  have chosen : (state.takeName name).1 = (other.takeName name).1 :=
    Naming.freshName_eq_freshName agrees.names (clean.of_subset (names_takeName _ _)) chosenClean
  refine ⟨(state.takeName name).2, Prod.ext chosen rfl, agrees.build, ?_⟩
  intro text notStray
  change text ∈ (state.takeName name).2.names ↔ text ∈ (other.takeName name).2.names
  rw [mem_takeName, mem_takeName, chosen, agrees.names text notStray]

end GenerationState

/-- What is generated for two supports of a resource is the same, and the supports and
the states agree afterwards. -/
structure Generated.Agrees (stray : String → Prop) (resource : String)
    (generated other : Generated α) : Prop where
  value : generated.value = other.value
  support : generated.support.Agrees resource other.support
  state : generated.state.Agrees stray other.state

namespace Generator

open GenerationState

variable {generator : Generator} {stray : String → Prop} {state other : GenerationState}

/-! ## Names that are taken -/

theorem names_buildType (generator : Generator) (name : String) (role : TypeRole)
    (source : TypeSource) (state : GenerationState) :
    (generator.buildType name role source state).2.names =
      if generator.isPresent source then (state.takeName name).2.names else state.names := by
  unfold buildType
  split
  · dsimp only
    split <;> rfl
  · rfl

/-! ## Runs that follow each other -/

theorem buildType_follows {name : String} {role : TypeRole} {source : TypeSource}
    {outcome : Except BuildError (Option ResourceType)} {after : GenerationState}
    (agrees : state.Agrees stray other)
    (run : generator.buildType name role source other = (outcome, after))
    (clean : after.IsClean stray) :
    ∃ before, generator.buildType name role source state = (outcome, before) ∧
      before.Agrees stray after := by
  have names := generator.names_buildType name role source other
  rw [run] at names
  unfold buildType at run ⊢
  by_cases isPresent : generator.isPresent source = true
  · rw [if_pos isPresent] at run names ⊢
    rcases taken : other.takeName name with ⟨chosen, middle⟩
    have middleClean : middle.IsClean stray := by
      rw [taken] at names
      exact clean.of_subset (names ▸ List.Subset.refl _)
    rcases agrees.takeName taken middleClean with ⟨before, alsoTaken, alike⟩
    rw [taken] at run
    rw [alsoTaken]
    dsimp only at run ⊢
    have built := generator.builder.operation_blind chosen source.route.verb source.route.path
      source.part _ _ alike.build
    generalize generator.builder.operation chosen source.route.verb source.route.path source.part
      before.build = left, generator.builder.operation chosen source.route.verb source.route.path
      source.part middle.build = right at built run ⊢
    cases built with
    | ok same =>
        cases run
        exact ⟨_, rfl, same, alike.names⟩
    | error same =>
        cases run
        exact ⟨_, rfl, same, alike.names⟩
  · rw [if_neg isPresent] at run ⊢
    cases run
    exact ⟨_, rfl, agrees⟩

theorem methodTypes_follows {resource : String} {method : ExtraMethod}
    {outcome : Except BuildError (Option ResourceType × Option ResourceType)}
    {after : GenerationState} (agrees : state.Agrees stray other)
    (run : generator.methodTypes resource method other = (outcome, after))
    (clean : after.IsClean stray) :
    ∃ before, generator.methodTypes resource method state = (outcome, before) ∧
      before.Agrees stray after := by
  unfold methodTypes at run ⊢
  dsimp only at run ⊢
  split at run
  · next requestRun =>
      cases run
      rcases buildType_follows agrees requestRun clean with ⟨before, alsoRun, alike⟩
      rw [alsoRun]
      exact ⟨_, rfl, alike⟩
  · next request middle requestRun =>
      rcases responseRun : generator.buildType (methodStem resource method ++ "Response")
        .extraResponse ⟨none, ⟨method.verb, method.path⟩, .response⟩ middle with ⟨answer, last⟩
      have names := names_subset_of_buildType responseRun
      rw [responseRun] at run
      have isLast : last = after := by
        cases answer with
        | error problem => cases run; rfl
        | ok response => cases run; rfl
      subst isLast
      rcases buildType_follows agrees requestRun (clean.of_subset names) with
        ⟨before, alsoRun, alike⟩
      rcases buildType_follows alike responseRun clean with ⟨others, alsoAnswered, alike⟩
      rw [alsoRun]
      dsimp only
      rw [alsoAnswered]
      refine ⟨others, ?_, alike⟩
      cases answer with
      | error problem => cases run; rfl
      | ok response => cases run; rfl

/-! ## Supports that agree -/

/-- An error and another one of the same reason exclude the same. -/
theorem excludeFailed_agrees {resource : String} {support other : Support}
    (agrees : support.Agrees resource other) (source : TypeSource)
    {problem otherProblem : BuildError} (sameReason : problem.reason = otherProblem.reason) :
    (excludeFailed resource source problem support).Agrees resource
      (excludeFailed resource source otherProblem other) := by
  unfold excludeFailed
  rw [sameReason]
  cases source.operation with
  | none => exact (agrees.note _ _ _ _).cascade
  | some operation => exact (agrees.exclude operation _ _ _).cascade

theorem overrideOrFirst_eq {resource : String} {support other : Support}
    (agrees : support.Agrees resource other) (url? : Option RouteOverride) (part : Part)
    (candidates : List (Operation × Part)) :
    overrideOrFirst url? part support candidates = overrideOrFirst url? part other candidates := by
  simp only [overrideOrFirst, firstSource, agrees.route?]

theorem searchParams_follows {resource : String} {support otherSupport : Support}
    {type? : Option ResourceType} {after : GenerationState}
    (supports : support.Agrees resource otherSupport) (agrees : state.Agrees stray other)
    (run : generator.searchParams resource otherSupport other = (type?, after))
    (clean : after.IsClean stray) :
    ∃ before, generator.searchParams resource support state = (type?, before) ∧
      before.Agrees stray after := by
  have unchanged {found? : Option ResourceType} (stays : (found?, other) = (type?, after)) :
      ∃ before, (found?, state) = (type?, before) ∧ before.Agrees stray after := by
    cases stays
    exact ⟨state, rfl, agrees⟩
  unfold searchParams at run ⊢
  rw [supports.supports, supports.supports, supports.route?]
  split at run
  · next isSearched =>
      rw [if_pos isSearched]
      split at run
      · exact unchanged run
      · split at run
        · dsimp only at run ⊢
          split at run
          · next isEmpty =>
              rw [if_pos isEmpty]
              exact unchanged run
          · next notEmpty =>
              rw [if_neg notEmpty]
              rcases taken : other.takeName (resource ++ "SearchParams") with ⟨chosen, last⟩
              rw [taken] at run
              cases run
              rcases agrees.takeName taken clean with ⟨before, alsoTaken, alike⟩
              rw [alsoTaken]
              exact ⟨before, rfl, alike⟩
        · exact unchanged run
  · next notSearched =>
      rw [if_neg notSearched]
      exact unchanged run

/-- A type that is built or dropped alike, for supports and in states that agree. -/
theorem buildOrDrop_follows {resource name : String} {role : TypeRole}
    {source : Option TypeSource} {support otherSupport : Support}
    (supports : support.Agrees resource otherSupport) (agrees : state.Agrees stray other)
    (clean : (generator.buildOrDrop resource name role source otherSupport other).state.IsClean
      stray) :
    (generator.buildOrDrop resource name role source support state).Agrees stray resource
      (generator.buildOrDrop resource name role source otherSupport other) := by
  unfold buildOrDrop at clean ⊢
  cases source with
  | none => exact ⟨rfl, supports, agrees⟩
  | some source =>
      dsimp only at clean ⊢
      rcases run : generator.buildType name role source other with ⟨outcome, after⟩
      rw [run] at clean
      have afterClean : after.IsClean stray := by
        cases outcome with
        | error problem => exact clean
        | ok type => exact clean
      rcases buildType_follows agrees run afterClean with ⟨before, alsoRun, alike⟩
      rw [alsoRun]
      cases outcome with
      | error problem => exact ⟨rfl, excludeFailed_agrees supports source rfl, alike⟩
      | ok type => exact ⟨rfl, supports, alike⟩

end Generator
end RestModel
