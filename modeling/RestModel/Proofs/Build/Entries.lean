import RestModel.Proofs.Build.Calls
import RestModel.Proofs.Build.Compositions

/-! # Which components a step enters

A step that enters components is a function of how components are entered, but it
depends on that only through finitely many entries. Each of them is an entry of a
component of the description, in a state in which at least those types are being
built that were being built before the step. -/

namespace RestModel.Build

/-- The outcome of a step depends only on the entries of `asked`: it is the same for
all ways to enter components that agree with `enter` there. -/
def DependsOn (enter : Component → Build Unit) (asked : List (Component × BuildState))
    (step : Entering α) (state : BuildState) : Prop :=
  ∀ other : Component → Build Unit,
    (∀ entry ∈ asked, other entry.1 entry.2 = enter entry.1 entry.2) →
      step other state = step enter state

/-- A step depends only on finitely many entries, each of a component of the
description and at a time when at least the types `building` are being built. -/
def Asks (resolve? : String → Option Schema) (enter : Component → Build Unit)
    (building : List String) (step : Entering α) (state : BuildState) : Prop :=
  ∃ asked : List (Component × BuildState),
    (∀ entry ∈ asked, entry.1.IsOf resolve? ∧ building ⊆ entry.2.building) ∧
      DependsOn enter asked step state

/-- A step leaves the types that are being built as they are, and while they are
being built it enters finitely many components of the description. -/
def Modest (resolve? : String → Option Schema) (enter : Component → Build Unit)
    (step : Entering α) : Prop :=
  ∀ state, (stateAfter (step enter) state).building = state.building ∧
    Asks resolve? enter state.building step state

variable {resolve? : String → Option Schema} {enter : Component → Build Unit}

private theorem Modest.const {step : Build α}
    (restores : ∀ state, (stateAfter step state).building = state.building) :
    Modest resolve? enter fun _ => step :=
  fun state => ⟨restores state, [], by simp, fun _ _ => rfl⟩

private theorem modest_enter {component : Component} (isOf : component.IsOf resolve?)
    (restores : ∀ state, (stateAfter (enter component) state).building = state.building) :
    Modest resolve? enter fun enter => enter component := by
  intro state
  refine ⟨restores state, [(component, state)], ?_, fun other agree => ?_⟩
  · rintro entry member
    cases List.mem_singleton.mp member
    exact ⟨isOf, List.Subset.refl _⟩
  · exact agree _ (List.mem_singleton.mpr rfl)

theorem Modest.bind {first : Entering β} {next : β → Entering α}
    (modest : Modest resolve? enter first) (others : ∀ value, Modest resolve? enter (next value)) :
    Modest resolve? enter fun enter => first enter >>= fun value => next value enter := by
  intro state
  rcases modest state with ⟨restored, asked, within, depends⟩
  cases run : first enter state with
  | ok value after =>
      have building : after.building = state.building := by
        simpa [stateAfter, run] using restored
      rcases others value after with ⟨restoredToo, askedToo, withinToo, dependsToo⟩
      refine ⟨?_, asked ++ askedToo, ?_, fun other agree => ?_⟩
      · simp only [stateAfter, bind_apply, run]
        exact restoredToo.trans building
      · intro entry member
        rcases List.mem_append.mp member with member | member
        · exact within entry member
        · exact building ▸ withinToo entry member
      · have first := depends other fun entry member =>
          agree entry (List.mem_append_left _ member)
        have next := dependsToo other fun entry member =>
          agree entry (List.mem_append_right _ member)
        simp only [bind_apply, first, run, next]
  | error problem after =>
      refine ⟨?_, asked, within, fun other agree => ?_⟩
      · simpa [stateAfter, bind_apply, run] using restored
      · simp only [bind_apply, depends other agree, run]

theorem Modest.succeeds {step : Entering Unit} (modest : Modest resolve? enter step) :
    Modest resolve? enter fun enter => succeeds (step enter) := by
  intro state
  rcases modest state with ⟨restored, asked, within, depends⟩
  refine ⟨?_, asked, within, fun other agree => ?_⟩
  · simp only [stateAfter, succeeds_apply] at restored ⊢
    cases run : step enter state <;> simpa only [run] using restored
  · simp only [succeeds_apply, depends other agree]

theorem Modest.nestedObject {step : Entering Unit} {onEmpty onBuilt : Build α}
    (modest : Modest resolve? enter step) (empty : Modest resolve? enter fun _ => onEmpty)
    (built : Modest resolve? enter fun _ => onBuilt) :
    Modest resolve? enter fun enter => nestedObject (step enter) onEmpty onBuilt := by
  intro state
  rcases modest state with ⟨restored, asked, within, depends⟩
  refine ⟨?_, asked, within, fun other agree => ?_⟩
  · simp only [stateAfter, nestedObject_apply] at restored ⊢
    cases run : step enter state with
    | ok value after =>
        rw [run] at restored
        exact (built after).1.trans restored
    | error problem after =>
        rw [run] at restored
        cases problem with
        | emptyFields typeName => exact (empty after).1.trans restored
        | _ => exact restored
  · simp only [nestedObject_apply, depends other agree]

/-- While a type that is not known yet is built, it is being built itself. -/
theorem asks_ensureType {typeName : String} {component doc : Option String}
    {body : Entering FieldList} (modest : Modest resolve? enter body) {state : BuildState}
    (unknown : state.knows typeName = false) :
    Asks resolve? enter (typeName :: state.building)
      (fun enter => ensureType typeName component doc (body enter)) state := by
  rcases modest (state.enclose typeName) with ⟨-, asked, within, depends⟩
  refine ⟨asked, within, fun other agree => ?_⟩
  simp only [ensureType_of_unknown unknown, depends other agree]

theorem Modest.ensureType {typeName : String} {component doc : Option String}
    {body : Entering FieldList} (modest : Modest resolve? enter body) :
    Modest resolve? enter fun enter => ensureType typeName component doc (body enter) := by
  intro state
  cases known : state.knows typeName with
  | true =>
      refine ⟨?_, [], by simp, fun other _ => ?_⟩
      · simp only [stateAfter, ensureType_of_known known]
      · simp only [ensureType_of_known known]
  | false =>
      constructor
      · have restored := (modest (state.enclose typeName)).1
        simp only [stateAfter, ensureType_of_unknown known] at restored ⊢
        cases run : body enter (state.enclose typeName) <;>
          simp only [run] at restored <;>
          simp [BuildState.register, BuildState.release, restored, BuildState.enclose]
      · have asks : Asks resolve? enter (typeName :: state.building)
            (fun enter => Build.ensureType typeName component doc (body enter)) state :=
          asks_ensureType modest known
        rcases asks with ⟨asked, within, depends⟩
        exact ⟨asked, fun entry member => ⟨(within entry member).1,
          List.Subset.trans (List.subset_cons_self _ _) (within entry member).2⟩, depends⟩

/-- Where entering a component leaves the types that are being built as they are, every
step along a schema is modest. -/
theorem modest_composes {aliasing : Bool}
    (restores : ∀ component state,
      (stateAfter (enter component) state).building = state.building) :
    Composes aliasing resolve? anywhere fun _ => Modest resolve? enter where
  pure _ := .const fun _ => rfl
  throw _ := .const fun _ => rfl
  isKnown _ := .const fun _ => rfl
  leaveOut _ _ _ := .const fun _ => rfl
  recordMention _ := .const fun _ => rfl
  enter isOf := modest_enter isOf (restores _)
  bind := .bind
  succeeds := .succeeds
  ensureType _ := .ensureType
  nestedObject := .nestedObject

end RestModel.Build
