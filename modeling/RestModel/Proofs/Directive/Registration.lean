import RestModel.Proofs.Directive.Lookup

/-! # Registering markers

A registry is filled by calls, each of which registers one marker and may fail. The first
definition of a marker for a target that is accepted stays, whatever is registered after it, and
calls that fail leave no trace. -/

namespace RestModel

/-! ## Shapes that may be registered -/

namespace PayloadShape

/-- The shapes right below a shape. -/
def children : PayloadShape → List PayloadShape
  | .list item => [item]
  | .map key value => [key, value]
  | .optional inner => [inner]
  | _ => []

/-- A shape stands below another one, at any level of nesting. -/
inductive IsBelow (part : PayloadShape) : PayloadShape → Prop
  | child {shape : PayloadShape} (member : part ∈ shape.children) : IsBelow part shape
  | inside {shape child : PayloadShape} (member : child ∈ shape.children)
      (below : IsBelow part child) : IsBelow part shape

/-- The keys of every map are texts, and nothing is optional but the shape as a whole. -/
structure IsSound (shape : PayloadShape) : Prop where
  keys : ∀ key value, shape = .map key value ∨ IsBelow (.map key value) shape → key = .string
  required : ∀ part, IsBelow part shape → part.isOptional = false

theorem isSound_iff {shape : PayloadShape} :
    shape.IsSound ↔ (∀ key value, shape = .map key value → key = .string) ∧
      ∀ child ∈ shape.children, child.isOptional = false ∧ child.IsSound := by
  constructor
  · intro sound
    refine ⟨fun key value equal => sound.keys key value (.inl equal), ?_⟩
    intro child member
    refine ⟨sound.required child (.child member), ?_, ?_⟩
    · rintro key value (rfl | below)
      · exact sound.keys key value (.inr (.child member))
      · exact sound.keys key value (.inr (.inside member below))
    · intro part below
      exact sound.required part (.inside member below)
  · rintro ⟨keys, children⟩
    refine ⟨?_, ?_⟩
    · rintro key value (equal | below)
      · exact keys key value equal
      · cases below with
        | child member => exact (children _ member).2.keys key value (.inl rfl)
        | inside member below => exact (children _ member).2.keys key value (.inr below)
    · intro part below
      cases below with
      | child member => exact (children part member).1
      | inside member below => exact (children _ member).2.required part below

private theorem isSound_string : PayloadShape.string.IsSound :=
  isSound_iff.mpr ⟨nofun, nofun⟩

private theorem checkNested_eq_ok_iff {marker : String} {shape : PayloadShape} :
    shape.checkNested marker = .ok () ↔ shape.isOptional = false ∧ shape.IsSound := by
  induction shape with
  | string | int | bool | any =>
      rw [isSound_iff]
      simp [checkNested, isOptional, children]
  | list item induction =>
      rw [checkNested, induction, @isSound_iff (.list item)]
      simp [isOptional, children]
  | map key value _ induction =>
      rw [checkNested, @isSound_iff (.map key value)]
      by_cases isText : key = .string
      · subst isText
        simp [isOptional, children, induction, isSound_string]
      · simp [isText]
  | optional inner => simp [checkNested, isOptional]

private theorem check_eq_ok_iff {marker : String} {shape : PayloadShape} :
    shape.check marker = .ok () ↔ shape.IsSound := by
  cases shape with
  | optional inner =>
      rw [check, @isSound_iff (.optional inner)]
      cases nested : inner.isOptional <;> simp [children, nested, checkNested_eq_ok_iff]
  | _ => simp [check, checkNested_eq_ok_iff, isOptional]

/-- A shape that is refused is refused for a part of it. -/
theorem checkNested_eq_error {marker : String} {shape : PayloadShape} {problem : RegistryError}
    (refused : shape.checkNested marker = .error problem) :
    ∃ found, problem = .unsupportedKeyType marker found ∨
      problem = .unsupportedNestedShape marker found := by
  induction shape with
  | string | int | bool | any => cases refused
  | list item induction => exact induction refused
  | map key value _ induction =>
      rw [checkNested] at refused
      split at refused
      · exact induction refused
      · cases refused
        exact ⟨_, .inl rfl⟩
  | optional inner =>
      cases refused
      exact ⟨_, .inr rfl⟩

private theorem check_eq_error {marker : String} {shape : PayloadShape} {problem : RegistryError}
    (refused : shape.check marker = .error problem) :
    ∃ found, problem = .unsupportedKeyType marker found ∨
      problem = .unsupportedNestedShape marker found := by
  cases shape with
  | optional inner =>
      rw [check] at refused
      split at refused
      · cases refused
        exact ⟨_, .inr rfl⟩
      · exact checkNested_eq_error refused
  | _ => exact checkNested_eq_error refused

end PayloadShape

/-! ## One call -/

namespace Registry

/-- A name under which a marker may be registered. -/
structure IsName (name : String) : Prop where
  filled : name ≠ ""
  bare : ∀ rest, name ≠ "+" ++ rest
  unpaid : '=' ∉ name.toList

private theorem isMarkerName_eq_true_iff {name : String} :
    isMarkerName name = true ↔ IsName name := by
  have parts : IsName name ↔ name.toList ≠ [] ∧ (∀ rest, name.toList ≠ '+' :: rest) ∧
      '=' ∉ name.toList := by
    constructor
    · rintro ⟨filled, bare, unpaid⟩
      refine ⟨by simpa using filled, ?_, unpaid⟩
      intro rest written
      exact bare (String.ofList rest) (String.toList_inj.mp (by simp [written]))
    · rintro ⟨filled, bare, unpaid⟩
      refine ⟨by simpa using filled, ?_, unpaid⟩
      rintro rest rfl
      exact bare rest.toList (by simp)
  rw [parts]
  unfold isMarkerName
  cases name.toList with
  | nil => simp
  | cons first rest => simp

variable {registry next : Registry} {call definition : Marker}

private theorem register_of_error {problem : RegistryError} (isName : IsName call.name)
    (refused : call.shape.check call.name = .error problem) :
    registry.register call = .error problem := by
  unfold register
  simp [isMarkerName_eq_true_iff.mpr isName, refused]

private theorem register_of_fresh (isName : IsName call.name) (isSound : call.shape.IsSound)
    (fresh : registry.find? call.name call.target = none) :
    registry.register call = .ok ⟨insertDefinition call registry.definitions⟩ := by
  unfold register
  simp [isMarkerName_eq_true_iff.mpr isName, PayloadShape.check_eq_ok_iff.mpr isSound, fresh]

private theorem register_of_known (isName : IsName call.name) (isSound : call.shape.IsSound)
    (known : registry.find? call.name call.target = some definition) :
    registry.register call = if definition = call then .ok registry
      else .error (.conflictingDefinition call.name call.target) := by
  unfold register
  simp [isMarkerName_eq_true_iff.mpr isName, PayloadShape.check_eq_ok_iff.mpr isSound, known]

/-- A call is accepted if its name and its shape are, and nothing else is known in its place. -/
theorem register_eq_ok_iff :
    registry.register call = .ok next ↔ IsName call.name ∧ call.shape.IsSound ∧
      (registry.find? call.name call.target = some call ∧ next = registry ∨
        registry.find? call.name call.target = none ∧
          next = ⟨insertDefinition call registry.definitions⟩) := by
  constructor
  · intro isAccepted
    have isName : IsName call.name := by
      unfold register at isAccepted
      split at isAccepted
      · contradiction
      · next acceptable => exact isMarkerName_eq_true_iff.mp (by simpa using acceptable)
    have isSound : call.shape.IsSound := by
      cases checked : call.shape.check call.name with
      | ok => exact PayloadShape.check_eq_ok_iff.mp checked
      | error problem =>
          rw [register_of_error isName checked] at isAccepted
          contradiction
    refine ⟨isName, isSound, ?_⟩
    cases found : registry.find? call.name call.target with
    | none =>
        rw [register_of_fresh isName isSound found] at isAccepted
        cases isAccepted
        exact .inr ⟨rfl, rfl⟩
    | some known =>
        rw [register_of_known isName isSound found] at isAccepted
        split at isAccepted
        · next same =>
            cases isAccepted
            exact .inl ⟨congrArg some same, rfl⟩
        · contradiction
  · rintro ⟨isName, isSound, ⟨known, rfl⟩ | ⟨fresh, rfl⟩⟩
    · rw [register_of_known isName isSound known, if_pos rfl]
    · exact register_of_fresh isName isSound fresh

private theorem find?_insertDefinition_self {definitions : List Marker}
    (fresh : (Registry.mk definitions).find? definition.name definition.target = none) :
    (Registry.mk (insertDefinition definition definitions)).find? definition.name
      definition.target = some definition := by
  induction definitions with
  | nil => simp [find?, insertDefinition]
  | cons other rest induction =>
      unfold find? at fresh induction ⊢
      rw [List.find?_cons] at fresh
      split at fresh
      · contradiction
      · next different =>
          rw [insertDefinition]
          split
          · simp
          · rw [List.find?_cons, different]
            exact induction fresh

private theorem find?_insertDefinition_of_ne {definitions : List Marker} {name : String}
    {target : Target}
    (different : ¬(definition.name = name ∧ definition.target = target)) :
    (Registry.mk (insertDefinition definition definitions)).find? name target =
      (Registry.mk definitions).find? name target := by
  induction definitions with
  | nil => simp [find?, insertDefinition, different]
  | cons other rest induction =>
      unfold find? at induction ⊢
      rw [insertDefinition]
      split
      · rw [List.find?_cons_of_neg (by simpa using different)]
      · rw [List.find?_cons, List.find?_cons, induction]

/-! ## A sequence of calls -/

/-- The registry after a call, which stays as it is if the call fails. -/
def afterCall (registry : Registry) (call : Marker) : Registry :=
  match registry.register call with
  | .ok next => next
  | .error _ => registry

/-- The registry after several calls, which start without any markers. -/
def afterCalls (calls : List Marker) : Registry := calls.foldl afterCall empty

/-- The calls that are accepted, when several are made one after another. -/
def accepted (registry : Registry) : List Marker → List Marker
  | [] => []
  | call :: rest =>
      match registry.register call with
      | .ok next => call :: next.accepted rest
      | .error _ => registry.accepted rest

private theorem afterCall_of_ok (isAccepted : registry.register call = .ok next) :
    registry.afterCall call = next := by
  simp [afterCall, isAccepted]

private theorem afterCall_of_error {problem : RegistryError}
    (failed : registry.register call = .error problem) : registry.afterCall call = registry := by
  simp [afterCall, failed]

private theorem accepted_of_ok (isAccepted : registry.register call = .ok next)
    (rest : List Marker) :
    registry.accepted (call :: rest) = call :: next.accepted rest := by
  simp [accepted, isAccepted]

private theorem accepted_of_error {problem : RegistryError}
    (failed : registry.register call = .error problem) (rest : List Marker) :
    registry.accepted (call :: rest) = registry.accepted rest := by
  simp [accepted, failed]

private theorem afterCalls_append (calls later : List Marker) :
    afterCalls (calls ++ later) = later.foldl afterCall (afterCalls calls) :=
  List.foldl_append

/-- A call that is accepted is known from then on, and nothing else becomes known. -/
theorem find?_of_register (isAccepted : registry.register call = .ok next) (name : String)
    (target : Target) :
    next.find? name target =
      (registry.find? name target).or
        (if call.name = name ∧ call.target = target then some call else none) := by
  rcases (register_eq_ok_iff.mp isAccepted).2.2 with ⟨known, rfl⟩ | ⟨fresh, rfl⟩
  · split
    · next same =>
        rcases same with ⟨rfl, rfl⟩
        simp [known]
    · simp
  · split
    · next same =>
        rcases same with ⟨rfl, rfl⟩
        rw [fresh]
        exact find?_insertDefinition_self fresh
    · next different =>
        rw [Option.or_none]
        exact find?_insertDefinition_of_ne different

private theorem find?_foldl_afterCall (registry : Registry) (calls : List Marker) (name : String)
    (target : Target) :
    (calls.foldl afterCall registry).find? name target =
      (registry.find? name target).or
        ((registry.accepted calls).find? fun call => call.name = name ∧ call.target = target) := by
  induction calls generalizing registry with
  | nil => simp [accepted]
  | cons call rest induction =>
      rw [List.foldl_cons, induction]
      cases registered : registry.register call with
      | error problem => rw [afterCall_of_error registered, accepted_of_error registered]
      | ok next =>
          rw [afterCall_of_ok registered, find?_of_register registered, Option.or_assoc,
            accepted_of_ok registered]
          split
          · next isFor => rw [List.find?_cons_of_pos (by simpa using isFor), Option.some_or]
          · next isNotFor => rw [List.find?_cons_of_neg (by simpa using isNotFor), Option.none_or]

private theorem registerAll_accepted (registry : Registry) (calls : List Marker) :
    registry.registerAll (registry.accepted calls) = .ok (calls.foldl afterCall registry) := by
  induction calls generalizing registry with
  | nil => rfl
  | cons call rest induction =>
      rw [List.foldl_cons]
      cases registered : registry.register call with
      | error problem =>
          rw [afterCall_of_error registered, accepted_of_error registered]
          exact induction registry
      | ok next =>
          rw [afterCall_of_ok registered, accepted_of_ok registered]
          exact bind_eq_ok_iff.mpr ⟨next, registered, induction next⟩

/-! ## What is registered -/

/-- Every definition is known under its own name and for its own target, and could be
registered. -/
structure IsWellFormed (registry : Registry) : Prop where
  own : ∀ definition ∈ registry.definitions,
    registry.find? definition.name definition.target = some definition
  names : ∀ definition ∈ registry.definitions, IsName definition.name
  shapes : ∀ definition ∈ registry.definitions, definition.shape.IsSound

private theorem isWellFormed_empty : empty.IsWellFormed :=
  ⟨nofun, nofun, nofun⟩

theorem IsWellFormed.register (wellFormed : registry.IsWellFormed)
    (isAccepted : registry.register call = .ok next) : next.IsWellFormed := by
  rcases register_eq_ok_iff.mp isAccepted with ⟨isName, isSound, _⟩
  have members : ∀ definition ∈ next.definitions,
      definition = call ∨ definition ∈ registry.definitions :=
    fun definition member => mem_of_register isAccepted member
  refine ⟨?_, ?_, ?_⟩
  · intro definition member
    rw [find?_of_register isAccepted]
    rcases members definition member with rfl | known
    · rcases (register_eq_ok_iff.mp isAccepted).2.2 with ⟨known, _⟩ | ⟨fresh, _⟩
      · simp [known]
      · simp [fresh]
    · simp [wellFormed.own definition known]
  · intro definition member
    rcases members definition member with rfl | known
    · exact isName
    · exact wellFormed.names definition known
  · intro definition member
    rcases members definition member with rfl | known
    · exact isSound
    · exact wellFormed.shapes definition known

theorem IsWellFormed.afterCall (wellFormed : registry.IsWellFormed) (call : Marker) :
    (registry.afterCall call).IsWellFormed := by
  cases registered : registry.register call with
  | error problem => rwa [afterCall_of_error registered]
  | ok next =>
      rw [afterCall_of_ok registered]
      exact wellFormed.register registered

theorem isWellFormed_afterCalls (calls : List Marker) : (afterCalls calls).IsWellFormed :=
  List.foldlRecOn calls afterCall isWellFormed_empty
    fun _ wellFormed call _ => wellFormed.afterCall call

/-- The registry after a sequence of calls, by what was accepted and by what a further call
does. -/
structure KeepsFirst (calls : List Marker) : Prop where
  /-- The definition that is known is the first one that was accepted. -/
  first (name : String) (target : Target) :
    (afterCalls calls).find? name target =
      (empty.accepted calls).find? fun call => call.name = name ∧ call.target = target
  /-- What is known stays, whatever is called. -/
  stays {name : String} {target : Target} {definition : Marker} (later : List Marker) :
    (afterCalls calls).find? name target = some definition →
      (afterCalls (calls ++ later)).find? name target = some definition
  /-- The calls that failed might as well not have been made. -/
  atomic : empty.registerAll (empty.accepted calls) = .ok (afterCalls calls)
  failure {call : Marker} {problem : RegistryError} :
    (afterCalls calls).register call = .error problem →
      afterCalls (calls ++ [call]) = afterCalls calls
  repetition {definition : Marker} : definition ∈ (afterCalls calls).definitions →
    (afterCalls calls).register definition = .ok (afterCalls calls)
  conflict {definition call : Marker} : definition ∈ (afterCalls calls).definitions →
    call.name = definition.name → call.target = definition.target → call.shape.IsSound →
    call.shape ≠ definition.shape ∨ call.description ≠ definition.description →
      (afterCalls calls).register call = .error (.conflictingDefinition call.name call.target)
  wellFormed : (afterCalls calls).IsWellFormed
  /-- A shape is refused exactly if it is not sound. -/
  shape {call : Marker} : IsName call.name →
    ((∃ found, (afterCalls calls).register call = .error (.unsupportedKeyType call.name found) ∨
        (afterCalls calls).register call = .error (.unsupportedNestedShape call.name found)) ↔
      ¬call.shape.IsSound)

private theorem register_of_not_isSound (isName : IsName call.name)
    (isUnsound : ¬call.shape.IsSound) :
    ∃ found, registry.register call = .error (.unsupportedKeyType call.name found) ∨
      registry.register call = .error (.unsupportedNestedShape call.name found) := by
  cases checked : call.shape.check call.name with
  | ok => exact absurd (PayloadShape.check_eq_ok_iff.mp checked) isUnsound
  | error problem =>
      rw [register_of_error isName checked]
      rcases PayloadShape.check_eq_error checked with ⟨found, rfl | rfl⟩
      · exact ⟨found, .inl rfl⟩
      · exact ⟨found, .inr rfl⟩

private theorem not_isSound_of_refused (isName : IsName call.name) {found : String}
    (refused : registry.register call = .error (.unsupportedKeyType call.name found) ∨
      registry.register call = .error (.unsupportedNestedShape call.name found)) :
    ¬call.shape.IsSound := by
  intro isSound
  cases known : registry.find? call.name call.target with
  | none => simp [register_of_fresh isName isSound known] at refused
  | some definition =>
      rw [register_of_known isName isSound known] at refused
      split at refused <;> simp at refused

/-- What a call does for which something is known in its place. -/
theorem IsWellFormed.register_known (wellFormed : registry.IsWellFormed)
    (known : definition ∈ registry.definitions) (sameName : call.name = definition.name)
    (sameTarget : call.target = definition.target) (isSound : call.shape.IsSound) :
    registry.register call = if definition = call then .ok registry
      else .error (.conflictingDefinition call.name call.target) := by
  have isName := sameName ▸ wellFormed.names definition known
  have found := sameName ▸ sameTarget ▸ wellFormed.own definition known
  exact register_of_known isName isSound found

/-- Whatever calls are made, the first definition of a marker for a target that is accepted is
the one that is known. -/
theorem afterCalls_keepsFirst (calls : List Marker) : KeepsFirst calls := by
  have wellFormed := isWellFormed_afterCalls calls
  refine ⟨?_, ?_, registerAll_accepted empty calls, ?_, ?_, ?_, wellFormed, ?_⟩
  · intro name target
    exact find?_foldl_afterCall empty calls name target
  · intro name target definition later known
    rw [afterCalls_append, find?_foldl_afterCall, known, Option.some_or]
  · intro call problem failed
    rw [afterCalls_append]
    exact afterCall_of_error failed
  · intro definition known
    rw [wellFormed.register_known known rfl rfl (wellFormed.shapes definition known), if_pos rfl]
  · intro definition call known sameName sameTarget isSound differs
    rw [wellFormed.register_known known sameName sameTarget isSound, if_neg]
    rintro rfl
    simp at differs
  · intro call isName
    refine ⟨?_, register_of_not_isSound isName⟩
    rintro ⟨found, refused⟩
    exact not_isSound_of_refused isName refused

/-- Of two definitions of `shop:rank` for a type the first stays, a repetition and a definition
for a field are accepted, and neither a plus sign nor a list of optional items is. -/
example :
    let rank : Marker := ⟨"shop:rank", .type, .optional .int, "place in a listing"⟩
    let calls : List Marker :=
      [{ rank with shape := .list (.optional .int) }, { rank with name := "+shop:rank" }, rank,
        { rank with shape := .int }, rank, { rank with target := .field, shape := .int }]
    empty.accepted calls = [rank, rank, { rank with target := .field, shape := .int }] := by
  decide +kernel

end Registry

end RestModel
