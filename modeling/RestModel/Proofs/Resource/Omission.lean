import RestModel.Proofs.Resource.Merging

/-! # Types that are left out

A type that any of its directives leaves out is no resource, whatever else is declared about
it. The other resources are those of the sources without the type. -/

namespace RestModel

open Keyed

/-- Whether a directive leaves its type out: it has no payload and needs none, or the payload
reads as true. -/
def DirectiveFact.LeavesOut (vocabulary : Vocabulary) (fact : DirectiveFact) : Prop :=
  ∃ directive definition, fact.marked? vocabulary = some (directive, definition) ∧
    directive.feature = .skip ∧
    (directive.payload = none ∧ definition.shape.isOptional = true ∨
      definition.readPayload directive.payload = .ok (.bool true))

/-- Whether a directive is attached to a type or to a field of it. -/
def DirectiveFact.isOf (name : String) (fact : DirectiveFact) : Bool :=
  match fact.target with
  | .package => false
  | .type => fact.declaration = name
  | .field => Text.beginsWith (name ++ ".") fact.declaration

/-- The facts without those about one type. -/
def Facts.without (facts : Facts) (name : String) : Facts where
  directives := facts.directives.filter fun fact => !fact.isOf name
  wiring := facts.wiring.filter fun fact => fact.resource ≠ name

private theorem Declaration.ofFact?_of_leavesOut {vocabulary : Vocabulary} {fact : DirectiveFact}
    (leavesOut : fact.LeavesOut vocabulary) (paths : List (String × String)) :
    ofFact? vocabulary paths fact = some (.skip true) := by
  rcases leavesOut with ⟨directive, definition, marked, isSkip, payload⟩
  simp only [ofFact?_eq_bind, marked, Option.bind_some, ofDirective, if_pos isSkip]
  rcases payload with ⟨absent, isOptional⟩ | isTrue
  · simp [Marker.readPayload, absent, isOptional]
  · simp [isTrue]

/-! ## Facts about other types -/

section Without

variable (vocabulary : Vocabulary) (policy : OperationSetPolicy) (facts : Facts)
  {name other : String}

private theorem Declared.ownDirectives_without_self :
    ownDirectives (facts.without name).directives name = [] := by
  unfold ownDirectives Facts.without
  rw [List.filter_filter, List.filter_eq_nil_iff]
  intro fact _
  cases target : fact.target <;> simp [DirectiveFact.isOf, target]

private theorem Declared.ownDirectives_without (different : other ≠ name) :
    ownDirectives (facts.without name).directives other = ownDirectives facts.directives other := by
  unfold ownDirectives Facts.without
  rw [List.filter_filter]
  apply List.filter_congr
  intro fact _
  cases target : fact.target with
  | package => simp
  | field => simp
  | type =>
      by_cases isOther : fact.declaration = other
      · simp [DirectiveFact.isOf, target, isOther, different]
      · simp [isOther]

private theorem Declared.packagePaths_without :
    packagePaths vocabulary (facts.without name).directives =
      packagePaths vocabulary facts.directives := by
  unfold packagePaths Facts.without
  rw [List.filter_filter]
  congr 1
  apply List.filter_congr
  intro fact _
  cases target : fact.target <;> simp [DirectiveFact.isOf, target]

private theorem Declared.typeOf_without_self :
    typeOf vocabulary policy (facts.without name).directives name =
      .ok ⟨.empty name none, []⟩ := by
  rw [typeOf, ownDirectives_without_self]
  rfl

private theorem Declared.typeOf_without (different : other ≠ name) :
    typeOf vocabulary policy (facts.without name).directives other =
      typeOf vocabulary policy facts.directives other := by
  rw [typeOf, packagePaths_without, ownDirectives_without facts different, typeOf]

private theorem get?_wiredDescriptors_without_self :
    get? name (wiredDescriptors vocabulary (facts.without name).wiring).value = none := by
  have none : (facts.without name).wiring.filter (·.resource = name) = [] := by
    simp [Facts.without]
  rw [get?_wiredDescriptors, none]
  rfl

private theorem get?_wiredDescriptors_without (different : other ≠ name) :
    get? other (wiredDescriptors vocabulary (facts.without name).wiring).value =
      get? other (wiredDescriptors vocabulary facts.wiring).value := by
  have same : (facts.without name).wiring.filter (·.resource = other) =
      facts.wiring.filter (·.resource = other) := by
    unfold Facts.without
    rw [List.filter_filter]
    apply List.filter_congr
    intro fact _
    by_cases isOther : fact.resource = other
    · simp [isOther, different]
    · simp [isOther]
  rw [get?_wiredDescriptors, same, ← get?_wiredDescriptors]

end Without

namespace Inventory

variable {vocabulary : Vocabulary} {policy : OperationSetPolicy} {facts : Facts}
  {inventory : Inventory} {name : String}

/-- A type that is left out is described neither by directives nor by handles. -/
theorem get?_of_leavesOut (collected : ofFacts vocabulary policy facts = .ok inventory)
    {fact : DirectiveFact} (member : fact ∈ facts.directives) (isType : fact.target = .type)
    (isNamed : fact.declaration = name) (leavesOut : fact.LeavesOut vocabulary) :
    get? name inventory.descriptors = none := by
  rcases get?_ofFacts collected name with ⟨reading, isRead, found⟩
  have comprises := Declared.comprises_of_readType isRead
  have own : fact ∈ Declared.ownDirectives facts.directives name :=
    List.mem_filter.mpr ⟨member, by simp [isType, isNamed]⟩
  have skipped : reading.value.skipped = true := by
    rw [comprises.skipped, List.any_eq_true]
    exact ⟨.skip true, List.mem_filterMap.mpr
      ⟨fact, own, Declaration.ofFact?_of_leavesOut leavesOut _⟩, rfl⟩
  rw [found, Declared.descriptor?, skipped, Bool.not_true, Bool.and_false]
  cases get? name (wiredDescriptors vocabulary facts.wiring).value <;> rfl

private theorem exists_ofFacts (each : ∀ name, ∃ reading,
      Declared.typeOf vocabulary policy facts.directives name = .ok reading) :
    ∃ inventory, ofFacts vocabulary policy facts = .ok inventory := by
  rcases Declared.exists_ofDirectives each with ⟨declared, isDeclared⟩
  exact ⟨_, bind_eq_ok_iff.mpr ⟨declared, isDeclared, rfl⟩⟩

/-- A type that any of its directives leaves out is no resource, and the other resources are
those without anything about the type. -/
theorem ofFacts_leavesOut (collected : ofFacts vocabulary policy facts = .ok inventory)
    {fact : DirectiveFact} (member : fact ∈ facts.directives) (isType : fact.target = .type)
    (isNamed : fact.declaration = name) (leavesOut : fact.LeavesOut vocabulary) :
    name ∉ keys inventory.descriptors ∧
      ∃ others, ofFacts vocabulary policy (facts.without name) = .ok others ∧
        others.descriptors = inventory.descriptors := by
  have absent := get?_of_leavesOut collected member isType isNamed leavesOut
  have readable : ∀ other, ∃ reading,
      Declared.typeOf vocabulary policy (facts.without name).directives other = .ok reading := by
    intro other
    by_cases isName : other = name
    · rw [isName]
      exact ⟨_, Declared.typeOf_without_self vocabulary policy facts⟩
    · rw [Declared.typeOf_without vocabulary policy facts isName]
      rcases get?_ofFacts collected other with ⟨reading, isRead, _⟩
      exact ⟨reading, isRead⟩
  rcases exists_ofFacts readable with ⟨others, areOthers⟩
  refine ⟨?_, others, areOthers, ?_⟩
  · rw [← contains_eq_true_iff, contains, absent]
    decide
  · apply (ordered_ofFacts areOthers).ext (ordered_ofFacts collected)
    intro key
    rcases get?_ofFacts areOthers key with ⟨reading, isRead, found⟩
    by_cases isName : key = name
    · subst isName
      rw [Declared.typeOf_without_self] at isRead
      cases isRead
      rw [found, absent, get?_wiredDescriptors_without_self]
      rfl
    · rcases get?_ofFacts collected key with ⟨same, isSame, sameFound⟩
      rw [Declared.typeOf_without vocabulary policy facts isName, isSame] at isRead
      cases isRead
      rw [found, sameFound, get?_wiredDescriptors_without vocabulary facts isName]

/-! ## A hall with ghosts -/

def hallVocabulary : Vocabulary :=
  ⟨"hall", ⟨[⟨"hall:ops", .type, .string, "operations and their path"⟩,
    ⟨"hall:skip", .type, .optional .bool, "leave the type out"⟩,
    ⟨"hall:skip:ever", .type, .bool, "leave the type out or not"⟩]⟩, .standard⟩

/-- Ghosts are left out between a directive and a handle that describe them. -/
def hallFacts : Facts where
  directives :=
    [⟨"Ghost", .type, "+hall:skip", "hall"⟩,
      ⟨"Ghost", .type, "+hall:ops:R=/ghosts", "hall"⟩,
      ⟨"Guest", .type, "+hall:ops:LR=/guests", "hall"⟩]
  wiring := [⟨"Ghost", "ghosts", some "/ghosts", ["R"], [], "client"⟩]

def skipDirective : Directive := ⟨"+hall:skip", "hall", .skip, none, none, none⟩

def skipMarker : Marker := ⟨"hall:skip", .type, .optional .bool, "leave the type out"⟩

private theorem leavesOut_hall :
    DirectiveFact.LeavesOut hallVocabulary ⟨"Ghost", .type, "+hall:skip", "hall"⟩ :=
  ⟨skipDirective, skipMarker, by decide +kernel, rfl, .inl ⟨rfl, rfl⟩⟩

theorem ofFacts_leavesOut_hall :
    ∃ inventory others, ofFacts hallVocabulary .reject hallFacts = .ok inventory ∧
      keys inventory.descriptors = ["Guest"] ∧ "Ghost" ∉ keys inventory.descriptors ∧
      ofFacts hallVocabulary .reject (hallFacts.without "Ghost") = .ok others ∧
      others.descriptors = inventory.descriptors := by
  have known : (ofFacts hallVocabulary .reject hallFacts).toOption.map
      (keys ·.descriptors) = some ["Guest"] := by decide +kernel
  rcases exists_of_toOption_map known with ⟨inventory, collected, listed⟩
  rcases ofFacts_leavesOut collected List.mem_cons_self rfl rfl leavesOut_hall with
    ⟨absent, others, areOthers, same⟩
  exact ⟨inventory, others, collected, listed, absent, areOthers, same⟩

/-- A ghost with a marker that must have a payload, and has none. -/
def unpaidFacts : Facts where
  directives :=
    [⟨"Ghost", .type, "+hall:ops:R=/ghosts", "hall"⟩, ⟨"Ghost", .type, "+hall:skip:ever", "hall"⟩]
  wiring := []

def unpaidDirective : Directive := ⟨"+hall:skip:ever", "hall", .skip, some "ever", none, none⟩

/-- Without the payload that its marker requires, a directive leaves nothing out. -/
theorem ofFacts_unpaid :
    ∃ fact definition inventory, fact ∈ Declared.ownDirectives unpaidFacts.directives "Ghost" ∧
      fact.marked? hallVocabulary = some (unpaidDirective, definition) ∧
      unpaidDirective.feature = .skip ∧ unpaidDirective.payload = none ∧
      ofFacts hallVocabulary .firstWins unpaidFacts = .ok inventory ∧
      "Ghost" ∈ keys inventory.descriptors := by
  have known : (ofFacts hallVocabulary .firstWins unpaidFacts).toOption.map
      (keys ·.descriptors) = some ["Ghost"] := by decide +kernel
  rcases exists_of_toOption_map known with ⟨inventory, collected, listed⟩
  refine ⟨⟨"Ghost", .type, "+hall:skip:ever", "hall"⟩,
    ⟨"hall:skip:ever", .type, .bool, "leave the type out or not"⟩, inventory, by decide,
    by decide +kernel, rfl, rfl, collected, ?_⟩
  rw [listed]
  exact List.mem_cons_self

end Inventory

end RestModel
