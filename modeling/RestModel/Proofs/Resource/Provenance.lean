import RestModel.Proofs.Resource.Merging

/-! # Where operation sets come from

A resource has the operation set that its directives declare, else the one that its markers of
single purposes imply, else that of its first handle with a base path. -/

namespace RestModel

open Keyed

/-- The directive of a fact, if it is one of a feature, and its payload as a path of its
file. -/
def DirectiveFact.declares? (vocabulary : Vocabulary) (paths : List (String × String))
    (feature : Feature) (fact : DirectiveFact) : Option (Directive × String) := do
  let (directive, _) ← fact.marked? vocabulary
  let payload ← directive.payload
  if directive.feature = feature then
    some (directive, withBasePath (get? fact.origin paths) payload)
  else
    none

namespace Facts

variable (facts : Facts) (vocabulary : Vocabulary) (name : String)

/-- The directives of a feature that a type carries, each with its path, in order. -/
def declaring (feature : Feature) : List (Directive × String) :=
  (Declared.ownDirectives facts.directives name).filterMap
    (DirectiveFact.declares? vocabulary (Declared.packagePaths vocabulary facts.directives) feature)

/-- The operation sets that a type declares. -/
def operationSets : List OperationSet :=
  (facts.declaring vocabulary name .operations).map fun (directive, path) =>
    .of directive.operationLetters path directive.text

/-- The paths that a type declares for a feature. -/
def paths (feature : Feature) : List String :=
  (facts.declaring vocabulary name feature).map (·.2)

end Facts

namespace Declaration

variable {vocabulary : Vocabulary} {paths : List (String × String)} {fact : DirectiveFact}

/-- Declarations of one kind come from the directives of one feature. -/
theorem bind_ofFact? {kind : Declaration → Option α} {feature : Feature}
    {make : Directive → String → α} (isNotSkip : feature ≠ .skip)
    (ofSkip : ∀ skipped, kind (.skip skipped) = none)
    (ofPath : ∀ directive path wait location,
      (ofPath directive path wait location).value.bind kind =
        if directive.feature = feature then some (make directive path) else none) :
    (ofFact? vocabulary paths fact).bind kind =
      (fact.declares? vocabulary paths feature).map fun (directive, path) =>
        make directive path := by
  rw [ofFact?_eq_bind]
  unfold DirectiveFact.declares?
  cases fact.marked? vocabulary with
  | none => rfl
  | some marked =>
      rcases marked with ⟨directive, definition⟩
      by_cases isSkip : directive.feature = .skip
      · have other : directive.feature ≠ feature := fun equal => isNotSkip (equal ▸ isSkip)
        have unpaid : ∀ payload : Option String, (payload.bind fun _ =>
            (none : Option (Directive × String))) = none := by
          intro payload
          cases payload <;> rfl
        simp only [bind, Option.bind_some, if_neg other, unpaid, ofDirective, if_pos isSkip]
        split <;> simp [ofSkip]
      · simp only [bind, Option.bind_some, ofDirective, if_neg isSkip, Directive.requirePayload]
        cases directive.payload with
        | none => rfl
        | some payload =>
            dsimp only [Option.bind_some]
            rw [ofPath]
            split <;> rfl

private theorem set?_ofPath (directive : Directive) (path : String) (wait : Wait)
    (location : String) :
    (ofPath directive path wait location).value.bind (·.set?) =
      if directive.feature = .operations then
        some (.of directive.operationLetters path directive.text)
      else none := by
  unfold ofPath
  cases feature : directive.feature <;> simp [set?]

private theorem details?_ofPath (directive : Directive) (path : String) (wait : Wait)
    (location : String) :
    (ofPath directive path wait location).value.bind (·.details?) =
      if directive.feature = .details then some path else none := by
  unfold ofPath
  cases feature : directive.feature <;> simp [details?]

private theorem upsert?_ofPath (directive : Directive) (path : String) (wait : Wait)
    (location : String) :
    (ofPath directive path wait location).value.bind (·.upsert?) =
      if directive.feature = .upsert then some path else none := by
  unfold ofPath
  cases feature : directive.feature <;> simp [upsert?]

end Declaration

namespace Facts

variable (facts : Facts) (vocabulary : Vocabulary) (name : String)

/-- What the directives of a type declare, in order. -/
def declarations : List Declaration :=
  (Declared.ownDirectives facts.directives name).filterMap
    (Declaration.ofFact? vocabulary (Declared.packagePaths vocabulary facts.directives))

variable {facts vocabulary name}

private theorem filterMap_declarations {kind : Declaration → Option α} {feature : Feature}
    {make : Directive → String → α} (isNotSkip : feature ≠ .skip)
    (ofSkip : ∀ skipped, kind (.skip skipped) = none)
    (ofPath : ∀ directive path wait location,
      (Declaration.ofPath directive path wait location).value.bind kind =
        if directive.feature = feature then some (make directive path) else none) :
    (facts.declarations vocabulary name).filterMap kind =
      (facts.declaring vocabulary name feature).map fun (directive, path) =>
        make directive path := by
  have each (paths : List (String × String)) :
      (fun fact => (Declaration.ofFact? vocabulary paths fact).bind kind) = fun fact =>
        (fact.declares? vocabulary paths feature).map fun (directive, path) =>
          make directive path :=
    funext fun _ => Declaration.bind_ofFact? isNotSkip ofSkip ofPath
  unfold declarations declaring
  rw [List.filterMap_filterMap, List.map_filterMap, each]

private theorem filterMap_set? : (facts.declarations vocabulary name).filterMap (·.set?) =
    facts.operationSets vocabulary name :=
  filterMap_declarations (by decide) (fun _ => rfl) Declaration.set?_ofPath

private theorem filterMap_details? : (facts.declarations vocabulary name).filterMap (·.details?) =
    facts.paths vocabulary name .details :=
  filterMap_declarations (by decide) (fun _ => rfl) Declaration.details?_ofPath

private theorem filterMap_upsert? : (facts.declarations vocabulary name).filterMap (·.upsert?) =
    facts.paths vocabulary name .upsert :=
  filterMap_declarations (by decide) (fun _ => rfl) Declaration.upsert?_ofPath

end Facts

/-! ## The operation set of one resource -/

/-- What is not a resource declares neither operations nor paths. -/
theorem DeclaredType.Comprises.unrecognised {policy : OperationSetPolicy} {name : String}
    {declarations : List Declaration} {type : DeclaredType}
    (comprises : type.Comprises policy name declarations) (not : type.recognised = false) :
    type.descriptor.operationSet = none ∧ type.descriptor.legacy = ⟨none, none⟩ := by
  have skips : ∀ declaration ∈ declarations, declaration.makesResource = false := by
    simpa [not] using comprises.recognised.symm
  have absent : ∀ {α : Type} (kind : Declaration → Option α),
      (∀ declaration, declaration.makesResource = false → kind declaration = none) →
      declarations.filterMap kind = [] := by
    intro α kind none
    rw [List.filterMap_eq_nil_iff]
    exact fun declaration member => none declaration (skips declaration member)
  have noSet := absent (·.set?) fun declaration isSkip => by
    cases declaration <;> first | rfl | cases isSkip
  have noDetails := absent (·.details?) fun declaration isSkip => by
    cases declaration <;> first | rfl | cases isSkip
  have noUpsert := absent (·.upsert?) fun declaration isSkip => by
    cases declaration <;> first | rfl | cases isSkip
  have set := comprises.set
  have details := comprises.details
  have upsert := comprises.upsert
  rw [noSet] at set
  rw [noDetails] at details
  rw [noUpsert] at upsert
  refine ⟨set.eq_nil_iff.mp rfl, ?_⟩
  cases legacy : type.descriptor.legacy
  rw [legacy] at details upsert
  cases details
  cases upsert
  rfl

private theorem operationSet_of_merged? {skipped : Bool} {declared handle : Option Descriptor}
    {descriptor : Descriptor} (merged : merged? skipped declared handle = some descriptor)
    (left : skipped = true → declared = none) :
    descriptor.operationSet =
      (declared.bind (·.operationSet) <|> handle.bind (·.operationSet)) := by
  unfold merged? at merged
  cases handle with
  | none =>
      cases merged
      simp
  | some handle =>
      dsimp only at merged
      split at merged
      · next isLeft =>
          rw [left isLeft] at merged
          cases merged
      · split at merged
        · next existing =>
            cases merged
            exact existing.operationSet_absorb handle
        · split at merged
          · cases merged
            rfl
          · cases merged

private theorem Operation.mem_listing {operation : Operation} {operations : List Operation} :
    operation ∈ listing operations ↔ operation ∈ operations := by
  unfold listing
  cases operation <;> simp [all]

/-- The path that markers of single purposes imply is the first one of them. -/
theorem Descriptor.path_legacySet? (vocabulary : String) (legacy : LegacyPaths) :
    (legacySet? vocabulary legacy).map (·.path) = (legacy.upsert <|> legacy.details) := by
  unfold legacySet?
  cases legacy.upsert <;> cases legacy.details <;> rfl

private theorem Descriptor.mem_operations_of_legacySet? {vocabulary : String} {legacy : LegacyPaths}
    {set : OperationSet} (implied : legacySet? vocabulary legacy = some set)
    (operation : Operation) :
    operation ∈ set.operations ↔
      (legacy.details ≠ none ∧ operation = .read) ∨
        (legacy.upsert ≠ none ∧ (operation = .create ∨ operation = .update)) := by
  have listed : operation ∈ set.operations ↔ operation ∈ legacyOperations legacy := by
    unfold legacySet? at implied
    cases upsert : legacy.upsert with
    | some path =>
        rw [upsert] at implied
        cases implied
        exact Operation.mem_listing
    | none =>
        rw [upsert] at implied
        cases details : legacy.details with
        | some path =>
            rw [details] at implied
            cases implied
            exact Operation.mem_listing
        | none =>
            rw [details] at implied
            cases implied
  rw [listed, legacyOperations]
  cases legacy.details <;> cases legacy.upsert <;> simp

namespace Inventory

variable {vocabulary : Vocabulary} {policy : OperationSetPolicy} {facts : Facts}
  {inventory : Inventory} {name : String} {descriptor : Descriptor}

/-- Directives come first, then handles. -/
theorem exists_of_mem_ofFacts (collected : ofFacts vocabulary policy facts = .ok inventory)
    (listed : (name, descriptor) ∈ inventory.descriptors) :
    ∃ type : DeclaredType, type.Comprises policy name (facts.declarations vocabulary name) ∧
      descriptor.operationSet =
        (type.descriptor.operationSet <|>
          (Descriptor.legacySet? vocabulary.name type.descriptor.legacy <|>
            (facts.wiring.filter (·.resource = name)).findSome? (·.operationSet?))) := by
  rcases exists_of_listed collected listed with ⟨reading, isRead, merged⟩
  have comprises := Declared.comprises_of_readType isRead
  refine ⟨reading.value, comprises, ?_⟩
  rw [operationSet_of_merged? merged (fun isLeft => by cases isLeft),
    operationSet_wiredDescriptors]
  cases recognised : reading.value.recognised with
  | true => simp [Descriptor.withLegacySet, Option.or_assoc]
  | false =>
      rcases comprises.unrecognised recognised with ⟨noSet, noLegacy⟩
      simp [noSet, noLegacy, Descriptor.legacySet?]

/-- The operation set of a resource is the one that the policy settles on among the sets that
the resource declares. If it declares none, markers of single purposes imply one, on the first
path of them. If there are no such markers either, it is that of the first handle with a base
path. -/
theorem operationSet_ofFacts (collected : ofFacts vocabulary policy facts = .ok inventory)
    (listed : (name, descriptor) ∈ inventory.descriptors) :
    let sets := facts.operationSets vocabulary name
    let details := facts.paths vocabulary name .details
    let upserts := facts.paths vocabulary name .upsert
    (sets ≠ [] → policy.Settles sets descriptor.operationSet) ∧
    (sets = [] → upserts ++ details ≠ [] →
      ∃ set, descriptor.operationSet = some set ∧
        (∀ operation, operation ∈ set.operations ↔
          (details ≠ [] ∧ operation = .read) ∨
            (upserts ≠ [] ∧ (operation = .create ∨ operation = .update))) ∧
        (upserts ++ details).head? = some set.path) ∧
    (sets = [] → upserts ++ details = [] →
      descriptor.operationSet =
        (facts.wiring.filter (·.resource = name)).findSome? (·.operationSet?)) := by
  dsimp only
  rcases exists_of_mem_ofFacts collected listed with ⟨type, comprises, operationSet⟩
  have settles := comprises.set
  have details := comprises.details
  have upsert := comprises.upsert
  rw [Facts.filterMap_set?] at settles
  rw [Facts.filterMap_details?] at details
  rw [Facts.filterMap_upsert?] at upsert
  have implied := Descriptor.path_legacySet? vocabulary.name type.descriptor.legacy
  rw [details, upsert] at implied
  have firstPath : (Descriptor.legacySet? vocabulary.name type.descriptor.legacy).map (·.path) =
      (facts.paths vocabulary name .upsert ++ facts.paths vocabulary name .details).head? := by
    rw [implied, List.head?_append]
    simp
  refine ⟨?_, ?_, ?_⟩
  · intro declared
    cases settled : type.descriptor.operationSet with
    | none => exact absurd (settles.eq_nil_iff.mpr settled) declared
    | some set =>
        rw [operationSet, settled]
        rwa [settled] at settles
  · intro undeclared marked
    rw [settles.eq_nil_iff.mp undeclared] at operationSet
    cases isImplied : Descriptor.legacySet? vocabulary.name type.descriptor.legacy with
    | none =>
        rw [isImplied] at firstPath
        exact absurd (List.head?_eq_none_iff.mp firstPath.symm) marked
    | some set =>
        rw [isImplied] at firstPath operationSet
        refine ⟨set, operationSet, ?_, firstPath.symm⟩
        intro operation
        rw [Descriptor.mem_operations_of_legacySet? isImplied, details, upsert]
        simp
  · intro undeclared unmarked
    rw [unmarked] at firstPath
    rw [operationSet, settles.eq_nil_iff.mp undeclared, Option.map_eq_none_iff.mp firstPath]
    rfl

/-! ## Three resources of a depot -/

def depotVocabulary : Vocabulary :=
  ⟨"depot", ⟨[⟨"depot:details", .type, .string, "path of one item"⟩,
    ⟨"depot:ops", .type, .string, "operations and their path"⟩,
    ⟨"depot:upsert", .type, .string, "path of the collection"⟩]⟩, .standard⟩

/-- Pallets declare two operation sets, crates markers of single purposes, and of the handles
of vans only the second one has a base path. -/
def depotFacts : Facts where
  directives :=
    [⟨"Pallet", .type, "+depot:ops:R=/pallets", "depot"⟩,
      ⟨"Crate", .type, "+depot:ops:LR", "depot"⟩,
      ⟨"Crate", .type, "+depot:details=/crates/{id}", "depot"⟩,
      ⟨"Pallet", .type, "+depot:ops:LR=/pallets", "depot"⟩,
      ⟨"Crate", .type, "+depot:upsert=/crates", "depot"⟩]
  wiring :=
    [⟨"Pallet", "pallets", some "/boards", ["D"], [], "client"⟩,
      ⟨"Van", "spare", some " ", ["D"], [], "client"⟩,
      ⟨"Van", "vans", some "/vans", ["C", "Read"], [], "client"⟩]

private theorem declared_depot :
    depotFacts.operationSets depotVocabulary "Pallet" =
        [.of [.read] "/pallets" "+depot:ops:R=/pallets",
          .of [.list, .read] "/pallets" "+depot:ops:LR=/pallets"] ∧
      depotFacts.operationSets depotVocabulary "Crate" = [] ∧
      depotFacts.paths depotVocabulary "Crate" .details = ["/crates/{id}"] ∧
      depotFacts.paths depotVocabulary "Crate" .upsert = ["/crates"] := by
  decide +kernel

theorem operationSet_ofFacts_depot :
    ∃ inventory pallet crate van,
      ofFacts depotVocabulary .lastWins depotFacts = .ok inventory ∧
      ("Pallet", pallet) ∈ inventory.descriptors ∧
      pallet.operationSet = some (.of [.list, .read] "/pallets" "+depot:ops:LR=/pallets") ∧
      ("Crate", crate) ∈ inventory.descriptors ∧
      (∃ set, crate.operationSet = some set ∧ set.path = "/crates" ∧
        ∀ operation, operation ∈ set.operations ↔
          operation = .read ∨ operation = .create ∨ operation = .update) ∧
      ("Van", van) ∈ inventory.descriptors ∧
      van.operationSet = some (.of [.create, .read] "/vans" "wiring:vans") := by
  have known : (ofFacts depotVocabulary .lastWins depotFacts).toOption.map (keys ·.descriptors) =
      some ["Crate", "Pallet", "Van"] := by decide +kernel
  rcases exists_of_toOption_map known with ⟨inventory, collected, listed⟩
  have member : ∀ name ∈ ["Crate", "Pallet", "Van"], ∃ descriptor,
      (name, descriptor) ∈ inventory.descriptors := by
    rw [← listed]
    exact fun _ => exists_mem_of_mem_keys
  rcases member "Pallet" (by decide) with ⟨pallet, isPallet⟩
  rcases member "Crate" (by decide) with ⟨crate, isCrate⟩
  rcases member "Van" (by decide) with ⟨van, isVan⟩
  rcases declared_depot with ⟨palletSets, crateSets, crateDetails, crateUpserts⟩
  refine ⟨inventory, pallet, crate, van, collected, isPallet, ?_, isCrate, ?_, isVan, ?_⟩
  · have settles := (operationSet_ofFacts collected isPallet).1
    rw [palletSets] at settles
    exact settles (List.cons_ne_nil _ _)
  · have implied := (operationSet_ofFacts collected isCrate).2.1
    rw [crateSets, crateDetails, crateUpserts] at implied
    rcases implied rfl (List.cons_ne_nil _ _) with ⟨set, isSet, operations, path⟩
    refine ⟨set, isSet, (Option.some.inj path).symm, ?_⟩
    intro operation
    rw [operations]
    simp
  · rw [(operationSet_ofFacts collected isVan).2.2 rfl rfl]
    decide +kernel

end Inventory

end RestModel
