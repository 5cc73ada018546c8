import RestModel.Proofs.Keyed
import RestModel.Proofs.Outcome
import RestModel.Resource.Declared

/-! # What the directives of a type come to

The directives of a type are read one after another. What they come to can be told from the
declarations among them: which operation set the policy settles on, which path of a marker of
a single purpose came first, and whether any of them leaves the type out. Types do not see
each other's directives. -/

namespace RestModel

theorem filterMap_cons_eq_append (change : α → Option β) (item : α) (rest : List α) :
    (item :: rest).filterMap change = (change item).toList ++ rest.filterMap change := by
  cases found : change item <;> simp [found]

namespace Declaration

def set? : Declaration → Option OperationSet
  | .operations set => some set
  | _ => none

def details? : Declaration → Option String
  | .details path => some path
  | _ => none

def upsert? : Declaration → Option String
  | .upsert path => some path
  | _ => none

/-- Whether a declaration leaves its type out. -/
def skips : Declaration → Bool
  | .skip skipped => skipped
  | _ => false

/-- Whether a declaration makes its type a resource. -/
def makesResource : Declaration → Bool
  | .skip _ => false
  | _ => true

/-- What the directive of a fact declares. -/
def ofFact? (vocabulary : Vocabulary) (basePaths : List (String × String))
    (fact : DirectiveFact) : Option Declaration :=
  (ofText vocabulary (Keyed.get? fact.origin basePaths) fact.text fact.location).value

end Declaration

/-- The directive of a fact and its marker, if it belongs to the vocabulary and may stand at
types. -/
def DirectiveFact.marked? (vocabulary : Vocabulary) (fact : DirectiveFact) :
    Option (Directive × Marker) :=
  match Directive.ofText fact.text with
  | .error _ => none
  | .ok directive =>
      if directive.vocabulary = vocabulary.name then
        (vocabulary.registry.lookup? directive.text .type).map (directive, ·)
      else
        none

/-- Only a directive of the vocabulary with a marker declares anything. -/
theorem Declaration.ofText_eq_elim (vocabulary : Vocabulary) (basePath : Option String)
    (fact : DirectiveFact) :
    ofText vocabulary basePath fact.text fact.location =
      (fact.marked? vocabulary).elim
        ⟨none, (Directive.readOwn vocabulary.name fact.text fact.location).lints⟩
        fun (directive, definition) =>
          ofDirective directive definition basePath vocabulary.defaultWait fact.location := by
  unfold ofText Directive.readOwn DirectiveFact.marked?
  cases Directive.ofText fact.text with
  | error problem =>
      by_cases begins :
          Text.beginsWith ("+" ++ vocabulary.name ++ ":") (Text.trimStart fact.text) = true
      · simp only [if_pos begins, Option.elim_none]
      · simp only [if_neg begins, Option.elim_none]
  | ok directive =>
      dsimp only
      by_cases own : directive.vocabulary = vocabulary.name
      · simp only [if_pos own]
        cases vocabulary.registry.lookup? directive.text .type with
        | none => simp only [Option.map_none, Option.elim_none]
        | some definition => simp only [Option.map_some, Option.elim_some, List.nil_append]
      · simp only [if_neg own, Option.elim_none]

theorem Declaration.ofFact?_eq_bind (vocabulary : Vocabulary) (basePaths : List (String × String))
    (fact : DirectiveFact) :
    ofFact? vocabulary basePaths fact =
      (fact.marked? vocabulary).bind fun (directive, definition) =>
        (ofDirective directive definition (Keyed.get? fact.origin basePaths)
          vocabulary.defaultWait fact.location).value := by
  rw [ofFact?, ofText_eq_elim]
  cases fact.marked? vocabulary <;> rfl

/-! ## Settling on one operation set -/

/-- What a policy makes of several operation sets. -/
def OperationSetPolicy.Settles (policy : OperationSetPolicy) (sets : List OperationSet)
    (settled : Option OperationSet) : Prop :=
  match policy with
  | .firstWins => settled = sets.head?
  | .lastWins => settled = sets.getLast?
  | .reject => sets = settled.toList

namespace OperationSetPolicy.Settles

variable {policy : OperationSetPolicy} {sets : List OperationSet} {settled : Option OperationSet}

theorem nil (policy : OperationSetPolicy) : policy.Settles [] none := by
  cases policy <;> rfl

theorem single (policy : OperationSetPolicy) (set : OperationSet) :
    policy.Settles [set] (some set) := by
  cases policy <;> rfl

theorem eq_nil_iff (settles : policy.Settles sets settled) : sets = [] ↔ settled = none := by
  cases policy with
  | firstWins =>
      cases settles
      simp
  | lastWins =>
      cases settles
      simp
  | reject =>
      cases settles
      simp

end OperationSetPolicy.Settles

/-! ## Methods change nothing else -/

namespace Descriptor

theorem exists_addExtraMethods (descriptor : Descriptor) (methods : List ExtraMethod) :
    ∃ extraMethods, descriptor.addExtraMethods methods = { descriptor with extraMethods } := by
  unfold addExtraMethods
  induction methods generalizing descriptor with
  | nil => exact ⟨descriptor.extraMethods, rfl⟩
  | cons method rest induction =>
      rcases induction (descriptor.addExtraMethod method) with ⟨extraMethods, added⟩
      refine ⟨extraMethods, ?_⟩
      rw [List.foldl_cons, added]
      unfold addExtraMethod
      split <;> rfl

variable (descriptor : Descriptor) (methods : List ExtraMethod)

@[simp]
theorem name_addExtraMethods : (descriptor.addExtraMethods methods).name = descriptor.name := by
  rcases descriptor.exists_addExtraMethods methods with ⟨extraMethods, added⟩
  rw [added]

@[simp]
theorem operationSet_addExtraMethods :
    (descriptor.addExtraMethods methods).operationSet = descriptor.operationSet := by
  rcases descriptor.exists_addExtraMethods methods with ⟨extraMethods, added⟩
  rw [added]

@[simp]
theorem legacy_addExtraMethods :
    (descriptor.addExtraMethods methods).legacy = descriptor.legacy := by
  rcases descriptor.exists_addExtraMethods methods with ⟨extraMethods, added⟩
  rw [added]

end Descriptor

/-! ## What the directives of one type come to -/

namespace DeclaredType

/-- A type is what a list of declarations comes to. -/
structure Comprises (policy : OperationSetPolicy) (name : String)
    (declarations : List Declaration) (type : DeclaredType) : Prop where
  name : type.descriptor.name = name
  set : policy.Settles (declarations.filterMap (·.set?)) type.descriptor.operationSet
  details : type.descriptor.legacy.details = (declarations.filterMap (·.details?)).head?
  upsert : type.descriptor.legacy.upsert = (declarations.filterMap (·.upsert?)).head?
  recognised : type.recognised = declarations.any (·.makesResource)
  skipped : type.skipped = declarations.any (·.skips)

variable {vocabulary : Vocabulary} {policy : OperationSetPolicy}
  {basePaths : List (String × String)} {name location : String}
  {declarations : List Declaration} {type : DeclaredType} {reading : Reading DeclaredType}

private theorem comprises_empty (policy : OperationSetPolicy) (name : String)
    (origin : Option String) :
    (empty name origin).Comprises policy name [] :=
  ⟨rfl, .nil policy, rfl, rfl, rfl, rfl⟩

/-- The policy settles on an operation set of those before and a further one. -/
theorem exists_of_declareSet {set : OperationSet}
    (declared : type.declareSet policy set location = .ok reading) :
    ∃ settled,
      reading.value = type.recognise { type.descriptor with operationSet := settled } ∧
      ∀ sets, policy.Settles sets type.descriptor.operationSet →
        policy.Settles (sets ++ [set]) settled := by
  unfold declareSet at declared
  dsimp only at declared
  split at declared
  · next absent =>
      cases declared
      refine ⟨some set, rfl, fun sets settles => ?_⟩
      rw [settles.eq_nil_iff.mpr absent]
      exact .single policy set
  · next existing present =>
      cases policy with
      | firstWins =>
          cases declared
          refine ⟨some existing, by rw [← present], fun sets settles => ?_⟩
          rw [present] at settles
          rw [OperationSetPolicy.Settles, List.head?_append, ← settles]
          rfl
      | lastWins =>
          cases declared
          exact ⟨some set, rfl, fun sets _ => List.getLast?_concat.symm⟩
      | reject => cases declared

/-- What a declaration adds to a type. An operation set is left to the policy. -/
structure Gains (type : DeclaredType) (declaration : Declaration) (next : DeclaredType) :
    Prop where
  name : next.descriptor.name = type.descriptor.name
  set : declaration.set? = none → next.descriptor.operationSet = type.descriptor.operationSet
  details : next.descriptor.legacy.details =
    (type.descriptor.legacy.details <|> declaration.details?)
  upsert : next.descriptor.legacy.upsert =
    (type.descriptor.legacy.upsert <|> declaration.upsert?)
  recognised : next.recognised = (type.recognised || declaration.makesResource)
  skipped : next.skipped = (type.skipped || declaration.skips)

private theorem gains_recognise {declaration : Declaration} {descriptor : Descriptor}
    (name : descriptor.name = type.descriptor.name)
    (set : declaration.set? = none → descriptor.operationSet = type.descriptor.operationSet)
    (legacy : descriptor.legacy = type.descriptor.legacy)
    (makes : declaration.makesResource = true) (keeps : declaration.skips = false)
    (details : declaration.details? = none) (upsert : declaration.upsert? = none) :
    type.Gains declaration (type.recognise descriptor) where
  name := name
  set := set
  details := by simp [recognise, legacy, details]
  upsert := by simp [recognise, legacy, upsert]
  recognised := by simp [recognise, makes]
  skipped := by simp [recognise, keeps]

private theorem declare_gains {declaration : Declaration}
    (declared : type.declare policy declaration location = .ok reading) :
    type.Gains declaration reading.value := by
  cases declaration with
  | skip left =>
      cases declared
      constructor <;> simp [Declaration.details?, Declaration.upsert?, Declaration.skips,
        Declaration.makesResource]
  | operations set =>
      rcases exists_of_declareSet declared with ⟨settled, equal, _⟩
      rw [equal]
      exact gains_recognise rfl (fun absent => by cases absent) rfl rfl rfl rfl rfl
  | extraMethods methods =>
      cases declared
      exact gains_recognise (Descriptor.name_addExtraMethods ..)
        (fun _ => Descriptor.operationSet_addExtraMethods ..)
        (Descriptor.legacy_addExtraMethods ..) rfl rfl rfl rfl
  | requestUrl url =>
      unfold DeclaredType.declare at declared
      dsimp only at declared
      split at declared <;> cases declared <;>
        exact gains_recognise rfl (fun _ => rfl) rfl rfl rfl rfl rfl
  | responseUrl url =>
      unfold DeclaredType.declare at declared
      dsimp only at declared
      split at declared <;> cases declared <;>
        exact gains_recognise rfl (fun _ => rfl) rfl rfl rfl rfl rfl
  | details path =>
      cases declared
      constructor <;> simp [recognise, Declaration.details?, Declaration.upsert?,
        Declaration.skips, Declaration.makesResource]
  | upsert path =>
      cases declared
      constructor <;> simp [recognise, Declaration.details?, Declaration.upsert?,
        Declaration.skips, Declaration.makesResource]

private theorem declare_settles {declaration : Declaration} {sets : List OperationSet}
    (settles : policy.Settles sets type.descriptor.operationSet)
    (declared : type.declare policy declaration location = .ok reading) :
    policy.Settles (sets ++ declaration.set?.toList) reading.value.descriptor.operationSet := by
  cases found : declaration.set? with
  | none =>
      rw [(declare_gains declared).set found]
      simpa using settles
  | some set =>
      have isSet : declaration = .operations set := by
        cases declaration <;> cases found
        rfl
      subst isSet
      rcases exists_of_declareSet declared with ⟨settled, equal, settlesNext⟩
      rw [equal]
      exact settlesNext sets settles

/-- One more declaration. -/
theorem Comprises.declare {declaration : Declaration}
    (comprises : type.Comprises policy name declarations)
    (declared : type.declare policy declaration location = .ok reading) :
    reading.value.Comprises policy name (declarations ++ [declaration]) := by
  have gains := declare_gains declared
  have last : ∀ of : Declaration → Option String,
      ((declarations ++ [declaration]).filterMap of).head? =
        ((declarations.filterMap of).head? <|> of declaration) := by
    intro of
    rw [List.filterMap_append, List.head?_append, filterMap_cons_eq_append]
    simp
  constructor
  case name => rw [gains.name, comprises.name]
  case set =>
    rw [List.filterMap_append, filterMap_cons_eq_append, List.filterMap_nil, List.append_nil]
    exact declare_settles comprises.set declared
  case details => rw [gains.details, comprises.details, last]
  case upsert => rw [gains.upsert, comprises.upsert, last]
  case recognised => simp [gains.recognised, comprises.recognised]
  case skipped => simp [gains.skipped, comprises.skipped]

theorem Comprises.addFact {fact : DirectiveFact}
    (comprises : type.Comprises policy name declarations)
    (added : type.addFact vocabulary policy basePaths fact = .ok reading) :
    reading.value.Comprises policy name
      (declarations ++ (Declaration.ofFact? vocabulary basePaths fact).toList) := by
  unfold DeclaredType.addFact at added
  dsimp only at added
  split at added
  · next undeclared =>
      have absent : Declaration.ofFact? vocabulary basePaths fact = none := by
        rw [Declaration.ofFact?, undeclared]
      cases added
      rw [absent, Option.toList_none, List.append_nil]
      exact comprises
  · next declaration declares =>
      have present : Declaration.ofFact? vocabulary basePaths fact = some declaration := by
        rw [Declaration.ofFact?, declares]
      rcases map_eq_ok_iff.mp added with ⟨declared, isDeclared, equal⟩
      have next := comprises.declare isDeclared
      rw [present, ← equal]
      exact next

/-- All directives of a list, one after another. -/
theorem Comprises.addFacts {facts : List DirectiveFact}
    (comprises : type.Comprises policy name declarations)
    (added : type.addFacts vocabulary policy basePaths facts = .ok reading) :
    reading.value.Comprises policy name
      (declarations ++ facts.filterMap (Declaration.ofFact? vocabulary basePaths)) := by
  induction facts generalizing type declarations reading with
  | nil =>
      cases added
      simpa using comprises
  | cons fact rest induction =>
      rcases bind_eq_ok_iff.mp added with ⟨first, isFirst, added⟩
      rcases bind_eq_ok_iff.mp added with ⟨others, areOthers, added⟩
      cases added
      have whole := induction (comprises.addFact isFirst) areOthers
      rwa [filterMap_cons_eq_append, ← List.append_assoc]

end DeclaredType

/-! ## Types on their own -/

namespace Declared

open Keyed

variable {vocabulary : Vocabulary} {policy : OperationSetPolicy}
  {paths : List (String × String)} {facts : List DirectiveFact}
  {entries : List (String × List DirectiveFact)} {types : List (Reading DeclaredType)}

/-- What directives of one type come to. -/
def readType (vocabulary : Vocabulary) (policy : OperationSetPolicy)
    (paths : List (String × String)) (name : String) (facts : List DirectiveFact) :
    Except Failure (Reading DeclaredType) :=
  (DeclaredType.empty name (facts.head?.map (·.origin))).addFacts vocabulary policy paths facts

theorem comprises_of_readType {name : String} {reading : Reading DeclaredType}
    (read : readType vocabulary policy paths name facts = .ok reading) :
    reading.value.Comprises policy name
      (facts.filterMap (Declaration.ofFact? vocabulary paths)) :=
  (DeclaredType.comprises_empty policy name _).addFacts read

theorem exists_of_typesOf_cons {name : String} {rest : List (String × List DirectiveFact)}
    (read : typesOf vocabulary policy paths ((name, facts) :: rest) = .ok types) :
    ∃ first others, readType vocabulary policy paths name facts = .ok first ∧
      typesOf vocabulary policy paths rest = .ok others ∧ types = first :: others := by
  rcases bind_eq_ok_iff.mp read with ⟨first, isFirst, read⟩
  rcases bind_eq_ok_iff.mp read with ⟨others, areOthers, read⟩
  cases read
  exact ⟨first, others, isFirst, areOthers, rfl⟩

/-- The types can be read if each of them can. -/
theorem exists_typesOf (each : ∀ entry ∈ entries, ∃ reading,
      readType vocabulary policy paths entry.1 entry.2 = .ok reading) :
    ∃ types, typesOf vocabulary policy paths entries = .ok types := by
  induction entries with
  | nil => exact ⟨[], rfl⟩
  | cons entry rest induction =>
      rcases entry with ⟨name, facts⟩
      rcases each _ List.mem_cons_self with ⟨first, isFirst⟩
      rcases induction fun entry member => each entry (List.mem_cons_of_mem _ member) with
        ⟨others, areOthers⟩
      exact ⟨first :: others, bind_eq_ok_iff.mpr ⟨first, isFirst,
        bind_eq_ok_iff.mpr ⟨others, areOthers, rfl⟩⟩⟩

/-- The descriptors of types that are resources and not left out. -/
def descriptorsOf (types : List (Reading DeclaredType)) : List (String × Descriptor) :=
  types.filterMap fun type => descriptor? type.value

/-- The names of types that are left out. -/
def skippedOf (types : List (Reading DeclaredType)) : List String :=
  (types.filter (·.value.skipped)).map (·.value.descriptor.name)

private theorem name_of_descriptor? {type : DeclaredType} {entry : String × Descriptor}
    (found : descriptor? type = some entry) : entry.1 = type.descriptor.name := by
  unfold descriptor? at found
  split at found
  · cases found
    rfl
  · cases found

private theorem keys_descriptorsOf_sublist
    (read : typesOf vocabulary policy paths entries = .ok types) :
    (keys (descriptorsOf types)).Sublist (keys entries) := by
  induction entries generalizing types with
  | nil =>
      cases read
      exact .slnil
  | cons entry rest induction =>
      rcases entry with ⟨name, facts⟩
      rcases exists_of_typesOf_cons read with ⟨first, others, isFirst, areOthers, rfl⟩
      have named := (comprises_of_readType isFirst).name
      rw [descriptorsOf, filterMap_cons_eq_append]
      cases found : descriptor? first.value with
      | none => exact (induction areOthers).cons name
      | some entry =>
          rw [← named, ← name_of_descriptor? found]
          exact (induction areOthers).cons_cons entry.1

/-- What is read of a type is what its own directives come to. -/
theorem exists_of_typesOf (ordered : Ordered entries)
    (read : typesOf vocabulary policy paths entries = .ok types) (name : String) :
    ∃ reading,
      readType vocabulary policy paths name ((get? name entries).getD []) = .ok reading ∧
      get? name (descriptorsOf types) = (descriptor? reading.value).map (·.2) ∧
      (name ∈ skippedOf types ↔ reading.value.skipped = true) := by
  induction entries generalizing types with
  | nil =>
      cases read
      exact ⟨⟨.empty name none, []⟩, rfl, rfl, by simp [skippedOf, DeclaredType.empty]⟩
  | cons entry rest induction =>
      rcases entry with ⟨stored, facts⟩
      rcases exists_of_typesOf_cons read with ⟨first, others, isFirst, areOthers, rfl⟩
      have named := (comprises_of_readType isFirst).name
      rcases induction (List.pairwise_cons.mp ordered).2 areOthers with
        ⟨reading, isRead, described, skipped⟩
      have firstSkipped : skippedOf (first :: others) =
          (if first.value.skipped then [stored] else []) ++ skippedOf others := by
        simp only [skippedOf, List.filter_cons]
        split <;> simp [named]
      rw [descriptorsOf, filterMap_cons_eq_append, ← descriptorsOf, firstSkipped]
      by_cases isName : stored = name
      · subst isName
        -- No later type has this name: the induction is about a type without directives.
        rw [ordered.get?_rest] at isRead
        cases isRead
        refine ⟨first, by rwa [get?_cons_self], ?_, ?_⟩
        · cases found : descriptor? first.value with
          | none => exact described
          | some entry =>
              rw [← named, ← name_of_descriptor? found]
              exact get?_cons_self ..
        · split
          · next left => simp [left]
          · next kept =>
              rw [List.nil_append, skipped]
              simpa [DeclaredType.empty] using kept
      · refine ⟨reading, by rwa [get?_cons_of_ne isName], ?_, ?_⟩
        · rw [← described]
          cases found : descriptor? first.value with
          | none => rfl
          | some entry =>
              have other : entry.1 ≠ name := by
                rwa [name_of_descriptor? found, named]
              exact get?_cons_of_ne other ..
        · rw [← skipped]
          split <;> simp [Ne.symm isName]

theorem storesOwn_byType : StoresOwn (fun fact : DirectiveFact => fact.declaration)
    fun types fact => alter fact.declaration [] (· ++ [fact]) types where
  ordered _ := ordered_insert _ _
  other _ different := get?_insert_of_ne different.symm _ _
  own fact sameValue := by
    unfold alter
    rw [get?_insert_self, get?_insert_self, sameValue]

private theorem getD_get?_byType (facts : List DirectiveFact) (name : String) :
    (get? name (byType facts)).getD [] = facts.filter (·.declaration = name) := by
  have collected : ∀ (own : List DirectiveFact) (types : List (String × List DirectiveFact)),
      (∀ fact ∈ own, fact.declaration = name) →
      (get? name (own.foldl (fun types fact =>
        alter fact.declaration [] (· ++ [fact]) types) types)).getD [] =
          (get? name types).getD [] ++ own := by
    intro own
    induction own with
    | nil => simp
    | cons fact rest induction =>
        intro types named
        rw [List.foldl_cons, induction _ fun fact member => named fact (.tail _ member),
          ← named fact (.head _), alter, get?_insert_self]
        simp
  unfold byType
  rw [storesOwn_byType.get?_foldl name facts rfl, collected _ _ (by simp)]
  rfl

/-- No directive gets lost or stands at two types. -/
theorem byType_perm (facts : List DirectiveFact) : ((byType facts).flatMap (·.2)).Perm facts := by
  have collected : ∀ (more : List DirectiveFact) (types : List (String × List DirectiveFact)),
      Ordered types → ((more.foldl (fun types fact =>
        alter fact.declaration [] (· ++ [fact]) types) types).flatMap (·.2)).Perm
          (types.flatMap (·.2) ++ more) := by
    intro more
    induction more with
    | nil => simp
    | cons fact rest induction =>
        intro types ordered
        have first := ordered.flatMap_alter_perm fact.declaration fact
        have others := induction _ (storesOwn_byType.ordered fact ordered)
        exact others.trans ((first.append_right rest).trans (.of_eq (List.append_cons ..).symm))
  exact collected facts [] .nil

/-- The directives of a type, in order. -/
def ownDirectives (facts : List DirectiveFact) (name : String) : List DirectiveFact :=
  facts.filter fun fact => fact.target = .type ∧ fact.declaration = name

/-- The base paths that directives of files declare. -/
def packagePaths (vocabulary : Vocabulary) (facts : List DirectiveFact) : List (String × String) :=
  basePaths vocabulary (facts.filter (·.target = .package))

/-- What the directives of one type among others come to. -/
def typeOf (vocabulary : Vocabulary) (policy : OperationSetPolicy) (facts : List DirectiveFact)
    (name : String) : Except Failure (Reading DeclaredType) :=
  readType vocabulary policy (packagePaths vocabulary facts) name (ownDirectives facts name)

private theorem getD_get?_byType_ofType (facts : List DirectiveFact) (name : String) :
    (get? name (byType (facts.filter (·.target = .type)))).getD [] = ownDirectives facts name := by
  rw [getD_get?_byType, List.filter_filter]
  apply List.filter_congr
  intro fact _
  rw [Bool.decide_and, Bool.and_comm]

/-- Directives come to what those of each type come to on their own. -/
structure IsReadOff (vocabulary : Vocabulary) (policy : OperationSetPolicy)
    (facts : List DirectiveFact) (declared : Declared) : Prop where
  ordered : Ordered declared.descriptors
  type (name : String) : ∃ reading, typeOf vocabulary policy facts name = .ok reading ∧
    get? name declared.descriptors = (descriptor? reading.value).map (·.2) ∧
    (name ∈ declared.skipped ↔ reading.value.skipped = true)

theorem isReadOff_ofDirectives {declared : Declared}
    (read : ofDirectives vocabulary policy facts = .ok declared) :
    IsReadOff vocabulary policy facts declared := by
  rcases bind_eq_ok_iff.mp read with ⟨types, areTypes, read⟩
  cases read
  have ordered : Ordered (byType (facts.filter (·.target = .type))) :=
    storesOwn_byType.ordered_foldl _ .nil
  constructor
  · have ordered := List.pairwise_map.mpr ordered
    exact List.pairwise_map.mp (ordered.sublist (keys_descriptorsOf_sublist areTypes))
  · intro name
    have own := exists_of_typesOf ordered areTypes name
    rw [getD_get?_byType_ofType] at own
    exact own

/-- Directives can be read if those of each type can. -/
theorem exists_ofDirectives
    (each : ∀ name, ∃ reading, typeOf vocabulary policy facts name = .ok reading) :
    ∃ declared, ofDirectives vocabulary policy facts = .ok declared := by
  have ordered : Ordered (byType (facts.filter (·.target = .type))) :=
    storesOwn_byType.ordered_foldl _ .nil
  have all : ∀ entry ∈ byType (facts.filter (·.target = .type)), ∃ reading,
      readType vocabulary policy (packagePaths vocabulary facts) entry.1 entry.2 = .ok reading := by
    intro entry member
    have own := getD_get?_byType_ofType facts entry.1
    rw [ordered.get?_of_mem member, Option.getD_some] at own
    rw [own]
    exact each entry.1
  rcases exists_typesOf all with ⟨types, areTypes⟩
  exact ⟨_, bind_eq_ok_iff.mpr ⟨types, areTypes, rfl⟩⟩

end Declared

end RestModel
