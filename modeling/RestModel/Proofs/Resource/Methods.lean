import RestModel.Proofs.Distinct
import RestModel.Proofs.Resource.Provenance

/-! # The methods of a resource

Directives and lines of doc comments declare methods, one for each verb that they name. All
methods of a resource go into one list, those of directives before those of handles, and of
several methods with one verb and path the first one counts. -/

namespace RestModel

open Keyed

private theorem flatMap_filterMap (read : α → Option β) (make : β → List γ) (items : List α) :
    (items.filterMap read).flatMap make =
      items.flatMap fun item => (read item).toList.flatMap make := by
  induction items with
  | nil => rfl
  | cons item rest induction =>
      rw [filterMap_cons_eq_append, List.flatMap_append, induction, List.flatMap_cons]

/-! ## What one directive declares -/

namespace Directive

/-- The wait that a directive asks for, as it is written. -/
def waitLiteral? (directive : Directive) : Option String :=
  (directive.option.filter (·.name = "wait")).map (·.value)

/-- The wait of the methods of a directive. Asynchronous methods and those with a wait of
their own have one. -/
def methodWait? (directive : Directive) (defaultWait : Wait) : Option Wait :=
  if directive.feature = .asyncExtraMethod ∨ directive.waitLiteral? ≠ none then
    some ((directive.waitLiteral?.bind Wait.ofLiteral?).getD defaultWait)
  else
    none

private theorem isSome_methodWait? (directive : Directive) (defaultWait : Wait) :
    (directive.methodWait? defaultWait).isSome = true ↔
      directive.feature = .asyncExtraMethod ∨ directive.waitLiteral? ≠ none := by
  unfold methodWait?
  split
  · next waits => exact ⟨fun _ => waits, fun _ => rfl⟩
  · next waitless => simpa using waitless

private theorem eq_of_methodWait? {directive : Directive} {defaultWait wait : Wait}
    (found : directive.methodWait? defaultWait = some wait) :
    wait = (directive.waitLiteral?.bind Wait.ofLiteral?).getD defaultWait := by
  unfold methodWait? at found
  split at found
  · exact (Option.some.inj found).symm
  · cases found

/-- The verbs that a directive names, each of them once, if all of them may be named. -/
def verbsNamed? (directive : Directive) : Option (List Verb) := do
  let arguments ← directive.arguments
  let verbs ← (Text.pieces '|' arguments).mapM fun piece => Verb.ofDirective? (Text.trim piece)
  return verbs.eraseDups

/-- The methods that a directive declares on a path. -/
def methodsOn (directive : Directive) (defaultWait : Wait) (path : String) : List ExtraMethod :=
  (directive.verbsNamed?.getD []).map fun verb =>
    ⟨verb, path, directive.methodWait? defaultWait, directive.text⟩

private theorem toOption_readVerbs (text : String) (pieces : List String) :
    (readVerbs text pieces).toOption =
      (pieces.mapM fun piece => Verb.ofDirective? (Text.trim piece)).map List.eraseDups := by
  induction pieces with
  | nil => rfl
  | cons piece rest induction =>
      rw [readVerbs, List.mapM_cons]
      cases Verb.ofDirective? (Text.trim piece) with
      | none => rfl
      | some verb =>
          cases others : readVerbs text rest with
          | error problem =>
              rw [others] at induction
              have absent := Option.map_eq_none_iff.mp induction.symm
              simp [absent, bind, Except.bind, Except.toOption]
          | ok verbs =>
              rw [others] at induction
              rcases Option.map_eq_some_iff.mp induction.symm with ⟨named, isNamed, rfl⟩
              have first : (verb :: named).eraseDups =
                  verb :: named.eraseDups.filter (· ≠ verb) := by
                simp only [List.eraseDups_cons, eraseDups_filter, ne_eq, decide_not]
                rfl
              rw [isNamed]
              exact congrArg some first.symm

private theorem toOption_verbs (directive : Directive) :
    directive.verbs.toOption = directive.verbsNamed? := by
  unfold verbs verbsNamed?
  cases directive.arguments with
  | none => rfl
  | some arguments =>
      dsimp only
      rw [toOption_readVerbs]
      exact Option.map_eq_bind

private theorem value_optionWait (directive : Directive) (defaultWait : Wait) (location : String) :
    (directive.optionWait defaultWait location).value =
      directive.waitLiteral?.map fun literal => (Wait.ofLiteral? literal).getD defaultWait := by
  unfold optionWait waitLiteral?
  cases directive.option with
  | none => rfl
  | some option =>
      by_cases isWait : option.name = "wait"
      · cases supported : Wait.ofLiteral? option.value <;>
          simp [Option.filter, isWait, supported]
      · simp [Option.filter, isWait]

theorem value_extraMethods (directive : Directive) (path : String) (defaultWait : Wait)
    (location : String) :
    (directive.extraMethods path defaultWait location).value =
      directive.methodsOn defaultWait path := by
  have named := directive.toOption_verbs
  unfold extraMethods methodsOn
  cases read : directive.verbs with
  | error problem =>
      rw [read] at named
      rw [← named]
      rfl
  | ok verbs =>
      rw [read] at named
      rw [← named]
      dsimp only
      rw [value_optionWait, methodWait?]
      cases directive.waitLiteral? <;> simp [Except.toOption]

end Directive

namespace Vocabulary

/-- The directive that a text is and its payload, if it declares methods of what it is attached
to. -/
def methodDirective? (vocabulary : Vocabulary) (target : Target) (text : String) :
    Option (Directive × String) := do
  let directive ← (Directive.ofText text).toOption
  let payload ← directive.payload
  if directive.vocabulary = vocabulary.name ∧
      (vocabulary.registry.lookup? directive.text target).isSome ∧
      (directive.feature = .extraMethod ∨ directive.feature = .asyncExtraMethod) then
    some (directive, payload)
  else
    none

/-- The methods that directives declare, each on its path. -/
def methods (vocabulary : Vocabulary) (directives : List (Directive × String)) :
    List ExtraMethod :=
  directives.flatMap fun (directive, path) => directive.methodsOn vocabulary.defaultWait path

private theorem methods_append (vocabulary : Vocabulary)
    (directives others : List (Directive × String)) :
    vocabulary.methods (directives ++ others) =
      vocabulary.methods directives ++ vocabulary.methods others :=
  List.flatMap_append

end Vocabulary

/-- The directive of a fact and its path, if it declares methods of its type. -/
def DirectiveFact.methodDirective? (vocabulary : Vocabulary) (paths : List (String × String))
    (fact : DirectiveFact) : Option (Directive × String) :=
  (vocabulary.methodDirective? .type fact.text).map fun (directive, payload) =>
    (directive, withBasePath (get? fact.origin paths) payload)

/-- The directives in the doc comment of a handle that declare methods, each with its path. -/
def WiringFact.methodDirectives (vocabulary : Vocabulary) (fact : WiringFact) :
    List (Directive × String) :=
  fact.directiveLines.filterMap (vocabulary.methodDirective? .field)

/-- The directives that declare methods of a resource, each with its path: first those of its
type, then those of its handles. -/
def Facts.methodDirectives (facts : Facts) (vocabulary : Vocabulary) (name : String) :
    List (Directive × String) :=
  (Declared.ownDirectives facts.directives name).filterMap
      (DirectiveFact.methodDirective? vocabulary
        (Declared.packagePaths vocabulary facts.directives)) ++
    (facts.wiring.filter (·.resource = name)).flatMap (·.methodDirectives vocabulary)

/-! ## Methods are added one after another -/

/-- What methods of one resource are told apart by. -/
def ExtraMethod.address (method : ExtraMethod) : Verb × String := (method.verb, method.path)

private theorem ExtraMethod.sameRoute_eq :
    sameRoute = fun method other => decide (method.address = other.address) := by
  funext method other
  rw [Bool.eq_iff_iff]
  simp [sameRoute, address]

theorem Descriptor.extraMethods_addExtraMethods (descriptor : Descriptor)
    (methods : List ExtraMethod) :
    (descriptor.addExtraMethods methods).extraMethods =
      methods.foldl (addNew ExtraMethod.address) descriptor.extraMethods := by
  have isPresent (descriptor : Descriptor) (method : ExtraMethod) :
      descriptor.hasRoute method = true ↔
        method.address ∈ descriptor.extraMethods.map ExtraMethod.address := by
    simp [hasRoute, ExtraMethod.sameRoute_eq]
  unfold addExtraMethods
  induction methods generalizing descriptor with
  | nil => rfl
  | cons method rest induction =>
      rw [List.foldl_cons, List.foldl_cons, induction, addNew, addExtraMethod]
      simp only [isPresent]
      split <;> rfl

/-! ## The methods of a type -/

/-- The methods that a declaration adds. -/
def Declaration.methods : Declaration → List ExtraMethod
  | .extraMethods methods => methods
  | _ => []

namespace DeclaredType

variable {vocabulary : Vocabulary} {policy : OperationSetPolicy}
  {paths : List (String × String)} {type : DeclaredType} {reading : Reading DeclaredType}

private theorem declare_methods {declaration : Declaration} {location : String}
    (declared : type.declare policy declaration location = .ok reading) :
    reading.value.descriptor.extraMethods =
      declaration.methods.foldl (addNew ExtraMethod.address) type.descriptor.extraMethods := by
  cases declaration with
  | operations set =>
      rcases exists_of_declareSet declared with ⟨settled, equal, _⟩
      rw [equal]
      rfl
  | extraMethods methods =>
      cases declared
      exact Descriptor.extraMethods_addExtraMethods ..
  | requestUrl url | responseUrl url =>
      unfold DeclaredType.declare at declared
      dsimp only at declared
      split at declared <;> cases declared <;> rfl
  | skip left | details path | upsert path =>
      cases declared
      rfl

private theorem addFact_methods {fact : DirectiveFact}
    (added : type.addFact vocabulary policy paths fact = .ok reading) :
    reading.value.descriptor.extraMethods =
      ((Declaration.ofFact? vocabulary paths fact).toList.flatMap Declaration.methods).foldl
        (addNew ExtraMethod.address) type.descriptor.extraMethods := by
  unfold DeclaredType.addFact at added
  dsimp only at added
  split at added
  · next undeclared =>
      have absent : Declaration.ofFact? vocabulary paths fact = none := by
        rw [Declaration.ofFact?, undeclared]
      cases added
      rw [absent]
      rfl
  · next declaration declares =>
      have present : Declaration.ofFact? vocabulary paths fact = some declaration := by
        rw [Declaration.ofFact?, declares]
      rcases map_eq_ok_iff.mp added with ⟨declared, isDeclared, equal⟩
      have next := declare_methods isDeclared
      rw [present, ← equal, Option.toList_some, List.flatMap_singleton]
      exact next

private theorem addFacts_methods {facts : List DirectiveFact}
    (added : type.addFacts vocabulary policy paths facts = .ok reading) :
    reading.value.descriptor.extraMethods =
      ((facts.filterMap (Declaration.ofFact? vocabulary paths)).flatMap Declaration.methods).foldl
        (addNew ExtraMethod.address) type.descriptor.extraMethods := by
  induction facts generalizing type reading with
  | nil =>
      cases added
      rfl
  | cons fact rest induction =>
      rcases bind_eq_ok_iff.mp added with ⟨first, isFirst, added⟩
      rcases bind_eq_ok_iff.mp added with ⟨others, areOthers, added⟩
      cases added
      rw [filterMap_cons_eq_append, List.flatMap_append, List.foldl_append,
        ← addFact_methods isFirst, ← induction areOthers]

end DeclaredType

namespace Declaration

variable {vocabulary : Vocabulary} {paths : List (String × String)} {fact : DirectiveFact}

private theorem methods_ofPath (directive : Directive) (path : String) (wait : Wait)
    (location : String) :
    (ofPath directive path wait location).value.toList.flatMap methods =
      if directive.feature = .extraMethod ∨ directive.feature = .asyncExtraMethod then
        directive.methodsOn wait path
      else
        [] := by
  rw [← directive.value_extraMethods path wait location]
  unfold ofPath
  cases directive.feature with
  | requestUrl | responseUrl =>
      cases (directive.override path location).value <;> simp [methods]
  | _ => simp [methods]

private theorem methods_ofDirective (directive : Directive) (definition : Marker)
    (basePath : Option String) (wait : Wait) (location : String) :
    (ofDirective directive definition basePath wait location).value.toList.flatMap methods =
      directive.payload.toList.flatMap fun payload =>
        if directive.feature = .extraMethod ∨ directive.feature = .asyncExtraMethod then
          directive.methodsOn wait (withBasePath basePath payload)
        else
          [] := by
  unfold ofDirective
  by_cases isSkip : directive.feature = .skip
  · rw [if_pos isSkip]
    simp only [isSkip, reduceCtorEq, or_self, if_false]
    split <;> simp [methods]
  · rw [if_neg isSkip, Directive.requirePayload]
    cases directive.payload with
    | none => rfl
    | some payload =>
        dsimp only
        rw [methods_ofPath, Option.toList_some, List.flatMap_singleton]

private theorem methods_ofFact? : (ofFact? vocabulary paths fact).toList.flatMap methods =
    vocabulary.methods (fact.methodDirective? vocabulary paths).toList := by
  rw [ofFact?_eq_bind]
  unfold DirectiveFact.marked? DirectiveFact.methodDirective? Vocabulary.methodDirective?
    Vocabulary.methods
  cases Directive.ofText fact.text with
  | error problem => rfl
  | ok directive =>
      dsimp only [Except.toOption, Option.bind_some, bind]
      by_cases own : directive.vocabulary = vocabulary.name
      · cases vocabulary.registry.lookup? directive.text .type with
        | none => cases directive.payload <;> simp [own]
        | some definition =>
            simp only [own, if_true, Option.map_some, Option.bind_some, methods_ofDirective]
            cases directive.payload with
            | none => rfl
            | some payload =>
                by_cases declares : directive.feature = .extraMethod ∨
                    directive.feature = .asyncExtraMethod <;>
                  simp [declares]
      · cases directive.payload <;> simp [own]

end Declaration

section Types

variable {vocabulary : Vocabulary} {policy : OperationSetPolicy} {facts : Facts} {name : String}

private theorem Facts.flatMap_declarations :
    (facts.declarations vocabulary name).flatMap Declaration.methods =
      vocabulary.methods ((Declared.ownDirectives facts.directives name).filterMap
        (DirectiveFact.methodDirective? vocabulary
          (Declared.packagePaths vocabulary facts.directives))) := by
  unfold declarations Vocabulary.methods
  rw [flatMap_filterMap, flatMap_filterMap]
  simp only [Declaration.methods_ofFact?, Vocabulary.methods]

/-- A type has the methods of its directives, and one that is no resource has none. -/
theorem Declared.methods_of_typeOf {reading : Reading DeclaredType}
    (read : typeOf vocabulary policy facts.directives name = .ok reading) :
    (if reading.value.recognised then reading.value.descriptor.extraMethods else []) =
      ((facts.declarations vocabulary name).flatMap Declaration.methods).foldl
        (addNew ExtraMethod.address) [] := by
  cases recognised : reading.value.recognised with
  | true => exact DeclaredType.addFacts_methods read
  | false =>
      have others : (facts.declarations vocabulary name).any (·.makesResource) = false :=
        (comprises_of_readType read).recognised.symm.trans recognised
      have skips : ∀ declaration ∈ facts.declarations vocabulary name,
          declaration.makesResource = false := by
        simpa only [List.any_eq_false, Bool.not_eq_true] using others
      have none : (facts.declarations vocabulary name).flatMap Declaration.methods = [] := by
        refine List.flatMap_eq_nil_iff.mpr fun declaration member => ?_
        have isSkip := skips declaration member
        cases declaration <;> first | rfl | cases isSkip
      rw [none]
      rfl

end Types

/-! ## The methods of handles -/

/-- The methods of a descriptor that may be missing. -/
def knownMethods (known : Option Descriptor) : List ExtraMethod :=
  (known.map (·.extraMethods)).getD []

@[simp]
theorem Descriptor.extraMethods_absorb (descriptor other : Descriptor) :
    (descriptor.absorb other).extraMethods =
      other.extraMethods.foldl (addNew ExtraMethod.address) descriptor.extraMethods :=
  extraMethods_addExtraMethods ..

section Handles

variable (vocabulary : Vocabulary)

private theorem WiringFact.value_lineMethods (location line : String) :
    (lineMethods vocabulary location line).value =
      vocabulary.methods (vocabulary.methodDirective? .field line).toList := by
  unfold lineMethods Directive.readOwn Vocabulary.methodDirective? Vocabulary.methods
  cases Directive.ofText line with
  | error problem =>
      dsimp only
      split
      · rfl
      · next read => split at read <;> cases read
  | ok directive =>
      dsimp only [Except.toOption, Option.bind_some, bind]
      by_cases own : directive.vocabulary = vocabulary.name
      · simp only [own, if_true, true_and, Directive.requirePayload]
        cases directive.payload with
        | none =>
            dsimp only
            split <;> rfl
        | some payload =>
            dsimp only [Option.bind_some]
            split
            · simp only [Directive.value_extraMethods, Option.toList_some, List.flatMap_singleton]
            · rfl
      · cases directive.payload <;> simp [own]

private theorem WiringFact.extraMethods_descriptor (fact : WiringFact) :
    (fact.descriptor vocabulary).extraMethods =
      (vocabulary.methods (fact.methodDirectives vocabulary)).foldl
        (addNew ExtraMethod.address) [] := by
  have lines : (fact.methodReadings vocabulary).flatMap (·.value) =
      vocabulary.methods (fact.methodDirectives vocabulary) := by
    unfold methodReadings methodDirectives Vocabulary.methods
    rw [List.flatMap_map, flatMap_filterMap]
    simp only [value_lineMethods, Vocabulary.methods]
  rw [← lines]
  exact Descriptor.extraMethods_addExtraMethods ..

private theorem knownMethods_addWired (entries : List (String × Descriptor)) (fact : WiringFact) :
    knownMethods (get? fact.resource (addWired entries (fact.descriptor vocabulary))) =
      (vocabulary.methods (fact.methodDirectives vocabulary)).foldl (addNew ExtraMethod.address)
        (knownMethods (get? fact.resource entries)) := by
  unfold addWired
  rw [WiringFact.name_descriptor]
  cases get? fact.resource entries with
  | none =>
      dsimp only
      rw [get?_insert_self]
      exact fact.extraMethods_descriptor vocabulary
  | some existing =>
      dsimp only
      rw [get?_insert_self, knownMethods, Option.map_some, Descriptor.extraMethods_absorb,
        WiringFact.extraMethods_descriptor, foldl_addNew_foldl]
      rfl

/-- The methods of all handles of a resource, one handle after another. -/
theorem knownMethods_wiredDescriptors (facts : List WiringFact) (name : String) :
    knownMethods (get? name (wiredDescriptors vocabulary facts).value) =
      (vocabulary.methods ((facts.filter (·.resource = name)).flatMap
        (·.methodDirectives vocabulary))).foldl (addNew ExtraMethod.address) [] := by
  have folded : ∀ (own : List WiringFact) (entries : List (String × Descriptor)),
      (∀ fact ∈ own, fact.resource = name) →
      knownMethods (get? name ((own.map (·.descriptor vocabulary)).foldl addWired entries)) =
        (vocabulary.methods (own.flatMap (·.methodDirectives vocabulary))).foldl
          (addNew ExtraMethod.address) (knownMethods (get? name entries)) := by
    intro own
    induction own with
    | nil => exact fun _ _ => rfl
    | cons fact rest induction =>
        intro entries named
        have step := knownMethods_addWired vocabulary entries fact
        rw [named fact (.head _)] at step
        rw [List.map_cons, List.foldl_cons,
          induction _ fun fact member => named fact (.tail _ member), step, List.flatMap_cons,
          Vocabulary.methods_append, List.foldl_append]
  rw [get?_wiredDescriptors]
  exact folded _ [] (by simp)

end Handles

/-! ## All methods of a resource -/

theorem extraMethods_of_merged? {declared handle : Option Descriptor} {descriptor : Descriptor}
    {wired : List ExtraMethod} (merged : merged? false declared handle = some descriptor)
    (known : knownMethods handle = wired.foldl (addNew ExtraMethod.address) []) :
    descriptor.extraMethods =
      wired.foldl (addNew ExtraMethod.address) (knownMethods declared) := by
  -- The handles' methods are filled into a list of their own first, which makes no difference.
  have refilled : (knownMethods handle).foldl (addNew ExtraMethod.address)
      (knownMethods declared) =
        wired.foldl (addNew ExtraMethod.address) (knownMethods declared) := by
    rw [known, foldl_addNew_foldl]
    rfl
  rw [← refilled]
  cases handle with
  | none =>
      cases merged
      rfl
  | some handle =>
      unfold merged? at merged
      dsimp only at merged
      cases declared with
      | some existing =>
          cases merged
          exact existing.extraMethods_absorb handle
      | none =>
          -- A resource with handles only has the methods of its handles as they are.
          have same := Option.some.inj (Option.ite_none_right_eq_some.mp merged).2
          rw [refilled, ← same]
          exact known

namespace Inventory

variable {vocabulary : Vocabulary} {policy : OperationSetPolicy} {facts : Facts}
  {inventory : Inventory} {name : String} {descriptor : Descriptor}

private theorem extraMethods_eq_foldl (collected : ofFacts vocabulary policy facts = .ok inventory)
    (listed : (name, descriptor) ∈ inventory.descriptors) :
    descriptor.extraMethods =
      (vocabulary.methods (facts.methodDirectives vocabulary name)).foldl
        (addNew ExtraMethod.address) [] := by
  rcases exists_of_listed collected listed with ⟨reading, isRead, merged⟩
  have declared := Declared.methods_of_typeOf isRead
  have wired := knownMethods_wiredDescriptors vocabulary facts.wiring name
  rw [extraMethods_of_merged? merged wired, Facts.methodDirectives, Vocabulary.methods_append,
    List.foldl_append, ← Facts.flatMap_declarations, ← declared]
  cases reading.value.recognised <;> rfl

/-- The methods of a resource are those of its directives and then those of its handles. Of
several methods with one verb and path, only the first one stays. A method is asynchronous if
its directive says so or names a wait, and it waits as long as the directive says, or as usual
if the directive names no wait that is supported. -/
theorem extraMethods_ofFacts (collected : ofFacts vocabulary policy facts = .ok inventory)
    (listed : (name, descriptor) ∈ inventory.descriptors) :
    descriptor.extraMethods.Pairwise (fun method other =>
      (method.verb, method.path) ≠ (other.verb, other.path)) ∧
    descriptor.extraMethods =
      (vocabulary.methods (facts.methodDirectives vocabulary name)).eraseDupsBy
        ExtraMethod.sameRoute ∧
    ∀ method ∈ descriptor.extraMethods,
      ∃ directive, (directive, method.path) ∈ facts.methodDirectives vocabulary name ∧
        method ∈ directive.methodsOn vocabulary.defaultWait method.path ∧
        (method.isAsync = true ↔
          directive.feature = .asyncExtraMethod ∨ directive.waitLiteral? ≠ none) ∧
        ∀ wait, method.wait = some wait →
          wait = (directive.waitLiteral?.bind Wait.ofLiteral?).getD vocabulary.defaultWait := by
  have methods := extraMethods_eq_foldl collected listed
  refine ⟨?_, ?_, ?_⟩
  · have distinct : (descriptor.extraMethods.map ExtraMethod.address).Nodup := by
      rw [methods]
      refine nodup_keys_foldl_addNew ?_ _
      exact .nil
    exact List.pairwise_map.mp distinct
  · rw [methods, foldl_addNew_nil, ExtraMethod.sameRoute_eq]
  · intro method member
    have declared : method ∈ vocabulary.methods (facts.methodDirectives vocabulary name) :=
      (mem_foldl_addNew (methods ▸ member)).resolve_left List.not_mem_nil
    rcases List.mem_flatMap.mp declared with ⟨⟨directive, path⟩, source, isDeclared⟩
    rcases List.mem_map.mp isDeclared with ⟨verb, _, rfl⟩
    refine ⟨directive, source, isDeclared, ?_, ?_⟩
    · exact directive.isSome_methodWait? vocabulary.defaultWait
    · exact fun wait => Directive.eq_of_methodWait?

/-! ## The trucks of a yard -/

def yardVocabulary : Vocabulary :=
  ⟨"y", ⟨[⟨"y:asyncExtraMethod", .type, .string, "path of an asynchronous method"⟩,
    ⟨"y:basePath", .package, .string, "beginning of paths"⟩,
    ⟨"y:extraMethod", .field, .string, "path of a method"⟩,
    ⟨"y:extraMethod", .type, .string, "path of a method"⟩]⟩, .standard⟩

/-- Washing is declared for one verb twice, and for another one by a directive and by a handle;
the other handle leaves out the beginning of the path. -/
def yardFacts : Facts where
  directives :=
    [⟨"yard", .package, "+y:basePath=/v1/", "yard"⟩,
      ⟨"Truck", .type, "+y:extraMethod:put|PUT=/wash", "yard"⟩,
      ⟨"Truck", .type, "+y:asyncExtraMethod:PUT|GET=/wash", "yard"⟩]
  wiring :=
    [⟨"Truck", "trucks", none, [], ["All trucks.", "+y:extraMethod:GET=/v1/wash"], "client"⟩,
      ⟨"Truck", "spare", none, [], ["+y:extraMethod:GET[wait(1m)]=/wash"], "client"⟩]

/-- Three ways of washing trucks. -/
def yardMethods : List ExtraMethod :=
  [⟨.put, "/v1/wash", none, "+y:extraMethod:put|PUT=/wash"⟩,
    ⟨.get, "/v1/wash", some .standard, "+y:asyncExtraMethod:PUT|GET=/wash"⟩,
    ⟨.get, "/wash", some ⟨"1m", 60⟩, "+y:extraMethod:GET[wait(1m)]=/wash"⟩]

theorem extraMethods_ofFacts_yard :
    ∃ inventory truck,
      ofFacts yardVocabulary .reject yardFacts = .ok inventory ∧
      ("Truck", truck) ∈ inventory.descriptors ∧
      truck.extraMethods = yardMethods ∧
      (yardVocabulary.methods (yardFacts.methodDirectives yardVocabulary "Truck")).eraseDupsBy
        ExtraMethod.sameRoute = yardMethods := by
  have known : (ofFacts yardVocabulary .reject yardFacts).toOption.map
      (fun inventory => inventory.descriptors.map fun entry => (entry.1, entry.2.extraMethods)) =
        some [("Truck", yardMethods)] := by decide +kernel
  rcases exists_of_toOption_map known with ⟨inventory, collected, listed⟩
  rcases List.map_eq_singleton_iff.mp listed with ⟨⟨name, truck⟩, isListed, same⟩
  obtain ⟨rfl, methods⟩ := Prod.mk.inj same
  have isTruck : ("Truck", truck) ∈ inventory.descriptors := isListed ▸ List.mem_singleton_self _
  refine ⟨inventory, truck, collected, isTruck, methods, ?_⟩
  rw [← (extraMethods_ofFacts collected isTruck).2.1, methods]

end Inventory

end RestModel
