import Mathlib.Data.List.Induction
import RestModel.Proofs.Resource.Methods
import RestModel.Proofs.Text

/-! # Base paths

The base path of a file is put before the paths that directives of the file declare, unless they
start with it already. Texts are compared there, not paths: a path also starts with the base path
where it only continues its last segment, and is left outside of it. -/

namespace RestModel

open Keyed

/-- A path is another one or leads on from it. -/
def IsBelow (base path : String) : Prop := path = base ∨ ∃ rest, path = base ++ "/" ++ rest

/-- A path starts with the text of another one, but within a segment. -/
def ContinuesSegment (base path : String) : Prop :=
  ∃ c rest, c ≠ '/' ∧ path.toList = base.toList ++ c :: rest

/-- A path starts with a slash and does not end with one. -/
def IsBasePath (base : String) : Prop :=
  base.toList.head? = some '/' ∧ base.toList.getLast? ≠ some '/'

private theorem isBelow_iff {base path : String} :
    IsBelow base path ↔ path = base ∨ ∃ rest, path.toList = base.toList ++ '/' :: rest := by
  refine or_congr_right ⟨?_, ?_⟩
  · rintro ⟨rest, rfl⟩
    exact ⟨rest.toList, by simp⟩
  · rintro ⟨rest, written⟩
    exact ⟨String.ofList rest, by simp [← String.toList_inj, written]⟩

private theorem withBasePath_of_isBasePath {base : String} (isBase : IsBasePath base)
    (path : String) :
    withBasePath (some base) path =
      if Text.beginsWith base path then path else base ++ path := by
  have untrimmed : base.toList.reverse.dropWhile (· == '/') = base.toList.reverse := by
    have last := isBase.2
    rw [← List.head?_reverse] at last
    cases ends : base.toList.reverse with
    | nil => rfl
    | cons c rest =>
        rw [ends, List.head?_cons, ne_eq, Option.some.injEq] at last
        exact List.dropWhile_cons_of_neg (by simpa using last)
  rw [withBasePath, untrimmed, List.reverse_reverse, String.ofList_toList]

/-- A path ends up below the base path unless it continues the last segment of it. -/
theorem isBelow_withBasePath_iff {base path : String} (isBase : IsBasePath base)
    (absolute : path.toList.head? = some '/') :
    IsBelow base (withBasePath (some base) path) ↔ ¬ContinuesSegment base path := by
  rw [withBasePath_of_isBasePath isBase, isBelow_iff]
  split
  · next begins =>
      rcases Text.beginsWith_iff.mp begins with ⟨rest, rfl⟩
      have same : base ++ rest = base ↔ rest.toList = [] := by
        rw [← String.toList_inj, String.toList_append, List.append_right_eq_self]
      simp only [same, ContinuesSegment, String.toList_append, List.append_cancel_left_eq]
      cases rest.toList with
      | nil => simp
      | cons c others => simp
  · next outside =>
      have notContinued : ¬ContinuesSegment base path := by
        rintro ⟨c, rest, _, written⟩
        refine outside (Text.beginsWith_iff.mpr ⟨String.ofList (c :: rest), ?_⟩)
        rw [← String.toList_inj, written, String.toList_append, String.toList_ofList]
      rcases List.head?_eq_some_iff.mp absolute with ⟨rest, written⟩
      refine iff_of_true (.inr ⟨rest, ?_⟩) notContinued
      rw [String.toList_append, written]

/-! ## What descriptors hold on paths -/

/-- Something that is declared on a path. -/
inductive PathItem where
  | operations (set : OperationSet)
  | method (method : ExtraMethod)
  | requestUrl (url : RouteOverride)
  | responseUrl (url : RouteOverride)
  | details (path : String)
  | upsert (path : String)

def PathItem.path : PathItem → String
  | .operations set => set.path
  | .method extra => extra.path
  | .requestUrl url | .responseUrl url => url.path
  | .details path | .upsert path => path

def Descriptor.Holds (descriptor : Descriptor) : PathItem → Prop
  | .operations set => descriptor.operationSet = some set
  | .method method => method ∈ descriptor.extraMethods
  | .requestUrl url => descriptor.requestUrl = some url
  | .responseUrl url => descriptor.responseUrl = some url
  | .details path => descriptor.legacy.details = some path
  | .upsert path => descriptor.legacy.upsert = some path

def Declaration.Holds (declaration : Declaration) : PathItem → Prop
  | .operations set => declaration = .operations set
  | .method method => method ∈ declaration.methods
  | .requestUrl url => declaration = .requestUrl url
  | .responseUrl url => declaration = .responseUrl url
  | .details path => declaration = .details path
  | .upsert path => declaration = .upsert path

/-- A directive declares something on a path. -/
def DirectiveFact.Contributes (vocabulary : Vocabulary) (paths : List (String × String))
    (fact : DirectiveFact) (item : PathItem) : Prop :=
  ∃ declaration, Declaration.ofFact? vocabulary paths fact = some declaration ∧
    declaration.Holds item

theorem OperationSetPolicy.Settles.mem {policy : OperationSetPolicy} {sets : List OperationSet}
    {set : OperationSet} (settles : policy.Settles sets (some set)) : set ∈ sets := by
  cases policy with
  | firstWins => exact List.mem_of_head? settles.symm
  | lastWins => exact List.mem_of_getLast? settles.symm
  | reject =>
      cases settles
      exact List.mem_singleton_self set

private theorem eq_of_orElse {first : Option α} {value other : α}
    (found : (first <|> some value) = some other) : first = some other ∨ value = other := by
  cases first with
  | none => exact .inr (Option.some.inj found)
  | some stored => exact .inl found

namespace DeclaredType

variable {vocabulary : Vocabulary} {policy : OperationSetPolicy}
  {paths : List (String × String)} {type : DeclaredType} {reading : Reading DeclaredType}
  {item : PathItem}

/-- Only the operation set of a type is replaced, by the set that is declared. -/
theorem declareSet_holds {set : OperationSet} {location : String}
    (declared : type.declareSet policy set location = .ok reading)
    (holds : reading.value.descriptor.Holds item) :
    type.descriptor.Holds item ∨ item = .operations set := by
  rcases exists_of_declareSet declared with ⟨set?, equal, settles⟩
  rw [equal] at holds
  cases item with
  | operations other =>
      have before : policy.Settles type.descriptor.operationSet.toList
          type.descriptor.operationSet := by
        cases type.descriptor.operationSet with
        | none => exact .nil policy
        | some existing => exact .single policy existing
      have isOther : set? = some other := holds
      have settled := settles _ before
      rw [isOther] at settled
      rcases List.mem_append.mp settled.mem with old | new
      · exact .inl (Option.mem_toList.mp old)
      · exact .inr (congrArg _ (List.mem_singleton.mp new))
  | _ => exact .inl holds

private theorem declare_holds {declaration : Declaration} {location : String}
    (declared : type.declare policy declaration location = .ok reading)
    (holds : reading.value.descriptor.Holds item) :
    type.descriptor.Holds item ∨ declaration.Holds item := by
  cases declaration with
  | skip left =>
      cases declared
      exact .inl holds
  | operations set =>
      rcases declareSet_holds declared holds with old | rfl
      · exact .inl old
      · exact .inr rfl
  | extraMethods methods =>
      cases declared
      rcases type.descriptor.exists_addExtraMethods methods with ⟨extraMethods, added⟩
      cases item with
      | method method =>
          have member : method ∈ (type.descriptor.addExtraMethods methods).extraMethods := holds
          rw [Descriptor.extraMethods_addExtraMethods] at member
          exact mem_foldl_addNew member
      | _ =>
          left
          dsimp only [recognise] at holds
          rw [added] at holds
          exact holds
  | requestUrl url | responseUrl url =>
      unfold declare at declared
      dsimp only at declared
      split at declared
      all_goals cases declared
      · cases item
        all_goals
          first
          | exact .inl holds
          | exact .inr (congrArg _ (Option.some.inj holds))
      · exact .inl holds
  | details path | upsert path =>
      cases declared
      cases item
      all_goals
        first
        | exact .inl holds
        | exact (eq_of_orElse holds).imp id (congrArg _)

private theorem addFact_holds {fact : DirectiveFact}
    (added : type.addFact vocabulary policy paths fact = .ok reading)
    (holds : reading.value.descriptor.Holds item) :
    type.descriptor.Holds item ∨ fact.Contributes vocabulary paths item := by
  unfold DeclaredType.addFact at added
  dsimp only at added
  split at added
  · cases added
    exact .inl holds
  · next declaration declares =>
      rcases map_eq_ok_iff.mp added with ⟨declared, isDeclared, rfl⟩
      refine (declare_holds isDeclared holds).imp_right fun new => ⟨declaration, ?_, new⟩
      rw [Declaration.ofFact?, declares]

/-- Whatever a type holds in the end comes from one of its directives. -/
theorem addFacts_holds {facts : List DirectiveFact}
    (added : type.addFacts vocabulary policy paths facts = .ok reading)
    (holds : reading.value.descriptor.Holds item) :
    type.descriptor.Holds item ∨ ∃ fact ∈ facts, fact.Contributes vocabulary paths item := by
  induction facts generalizing type reading with
  | nil =>
      cases added
      exact .inl holds
  | cons fact rest induction =>
      rcases bind_eq_ok_iff.mp added with ⟨first, isFirst, added⟩
      rcases bind_eq_ok_iff.mp added with ⟨others, areOthers, added⟩
      cases added
      rcases induction areOthers holds with before | ⟨other, member, contributes⟩
      · rcases addFact_holds isFirst before with start | contributes
        · exact .inl start
        · exact .inr ⟨fact, List.mem_cons_self, contributes⟩
      · exact .inr ⟨other, List.mem_cons_of_mem _ member, contributes⟩

end DeclaredType

/-! ## The path of a directive -/

namespace Declaration

variable {declaration : Declaration} {item : PathItem}

private theorem path_of_ofPath {directive : Directive} {path location : String} {wait : Wait}
    (declares : (ofPath directive path wait location).value = some declaration)
    (holds : declaration.Holds item) : item.path = path := by
  have overridden {url : RouteOverride}
      (isUrl : (directive.override path location).value = some url) : url.path = path := by
    unfold Directive.override at isUrl
    split at isUrl <;> cases isUrl
    rfl
  cases feature : directive.feature
  all_goals rw [ofPath, feature] at declares
  case basePath | skip | other => cases declares
  case operations | details | upsert =>
    cases declares
    cases item <;> cases holds
    rfl
  case extraMethod | asyncExtraMethod =>
    cases declares
    cases item with
    | method extra =>
        rw [Declaration.Holds, methods, Directive.value_extraMethods] at holds
        rcases List.mem_map.mp holds with ⟨verb, _, rfl⟩
        rfl
    | _ => cases holds
  case requestUrl | responseUrl =>
    rcases Option.map_eq_some_iff.mp declares with ⟨url, isUrl, rfl⟩
    cases item <;> cases holds
    exact overridden isUrl

private theorem exists_of_contributes {vocabulary : Vocabulary} {paths : List (String × String)}
    {fact : DirectiveFact} (contributes : fact.Contributes vocabulary paths item) :
    ∃ directive definition payload, fact.marked? vocabulary = some (directive, definition) ∧
      directive.payload = some payload ∧
      item.path = withBasePath (get? fact.origin paths) payload := by
  rcases contributes with ⟨declaration, declares, holds⟩
  rw [ofFact?_eq_bind] at declares
  rcases Option.bind_eq_some_iff.mp declares with ⟨⟨directive, definition⟩, marked, declares⟩
  refine ⟨directive, definition, ?_⟩
  dsimp only [ofDirective] at declares
  split at declares
  · -- A directive that leaves its type out declares nothing on a path.
    split at declares <;> cases declares <;> cases item <;> cases holds
  · cases paid : directive.payload with
    | none =>
        rw [Directive.requirePayload, paid] at declares
        cases declares
    | some payload =>
        rw [Directive.requirePayload, paid] at declares
        exact ⟨payload, marked, rfl, path_of_ofPath declares holds⟩

end Declaration

/-! ## The descriptors of all types -/

namespace Declared

variable {vocabulary : Vocabulary} {policy : OperationSetPolicy} {facts : List DirectiveFact}
  {declared : Declared} {name : String} {descriptor : Descriptor} {item : PathItem}

/-- The base path of a file is the last one that a directive of the file declares. -/
def basePath? (vocabulary : Vocabulary) (facts : List DirectiveFact) (origin : String) :
    Option String :=
  ((facts.filter fun fact => fact.target = .package ∧ fact.origin = origin).filterMap
    fun fact => (basePathOf vocabulary fact).value).getLast?

private theorem get?_basePaths (packages : List DirectiveFact) (origin : String) :
    get? origin (basePaths vocabulary packages) =
      ((packages.filter (·.origin = origin)).filterMap
        fun fact => (basePathOf vocabulary fact).value).getLast? := by
  induction packages using List.reverseRecOn with
  | nil => rfl
  | append_singleton earlier fact induction =>
      rw [basePaths, List.foldl_append, List.foldl_cons, List.foldl_nil, ← basePaths,
        List.filter_append, List.filterMap_append]
      by_cases own : fact.origin = origin
      · subst own
        cases value : (basePathOf vocabulary fact).value with
        | none => simpa [value] using induction
        | some path => simp [value, get?_insert_self]
      · cases value : (basePathOf vocabulary fact).value with
        | none => simpa [own] using induction
        | some path => simpa [own, get?_insert_of_ne (Ne.symm own)] using induction

private theorem get?_packagePaths (origin : String) :
    get? origin (packagePaths vocabulary facts) = basePath? vocabulary facts origin := by
  have own : (facts.filter (·.target = .package)).filter (·.origin = origin) =
      facts.filter fun fact => fact.target = .package ∧ fact.origin = origin := by
    rw [List.filter_filter]
    apply List.filter_congr
    intro fact _
    rw [Bool.decide_and, Bool.and_comm]
  rw [packagePaths, get?_basePaths, own, basePath?]

private theorem exists_of_holds (assembled : ofDirectives vocabulary policy facts = .ok declared)
    (listed : (name, descriptor) ∈ declared.descriptors) (holds : descriptor.Holds item) :
    ∃ fact ∈ ownDirectives facts name,
      fact.Contributes vocabulary (packagePaths vocabulary facts) item := by
  have readOff := isReadOff_ofDirectives assembled
  rcases readOff.type name with ⟨reading, isRead, described, _⟩
  rw [readOff.ordered.get?_of_mem listed] at described
  rcases Option.map_eq_some_iff.mp described.symm with ⟨entry, isEntry, rfl⟩
  unfold descriptor? at isEntry
  split at isEntry
  · cases isEntry
    rcases DeclaredType.addFacts_holds isRead holds with before | source
    · cases item <;> cases before
    · exact source
  · cases isEntry

/-- Whatever a descriptor holds on a path comes from a directive of its type, and wherever it may
come from, its path is the payload behind the base path of the file. It lies below the base path
unless the payload starts with the text of it and goes on within the last segment. -/
theorem isBelow_ofDirectives (assembled : ofDirectives vocabulary policy facts = .ok declared)
    (listed : (name, descriptor) ∈ declared.descriptors) (holds : descriptor.Holds item) :
    let paths := packagePaths vocabulary facts
    (∃ fact ∈ ownDirectives facts name, fact.Contributes vocabulary paths item) ∧
      ∀ fact ∈ ownDirectives facts name, fact.Contributes vocabulary paths item →
        ∃ directive definition payload, fact.marked? vocabulary = some (directive, definition) ∧
          directive.payload = some payload ∧
          item.path = withBasePath (basePath? vocabulary facts fact.origin) payload ∧
          ∀ base, basePath? vocabulary facts fact.origin = some base → IsBasePath base →
            payload.toList.head? = some '/' →
              (IsBelow base item.path ↔ ¬ContinuesSegment base payload) := by
  refine ⟨exists_of_holds assembled listed holds, fun fact _ contributes => ?_⟩
  rcases Declaration.exists_of_contributes contributes with
    ⟨directive, definition, payload, marked, paid, placed⟩
  rw [get?_packagePaths] at placed
  refine ⟨directive, definition, payload, marked, paid, placed,
    fun base isOwn isBase absolute => ?_⟩
  rw [placed, isOwn, isBelow_withBasePath_iff isBase absolute]

/-! ## Two shops of a market -/

def marketVocabulary : Vocabulary :=
  ⟨"market", ⟨[⟨"market:basePath", .package, .string, "beginning of paths"⟩,
    ⟨"market:ops", .type, .string, "operations and their path"⟩]⟩, .standard⟩

/-- The path of grocers starts with the text of the base path. -/
def marketFacts : List DirectiveFact :=
  [⟨"market", .package, "+market:basePath=/v1", "market"⟩,
    ⟨"Baker", .type, "+market:ops:R=/bakers", "market"⟩,
    ⟨"Grocer", .type, "+market:ops:R=/v10/grocers", "market"⟩]

def bakerSet : OperationSet := .of [.read] "/v1/bakers" "+market:ops:R=/bakers"

def grocerSet : OperationSet := .of [.read] "/v10/grocers" "+market:ops:R=/v10/grocers"

private theorem exists_market : ∃ declared,
    ofDirectives marketVocabulary .firstWins marketFacts = .ok declared ∧
      ∀ entry ∈ [("Baker", some bakerSet), ("Grocer", some grocerSet)],
        ∃ descriptor, (entry.1, descriptor) ∈ declared.descriptors ∧
          descriptor.operationSet = entry.2 := by
  have known : (ofDirectives marketVocabulary .firstWins marketFacts).toOption.map
      (fun declared => declared.descriptors.map fun entry => (entry.1, entry.2.operationSet)) =
        some [("Baker", some bakerSet), ("Grocer", some grocerSet)] := by
    decide +kernel
  rcases exists_of_toOption_map known with ⟨declared, assembled, sets⟩
  refine ⟨declared, assembled, ?_⟩
  rw [← sets]
  intro entry member
  rcases List.mem_map.mp member with ⟨⟨name, descriptor⟩, listed, rfl⟩
  exact ⟨descriptor, listed, rfl⟩

private theorem basePath_market :
    basePath? marketVocabulary marketFacts "market" = some "/v1" ∧ IsBasePath "/v1" := by
  refine ⟨by decide +kernel, ?_⟩
  unfold IsBasePath
  decide +kernel

theorem isBelow_ofDirectives_market : ∃ declared baker,
    ofDirectives marketVocabulary .firstWins marketFacts = .ok declared ∧
      ("Baker", baker) ∈ declared.descriptors ∧ baker.operationSet = some bakerSet ∧
      IsBelow "/v1" bakerSet.path := by
  rcases exists_market with ⟨declared, assembled, sets⟩
  rcases sets _ List.mem_cons_self with ⟨baker, isBaker, isSet⟩
  refine ⟨declared, baker, assembled, isBaker, isSet, ?_⟩
  have holds : baker.Holds (.operations bakerSet) := isSet
  rcases isBelow_ofDirectives assembled isBaker holds with ⟨⟨fact, member, contributes⟩, all⟩
  rcases all fact member contributes with ⟨directive, definition, payload, marked, paid, _, below⟩
  have own : ownDirectives marketFacts "Baker" =
      [⟨"Baker", .type, "+market:ops:R=/bakers", "market"⟩] := by
    decide +kernel
  rw [own, List.mem_singleton] at member
  subst member
  have written : payload = "/bakers" := by
    have known : (DirectiveFact.marked? marketVocabulary
        ⟨"Baker", .type, "+market:ops:R=/bakers", "market"⟩).bind (·.1.payload) =
          some "/bakers" := by
      decide +kernel
    rw [marked, Option.bind_some, paid] at known
    exact Option.some.inj known
  subst written
  refine (below "/v1" basePath_market.1 basePath_market.2 (by decide)).mpr ?_
  rintro ⟨c, rest, _, continued⟩
  simp at continued

theorem not_isBelow_market : ∃ declared grocer,
    ofDirectives marketVocabulary .firstWins marketFacts = .ok declared ∧
      basePath? marketVocabulary marketFacts "market" = some "/v1" ∧ IsBasePath "/v1" ∧
      ("Grocer", grocer) ∈ declared.descriptors ∧ grocer.operationSet = some grocerSet ∧
      ¬IsBelow "/v1" grocerSet.path := by
  rcases exists_market with ⟨declared, assembled, sets⟩
  rcases sets _ (List.mem_cons_of_mem _ List.mem_cons_self) with ⟨grocer, isGrocer, isSet⟩
  refine ⟨declared, grocer, assembled, basePath_market.1, basePath_market.2, isGrocer, isSet, ?_⟩
  rw [isBelow_iff]
  rintro (same | ⟨rest, below⟩)
  · revert same
    decide +kernel
  · simp [grocerSet, OperationSet.of] at below

end Declared

end RestModel
