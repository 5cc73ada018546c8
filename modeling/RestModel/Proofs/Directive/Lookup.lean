import RestModel.Directive.Registry
import RestModel.Proofs.Directive.Grammar
import RestModel.Proofs.Outcome

/-! # Looking up directives

A directive is looked up by its text. In the registry of the built-in markers this finds the
marker of the directive, as long as no blanks stand beside the colons before its arguments. -/

namespace RestModel

private theorem Feature.name_ofName (name : String) : (Feature.ofName name).name = name := by
  unfold ofName
  split <;> rfl

namespace Registry

/-! ## Names that a registry knows -/

theorem mem_of_find? {registry : Registry} {name : String} {target : Target} {definition : Marker}
    (found : registry.find? name target = some definition) :
    definition ∈ registry.definitions ∧ definition.name = name ∧ definition.target = target := by
  have isNamed := List.find?_some found
  exact ⟨List.mem_of_find?_eq_some found, by simpa using isNamed⟩

private theorem mem_insertDefinition {definition other : Marker} {definitions : List Marker}
    (member : other ∈ insertDefinition definition definitions) :
    other = definition ∨ other ∈ definitions := by
  induction definitions with
  | nil => exact .inl (List.mem_singleton.mp member)
  | cons first rest induction =>
      simp only [insertDefinition] at member
      split at member
      · exact List.mem_cons.mp member
      · rcases List.mem_cons.mp member with rfl | member
        · exact .inr List.mem_cons_self
        · rcases induction member with equal | member
          · exact .inl equal
          · exact .inr (List.mem_cons_of_mem _ member)

theorem mem_of_register {registry result : Registry} {definition other : Marker}
    (registered : registry.register definition = .ok result) (member : other ∈ result.definitions) :
    other = definition ∨ other ∈ registry.definitions := by
  unfold register at registered
  split at registered
  · contradiction
  · split at registered
    · contradiction
    · split at registered
      · split at registered
        · cases registered
          exact .inr member
        · contradiction
      · cases registered
        exact mem_insertDefinition member

theorem mem_of_registerAll {registry result : Registry} {definitions : List Marker} {other : Marker}
    (registered : registry.registerAll definitions = .ok result)
    (member : other ∈ result.definitions) :
    other ∈ definitions ∨ other ∈ registry.definitions := by
  induction definitions generalizing registry with
  | nil =>
      cases registered
      exact .inr member
  | cons definition rest induction =>
      rcases bind_eq_ok_iff.mp registered with ⟨next, first, registered⟩
      rcases induction registered with listed | known
      · exact .inl (List.mem_cons_of_mem _ listed)
      · rcases mem_of_register first known with rfl | known
        · exact .inl List.mem_cons_self
        · exact .inr known

private theorem name_of_mem_builtIn {vocabulary : String} {definition : Marker}
    (member : definition ∈ builtIn vocabulary) :
    ∃ feature : Feature, definition.name = vocabulary ++ ":" ++ feature.name ∧
      ':' ∉ feature.name.toList ∧
      Text.trimChars feature.name.toList = feature.name.toList := by
  simp only [builtIn, List.mem_cons, List.not_mem_nil, or_false] at member
  rcases member with rfl | rfl | rfl | rfl | rfl | rfl | rfl | rfl | rfl | rfl | rfl <;>
    exact ⟨_, rfl, by decide, by decide⟩

/-! ## The names under which a text is looked up -/

theorem mem_leadingNames_iff {name beginning : String} :
    beginning ∈ leadingNames name ↔
      beginning = name ∨ ∃ rest, name.toList = beginning.toList ++ ':' :: rest := by
  have counted : beginning ∈ leadingNames name ↔ ∃ count, beginning.toList =
      [':'].intercalate ((Text.piecesBy (· == ':') name.toList).take (count + 1)) := by
    have written : ∀ count, (Text.join ":" ((Text.pieces ':' name).take count)).toList =
        [':'].intercalate ((Text.piecesBy (· == ':') name.toList).take count) := by
      intro count
      simp [Text.toList_join, Text.pieces, List.map_take, Function.comp_def]
    have length : (Text.pieces ':' name).length = (Text.piecesBy (· == ':') name.toList).length :=
      List.length_map _
    have filled : 0 < (Text.pieces ':' name).length := by
      simp [length, List.length_pos_iff, Text.piecesBy_ne_nil]
    simp only [leadingNames, List.mem_map, List.mem_range, ← String.toList_inj, written]
    constructor
    · rintro ⟨dropped, bound, equal⟩
      refine ⟨(Text.pieces ':' name).length - dropped - 1, ?_⟩
      rw [← equal]
      congr 2
      omega
    · rintro ⟨count, equal⟩
      refine ⟨(Text.pieces ':' name).length - (count + 1), by omega, ?_⟩
      rw [equal]
      by_cases within : count + 1 ≤ (Text.pieces ':' name).length
      · congr 2
        omega
      · rw [List.take_of_length_le (by omega), List.take_of_length_le (by omega)]
  rw [counted, Text.exists_intercalate_take_iff, String.toList_inj]

private theorem findSome?_eq_of_only {find : α → Option β} {items : List α} {item : α}
    (member : item ∈ items) (only : ∀ other ∈ items, other ≠ item → find other = none) :
    items.findSome? find = find item := by
  cases found : items.findSome? find with
  | none => exact (List.findSome?_eq_none_iff.mp found item member).symm
  | some result =>
      rcases List.exists_of_findSome?_eq_some found with ⟨other, listed, isResult⟩
      have same : other = item := by
        apply Classical.byContradiction
        intro different
        rw [only other listed different] at isResult
        contradiction
      rw [← same, isResult]

private theorem nameIn_eq {division : Directive.Division} (obeys : division.Obeys) {text : String}
    (divides : division.text = (Text.trim text).toList) :
    nameIn text = String.ofList (Text.trimChars division.name) := by
  have unpaid : ∀ c ∈ division.name, (c != '=') = true := fun c member => by
    simpa using (obeys.name c member).1
  have unopened : ∀ c ∈ division.name, (c != '[') = true := fun c member => by
    simpa using (obeys.name c member).2.1
  have trimmed : Text.trimChars text.toList = '+' :: division.parts.written := by
    rw [← String.toList_ofList (l := Text.trimChars text.toList)]
    exact divides.symm
  have cut : ((division.parts.written).takeWhile (· != '=')).takeWhile (· != '[') =
      division.name := by
    unfold Directive.Parts.written
    rw [Directive.Division.parts, List.takeWhile_append_of_pos unpaid,
      List.takeWhile_append_of_pos unopened]
    cases division.option with
    | none => cases division.payload <;> simp
    | some option => simp
  simp only [nameIn, trimmed, cut]

end Registry

/-- Whether no blanks stand beside the colons that end the vocabulary and the feature. -/
def Directive.Division.IsTight (division : Directive.Division) : Prop :=
  Text.trimChars division.vocabulary = division.vocabulary ∧
    Text.trimChars division.feature = division.feature

instance (division : Directive.Division) : Decidable division.IsTight :=
  inferInstanceAs (Decidable (_ ∧ _))

private theorem Directive.Division.toList_markerName (division : Directive.Division)
    (text : String) :
    (division.directive text).markerName.toList =
      Text.trimChars division.vocabulary ++ ':' :: Text.trimChars division.feature := by
  simp [markerName, directive, Feature.name_ofName]

namespace Registry

/-- Of the names under which a directive is looked up, only that of its marker can belong to a
built-in marker, and only if it is written without blanks in between. -/
theorem eq_markerName_of_mem_builtIn {vocabulary : String} {definition : Marker}
    {division : Directive.Division} (text : String) (listed : definition ∈ builtIn vocabulary)
    (obeys : division.Obeys) (own : Text.trimChars division.vocabulary = vocabulary.toList)
    (leading : definition.name ∈ leadingNames (String.ofList (Text.trimChars division.name))) :
    division.IsTight ∧ definition.name = (division.directive text).markerName := by
  rcases name_of_mem_builtIn listed with ⟨feature, named, undivided, trimmed⟩
  have written : definition.name.toList = vocabulary.toList ++ ':' :: feature.name.toList := by
    simp [named]
  have begins : ∃ third, Text.trimChars division.name =
      vocabulary.toList ++ ':' :: (feature.name.toList ++ Directive.led ':' third) := by
    rcases mem_leadingNames_iff.mp leading with equal | ⟨rest, equal⟩
    · exact ⟨none, by simpa [equal] using written⟩
    · exact ⟨some rest, by simpa [written] using equal⟩
  rcases begins with ⟨third, begins⟩
  have absent : ':' ∉ vocabulary.toList := own ▸ fun member =>
    obeys.vocabulary.1 (Text.mem_of_mem_trimChars member)
  rcases Text.append_separator_inj obeys.vocabulary.1 absent (obeys.trimmed.symm.trans begins) with
    ⟨sameVocabulary, sameRest⟩
  have sameFeature : division.feature = feature.name.toList :=
    (Directive.Division.led_append_inj obeys.feature.1 undivided sameRest).1
  have tight : division.IsTight :=
    ⟨own.trans sameVocabulary.symm, by rw [sameFeature, trimmed]⟩
  refine ⟨tight, ?_⟩
  rw [← String.toList_inj, Directive.Division.toList_markerName, written, tight.1, tight.2,
    sameVocabulary, sameFeature]

private theorem eq_markerName_of_find? {vocabulary name : String} {registry : Registry}
    {target : Target} {definition : Marker} {division : Directive.Division} (text : String)
    (built : withBuiltIn vocabulary = .ok registry) (obeys : division.Obeys)
    (own : Text.trimChars division.vocabulary = vocabulary.toList)
    (leading : name ∈ leadingNames (String.ofList (Text.trimChars division.name)))
    (found : registry.find? name target = some definition) :
    division.IsTight ∧ name = (division.directive text).markerName := by
  rcases mem_of_find? found with ⟨known, rfl, _⟩
  have listed : definition ∈ builtIn vocabulary := by
    rcases mem_of_registerAll built known with listed | impossible
    · exact listed
    · exact absurd impossible List.not_mem_nil
  exact eq_markerName_of_mem_builtIn text listed obeys own leading

/-- A built-in marker whose payload may be absent tells whether a type is left out. -/
theorem name_of_isOptional {vocabulary : String} {definition : Marker}
    (listed : definition ∈ builtIn vocabulary) (isOptional : definition.shape.isOptional = true) :
    definition.name = vocabulary ++ ":" ++ Feature.skip.name := by
  simp only [builtIn, List.mem_cons, List.not_mem_nil, or_false] at listed
  rcases listed with rfl | rfl | rfl | rfl | rfl | rfl | rfl | rfl | rfl | rfl | rfl
  case inr.inr.inr.inr.inr.inr.inr.inr.inr.inr => rfl
  all_goals cases isOptional

/-- In whatever registry a directive is found under a built-in marker whose payload may be absent,
it tells whether its type is left out. -/
theorem feature_of_lookup? {text : String} {registry : Registry} {directive : Directive}
    {definition : Marker} {target : Target} (read : Directive.ofText text = .ok directive)
    (found : registry.lookup? directive.text target = some definition)
    (listed : definition ∈ builtIn directive.vocabulary)
    (isOptional : definition.shape.isOptional = true) : directive.feature = .skip := by
  rcases Directive.exists_division read with ⟨division, obeys, divides⟩
  cases (obeys.read divides).symm.trans read
  rcases List.exists_of_findSome?_eq_some found with ⟨name, leading, isFound⟩
  rcases mem_of_find? isFound with ⟨_, rfl, _⟩
  have dividesTrimmed : division.text = (Text.trim (Text.trim text)).toList := by
    rw [divides, Text.trim_trim]
  change definition.name ∈ leadingNames (nameIn (Text.trim text)) at leading
  rw [nameIn_eq obeys dividesTrimmed] at leading
  have named := (eq_markerName_of_mem_builtIn (Text.trim text) listed obeys
    (by simp [Directive.Division.directive]) leading).2
  rw [name_of_isOptional listed isOptional, Directive.markerName, String.append_right_inj,
    Directive.Division.directive, Feature.name_ofName] at named
  rw [Directive.Division.directive, ← named]
  rfl

/-- In the registry of the built-in markers of its vocabulary, a directive is found under the
name of its marker, unless it has blanks beside the colons that end the vocabulary and the
feature: then nothing is found. -/
theorem lookup?_builtIn {vocabulary text : String} {registry : Registry} {directive : Directive}
    (built : withBuiltIn vocabulary = .ok registry)
    (read : Directive.ofText text = .ok directive) (own : directive.vocabulary = vocabulary)
    (target : Target) :
    ∃ division : Directive.Division, division.Obeys ∧
      division.text = (Text.trim text).toList ∧
      registry.lookup? text target =
        if division.IsTight then registry.find? directive.markerName target else none := by
  rcases Directive.exists_division read with ⟨division, obeys, divides⟩
  refine ⟨division, obeys, divides, ?_⟩
  cases (obeys.read divides).symm.trans read
  have isOwn : Text.trimChars division.vocabulary = vocabulary.toList := by
    simp [← own, Directive.Division.directive]
  unfold lookup?
  rw [nameIn_eq obeys divides]
  split
  · next tight =>
      apply findSome?_eq_of_only
      · rw [mem_leadingNames_iff, ← String.toList_inj, Directive.Division.toList_markerName,
          tight.1, tight.2, String.toList_ofList, obeys.trimmed]
        cases division.arguments with
        | none => exact .inl (by simp)
        | some arguments => exact .inr ⟨arguments, by simp⟩
      · intro name leading different
        apply Option.eq_none_iff_forall_not_mem.mpr
        intro definition found
        exact different (eq_markerName_of_find? text built obeys isOwn leading found).2
  · next loose =>
      apply List.findSome?_eq_none_iff.mpr
      intro name leading
      apply Option.eq_none_iff_forall_not_mem.mpr
      intro definition found
      exact loose (eq_markerName_of_find? text built obeys isOwn leading found).1

/-! ## A directive with a blank behind a colon -/

def shopRegistry : Registry := (withBuiltIn "shop").toOption.getD .empty

theorem withBuiltIn_shop : withBuiltIn "shop" = .ok shopRegistry :=
  eq_ok_of_toOption (by decide +kernel)

def tightText : String := " +shop:ops:CR [wait(5m)]=/items "

def tightDirective : Directive :=
  ⟨"+shop:ops:CR [wait(5m)]=/items", "shop", .operations, some "CR", some ⟨"wait", "5m"⟩,
    some "/items"⟩

private theorem ofText_tight : Directive.ofText tightText = .ok tightDirective :=
  eq_ok_of_toOption (by decide +kernel)

theorem lookup?_builtIn_shop :
    withBuiltIn "shop" = .ok shopRegistry ∧ Directive.ofText tightText = .ok tightDirective ∧
      tightDirective.vocabulary = "shop" ∧
      ∃ division : Directive.Division, division.Obeys ∧
        division.text = (Text.trim tightText).toList ∧
        shopRegistry.lookup? tightText .type =
          if division.IsTight then shopRegistry.find? tightDirective.markerName .type else none :=
  ⟨withBuiltIn_shop, ofText_tight, rfl, lookup?_builtIn withBuiltIn_shop ofText_tight rfl .type⟩

def looseText : String := "+shop: ops:R=/items"

def looseDirective : Directive :=
  ⟨looseText, "shop", .operations, some "R", none, some "/items"⟩

/-- The marker of a directive is registered, and the directive is not found. -/
theorem lookup?_loose :
    withBuiltIn "shop" = .ok shopRegistry ∧ Directive.ofText looseText = .ok looseDirective ∧
      looseDirective.vocabulary = "shop" ∧
      (shopRegistry.find? looseDirective.markerName .type).isSome = true ∧
      shopRegistry.lookup? looseText .type = none :=
  ⟨withBuiltIn_shop, eq_ok_of_toOption (by decide +kernel), rfl, by decide +kernel,
    by decide +kernel⟩

end Registry

end RestModel
