import RestModel.Proofs.Resource.Types
import RestModel.Resource.Inventory

/-! # Resources one by one

A resource is what its own directives and its own handles come to: the merge of directives
and wiring, too, takes each name on its own. -/

namespace RestModel

open Keyed

/-! ## Handles -/

@[simp]
theorem Descriptor.name_absorb (descriptor other : Descriptor) :
    (descriptor.absorb other).name = descriptor.name :=
  name_addExtraMethods ..

@[simp]
theorem Descriptor.operationSet_absorb (descriptor other : Descriptor) :
    (descriptor.absorb other).operationSet =
      (descriptor.operationSet <|> other.operationSet) :=
  operationSet_addExtraMethods ..

@[simp]
theorem WiringFact.name_descriptor (vocabulary : Vocabulary) (fact : WiringFact) :
    (fact.descriptor vocabulary).name = fact.resource :=
  Descriptor.name_addExtraMethods ..

@[simp]
theorem WiringFact.operationSet_descriptor (vocabulary : Vocabulary) (fact : WiringFact) :
    (fact.descriptor vocabulary).operationSet = fact.operationSet? :=
  Descriptor.operationSet_addExtraMethods ..

private theorem storesOwn_addWired : StoresOwn Descriptor.name addWired where
  ordered handle ordered := by
    unfold addWired
    split <;> exact ordered_insert _ _ ordered
  other entries different := by
    unfold addWired
    split <;> exact get?_insert_of_ne different.symm _ _
  own handle sameValue := by
    unfold addWired
    rw [sameValue]
    split <;> rw [get?_insert_self, get?_insert_self]

private theorem operationSet_addWired (entries : List (String × Descriptor)) (handle : Descriptor) :
    (get? handle.name (addWired entries handle)).bind (·.operationSet) =
      ((get? handle.name entries).bind (·.operationSet) <|> handle.operationSet) := by
  unfold addWired
  cases get? handle.name entries with
  | none => simp [get?_insert_self]
  | some existing => simp [get?_insert_self]

/-- Entries are stored under the names of their descriptors. -/
def NamedByKeys (entries : List (String × Descriptor)) : Prop :=
  ∀ entry ∈ entries, entry.2.name = entry.1

private theorem namedByKeys_addWired {entries : List (String × Descriptor)}
    (named : NamedByKeys entries)
    (handle : Descriptor) : NamedByKeys (addWired entries handle) := by
  intro entry member
  unfold addWired at member
  split at member
  · next existing found =>
      rcases mem_insert member with rfl | member
      · exact (existing.name_absorb handle).trans (named _ (mem_of_get? found))
      · exact named entry member
  · rcases mem_insert member with rfl | member
    · rfl
    · exact named entry member

section WiredDescriptors

variable (vocabulary : Vocabulary) (facts : List WiringFact)

private theorem ordered_wiredDescriptors : Ordered (wiredDescriptors vocabulary facts).value :=
  storesOwn_addWired.ordered_foldl _ .nil

private theorem namedByKeys_wiredDescriptors :
    NamedByKeys (wiredDescriptors vocabulary facts).value := by
  have folded : ∀ (handles : List Descriptor) (entries : List (String × Descriptor)),
      NamedByKeys entries → NamedByKeys (handles.foldl addWired entries) := by
    intro handles
    induction handles with
    | nil => exact fun _ named => named
    | cons handle rest induction =>
        exact fun entries named => induction _ (namedByKeys_addWired named handle)
  exact folded _ [] (by simp [NamedByKeys])

/-- Only the handles of a resource matter for what is known of it. -/
theorem get?_wiredDescriptors (name : String) :
    get? name (wiredDescriptors vocabulary facts).value =
      get? name (wiredDescriptors vocabulary (facts.filter (·.resource = name))).value := by
  have own : (facts.map (·.descriptor vocabulary)).filter (·.name = name) =
      (facts.filter (·.resource = name)).map (·.descriptor vocabulary) := by
    simp [List.filter_map, Function.comp_def]
  unfold wiredDescriptors
  dsimp only
  rw [storesOwn_addWired.get?_foldl name _ rfl, own]

/-- The first handle with a base path gives the operation set. -/
theorem operationSet_wiredDescriptors (name : String) :
    (get? name (wiredDescriptors vocabulary facts).value).bind (·.operationSet) =
      (facts.filter (·.resource = name)).findSome? (·.operationSet?) := by
  have folded : ∀ (own : List WiringFact) (entries : List (String × Descriptor)),
      (∀ fact ∈ own, fact.resource = name) →
      (get? name ((own.map (·.descriptor vocabulary)).foldl addWired entries)).bind
          (·.operationSet) =
        ((get? name entries).bind (·.operationSet) <|> own.findSome? (·.operationSet?)) := by
    intro own
    induction own with
    | nil => simp
    | cons fact rest induction =>
        intro entries named
        have step := operationSet_addWired entries (fact.descriptor vocabulary)
        rw [WiringFact.name_descriptor, WiringFact.operationSet_descriptor,
          named fact (.head _)] at step
        rw [List.map_cons, List.foldl_cons,
          induction _ fun fact member => named fact (.tail _ member), step, List.findSome?_cons]
        cases (get? name entries).bind (·.operationSet) <;> cases fact.operationSet? <;> rfl
  rw [get?_wiredDescriptors]
  exact folded _ [] (by simp)

end WiredDescriptors

/-! ## The merge -/

theorem storesOwn_mergeOne (skipped : List String) :
    StoresOwn Descriptor.name (mergeOne skipped) where
  ordered handle ordered := by
    unfold mergeOne
    split
    · exact ordered
    · split
      · exact ordered_insert _ _ ordered
      · split
        · exact ordered_insert _ _ ordered
        · exact ordered
  other entries different := by
    unfold mergeOne
    split
    · rfl
    · split
      · exact get?_insert_of_ne different.symm _ _
      · split
        · exact get?_insert_of_ne different.symm _ _
        · rfl
  own handle sameValue := by
    unfold mergeOne
    rw [sameValue]
    split
    · exact sameValue
    · split
      · rw [get?_insert_self, get?_insert_self]
      · split
        · rw [get?_insert_self, get?_insert_self]
        · exact sameValue

/-- What the merge makes of the directives and the handles of one resource. -/
def merged? (skipped : Bool) (declared handle : Option Descriptor) : Option Descriptor :=
  match handle with
  | none => declared
  | some handle =>
      if skipped then
        declared
      else
        match declared with
        | some existing => some (existing.absorb handle)
        | none => if handle.operationSet.isSome then some handle else none

private theorem get?_mergeOne (skipped : List String) (declared : List (String × Descriptor))
    (handle : Descriptor) :
    get? handle.name (mergeOne skipped declared handle) =
      merged? (skipped.contains handle.name) (get? handle.name declared) (some handle) := by
  unfold mergeOne merged?
  cases found : get? handle.name declared with
  | some existing =>
      dsimp only
      split
      · exact found
      · exact get?_insert_self ..
  | none =>
      dsimp only
      split
      · exact found
      · split
        · exact get?_insert_self ..
        · exact found

private theorem get?_mergeWiring {wired : List (String × Descriptor)} (ordered : Ordered wired)
    (named : NamedByKeys wired) (declared : List (String × Descriptor)) (skipped : List String)
    (name : String) :
    get? name (mergeWiring declared (values wired) skipped) =
      merged? (skipped.contains name) (get? name declared) (get? name wired) := by
  -- There is one handle of each name at most, so the merge is one step for each name.
  have own : (values wired).filter (·.name = name) = (get? name wired).toList := by
    rw [← ordered.values_filter, values, List.filter_map, values]
    congr 1
    apply List.filter_congr
    intro entry member
    simp [named entry member]
  unfold mergeWiring
  rw [(storesOwn_mergeOne skipped).get?_foldl name _ rfl, own]
  cases found : get? name wired with
  | none => rfl
  | some handle =>
      have isNamed : handle.name = name := named _ (mem_of_get? found)
      subst isNamed
      exact get?_mergeOne skipped declared handle

/-! ## All resources -/

namespace Inventory

variable {vocabulary : Vocabulary} {policy : OperationSetPolicy} {facts : Facts}
  {inventory : Inventory}

theorem ordered_ofFacts (collected : ofFacts vocabulary policy facts = .ok inventory) :
    Ordered inventory.descriptors := by
  rcases bind_eq_ok_iff.mp collected with ⟨declared, isDeclared, collected⟩
  cases collected
  have settled := (Declared.isReadOff_ofDirectives isDeclared).ordered.map_values
    (·.withLegacySet vocabulary.name)
  exact (storesOwn_mergeOne declared.skipped).ordered_foldl _ settled

/-- A resource is what its own directives and handles come to. -/
theorem get?_ofFacts (collected : ofFacts vocabulary policy facts = .ok inventory)
    (name : String) :
    ∃ reading, Declared.typeOf vocabulary policy facts.directives name = .ok reading ∧
      get? name inventory.descriptors =
        merged? reading.value.skipped
          (((Declared.descriptor? reading.value).map (·.2)).map
            (·.withLegacySet vocabulary.name))
          (get? name (wiredDescriptors vocabulary facts.wiring).value) := by
  rcases bind_eq_ok_iff.mp collected with ⟨declared, isDeclared, collected⟩
  cases collected
  rcases (Declared.isReadOff_ofDirectives isDeclared).type name with
    ⟨reading, isRead, described, skipped⟩
  refine ⟨reading, isRead, ?_⟩
  have settled : get? name (declared.descriptors.map fun entry =>
      (entry.1, entry.2.withLegacySet vocabulary.name)) =
        ((Declared.descriptor? reading.value).map (·.2)).map
          (·.withLegacySet vocabulary.name) := by
    rw [← described]
    exact get?_map_values _ _ _
  have left : declared.skipped.contains name = reading.value.skipped := by
    rw [Bool.eq_iff_iff, ← skipped, List.contains_iff_mem]
  rw [← settled, ← left]
  exact get?_mergeWiring (ordered_wiredDescriptors vocabulary facts.wiring)
    (namedByKeys_wiredDescriptors vocabulary facts.wiring) _ _ _

/-- A resource that is listed is not left out, so it merges its directives, if they make it a
resource, and its handles. -/
theorem exists_of_listed (collected : ofFacts vocabulary policy facts = .ok inventory)
    {name : String} {descriptor : Descriptor}
    (listed : (name, descriptor) ∈ inventory.descriptors) :
    ∃ reading, Declared.typeOf vocabulary policy facts.directives name = .ok reading ∧
      merged? false
        (if reading.value.recognised then
          some (reading.value.descriptor.withLegacySet vocabulary.name)
        else
          none)
        (get? name (wiredDescriptors vocabulary facts.wiring).value) = some descriptor := by
  rcases get?_ofFacts collected name with ⟨reading, isRead, found⟩
  rw [(ordered_ofFacts collected).get?_of_mem listed, Declared.descriptor?] at found
  refine ⟨reading, isRead, ?_⟩
  cases left : reading.value.skipped with
  | true =>
      rw [left, Bool.not_true, Bool.and_false] at found
      cases handle : get? name (wiredDescriptors vocabulary facts.wiring).value <;>
        simp [handle, merged?] at found
  | false =>
      rw [left] at found
      rw [found]
      cases reading.value.recognised <;> rfl

end Inventory

end RestModel
