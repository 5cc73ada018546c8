import RestModel.Generation.Basic
import RestModel.Proofs.Resource.Types
import RestModel.Resource.Inventory

/-! # The order of directives

Sources may be read in any order: the directives of one type are folded on their own, and
so are those of one file. Only findings are listed in the order in which directives are
read. -/

namespace RestModel

/-- Two lists have the same directives of each type, in one order, and the same directives
of each file. Directives of fields may differ. -/
structure DirectiveFact.AgreeByPlace (facts others : List DirectiveFact) : Prop where
  types : ∀ name, facts.filter (fun fact => fact.target = .type ∧ fact.declaration = name) =
    others.filter fun fact => fact.target = .type ∧ fact.declaration = name
  packages : ∀ origin, facts.filter (fun fact => fact.target = .package ∧ fact.origin = origin) =
    others.filter fun fact => fact.target = .package ∧ fact.origin = origin

namespace Declared

open Keyed

variable {facts others : List DirectiveFact}

private theorem basePaths_eq (vocabulary : Vocabulary)
    (same : ∀ origin, facts.filter (·.origin = origin) = others.filter (·.origin = origin)) :
    basePaths vocabulary facts = basePaths vocabulary others := by
  refine StoresOwn.foldl_eq ⟨?_, ?_, ?_⟩ same
  · intro paths fact ordered
    split
    · exact ordered_insert _ _ ordered
    · exact ordered
  · intro origin fact paths different
    split
    · exact get?_insert_of_ne different.symm _ _
    · rfl
  · intro paths otherPaths fact sameValue
    split
    · rw [get?_insert_self, get?_insert_self]
    · exact sameValue

private theorem byType_eq
    (same : ∀ name, facts.filter (·.declaration = name) = others.filter (·.declaration = name)) :
    byType facts = byType others :=
  storesOwn_byType.foldl_eq same

private theorem filter_place {of : DirectiveFact → String} {target : Target}
    (same : ∀ place, facts.filter (fun fact => fact.target = target ∧ of fact = place) =
      others.filter fun fact => fact.target = target ∧ of fact = place) (place : String) :
    (facts.filter (·.target = target)).filter (of · = place) =
      (others.filter (·.target = target)).filter (of · = place) := by
  have combined : ∀ list : List DirectiveFact,
      (list.filter (·.target = target)).filter (of · = place) =
        list.filter fun fact => fact.target = target ∧ of fact = place := by
    intro list
    rw [List.filter_filter]
    apply List.filter_congr
    intro fact _
    rw [Bool.decide_and, Bool.and_comm]
  rw [combined, combined, same]

/-- Directives that agree by place come to the same, but for findings. -/
theorem ofDirectives_eq (agree : DirectiveFact.AgreeByPlace facts others)
    (vocabulary : Vocabulary) (policy : OperationSetPolicy) :
    (ofDirectives vocabulary policy facts).map
        (fun declared => (declared.descriptors, declared.skipped)) =
      (ofDirectives vocabulary policy others).map
        fun declared => (declared.descriptors, declared.skipped) := by
  have paths := basePaths_eq vocabulary (filter_place agree.packages)
  have types := byType_eq (filter_place agree.types)
  unfold ofDirectives
  dsimp only
  rw [paths, types]
  cases typesOf vocabulary policy _ _ <;> rfl

end Declared

namespace Inventory

variable {facts others : List DirectiveFact}

/-- The descriptors depend on directives only in what these declare and leave out. -/
theorem map_descriptors_ofFacts (vocabulary : Vocabulary) (policy : OperationSetPolicy)
    (facts : Facts) :
    (ofFacts vocabulary policy facts).map (·.descriptors) =
      ((Declared.ofDirectives vocabulary policy facts.directives).map
          fun declared => (declared.descriptors, declared.skipped)).map
        fun (descriptors, skipped) =>
          mergeWiring
            (descriptors.map fun (name, descriptor) =>
              (name, descriptor.withLegacySet vocabulary.name))
            ((wiredDescriptors vocabulary facts.wiring).value.map (·.2)) skipped := by
  unfold ofFacts
  cases Declared.ofDirectives vocabulary policy facts.directives <;> rfl

/-- The order of directives makes no difference to the descriptors, nor to the model that is
generated from them, as long as the directives of each type keep theirs and so do those of
each file. -/
theorem ofFacts_order (agree : DirectiveFact.AgreeByPlace facts others)
    (vocabulary : Vocabulary) (policy : OperationSetPolicy) (wiring : List WiringFact) :
    (ofFacts vocabulary policy ⟨facts, wiring⟩).map (·.descriptors) =
        (ofFacts vocabulary policy ⟨others, wiring⟩).map (·.descriptors) ∧
      ∀ generator : Generator,
        (do generator.generate (← ofFacts vocabulary policy ⟨facts, wiring⟩).descriptors) =
          (do generator.generate (← ofFacts vocabulary policy ⟨others, wiring⟩).descriptors) := by
  have declared := Declared.ofDirectives_eq agree vocabulary policy
  have descriptors : (ofFacts vocabulary policy ⟨facts, wiring⟩).map (·.descriptors) =
      (ofFacts vocabulary policy ⟨others, wiring⟩).map (·.descriptors) := by
    rw [map_descriptors_ofFacts, map_descriptors_ofFacts, declared]
  refine ⟨descriptors, ?_⟩
  intro generator
  have generated : ∀ collected : Except Failure Inventory,
      (do generator.generate (← collected).descriptors) =
        collected.map (·.descriptors) >>= generator.generate := by
    intro collected
    cases collected <;> rfl
  rw [generated, generated, descriptors]

/-! ## Two files in a shop -/

/-- Markers of base paths and of operation sets. -/
def shopVocabulary : Vocabulary :=
  ⟨"shop", ⟨[⟨"shop:basePath", .package, .string, "prefix of all paths"⟩,
    ⟨"shop:ops", .type, .string, "operations and their path"⟩]⟩, .standard⟩

/-- Items are moved twice; the order is declared in a file of its own. -/
def shopDirectives : List DirectiveFact :=
  [⟨"items", .package, "+shop:basePath=/old", "items"⟩,
    ⟨"items", .package, "+shop:basePath=/new", "items"⟩,
    ⟨"Item", .type, "+shop:ops:R=/items", "items"⟩,
    ⟨"Order", .type, "+shop:ops:R=/orders", "orders"⟩,
    ⟨"Order", .type, "+shop:ops:LR=/orders", "orders"⟩]

/-- The same directives, and one of a field between them. -/
def scatteredDirectives : List DirectiveFact :=
  [⟨"Order", .type, "+shop:ops:R=/orders", "orders"⟩,
    ⟨"Item", .type, "+shop:ops:R=/items", "items"⟩,
    ⟨"items", .package, "+shop:basePath=/old", "items"⟩,
    ⟨"Item.name", .field, "+shop:skip", "items"⟩,
    ⟨"Order", .type, "+shop:ops:LR=/orders", "orders"⟩,
    ⟨"items", .package, "+shop:basePath=/new", "items"⟩]

private theorem agreeByPlace_shop :
    DirectiveFact.AgreeByPlace shopDirectives scatteredDirectives := by
  constructor
  · intro name
    by_cases isOrder : "Order" = name
    · subst isOrder
      decide
    · by_cases isItem : "Item" = name
      · subst isItem
        decide
      · simp [shopDirectives, scatteredDirectives, isOrder, isItem]
  · intro origin
    by_cases isItems : "items" = origin
    · subst isItems
      decide
    · simp [shopDirectives, scatteredDirectives, isItems]

/-- The paths of the resources that facts amount to. -/
def pathsOf (collected : Except Failure Inventory) : Option (List (String × Option String)) :=
  collected.toOption.map fun inventory =>
    inventory.descriptors.map fun (name, descriptor) => (name, descriptor.operationSet.map (·.path))

/-- The last base path counts, and of two operation sets the first one, unless the second
one is rejected. -/
theorem ofFacts_order_shop :
    pathsOf (ofFacts shopVocabulary .firstWins ⟨shopDirectives, []⟩) =
        some [("Item", some "/new/items"), ("Order", some "/orders")] ∧
      (ofFacts shopVocabulary .firstWins ⟨shopDirectives, []⟩).map (·.descriptors) =
        (ofFacts shopVocabulary .firstWins ⟨scatteredDirectives, []⟩).map (·.descriptors) ∧
      pathsOf (ofFacts shopVocabulary .reject ⟨shopDirectives, []⟩) = none ∧
      (ofFacts shopVocabulary .reject ⟨shopDirectives, []⟩).map (·.descriptors) =
        (ofFacts shopVocabulary .reject ⟨scatteredDirectives, []⟩).map (·.descriptors) := by
  have collected : pathsOf (ofFacts shopVocabulary .firstWins ⟨shopDirectives, []⟩) =
      some [("Item", some "/new/items"), ("Order", some "/orders")] := by decide +kernel
  have failed : pathsOf (ofFacts shopVocabulary .reject ⟨shopDirectives, []⟩) = none := by
    decide +kernel
  have accepted := ofFacts_order agreeByPlace_shop shopVocabulary .firstWins []
  have rejected := ofFacts_order agreeByPlace_shop shopVocabulary .reject []
  exact ⟨collected, accepted.1, failed, rejected.1⟩

end Inventory

end RestModel
