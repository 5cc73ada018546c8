import RestModel.Resource.Declared
import RestModel.Resource.Wiring

/-! # The descriptors of all sources -/

namespace RestModel

structure Inventory where
  descriptors : List (String × Descriptor)
  lints : List Lint
  deriving Repr, DecidableEq

/-- The descriptors that facts amount to. The operation sets that markers of
single purposes imply count as declared ones, so they are settled before the
wiring. -/
def Inventory.ofFacts (vocabulary : Vocabulary) (policy : OperationSetPolicy) (facts : Facts) :
    Except Failure Inventory := do
  let declared ← Declared.ofDirectives vocabulary policy facts.directives
  let settled := declared.descriptors.map fun (name, descriptor) =>
    (name, descriptor.withLegacySet vocabulary.name)
  let wired := wiredDescriptors vocabulary facts.wiring
  return {
    descriptors := mergeWiring settled (wired.value.map (·.2)) declared.skipped
    lints := declared.lints ++ wired.lints }

end RestModel
