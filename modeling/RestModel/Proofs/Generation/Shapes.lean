import RestModel.Proofs.Build.Problems
import RestModel.Proofs.Generation.Endpoints
import RestModel.Proofs.Support.Without

/-! # What a check keeps can be built

A check looks at the shapes of answers, and so does building, later and on its own. Where
a check keeps a Read, a List or a method, all that building can still miss is a property
that gets a field. -/

namespace RestModel

namespace Checker

variable {checker : Checker} {descriptor : Descriptor} {support : Support}

/-- Every operation of a support is bound to a route whose answers suit it. -/
theorem check_suits (checked : checker.check descriptor = .ok support) :
    ∀ bound ∈ support.routes, checker.Suits bound.2 bound.1 := by
  intro bound member
  rcases check_routesBind checked bound member with ⟨set, declared, binds⟩
  rcases check_supports_iff declared checked with ⟨supports, routed, _⟩
  have supported : bound.1 ∈ support.operations := routed ▸ List.mem_map_of_mem member
  rcases ((supports bound.1).mp supported).2.1 with ⟨route, bindsToo, suits⟩
  exact binds.unique bindsToo ▸ suits

/-- The answers to a method that passes its check have a shape. -/
theorem shape_of_checkExtraMethod {method : ExtraMethod} {found : PartSchema}
    (passed : checker.checkExtraMethod method = .ok ())
    (declares : checker.Declares ⟨method.verb, method.path⟩ .response found) :
    found.schema.shape ≠ .ambiguousObject ∧ found.schema.shape.hasAmbiguousItems = false := by
  unfold checkExtraMethod at passed
  rw [schema_eq_ok_some_iff.mpr declares] at passed
  dsimp only at passed
  split at passed
  · contradiction
  · next shape notAmbiguous =>
      split at passed
      · contradiction
      · next items => exact ⟨notAmbiguous, by simpa using items⟩

/-! ## Types of answers -/

section Answers

open Build

variable {builder : Builder} {route : Route}

theorem Suits.read_builds (same : builder.document = checker.document)
    (suits : checker.Suits route .read) (name : String) :
    BuildsUnlessEmpty (builder.operation name route.verb route.path .response) name := by
  rcases suits with ⟨found, declares, isObject⟩
  unfold Declares at declares
  rw [← same] at declares
  exact builder.operation_buildsUnlessEmpty declares (by simp [isObject])
    (by simp [isObject, Shape.hasAmbiguousItems]) name

private theorem Suits.list_builds (same : builder.document = checker.document)
    (suits : checker.Suits route .list) (name : String) :
    BuildsUnlessEmpty (builder.operation name route.verb route.path .unwrappedResponse) name := by
  rcases suits with ⟨found, declares, _, shape⟩
  unfold Declares at declares
  rw [← same] at declares
  have rows : found.schema.shape ≠ .ambiguousObject ∧
      found.schema.shape.hasAmbiguousItems = false := by
    rcases shape with isObject | ⟨isPrimitive, _⟩
    · simp [isObject, Shape.hasAmbiguousItems]
    · simp [isPrimitive, Shape.hasAmbiguousItems]
  exact builder.operation_buildsUnlessEmpty declares rows.1 rows.2 name

/-- The types of answers that a check keeps are built, whatever was built before, unless
they have no fields; and nothing within them fails for another reason. -/
theorem checked_answers_build (checked : checker.check descriptor = .ok support)
    (aliasing : Bool) :
    let builder : Builder := ⟨checker.document, aliasing⟩
    (support.supports .read = true → ∃ route, support.route? .read = some route ∧ ∀ name,
      BuildsUnlessEmpty (builder.operation name route.verb route.path .response) name) ∧
    (support.supports .list = true → ∃ route, support.route? .list = some route ∧ ∀ name,
      BuildsUnlessEmpty (builder.operation name route.verb route.path .unwrappedResponse) name) ∧
    (∀ method ∈ support.extraMethods, ∀ found name,
      checker.Declares ⟨method.verb, method.path⟩ .response found →
      BuildsUnlessEmpty (builder.operation name method.verb method.path .response) name) ∧
    builder.BuildsWithin := by
  intro builder
  have bound : ∀ operation, support.supports operation = true →
      ∃ route, support.route? operation = some route ∧ checker.Suits route operation := by
    intro operation supports
    have supported := Support.supports_eq_true_iff.mp supports
    have isSome := (check_accounts checked).1.route?_isSome_iff.mpr supported
    rcases Option.isSome_iff_exists.mp isSome with ⟨route, isRoute⟩
    exact ⟨route, isRoute, check_suits checked _ (Generator.mem_routes_of_route? isRoute)⟩
  refine ⟨?_, ?_, ?_, builder.buildsWithin⟩
  · intro supports
    rcases bound .read supports with ⟨route, isRoute, suits⟩
    exact ⟨route, isRoute, suits.read_builds rfl⟩
  · intro supports
    rcases bound .list supports with ⟨route, isRoute, suits⟩
    exact ⟨route, isRoute, suits.list_builds rfl⟩
  · intro method member found name declares
    rcases shape_of_checkExtraMethod (check_passed checked method member) declares with
      ⟨notAmbiguous, items⟩
    exact builder.operation_buildsUnlessEmpty declares notAmbiguous items name

end Answers

end Checker

namespace Generator

/-- Orders have a state about which nothing is known. -/
def shapelessOrders : Generator :=
  ⟨orderService (writtenObject [("state", .object [("type", .string "object")])]), .standard⟩

/-- The check keeps everything, and then an order has no fields. -/
theorem checked_answers_build_orders :
    ∃ support, shapelessOrders.checker.check orderDescriptor = .ok support ∧
      support.extraMethods = orderDescriptor.extraMethods ∧
      (∃ after, shapelessOrders.builder.operation "Order" .get "/orders/\x7bid\x7d" .response
        .empty = .error (.emptyFields "Order") after) ∧
      Build.BuildsUnlessEmpty
        (shapelessOrders.builder.operation "Order" .get "/orders" .unwrappedResponse) "Order" ∧
      shapelessOrders.builder.BuildsWithin := by
  have kept : (shapelessOrders.checker.check orderDescriptor).toOption.map (fun support =>
      (support.operations, support.route? .read, support.route? .list, support.extraMethods)) =
      some ([.list, .read, .update], some ⟨.get, "/orders/\x7bid\x7d"⟩, some ⟨.get, "/orders"⟩,
        orderDescriptor.extraMethods) := by decide +kernel
  rcases exists_ok_of_view kept with ⟨support, checked, seen⟩
  simp only [Prod.mk.injEq] at seen
  rcases seen with ⟨operations, read, list, methods⟩
  rcases Checker.checked_answers_build checked true with ⟨reads, lists, _, within⟩
  rcases reads (by simp [Support.supports, operations]) with ⟨readRoute, isRead, builds⟩
  rcases lists (by simp [Support.supports, operations]) with ⟨listRoute, isList, rows⟩
  cases Option.some.inj (read.symm.trans isRead)
  cases Option.some.inj (list.symm.trans isList)
  refine ⟨support, checked, methods, ?_, rows "Order", within⟩
  have reading : Build.BuildsUnlessEmpty (shapelessOrders.builder.operation "Order" .get
    "/orders/\x7bid\x7d" .response) "Order" := builds "Order"
  have ensures := reading .empty
  cases run : shapelessOrders.builder.operation "Order" .get "/orders/\x7bid\x7d" .response
      .empty with
  | ok value after =>
      have fails : (shapelessOrders.builder.operation "Order" .get "/orders/\x7bid\x7d"
          .response).run' .empty = none := by decide +kernel
      delta EStateM.run' EStateM.run at fails
      rw [run] at fails
      contradiction
  | error problem after =>
      unfold Build.Ensures at ensures
      rw [run] at ensures
      exact ⟨after, congrArg (EStateM.Result.error · after) ensures⟩

end Generator

end RestModel
