import RestModel.Proofs.Support.Accounts
import RestModel.Support.Check

/-! # Methods that are left out

Of the declared methods some are kept, in order, and about each of the others
there is an issue. -/

namespace RestModel

/-- Of a list of items some are kept, in order, and the others are noted. -/
inductive Thins (noted : α → Prop) : List α → List α → Prop where
  | nil : Thins noted [] []
  | keep {item : α} {items kept : List α} : Thins noted items kept →
      Thins noted (item :: items) (item :: kept)
  | drop {item : α} {items kept : List α} : noted item → Thins noted items kept →
      Thins noted (item :: items) kept

namespace Thins

variable {noted : α → Prop} {items kept : List α}

theorem sublist (thins : Thins noted items kept) : kept.Sublist items := by
  induction thins with
  | nil => exact .slnil
  | keep _ induction => exact .cons_cons _ induction
  | drop _ _ induction => exact .cons _ induction

theorem mono {other : α → Prop} (thins : Thins noted items kept)
    (implies : ∀ item, noted item → other item) : Thins other items kept := by
  induction thins with
  | nil => exact .nil
  | keep _ induction => exact .keep induction
  | drop isNoted _ induction => exact .drop (implies _ isNoted) induction

theorem trans {middle : List α} (first : Thins noted items middle)
    (second : Thins noted middle kept) : Thins noted items kept := by
  induction first generalizing kept with
  | nil => exact second
  | keep _ induction =>
      cases second with
      | keep rest => exact .keep (induction rest)
      | drop isNoted rest => exact .drop isNoted (induction rest)
  | drop isNoted _ induction => exact .drop isNoted (induction second)

/-- An item that is kept less often than it is listed is noted. -/
theorem noted_of_count_lt [DecidableEq α] (thins : Thins noted items kept) {item : α}
    (missing : kept.count item < items.count item) : noted item := by
  induction thins with
  | nil => exact absurd missing (Nat.lt_irrefl _)
  | keep _ induction =>
      rw [List.count_cons, List.count_cons] at missing
      exact induction (Nat.lt_of_add_lt_add_right missing)
  | @drop other _ _ isNoted _ induction =>
      by_cases equal : other = item
      · exact equal ▸ isNoted
      · rw [List.count_cons_of_ne equal] at missing
        exact induction missing

end Thins

/-- Issues that are all about methods. -/
def Issue.AreAboutMethods (issues : List Issue) : Prop :=
  ∀ issue ∈ issues, ∃ method : ExtraMethod, issue.subject = method.route

theorem Issue.AreAboutMethods.ne_operation {issues : List Issue} (about : AreAboutMethods issues)
    {issue : Issue} (member : issue ∈ issues) (operation : Operation) :
    issue.subject ≠ operation.name := by
  rcases about issue member with ⟨method, isRoute⟩
  rw [isRoute]
  exact operation.route_ne_name method.verb method.path

/-- A method that one of several issues is about. -/
def ExtraMethod.IsNotedIn (issues : List Issue) (method : ExtraMethod) : Prop :=
  ∃ issue ∈ issues, issue.subject = method.route

theorem ExtraMethod.IsNotedIn.of_subset {issues others : List Issue} {method : ExtraMethod}
    (noted : method.IsNotedIn issues) (subset : issues ⊆ others) : method.IsNotedIn others := by
  rcases noted with ⟨issue, member, about⟩
  exact ⟨issue, subset member, about⟩

/-- Checking methods keeps some of them, in order, notes the others, and changes nothing
else. -/
theorem Checker.addExtraMethods_eq (checker : Checker) (resource : String)
    (methods : List ExtraMethod) (support : Support) :
    ∃ kept issues, methods.foldl (checker.addExtraMethod resource) support =
        { support with
          extraMethods := support.extraMethods ++ kept
          issues := support.issues ++ issues } ∧
      Thins (ExtraMethod.IsNotedIn issues) methods kept ∧ Issue.AreAboutMethods issues := by
  induction methods generalizing support with
  | nil => exact ⟨[], [], by simp, .nil, nofun⟩
  | cons method rest induction =>
      rw [List.foldl_cons]
      cases checked : checker.checkExtraMethod method with
      | ok passed =>
          have added : checker.addExtraMethod resource support method =
              { support with extraMethods := support.extraMethods ++ [method] } := by
            simp [addExtraMethod, checked]
          rcases induction { support with extraMethods := support.extraMethods ++ [method] } with
            ⟨kept, issues, equal, thins, about⟩
          refine ⟨method :: kept, issues, ?_, .keep thins, about⟩
          rw [added, equal]
          simp
      | error rejection =>
          let issue : Issue := ⟨resource, method.route, rejection.reason, rejection.message⟩
          have added : checker.addExtraMethod resource support method = support.note issue := by
            simp [addExtraMethod, checked, issue]
          rcases induction (support.note issue) with ⟨kept, issues, equal, thins, about⟩
          refine ⟨kept, issue :: issues, ?_, ?_, ?_⟩
          · rw [added, equal]
            simp [Support.note]
          · apply Thins.drop ⟨issue, List.mem_cons_self, rfl⟩
            exact thins.mono fun _ noted => noted.of_subset (List.subset_cons_self _ _)
          · intro other member
            rcases List.mem_cons.mp member with rfl | member
            · exact ⟨method, rfl⟩
            · exact about other member

end RestModel
