import RestModel.Proofs.Naming

/-! # Names taken one after another

A name that is taken already is replaced by the first numbered one that is free. Counting up to it
ends, as only finitely many names are taken and no two numbers make one name. Each choice takes
exactly the chosen name, so no two of a row of choices are the same, whatever the names to choose
from look like. -/

namespace RestModel.Naming

/-- Counting up from a number ends with the first name that is free. -/
inductive CountsTo (taken : List String) (name : String) : Nat → String → Prop
  | stop {number : Nat} (free : numbered name number ∉ taken) :
      CountsTo taken name number (numbered name number)
  | next {number : Nat} {chosen : String} (isTaken : numbered name number ∈ taken)
      (counts : CountsTo taken name (number + 1) chosen) : CountsTo taken name number chosen

/-- A name is kept if it is free. Otherwise numbers are tried, from one on. -/
inductive Chooses (taken : List String) (name : String) : String → Prop
  | kept (free : name ∉ taken) : Chooses taken name name
  | counted {chosen : String} (isTaken : name ∈ taken) (counts : CountsTo taken name 1 chosen) :
      Chooses taken name chosen

/-- Of the numbers from a first one on, the least that makes a name free makes this one. -/
def IsLeastNumbered (taken : List String) (name : String) (first : Nat) (chosen : String) : Prop :=
  ∃ number, first ≤ number ∧ chosen = numbered name number ∧
    ∀ earlier, first ≤ earlier → earlier < number → numbered name earlier ∈ taken

/-- What choosing for a name comes to. -/
structure TakesName (taken : List String) (name chosen : String) (after : List String) :
    Prop where
  /-- Choosing ends, and with nothing else. -/
  ends (other : String) : Chooses taken name other ↔ other = chosen
  free : chosen ∉ taken
  added : after.Perm (chosen :: taken)
  kept : name ∉ taken → chosen = name
  counted : name ∈ taken → IsLeastNumbered taken name 1 chosen

/-- What choosing for several names comes to, one after another. -/
inductive TakesNames : (taken names chosen after : List String) → Prop
  | nil (taken : List String) : TakesNames taken [] [] taken
  | cons {taken next rest others after : List String} {name chosen : String}
      (first : TakesName taken name chosen next) (later : TakesNames next rest others after) :
      TakesNames taken (name :: rest) (chosen :: others) after

variable {taken : List String} {name : String}

/-! ## Counting -/

theorem CountsTo.isLeastNumbered {first : Nat} {chosen : String}
    (counts : CountsTo taken name first chosen) : IsLeastNumbered taken name first chosen := by
  induction counts with
  | stop free => exact ⟨_, Nat.le_refl _, rfl, fun earlier _ _ => by omega⟩
  | @next first _ isTaken _ induction =>
      rcases induction with ⟨number, later, isChosen, areTaken⟩
      refine ⟨number, Nat.le_of_succ_le later, isChosen, fun earlier fromFirst before => ?_⟩
      rcases Nat.eq_or_lt_of_le fromFirst with rfl | after
      · exact isTaken
      · exact areTaken earlier after before

theorem CountsTo.unique {first : Nat} {chosen other : String}
    (counts : CountsTo taken name first chosen) (otherCounts : CountsTo taken name first other) :
    chosen = other := by
  induction counts with
  | stop free =>
      cases otherCounts with
      | stop => rfl
      | next isTaken => exact absurd isTaken free
  | next isTaken _ induction =>
      cases otherCounts with
      | stop free => exact absurd isTaken free
      | next _ otherCounts => exact induction otherCounts

theorem Chooses.unique {chosen other : String} (chooses : Chooses taken name chosen)
    (otherChooses : Chooses taken name other) : chosen = other := by
  cases chooses with
  | kept free =>
      cases otherChooses with
      | kept => rfl
      | counted isTaken => exact absurd isTaken free
  | counted isTaken counts =>
      cases otherChooses with
      | kept free => exact absurd isTaken free
      | counted _ otherCounts => exact counts.unique otherCounts

theorem Chooses.isLeastNumbered {chosen : String} (chooses : Chooses taken name chosen)
    (isTaken : name ∈ taken) : IsLeastNumbered taken name 1 chosen := by
  cases chooses with
  | kept free => exact absurd isTaken free
  | counted _ counts => exact counts.isLeastNumbered

/-- Counting goes on as long as names are taken. -/
theorem countsTo_add {first steps : Nat} (free : numbered name (first + steps) ∉ taken)
    (areTaken : ∀ step < steps, numbered name (first + step) ∈ taken) :
    CountsTo taken name first (numbered name (first + steps)) := by
  induction steps generalizing first with
  | zero => exact .stop free
  | succ steps induction =>
      have isTaken := areTaken 0 (Nat.succ_pos steps)
      rw [← Nat.succ_add_eq_add_succ] at free ⊢
      refine .next isTaken (induction free fun step before => ?_)
      rw [Nat.succ_add_eq_add_succ]
      exact areTaken (step + 1) (Nat.succ_lt_succ before)

/-- Whatever is taken, choosing ends. -/
theorem chooses_freshName (taken : List String) (name : String) :
    Chooses taken name (freshName taken name) := by
  rcases freshName_eq_candidate taken name with ⟨index, isChosen, free, areTaken⟩
  rw [isChosen]
  cases index with
  | zero => exact .kept free
  | succ index =>
      have candidate_eq (step : Nat) : candidate name (step + 1) = numbered name (1 + step) := by
        rw [Nat.add_comm 1 step, candidate]
      refine .counted (areTaken 0 (Nat.succ_pos index)) ?_
      rw [candidate_eq] at free ⊢
      refine countsTo_add free fun step before => ?_
      rw [← candidate_eq]
      exact areTaken (step + 1) (Nat.succ_lt_succ before)

/-! ## Taking names -/

theorem insertText_perm {text : String} {texts : List String} (fresh : text ∉ texts) :
    (insertText text texts).Perm (text :: texts) := by
  induction texts with
  | nil => exact .refl _
  | cons stored rest induction =>
      have different : text ≠ stored := fun same => fresh (same ▸ List.mem_cons_self)
      have freshInRest : text ∉ rest := fun member => fresh (List.mem_cons_of_mem _ member)
      rw [insertText, if_neg different]
      split
      · exact .refl _
      · exact ((induction freshInRest).cons stored).trans (.swap text stored rest)

private theorem takesName_takeName (taken : List String) (name : String) :
    TakesName taken name (takeName taken name).1 (takeName taken name).2 where
  ends other := by
    constructor
    · exact fun chooses => chooses.unique (chooses_freshName taken name)
    · rintro rfl
      exact chooses_freshName taken name
  free := freshName_not_mem taken name
  added := insertText_perm (freshName_not_mem taken name)
  kept free := (chooses_freshName taken name).unique (.kept free)
  counted isTaken := (chooses_freshName taken name).isLeastNumbered isTaken

private theorem takesNames_takeNames (taken names : List String) :
    TakesNames taken names (takeNames taken names).1 (takeNames taken names).2 := by
  induction names generalizing taken with
  | nil => exact .nil taken
  | cons name rest induction => exact .cons (takesName_takeName taken name) (induction _)

namespace TakesNames

variable {names chosen after : List String}

private theorem perm (takes : TakesNames taken names chosen after) :
    after.Perm (chosen ++ taken) := by
  induction takes with
  | nil => exact .refl _
  | cons first _ induction =>
      exact induction.trans ((first.added.append_left _).trans List.perm_middle)

private theorem length_eq (takes : TakesNames taken names chosen after) :
    chosen.length = names.length := by
  induction takes with
  | nil => rfl
  | cons _ _ induction => exact congrArg (· + 1) induction

private theorem disjoint (takes : TakesNames taken names chosen after) : chosen.Disjoint taken := by
  induction takes with
  | nil => exact List.disjoint_nil_left _
  | cons first _ induction =>
      refine List.disjoint_cons_left.mpr ⟨first.free, fun other isChosen isTaken => ?_⟩
      exact induction isChosen (first.added.mem_iff.mpr (List.mem_cons_of_mem _ isTaken))

theorem nodup (takes : TakesNames taken names chosen after) : chosen.Nodup := by
  induction takes with
  | nil => exact .nil
  | cons first later induction =>
      refine List.nodup_cons.mpr ⟨fun member => ?_, induction⟩
      exact later.disjoint member (first.added.mem_iff.mpr List.mem_cons_self)

end TakesNames

/-- Whatever is taken and whatever names are asked for, each choice ends with the name itself or
the first numbered one that is free. It takes exactly that, so all choices differ from each other
and from what was taken before. -/
theorem takeNames_distinct (taken names : List String) :
    TakesNames taken names (takeNames taken names).1 (takeNames taken names).2 ∧
      (takeNames taken names).1.length = names.length ∧
      (takeNames taken names).1.Nodup ∧ (takeNames taken names).1.Disjoint taken ∧
      (takeNames taken names).2.Perm ((takeNames taken names).1 ++ taken) :=
  have takes := takesNames_takeNames taken names
  ⟨takes, takes.length_eq, takes.nodup, takes.disjoint, takes.perm⟩

/-- The second name looks like a choice for the first one. -/
example : (takeNames ["id"] ["id", "id_1", "id"]).1 = ["id_1", "id_1_1", "id_2"] := by
  decide +kernel

end RestModel.Naming
