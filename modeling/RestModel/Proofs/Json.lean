import RestModel.Json.Basic
import RestModel.Proofs.Keyed

/-! # What stands inside a JSON value -/

namespace RestModel.Json

private theorem depth_le_depthOfItems {item : Json} {items : List Json} (member : item ∈ items) :
    item.depth ≤ depthOfItems items := by
  induction items with
  | nil => contradiction
  | cons first rest induction =>
      rw [depthOfItems]
      rcases List.mem_cons.mp member with rfl | member
      · exact Nat.le_max_left _ _
      · exact Nat.le_trans (induction member) (Nat.le_max_right _ _)

theorem depth_le_depthOfMembers {entry : String × Json} {members : List (String × Json)}
    (member : entry ∈ members) : entry.2.depth ≤ depthOfMembers members := by
  induction members with
  | nil => contradiction
  | cons first rest induction =>
      rw [depthOfMembers]
      rcases List.mem_cons.mp member with rfl | member
      · exact Nat.le_max_left _ _
      · exact Nat.le_trans (induction member) (Nat.le_max_right _ _)

/-- A value stands inside another one: it is an item or a member of it, or stands inside one
that is. -/
inductive IsInside : Json → Json → Prop where
  | item {value item : Json} {items : List Json} (isArray : value.items? = some items)
      (member : item ∈ items) : IsInside item value
  | member {value : Json} {entry : String × Json} {members : List (String × Json)}
      (isObject : value.members? = some members) (member : entry ∈ members) :
      IsInside entry.2 value
  | within {inner middle value : Json} (inside : IsInside inner middle)
      (outside : IsInside middle value) : IsInside inner value

theorem isInside_of_get? {value found : Json} {key : String}
    (stored : value.get? key = some found) : found.IsInside value := by
  cases value with
  | object members => exact .member rfl (Keyed.mem_of_get? stored)
  | _ => contradiction

private theorem depth_lt_of_mem_items {value item : Json} {items : List Json}
    (isArray : value.items? = some items) (member : item ∈ items) :
    item.depth < value.depth := by
  cases value with
  | array written =>
      cases isArray
      exact Nat.lt_succ_of_le (depth_le_depthOfItems member)
  | _ => contradiction

private theorem depth_lt_of_mem_members {value : Json} {entry : String × Json}
    {members : List (String × Json)} (isObject : value.members? = some members)
    (member : entry ∈ members) : entry.2.depth < value.depth := by
  cases value with
  | object written =>
      cases isObject
      exact Nat.lt_succ_of_le (depth_le_depthOfMembers member)
  | _ => contradiction

/-- What stands inside a value is less deep. -/
theorem IsInside.depth_lt {inner value : Json} (inside : inner.IsInside value) :
    inner.depth < value.depth := by
  induction inside with
  | item isArray member => exact depth_lt_of_mem_items isArray member
  | member isObject member => exact depth_lt_of_mem_members isObject member
  | within _ _ inner outer => exact Nat.lt_trans inner outer

end RestModel.Json
