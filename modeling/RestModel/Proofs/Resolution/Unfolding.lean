import RestModel.Proofs.Json
import RestModel.Schema.Resolution

/-! # One level of resolution

A written schema that is not a reference is assembled from the schemas written
in six places of it. Each place is read here from the value itself, whatever the
order of its members. -/

namespace RestModel

theorem mem_or_mem_of_mem_orElse {found other : Option α} {value : α}
    (member : value ∈ (found <|> other)) : value ∈ found ∨ value ∈ other := by
  cases found with
  | none => exact .inr (by simpa using member)
  | some first => exact .inl (by simpa using member)

namespace Json

/-- The members of a member that is an object; none if there is no such member. -/
def membersAt (key : String) (value : Json) : List (String × Json) :=
  ((value.get? key).bind members?).getD []

/-- Whether a value that is written for all other properties says anything about
them. -/
def describesOthers : Json → Bool
  | .bool true | .object _ => true
  | _ => false

/-- What a written schema says about the values of all other properties. -/
def additionalAt? (value : Json) : Option Json :=
  (value.get? "additionalProperties").filter describesOthers

/-- The alternatives that a written schema offers. -/
def variantsAt (value : Json) : List Json :=
  ((value.get? "oneOf" <|> value.get? "anyOf").bind items?).getD []

variable {value inner : Json}

theorem isInside_of_mem_membersAt {key : String}
    (member : inner ∈ Keyed.values (value.membersAt key)) : inner.IsInside value := by
  rcases List.mem_map.mp member with ⟨entry, listed, rfl⟩
  unfold membersAt at listed
  cases stored : value.get? key with
  | none => simp [stored] at listed
  | some found =>
      cases isObject : found.members? with
      | none => simp [stored, isObject] at listed
      | some members =>
          have among : entry ∈ members := by simpa [stored, isObject] using listed
          exact .within (.member isObject among) (isInside_of_get? stored)

private theorem isInside_of_mem_bind_items {found : Option Json}
    (within : ∀ listed ∈ found, listed.IsInside value)
    (member : inner ∈ (found.bind items?).getD []) : inner.IsInside value := by
  cases found with
  | none => simp at member
  | some listed =>
      cases isArray : listed.items? with
      | none => simp [isArray] at member
      | some items =>
          have among : inner ∈ items := by simpa [isArray] using member
          exact .within (.item isArray among) (within listed rfl)

theorem isInside_of_mem_itemsAt {key : String} (member : inner ∈ value.itemsAt key) :
    inner.IsInside value :=
  isInside_of_mem_bind_items (fun _ stored => isInside_of_get? stored) member

theorem isInside_of_mem_variantsAt (member : inner ∈ value.variantsAt) :
    inner.IsInside value := by
  refine isInside_of_mem_bind_items (fun listed stored => ?_) member
  rcases mem_or_mem_of_mem_orElse stored with stored | stored
  · exact isInside_of_get? stored
  · exact isInside_of_get? stored

theorem isInside_of_additionalAt? (written : value.additionalAt? = some inner) :
    inner.IsInside value :=
  isInside_of_get? (Option.filter_eq_some_iff.mp written).1

end Json

namespace Schema

variable (expand : String → Schema)

/-- Resolve an alternative; the null value has no schema. -/
def resolveVariant (value : Json) : Option Schema :=
  if isNullVariant value then none else some (resolveWith expand value)

private theorem resolveMembers_eq (members : List (String × Json)) :
    resolveMembers expand members =
      members.map fun entry => (entry.1, resolveWith expand entry.2) := by
  induction members with
  | nil => rfl
  | cons entry rest induction => simp [resolveMembers, induction]

private theorem resolveItems_eq (items : List Json) :
    resolveItems expand items = items.map (resolveWith expand) := by
  induction items with
  | nil => rfl
  | cons item rest induction => simp [resolveItems, induction]

private theorem resolveVariantItems_eq (items : List Json) :
    resolveVariantItems expand items = items.map (resolveVariant expand) := by
  induction items with
  | nil => rfl
  | cons item rest induction => simp [resolveVariantItems, resolveVariant, induction]

/-- Each part is resolved from the first member under its key. -/
theorem resolveParts_eq (members : List (String × Json)) :
    resolveParts expand members = {
      properties := ((Keyed.get? "properties" members).map (resolveNamed expand)).getD []
      items := (Keyed.get? "items" members).map (resolveWith expand)
      additional :=
        (Keyed.get? "additionalProperties" members).bind (resolveAdditional expand)
      allOf := ((Keyed.get? "allOf" members).map (resolveList expand)).getD []
      oneOf := (Keyed.get? "oneOf" members).map (resolveVariants expand)
      anyOf := (Keyed.get? "anyOf" members).map (resolveVariants expand) } := by
  induction members with
  | nil => rfl
  | cons entry rest induction =>
      rcases entry with ⟨key, value⟩
      simp only [resolveParts, induction]
      split
      case h_7 notProperties notItems notAdditional notAllOf notOneOf notAnyOf =>
        -- A member under any other key adds nothing.
        rw [Keyed.get?_cons_of_ne notProperties, Keyed.get?_cons_of_ne notItems,
          Keyed.get?_cons_of_ne notAdditional, Keyed.get?_cons_of_ne notAllOf,
          Keyed.get?_cons_of_ne notOneOf, Keyed.get?_cons_of_ne notAnyOf]
      all_goals
        simp only [Keyed.get?_cons_self, ne_eq, String.reduceEq, not_false_eq_true,
          Keyed.get?_cons_of_ne, Option.map_some, Option.getD_some, Option.bind_some]

theorem resolveWith_of_not_object {value : Json} (other : value.members? = none) :
    resolveWith expand value = free := by
  cases value with
  | object members => simp [Json.members?] at other
  | _ => rfl

theorem resolveWith_of_reference {value : Json} {path : String}
    (written : value.textAt? "$ref" = some path) :
    resolveWith expand value = (expand path).describe (value.textAt? "description") := by
  cases value with
  | object members => simp only [resolveWith, ofObject, written]
  | _ => simp [Json.textAt?, Json.get?] at written

private theorem resolveAdditional_eq (value : Json) :
    resolveAdditional expand value =
      if value.describesOthers then some (resolveWith expand value) else none := by
  cases value with
  | bool value => cases value <;> rfl
  | _ => rfl

private theorem resolveNamed_eq (value : Json) :
    resolveNamed expand value =
      (value.members?.getD []).map fun entry => (entry.1, resolveWith expand entry.2) := by
  cases value with
  | object members => exact resolveMembers_eq expand members
  | _ => rfl

private theorem resolveList_eq (value : Json) :
    resolveList expand value = (value.items?.getD []).map (resolveWith expand) := by
  cases value with
  | array items => exact resolveItems_eq expand items
  | _ => rfl

private theorem resolveVariants_eq (value : Json) :
    resolveVariants expand value = (value.items?.getD []).map (resolveVariant expand) := by
  cases value with
  | array items => exact resolveVariantItems_eq expand items
  | _ => rfl

/-- A written schema that is no reference is assembled from the schemas written
in its properties, its items, its other properties, its parts and its
alternatives. -/
theorem resolveWith_of_assembled {value : Json} (isObject : value.members?.isSome)
    (written : value.textAt? "$ref" = none) :
    resolveWith expand value = assemble value {
      properties :=
        (value.membersAt "properties").map fun entry => (entry.1, resolveWith expand entry.2)
      items := (value.get? "items").map (resolveWith expand)
      additional := value.additionalAt?.map (resolveWith expand)
      allOf := (value.itemsAt "allOf").map (resolveWith expand)
      oneOf := some (value.variantsAt.map (resolveVariant expand))
      anyOf := none } := by
  cases value with
  | object members =>
      have properties (found : Option Json) :
          (found.map (resolveNamed expand)).getD [] =
            ((found.bind Json.members?).getD []).map fun entry =>
              (entry.1, resolveWith expand entry.2) := by
        cases found <;> simp [resolveNamed_eq]
      have additional (found : Option Json) :
          found.bind (resolveAdditional expand) =
            (found.filter Json.describesOthers).map (resolveWith expand) := by
        cases found with
        | none => rfl
        | some value =>
            rw [Option.bind_some, resolveAdditional_eq, Option.filter_some]
            split <;> rfl
      have allOf (found : Option Json) :
          (found.map (resolveList expand)).getD [] =
            ((found.bind Json.items?).getD []).map (resolveWith expand) := by
        cases found <;> simp [resolveList_eq]
      have variants (found other : Option Json) :
          (found.map (resolveVariants expand) <|> other.map (resolveVariants expand)).getD [] =
            (((found <|> other).bind Json.items?).getD []).map (resolveVariant expand) := by
        cases found <;> cases other <;> simp [resolveVariants_eq]
      simp only [resolveWith, ofObject, written, resolveParts_eq, properties, additional, allOf]
      simp only [assemble, Parts.variants, variants]
      rfl
  | _ => simp [Json.members?] at isObject

end Schema

end RestModel
