import RestModel.Keyed

/-! # JSON values

The values of the interchange format in which descriptions arrive and models
leave. Members of an object are held in the order in which they are written;
values that were read have their members in key order. -/

namespace RestModel

inductive JsonNumber where
  /-- A literal without fraction and exponent that fits 64 bits. -/
  | integer (value : Int)
  /-- Any other literal: `mantissa · 10 ^ exponent`. -/
  | decimal (mantissa : Int) (exponent : Int)
  deriving Repr, Inhabited, DecidableEq

inductive Json where
  | null
  | bool (value : Bool)
  | number (value : JsonNumber)
  | string (text : String)
  | array (items : List Json)
  | object (members : List (String × Json))
  deriving Repr, Inhabited

namespace Json

def int (value : Int) : Json := .number (.integer value)

def nat (value : Nat) : Json := .int value

def strings (texts : List String) : Json := .array (texts.map .string)

def orNull : Option String → Json
  | some text => .string text
  | none => .null

/-- The object of those members that are present. -/
def ofMembers (members : List (String × Option Json)) : Json :=
  .object (members.filterMap fun (key, value) => value.map fun value => (key, value))

def members? : Json → Option (List (String × Json))
  | .object members => some members
  | _ => none

def get? (key : String) : Json → Option Json
  | .object members => Keyed.get? key members
  | _ => none

def items? : Json → Option (List Json)
  | .array items => some items
  | _ => none

def text? : Json → Option String
  | .string text => some text
  | _ => none

def bool? : Json → Option Bool
  | .bool value => some value
  | _ => none

def int? : Json → Option Int
  | .number (.integer value) => some value
  | _ => none

def nat? : Json → Option Nat
  | .number (.integer (.ofNat value)) => some value
  | _ => none

def textAt? (key : String) (value : Json) : Option String :=
  (value.get? key).bind text?

/-- The items of a member that is an array; none if there is no such member. -/
def itemsAt (key : String) (value : Json) : List Json :=
  ((value.get? key).bind items?).getD []

def isNull : Json → Bool
  | .null => true
  | _ => false

end Json

mutual
/-- The number of nested arrays and objects on the longest way into a value. -/
def Json.depth : Json → Nat
  | .array items => Json.depthOfItems items + 1
  | .object members => Json.depthOfMembers members + 1
  | _ => 0

def Json.depthOfItems : List Json → Nat
  | [] => 0
  | item :: rest => max item.depth (Json.depthOfItems rest)

def Json.depthOfMembers : List (String × Json) → Nat
  | [] => 0
  | (_, value) :: rest => max value.depth (Json.depthOfMembers rest)
end

end RestModel
