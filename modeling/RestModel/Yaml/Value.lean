import RestModel.Json.Reader
import RestModel.Yaml.Node

/-! # Values of YAML

A plain scalar without a tag stands for a constant or a number if it is written as
one, and otherwise for its text. Aliases stand for the nodes they name. -/

namespace RestModel.Yaml

/-! ## Scalars -/

def isNullText (text : String) : Bool := ["null", "Null", "NULL", "~"].contains text

def truthOf? (text : String) : Option Bool :=
  if ["true", "True", "TRUE"].contains text then some true
  else if ["false", "False", "FALSE"].contains text then some false
  else none

def markedDigits? : List Char → Option Nat
  | '0' :: 'x' :: digits => Text.digitsOf? 16 digits
  | '0' :: 'o' :: digits => Text.digitsOf? 8 digits
  | '0' :: 'b' :: digits => Text.digitsOf? 2 digits
  | _ => none

def dropSign : List Char → List Char
  | '+' :: rest => rest
  | '-' :: rest => rest
  | text => text

/-- Whether a text is a row of digits that starts with a zero and goes on; it is no
number then. -/
def isPadded (text : List Char) : Bool :=
  match dropSign text with
  | '0' :: c :: rest => (c :: rest).all Char.isDigit
  | _ => false

def wholeOf? (text : List Char) : Option Int :=
  match text with
  | '-' :: rest =>
      match markedDigits? rest with
      | some value => some (-value)
      | none => if isPadded text then none else (Text.digitsOf? 10 rest).map fun value => -value
  | _ =>
      let unsigned := match text with
        | '+' :: rest => rest
        | _ => text
      match markedDigits? unsigned with
      | some value => some value
      | none => if isPadded text then none else (Text.digitsOf? 10 unsigned).map fun value => value

/-- Whether a whole number fits sixty-four bits, with or without a sign. -/
def isWord (value : Int) : Bool :=
  -(Nat.pow 2 63 : Int) ≤ value && value < Nat.pow 2 64

/-- Whether a whole number fits twice as many bits. Such a number is read as one
and then refused; beyond, it is a decimal number. -/
def isDoubleWord (value : Int) : Bool :=
  -(Nat.pow 2 127 : Int) ≤ value && value < Nat.pow 2 128

/-- The decimal number of which a text is a spelling: digits, a point among or
beside them, and an exponent. -/
def decimalOf? (text : List Char) : Option JsonNumber := do
  let (negative, unsigned) := match text with
    | '-' :: rest => (true, rest)
    | '+' :: rest => (false, rest)
    | rest => (false, rest)
  let whole := unsigned.takeWhile Char.isDigit
  let rest := unsigned.dropWhile Char.isDigit
  let (fraction, rest) := match rest with
    | '.' :: rest => (rest.takeWhile Char.isDigit, rest.dropWhile Char.isDigit)
    | rest => ([], rest)
  if whole.isEmpty && fraction.isEmpty then
    none
  let (exponent, rest) ← Json.readExponent rest
  if !rest.isEmpty then
    none
  let mantissa := Text.digitsValue (whole ++ fraction)
  let exponent := exponent.getD 0 - fraction.length
  if Json.isFiniteDecimal mantissa exponent then
    some (.decimal (if negative then -(mantissa : Int) else mantissa) exponent)
  else
    none

def isUnbounded (text : String) : Bool :=
  [".inf", ".Inf", ".INF", "+.inf", "+.Inf", "+.INF", "-.inf", "-.Inf", "-.INF", ".nan",
    ".NaN", ".NAN"].contains text

def wholeValue? (value : Int) : Option Json :=
  if isWord value then some (.number (.integer value)) else none

/-- The value of a decimal number, `null` for one that is not finite. -/
def decimalValue? (text : String) : Option Json :=
  if isUnbounded text then some .null else (decimalOf? text.toList).map .number

def plainValue? (text : String) : Option Json :=
  if text.isEmpty || isNullText text then
    some .null
  else
    match truthOf? text, (wholeOf? text.toList).filter isDoubleWord with
    | some value, _ => some (.bool value)
    | none, some value => wholeValue? value
    | none, none =>
        if isPadded text.toList then some (.string text)
        else some ((decimalValue? text).getD (.string text))

def coreTag (name : String) : String := "tag:yaml.org,2002:" ++ name

/-- The value of a scalar. A tag of the format fixes the kind of value, and any
other one makes it a text; a tag of the writer's own is refused. -/
def scalarValue? (tag : Option String) (text : String) (isPlain : Bool) : Option Json :=
  match tag with
  | none => if isPlain then plainValue? text else some (.string text)
  | some tag =>
      if tag.startsWith "!" then
        none
      else if tag == coreTag "bool" then
        (truthOf? text).map .bool
      else if tag == coreTag "int" then
        ((wholeOf? text.toList).filter isDoubleWord).bind wholeValue?
      else if tag == coreTag "float" then
        decimalValue? text
      else if tag == coreTag "null" then
        if isNullText text then some .null else none
      else
        some (.string text)

/-! ## Nodes -/

namespace Node

mutual
def targets : Node → List (Nat × Node)
  | .scalar anchor tag text isPlain =>
      (anchor.map fun number => (number, .scalar anchor tag text isPlain)).toList
  | .sequence anchor tag items =>
      (anchor.map fun number => (number, .sequence anchor tag items)).toList ++
        targetsOfItems items
  | .mapping anchor tag entries =>
      (anchor.map fun number => (number, .mapping anchor tag entries)).toList ++
        targetsOfEntries entries
  | .alias _ => []

def targetsOfItems : List Node → List (Nat × Node)
  | [] => []
  | item :: rest => item.targets ++ targetsOfItems rest

def targetsOfEntries : List (Node × Node) → List (Nat × Node)
  | [] => []
  | (key, value) :: rest => key.targets ++ value.targets ++ targetsOfEntries rest
end

mutual
def size : Node → Nat
  | .scalar _ _ _ _ => 1
  | .sequence _ _ items => sizeOfItems items + 2
  | .mapping _ _ entries => sizeOfEntries entries + 2
  | .alias _ => 1

def sizeOfItems : List Node → Nat
  | [] => 0
  | item :: rest => item.size + sizeOfItems rest

def sizeOfEntries : List (Node × Node) → Nat
  | [] => 0
  | (key, value) :: rest => key.size + value.size + sizeOfEntries rest
end

/-- A step that may follow only so many aliases. -/
abbrev Resolver := StateT Nat Option

/-- The node that a node stands for. An alias stands for the last node with its
number. -/
def follow (targets : List (Nat × Node)) (node : Node) : Resolver Node := do
  match node with
  | .alias number =>
      match ← get with
      | 0 => failure
      | left + 1 =>
          set left
          targets.reverse.lookup number
  | node => return node

def isOwnTag (tag : Option String) : Bool := tag.any fun tag => tag.startsWith "!"

/-- The value of a node that has at most `depth` levels of nesting. The keys of a
mapping are the texts of scalars, and of two equal keys the later one counts. -/
def valueWithin (targets : List (Nat × Node)) : (depth : Nat) → Node → Resolver Json
  | 0, node => do
      match ← follow targets node with
      | .scalar _ tag text isPlain => scalarValue? tag text isPlain
      | _ => failure
  | depth + 1, node => do
      match ← follow targets node with
      | .scalar _ tag text isPlain => scalarValue? tag text isPlain
      | .sequence _ tag items =>
          if isOwnTag tag then
            failure
          return .array (← items.mapM (valueWithin targets depth))
      | .mapping _ tag entries =>
          if isOwnTag tag then
            failure
          let members ← entries.foldlM (fun members (key, value) => do
            let .scalar _ _ text _ ← follow targets key | failure
            return Keyed.insert text (← valueWithin targets depth value) members) []
          return .object members
      | .alias _ => failure

def deepestNesting : Nat := 128

/-- The value of a document. A text may follow a hundred aliases for each part it
has. -/
def value? (node : Node) : Option Json :=
  (valueWithin node.targets deepestNesting node).run' (node.size * 100)

end Node

def read? (text : String) : Option Json := do
  (← Node.ofText? text).value?

end RestModel.Yaml
