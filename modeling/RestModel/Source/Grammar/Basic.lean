import RestModel.Source.Parser

/-! # The parts of a grammar

The rules of the grammar refer to each other. A `Grammar` holds those that other
rules refer to; each rule is written for a given grammar, and the grammar for one
more level of nesting is made of these rules. -/

namespace RestModel.Source

/-- What can follow a type depends on what it is. -/
inductive TypeKind where
  | name
  | path
  /-- A single bound of a trait object. -/
  | bound
  | other
  deriving DecidableEq

inductive ExpressionKind where
  | range
  | comparison
  | block
  | macroCall (isBraced : Bool)
  | other
  deriving DecidableEq

structure Expression where
  code : Code
  kind : ExpressionKind

def Expression.of (code : Code) : Expression := ⟨code, .other⟩

/-- An expression that ends a statement by itself. -/
def Expression.block (parts : List Code) : Expression := ⟨.other parts, .block⟩

/-- Whether an arm of a `match` with an expression ends without a comma. -/
def ExpressionKind.endsArm : ExpressionKind → Bool
  | .block => true
  | _ => false

structure Path where
  /-- Whether it starts at a type between angle brackets. -/
  isQualified : Bool
  isGlobal : Bool
  count : Nat
  isPlain : Bool
  name : String
  arguments : Option (List Code)
  others : List Code

def Path.code (path : Path) : Code := .path path.others path.name (path.arguments.getD [])

def Path.ofSegments (isQualified isGlobal : Bool) (others : List Code)
    (first : String × Option (List Code)) (rest : List (String × Option (List Code))) : Path :=
  let segments := first :: rest
  let last := rest.getLast?.getD first
  ⟨isQualified, isGlobal, segments.length, segments.all (·.2.isNone), last.1, last.2,
    others ++ segments.dropLast.flatMap (·.2.getD [])⟩

structure Attribute where
  /-- Whether it belongs to what it stands in. -/
  isInner : Bool
  /-- The text that it adds to a doc comment. -/
  doc : Option String
  others : List Code

def docLines (attributes : List Attribute) : List String :=
  (attributes.filter (!·.isInner)).filterMap fun each =>
    each.doc.bind Text.nonBlank?

def innerDocLines (attributes : List Attribute) : List String :=
  (attributes.filter (·.isInner)).filterMap fun each =>
    each.doc.bind Text.nonBlank?

def attributeCode (attributes : List Attribute) : List Code :=
  attributes.flatMap (·.others)

structure Pattern where
  parts : List Code
  /-- Whether it is a range with one bound. -/
  isOpenRange : Bool

def Pattern.of (parts : List Code) : Pattern := ⟨parts, false⟩

/-- The rules that other rules refer to. -/
structure Grammar where
  type : (allowsSum : Bool) → Parser (Code × TypeKind)
  /-- A bound of a type, and whether it is a lifetime. -/
  bound : (allowsCapture : Bool) → Parser (Bool × List Code)
  path : (inExpression : Bool) → Parser Path
  expression : (allowsRecord : Bool) → Parser Expression
  operand : (allowsRecord : Bool) → Parser Expression
  /-- An expression that is read as a statement or as the value of an arm. -/
  statement : Parser Expression
  /-- A pattern without alternatives. -/
  pattern : Parser Pattern
  statements : Parser (List Code)
  fields : Parser (List Code)
  item : List Attribute → Parser Code
  useTree : (allowsGlobal : Bool) → Parser Unit

def Grammar.empty : Grammar where
  type _ := failure
  bound _ := failure
  path _ := failure
  expression _ := failure
  operand _ := failure
  statement := failure
  pattern := failure
  statements := failure
  fields := failure
  item _ := failure
  useTree _ := failure

namespace Grammar

open RestModel.Source.Parser

def plainType (g : Grammar) : Parser Code := do return (← g.type false).1

def anyType (g : Grammar) : Parser Code := do return (← g.type true).1

def anyExpression (g : Grammar) : Parser Code := do return (← g.expression true).code

/-! ## Attributes -/

def modulePath : Parser (List String) := do
  let isGlobal ← takeSigns "::"
  let isNext := fun tokens =>
    startsIdentifier tokens || startsOneOf ["super", "self", "Self", "crate"] tokens
  if !isNext (← get) then
    failure
  let first ← anyWord
  let rest ← collectWhile (startsSigns "::") do
    signs "::"
    if isNext (← get) then anyWord else failure
  return if isGlobal then "" :: first :: rest else first :: rest

/-- The value of an attribute: a literal, or any other expression. -/
def attributeValue (g : Grammar) : Parser Code := do
  let here ← get
  match literal.run here with
  | some (value, []) =>
      set ([] : List Token)
      return value
  | _ =>
      if startsSigns "#" here && startsGroup .bracket (here.drop 1) then
        failure
      g.anyExpression

def attributeContent (g : Grammar) (isInner : Bool) : Parser Attribute := do
  let path ←
    if startsWord "unsafe" (← get) then do
      let name ← anyWord
      pure [name]
    else
      modulePath
  let here ← get
  match here with
  | .group _ _ :: _ =>
      let _ ← anyGroup
      return ⟨isInner, none, []⟩
  | _ =>
      if startsSigns "=" here && !startsAnySigns ["==", "=>"] here then
        signs "="
        let value ← g.attributeValue
        match path, value with
        | ["doc"], .text content => return ⟨isInner, some content, []⟩
        | _, _ => return ⟨isInner, none, [value]⟩
      else
        return ⟨isInner, none, []⟩

def outerAttributes (g : Grammar) : Parser (List Attribute) :=
  collectWhile (startsSigns "#") do
    signs "#"
    inGroup .bracket (g.attributeContent false)

def innerAttributes (g : Grammar) : Parser (List Attribute) :=
  collectWhile (fun tokens => startsSigns "#" tokens && startsSigns "!" (tokens.drop 1)) do
    signs "#"
    signs "!"
    inGroup .bracket (g.attributeContent true)

/-- A block with attributes of its own at its start. -/
def body (g : Grammar) : Parser (List Code) :=
  inGroup .brace do
    let attributes ← g.innerAttributes
    return attributeCode attributes ++ (← g.statements)

/-- A block without attributes of its own. -/
def block (g : Grammar) : Parser (List Code) := inGroup .brace g.statements

end Grammar

end RestModel.Source
