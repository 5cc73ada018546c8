import RestModel.Source.Grammar.Expression

/-! # Statements

A statement declares an item, binds names or evaluates an expression. All but those
that end by themselves end with a semicolon, which the last one of a block may do
without. -/

namespace RestModel.Source.Grammar

open RestModel.Source.Parser

inductive MacroRole where
  /-- It declares something, whose name follows the exclamation mark. -/
  | item
  /-- Its braces end the statement. -/
  | statement
  | expression

def macroRole (tokens : List Token) : MacroRole :=
  match ahead? modulePath tokens with
  | none => .expression
  | some rest =>
      let content := rest.drop 1
      let after := content.drop 1
      let goesOn := (startsSigns "." after && !startsSigns ".." after) || startsSigns "?" after
      if !startsSigns "!" rest then .expression
      else if startsIdentifier content || startsWord "try" content then .item
      else if startsGroup .brace content && !goesOn then .statement
      else .expression

def startsItem (tokens : List Token) : Bool :=
  let after := tokens.drop 1
  let later := after.drop 1
  startsOneOf ["pub", "extern", "use", "fn", "mod", "type", "struct", "enum", "trait", "impl",
      "macro"] tokens ||
    (startsWord "crate" tokens && !startsSigns "::" after) ||
    (startsWord "static" tokens && (startsWord "mut" after || startsIdentifier after)) ||
    (startsWord "const" tokens &&
      !(startsGroup .brace after || startsOneOf ["static", "move"] after ||
        startsSigns "|" after ||
        (startsWord "async" after && !startsOneOf ["unsafe", "extern", "fn"] later))) ||
    (startsWord "unsafe" tokens && !startsGroup .brace after) ||
    (startsWord "async" tokens && startsOneOf ["unsafe", "extern", "fn"] after) ||
    (startsWord "union" tokens && startsIdentifier after) ||
    (startsWord "auto" tokens && startsWord "trait" after) ||
    (startsWord "default" tokens && startsOneOf ["unsafe", "impl"] after)

def endsInBraces (tokens : List Token) : Bool :=
  match tokens.getLast? with
  | some (.group .brace _) => true
  | _ => false

/-- The value that names are bound to, and the block for values that do not fit. No such
block follows a value that ends in braces. -/
def boundValue (g : Grammar) : Parser (List Code) := do
  let before ← get
  let value ← g.anyExpression
  let after ← get
  if startsWord "else" after && !endsInBraces (before.take (before.length - after.length)) then
    word "else"
    return value :: (← g.block)
  else
    return [value]

def binding (g : Grammar) : Parser (List Code) := do
  word "let"
  let pattern ← g.pattern
  let type ← if ← takeSigns ":" then pure [← g.anyType] else pure []
  let value ← if ← takeSigns "=" then g.boundValue else pure []
  signs ";"
  return pattern.parts ++ type ++ value

/-- A statement, and whether another one may follow it. -/
def oneStatement (g : Grammar) : Parser (Code × Bool) := do
  let attributes ← g.outerAttributes
  let others := attributeCode attributes
  let here ← get
  match macroRole here with
  | .item => return (← g.item attributes, true)
  | .statement =>
      let _ ← modulePath
      signs "!"
      let _ ← anyGroup
      let _ ← takeSigns ";"
      return (.other others, true)
  | .expression =>
      if startsWord "let" here then
        return (.other (others ++ (← g.binding)), true)
      else if startsItem here then
        return (← g.item attributes, true)
      else
        let expression ← g.statement
        let hasEnd ← takeSigns ";"
        let endsAlone := match expression.kind with
          | .block => true
          | .macroCall isBraced => isBraced
          | _ => false
        return (expression.code.withAttributes others, hasEnd || endsAlone)

def statementsWithin (g : Grammar) : (fuel : Nat) → Parser (List Code)
  | 0 => failure
  | fuel + 1 => do
      if ← takeSigns ";" then
        statementsWithin g fuel
      else if ← atEnd then
        return []
      else
        let (first, allowsMore) ← g.oneStatement
        if !allowsMore && !(← atEnd) then
          failure
        return first :: (← statementsWithin g fuel)

def statementsRule (g : Grammar) : Parser (List Code) := do
  g.statementsWithin ((← get).length + 1)

end RestModel.Source.Grammar
