import RestModel.Source.Grammar.Pattern

/-! # Expressions

Operators are read by their precedence. Where a block must follow, as after `if`,
an expression does not end in a struct literal. -/

namespace RestModel.Source.Grammar

open RestModel.Source.Parser

/-! ## Operators -/

inductive Precedence where
  | lowest
  | assign
  | range
  | or
  | and
  | binding
  | compare
  | bitOr
  | bitXor
  | bitAnd
  | shift
  | sum
  | product
  | cast
  deriving DecidableEq

def Precedence.rank (precedence : Precedence) : Nat := precedence.ctorIdx

/-- The operators between two operands, each before those that start it. -/
def operators : List (String × Precedence) :=
  [("+=", .assign), ("-=", .assign), ("*=", .assign), ("/=", .assign), ("%=", .assign),
    ("^=", .assign), ("&=", .assign), ("|=", .assign), ("<<=", .assign), (">>=", .assign),
    ("&&", .and), ("||", .or), ("<<", .shift), (">>", .shift), ("==", .compare),
    ("<=", .compare), ("!=", .compare), (">=", .compare), ("+", .sum), ("-", .sum),
    ("*", .product), ("/", .product), ("%", .product), ("^", .bitXor), ("&", .bitAnd),
    ("|", .bitOr), ("<", .compare), (">", .compare)]

def operator? (tokens : List Token) : Option (String × Precedence) :=
  operators.find? fun (signs, _) => startsSigns signs tokens

def startsAssignment (tokens : List Token) : Bool :=
  startsSigns "=" tokens && !startsSigns "=>" tokens

def nextPrecedence (tokens : List Token) : Precedence :=
  match operator? tokens with
  | some (_, precedence) => precedence
  | none =>
      if startsAssignment tokens then .assign
      else if startsSigns ".." tokens then .range
      else if startsWord "as" tokens then .cast
      else .lowest

/-- The dots of a range; the result says whether they include its end. -/
def rangeDots : Parser Bool := do
  if ← takeSigns "..=" then
    return true
  else if startsSigns "..." (← get) then
    failure
  else
    signs ".."
    return false

def lacksRangeEnd (allowsRecord : Bool) (tokens : List Token) : Bool :=
  tokens.isEmpty ||
    startsAnySigns
      [",", ";", "?", "=>", "=", "+", "/", "%", "^", ">", "<=", "!=", "-=", "*=", "&=", "|=", "<<="]
      tokens ||
    (startsSigns "." tokens && !startsSigns ".." tokens) ||
    (!allowsRecord && startsGroup .brace tokens) || startsWord "as" tokens

def startsAfterCast (tokens : List Token) : Bool :=
  (startsSigns "." tokens && !startsSigns ".." tokens) || startsSigns "?" tokens ||
    startsGroup .bracket tokens || startsGroup .parenthesis tokens

mutual
/-- Read the operators after an operand that bind at least as closely as `least`,
with their other operands. Every call that goes on takes a token, so a `fuel` above
twice the number of tokens never runs out. -/
def operation (g : Grammar) (allowsRecord : Bool) (least : Precedence) :
    (fuel : Nat) → Expression → Parser Expression
  | 0, _ => failure
  | fuel + 1, left => do
      let here ← get
      if left.kind = .range then
        return left
      match operator? here with
      | some (signs, precedence) =>
          if precedence.rank < least.rank then
            return left
          if precedence = .compare && left.kind = .comparison then
            failure
          drop signs.length
          let right ← rightOperand g allowsRecord precedence fuel
          let kind := if precedence = .compare then .comparison else .other
          operation g allowsRecord least fuel ⟨.other [left.code, right], kind⟩
      | none =>
          if least.rank ≤ Precedence.assign.rank && startsAssignment here then
            drop 1
            let right ← rightOperand g allowsRecord .assign fuel
            operation g allowsRecord least fuel (.of (.other [left.code, right]))
          else if least.rank ≤ Precedence.range.rank && startsSigns ".." here then
            let includesEnd ← rangeDots
            let last ← rangeLast g allowsRecord includesEnd fuel
            operation g allowsRecord least fuel ⟨.other (left.code :: last), .range⟩
          else if least.rank ≤ Precedence.cast.rank && startsWord "as" here then
            drop 1
            let type ← g.plainType
            if startsAfterCast (← get) then
              failure
            operation g allowsRecord least fuel (.of (.other [left.code, type]))
          else
            return left

def rightOperand (g : Grammar) (allowsRecord : Bool) (precedence : Precedence) :
    (fuel : Nat) → Parser Code
  | 0 => failure
  | fuel + 1 => do
      let first ← g.operand allowsRecord
      return (← tighten g allowsRecord precedence fuel first).code

/-- Read the operators that bind an operand more closely than the one before it. -/
def tighten (g : Grammar) (allowsRecord : Bool) (precedence : Precedence) :
    (fuel : Nat) → Expression → Parser Expression
  | 0, _ => failure
  | fuel + 1, operand => do
      let here ← get
      let next := nextPrecedence here
      if precedence.rank < next.rank || (next = precedence && precedence = .assign) then
        let more ← operation g allowsRecord next fuel operand
        if (← get).length = here.length then
          return more
        else
          tighten g allowsRecord precedence fuel more
      else
        return operand

def rangeLast (g : Grammar) (allowsRecord includesEnd : Bool) : (fuel : Nat) → Parser (List Code)
  | 0 => failure
  | fuel + 1 => do
      if !includesEnd && lacksRangeEnd allowsRecord (← get) then
        return []
      else
        return [← rightOperand g allowsRecord .range fuel]
end

def operationFuel : Parser Nat := do return 4 * (← get).length + 4

def operationAfter (g : Grammar) (allowsRecord : Bool) (least : Precedence)
    (first : Expression) : Parser Expression := do
  g.operation allowsRecord least (← operationFuel) first

def expressionRule (g : Grammar) (allowsRecord : Bool) : Parser Expression := do
  g.operationAfter allowsRecord .lowest (← g.operand allowsRecord)

/-! ## What follows an operand -/

/-- Whether a part of a decimal number is the number of a field. -/
def isFieldPart (part : List Char) : Bool :=
  part.head?.any Char.isDigit && part.all (fun c => c.isDigit || c == '_') &&
    Text.digitsValue (part.filter Char.isDigit) < Nat.pow 2 32

/-- Read a decimal number as the numbers of fields with points between them. The result
says whether a point comes last. -/
def fieldNumbers (spelling : String) : Option Bool :=
  let characters := spelling.toList
  let first := characters.takeWhile (· != '.')
  let rest := (characters.dropWhile (· != '.')).tail
  if isFieldPart first && (rest.isEmpty || isFieldPart rest) then some rest.isEmpty else none

def member (g : Grammar) (receiver : Code) : Parser Code := do
  match ← get with
  | .whole _ _ :: _ =>
      fieldNumber
      return .other [receiver]
  | _ =>
      let _ ← name
      let here ← get
      if startsSigns "::" here then
        signs "::"
        let types ← g.angledArguments
        return .method receiver types (← inGroup .parenthesis (commaSeparated g.anyExpression))
      else if startsGroup .parenthesis here then
        return .method receiver [] (← inGroup .parenthesis (commaSeparated g.anyExpression))
      else
        return .other [receiver]

def afterPoint (g : Grammar) (receiver : Code) : Parser Code := do
  match ← get with
  | .decimal spelling :: _ =>
      let some endsInPoint := fieldNumbers spelling | failure
      drop 1
      if endsInPoint then g.member (.other [receiver]) else return .other [receiver]
  | _ =>
      if ← takeWord "await" then
        return .other [receiver]
      else
        g.member receiver

def trailersWithin (g : Grammar) : (fuel : Nat) → Expression → Parser Expression
  | 0, _ => failure
  | fuel + 1, operand => do
      let here ← get
      let isRange := operand.kind = .range
      if startsGroup .parenthesis here then
        let arguments ← inGroup .parenthesis (commaSeparated g.anyExpression)
        trailersWithin g fuel (.of (.call operand.code arguments))
      else if startsSigns "." here && !startsSigns ".." here && !isRange then
        signs "."
        trailersWithin g fuel (.of (← g.afterPoint operand.code))
      else if startsGroup .bracket here then
        let index ← inGroup .bracket g.anyExpression
        trailersWithin g fuel (.of (.other [operand.code, index]))
      else if startsSigns "?" here && !isRange then
        signs "?"
        trailersWithin g fuel (.of (.other [operand.code]))
      else
        return operand

def trailers (g : Grammar) (operand : Expression) : Parser Expression := do
  g.trailersWithin ((← get).length + 1) operand

/-! ## Operands -/

def startsExpression (tokens : List Token) : Bool :=
  startsAnyWord tokens || startsGroup .parenthesis tokens || startsGroup .bracket tokens ||
    startsGroup .brace tokens || startsLiteral tokens || startsLifetime tokens ||
    startsAnySigns ["::", "#"] tokens ||
    (startsSigns "!" tokens && !startsSigns "!=" tokens) ||
    (startsSigns "-" tokens && !startsAnySigns ["-=", "->"] tokens) ||
    (startsSigns "*" tokens && !startsSigns "*=" tokens) ||
    (startsSigns "|" tokens && !startsSigns "|=" tokens) ||
    (startsSigns "&" tokens && !startsSigns "&=" tokens) ||
    (startsSigns ".." tokens && !startsSigns "..." tokens) ||
    (startsSigns "<" tokens && !startsAnySigns ["<=", "<<="] tokens)

def optionalExpression (g : Grammar) (allowsRecord : Bool) : Parser (List Code) := do
  let here ← get
  if startsExpression here && (allowsRecord || !startsGroup .brace here) then
    return [← g.anyExpression]
  else
    return []

/-- An entry of a struct literal. A name alone stands for a value of that name. -/
def recordEntry (g : Grammar) : Parser Code := do
  let others := attributeCode (← g.outerAttributes)
  match ← get with
  | .whole _ _ :: _ =>
      fieldNumber
      signs ":"
      return .entry others none (← g.anyExpression)
  | _ =>
      let name ← name
      if ← takeSigns ":" then
        return .entry others (some name) (← g.anyExpression)
      else
        return .entry others (some name) (.path [] name [])

def recordEntries (g : Grammar) : (fuel : Nat) → Parser (List Code × List Code)
  | 0 => failure
  | fuel + 1 => do
      if ← atEnd then
        return ([], [])
      if ← takeSigns ".." then
        if ← atEnd then
          return ([], [])
        else
          return ([], [← g.anyExpression])
      let first ← g.recordEntry
      if ← atEnd then
        return ([first], [])
      signs ","
      let (entries, after) ← recordEntries g fuel
      return (first :: entries, after)

def pathExpression (g : Grammar) (allowsRecord : Bool) : Parser Expression := do
  let path ← g.path true
  let here ← get
  if !path.isQualified && startsSigns "!" here && !startsSigns "!=" here && path.isPlain then
    signs "!"
    return ⟨.other [], .macroCall ((← anyGroup) = .brace)⟩
  else if allowsRecord && startsGroup .brace here then
    let (entries, after) ← inGroup .brace do
      g.recordEntries ((← get).length + 1)
    return .of (.record [path.code] entries after)
  else
    return .of path.code

def bracketedExpression (g : Grammar) : Parser Expression :=
  inGroup .bracket do
    if ← atEnd then
      return .of (.row [])
    let first ← g.anyExpression
    if ← takeSigns ";" then
      return .of (.other [first, ← g.anyExpression])
    else if ← atEnd then
      return .of (.row [first])
    else
      signs ","
      return .of (.row (first :: (← commaSeparated g.anyExpression)))

/-- The expression after `if` or `while`, where no struct literal may stand. -/
def test (g : Grammar) : Parser Code := do return (← g.expression false).code

def choices (g : Grammar) : (fuel : Nat) → Parser (List Code)
  | 0 => failure
  | fuel + 1 => do
      word "if"
      let test ← g.test
      let block ← g.block
      if ← takeWord "else" then
        if startsWord "if" (← get) then
          return test :: block ++ (← choices g fuel)
        else
          return test :: block ++ (← g.block)
      else
        return test :: block

def startsBlockExpression (tokens : List Token) : Bool :=
  startsOneOf ["if", "while", "loop", "match", "unsafe"] tokens ||
    (startsWord "for" tokens && !startsGenerics (tokens.drop 1)) ||
    (startsOneOf ["try", "const"] tokens && startsGroup .brace (tokens.drop 1)) ||
    startsGroup .brace tokens

def arms (g : Grammar) : Parser (List Code) := do
  let arms ← untilEnd do
    let others := attributeCode (← g.outerAttributes)
    let pattern ← g.alternatives
    let guard ← if ← takeWord "if" then pure [← g.anyExpression] else pure []
    signs "=>"
    let expression ← g.statement
    let hasComma ← takeSigns ","
    if !hasComma && !expression.kind.endsArm && !(← atEnd) then
      failure
    return others ++ pattern ++ guard ++ [expression.code]
  return arms.flatten

def blockExpression (g : Grammar) : Parser Expression := do
  let here ← get
  if startsWord "if" here then
    return .block (← g.choices (here.length + 1))
  else if ← takeWord "while" then
    let test ← g.test
    return .block (test :: (← g.body))
  else if ← takeWord "for" then
    let pattern ← g.alternatives
    word "in"
    let source ← g.test
    return .block (pattern ++ source :: (← g.body))
  else if ← takeWord "loop" then
    return .block (← g.body)
  else if ← takeWord "match" then
    let subject ← g.test
    let arms ← inGroup .brace do
      let attributes ← g.innerAttributes
      return attributeCode attributes ++ (← g.arms)
    return .block (subject :: arms)
  else if ← takeWord "unsafe" then
    return .block (← g.body)
  else if ← takeWord "const" then
    return .block (← g.body)
  else if ← takeWord "try" then
    return .block (← g.block)
  else
    return .block (← g.body)

def labelled (g : Grammar) : Parser Expression := do
  lifetime
  signs ":"
  let here ← get
  if startsOneOf ["while", "for", "loop"] here || startsGroup .brace here then
    g.blockExpression
  else
    failure

/-- An expression that is read as a statement or as the value of an arm. One that ends
by itself goes on only with a point or a question mark. -/
def statementRule (g : Grammar) : Parser Expression := do
  let others := attributeCode (← g.outerAttributes)
  let here ← get
  let expression ←
    if startsLifetime here || startsBlockExpression here then do
      let first ← if startsLifetime here then g.labelled else g.blockExpression
      let here ← get
      if (startsSigns "." here && !startsSigns ".." here) || startsSigns "?" here then
        g.operationAfter true .lowest (← g.trailers first)
      else
        pure first
    else
      g.expression true
  return ⟨expression.code.withAttributes others, expression.kind⟩

def closure (g : Grammar) (allowsRecord : Bool) : Parser Expression := do
  let (_, parameters) ← g.forLifetimes
  let _ ← takeWord "const"
  let _ ← takeWord "static"
  let _ ← takeWord "async"
  let _ ← takeWord "move"
  signs "|"
  let inputs ← separated "," (startsSigns "|") do
    let others := attributeCode (← g.outerAttributes)
    let pattern ← g.pattern
    let type ← if ← takeSigns ":" then pure [← g.anyType] else pure []
    return others ++ pattern.parts ++ type
  signs "|"
  if ← takeSigns "->" then
    let type ← g.anyType
    let block ← g.block
    return .of (.other (parameters ++ inputs.flatten ++ type :: block))
  else
    let body ← g.expression allowsRecord
    return .of (.other (parameters ++ inputs.flatten ++ [body.code]))

def startsClosure (tokens : List Token) : Bool :=
  startsSigns "|" tokens || startsOneOf ["move", "static"] tokens ||
    (startsWord "for" tokens && startsGenerics (tokens.drop 1)) ||
    (startsWord "const" tokens && !startsGroup .brace (tokens.drop 1)) ||
    (startsWord "async" tokens &&
      (startsSigns "|" (tokens.drop 1) || startsWord "move" (tokens.drop 1)))

/-- Whether a block that runs on its own follows. -/
def startsAsyncBlock (tokens : List Token) : Bool :=
  startsWord "async" tokens &&
    (startsGroup .brace (tokens.drop 1) ||
      (startsWord "move" (tokens.drop 1) && startsGroup .brace (tokens.drop 2)))

def breakValue (g : Grammar) (allowsRecord : Bool) : Parser (List Code) := do
  let here ← get
  if startsLifetime here && startsSigns ":" (here.drop 1) then
    failure
  let _ ← takeLifetime
  g.optionalExpression allowsRecord

def bindingTest (g : Grammar) (allowsRecord : Bool) : Parser Expression := do
  word "let"
  let pattern ← g.alternatives
  signs "="
  let first ← g.operand allowsRecord
  let value ← g.operationAfter allowsRecord .compare first
  return .of (.other (pattern ++ [value.code]))

def atom (g : Grammar) (allowsRecord : Bool) : Parser Expression := do
  let here ← get
  let startsNamed := startsIdentifier here || startsAnySigns ["::", "<"] here ||
    startsOneOf ["self", "Self", "super", "crate"] here ||
    (startsWord "try" here && startsAnySigns ["!", "::"] (here.drop 1))
  if startsLiteral here then
    return .of (← literal)
  else if startsAsyncBlock here then
    word "async"
    let _ ← takeWord "move"
    return .of (.other (← g.block))
  else if startsWord "try" here && startsGroup .brace (here.drop 1) then
    g.blockExpression
  else if startsClosure here then
    g.closure allowsRecord
  else if startsWord "builtin" here && startsSigns "#" (here.drop 1) then
    drop 2
    let _ ← name
    let _ ← inGroup .parenthesis (set ([] : List Token))
    return .of (.other [])
  else if startsNamed then
    g.pathExpression allowsRecord
  else if startsGroup .parenthesis here then
    return .of (.row (← inGroup .parenthesis (commaSeparated g.anyExpression)))
  else if ← takeWord "break" then
    return .of (.other (← g.breakValue allowsRecord))
  else if ← takeWord "continue" then
    let _ ← takeLifetime
    return .of (.other [])
  else if ← takeWord "return" then
    return .of (.other (← g.optionalExpression true))
  else if ← takeWord "become" then
    let _ ← g.anyExpression
    return .of (.other [])
  else if startsGroup .bracket here then
    g.bracketedExpression
  else if startsWord "let" here then
    g.bindingTest allowsRecord
  else if ← takeWord "yield" then
    return .of (.other (← g.optionalExpression true))
  else if startsOneOf ["if", "while", "for", "loop", "match", "unsafe", "const"] here ||
      startsGroup .brace here then
    g.blockExpression
  else if startsSigns ".." here then
    let includesEnd ← rangeDots
    let last ← g.rangeLast allowsRecord includesEnd (← operationFuel)
    return ⟨.other last, .range⟩
  else if ← takeWord "_" then
    return .of (.other [])
  else if startsLifetime here then
    g.labelled
  else
    failure

def operandRule (g : Grammar) (allowsRecord : Bool) : Parser Expression := do
  let others := attributeCode (← g.outerAttributes)
  let here ← get
  if startsSigns "&" here then
    signs "&"
    let here ← get
    if startsWord "raw" here && startsOneOf ["mut", "const"] (here.drop 1) then
      drop 2
      let inner ← g.operand allowsRecord
      return .of ((Code.other [inner.code]).withAttributes others)
    else
      let _ ← takeWord "mut"
      let inner ← g.operand allowsRecord
      return .of ((Code.row [inner.code]).withAttributes others)
  else if startsAnySigns ["*", "!", "-"] here then
    drop 1
    let inner ← g.operand allowsRecord
    return .of ((Code.other [inner.code]).withAttributes others)
  else
    let first ← g.atom allowsRecord
    let expression ← g.trailers first
    if expression.kind = .range && !others.isEmpty then
      failure
    return ⟨expression.code.withAttributes others, expression.kind⟩

end RestModel.Source.Grammar
