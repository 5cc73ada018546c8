import RestModel.Source.Grammar.Type

/-! # Patterns

Patterns matter only for the code in their constants and paths. -/

namespace RestModel.Source.Grammar

open RestModel.Source.Parser

def endsRange (tokens : List Token) : Bool :=
  tokens.isEmpty || startsAnySigns ["|", "=", ",", ";"] tokens || startsWord "if" tokens ||
    (startsSigns ":" tokens && !startsSigns "::" tokens)

def rangeBound (g : Grammar) : Parser (List Code) := do
  let here ← get
  if startsLiteral here then
    return [← literal]
  else if startsModulePath here || startsWord "Self" here || startsSigns "<" here then
    return [(← g.path true).code]
  else
    word "const"
    return ← g.body

/-- The upper bound of a range after its dots, and whether it is there. Only two
dots may stand without one. -/
def upperBound (g : Grammar) (needsBound : Bool) : Parser (Bool × List Code) := do
  if endsRange (← get) then
    if needsBound then
      failure
    return (false, [])
  else
    return (true, ← g.rangeBound)

/-- The dots of a range, which may be three, and the bound after them. -/
def rangeEnd (g : Grammar) : Parser (Bool × List Code) := do
  if ← takeSigns "..=" then
    g.upperBound true
  else if ← takeSigns "..." then
    g.upperBound true
  else
    signs ".."
    g.upperBound false

def startsAlternative (tokens : List Token) : Bool :=
  startsSigns "|" tokens && !startsAnySigns ["||", "|="] tokens

def alternativesForm (g : Grammar) : Parser Pattern := do
  let hasSign ← takeSigns "|"
  let first ← g.pattern
  let rest ← collectWhile startsAlternative do
    signs "|"
    g.pattern
  if hasSign || !rest.isEmpty then
    return .of (first.parts ++ rest.flatMap (·.parts))
  else
    return first

def alternatives (g : Grammar) : Parser (List Code) := do return (← g.alternativesForm).parts

/-- An item of a list of patterns, where a range has both of its bounds. -/
def listedPattern (g : Grammar) : Parser (List Code) := do
  let pattern ← g.alternativesForm
  if pattern.isOpenRange then
    failure
  return pattern.parts

def fieldPattern (g : Grammar) : Parser (List Code) := do
  let isBoxed ← takeWord "box"
  let isReference ← takeWord "ref"
  let isMutable ← takeWord "mut"
  if isBoxed || isReference || isMutable then
    let _ ← name
    return []
  match ← get with
  | .whole _ _ :: _ =>
      fieldNumber
      signs ":"
      g.alternatives
  | _ =>
      let _ ← name
      if ← takeSigns ":" then g.alternatives else return []

def fieldPatterns (g : Grammar) : (fuel : Nat) → Parser (List Code)
  | 0 => failure
  | fuel + 1 => do
      if ← atEnd then
        return []
      let attributes ← g.outerAttributes
      if ← takeSigns ".." then
        return attributeCode attributes
      let first ← g.fieldPattern
      if ← atEnd then
        return attributeCode attributes ++ first
      signs ","
      return attributeCode attributes ++ first ++ (← fieldPatterns g fuel)

def pathPattern (g : Grammar) : Parser Pattern := do
  let path ← g.path true
  let here ← get
  if !path.isQualified && startsSigns "!" here && !startsSigns "!=" here && path.isPlain then
    signs "!"
    let _ ← anyGroup
    return .of []
  else if startsGroup .brace here then
    let fields ← inGroup .brace do
      g.fieldPatterns ((← get).length + 1)
    return .of (path.code :: fields)
  else if startsGroup .parenthesis here then
    let items ← inGroup .parenthesis (commaSeparated g.alternatives)
    return .of (path.code :: items.flatten)
  else if startsSigns ".." here then
    let (hasBound, bound) ← g.rangeEnd
    return ⟨path.code :: bound, !hasBound⟩
  else
    return .of [path.code]

def constantPattern (g : Grammar) : Parser Pattern := do
  let start ← g.rangeBound
  if startsSigns ".." (← get) then
    let (hasBound, bound) ← g.rangeEnd
    return ⟨start ++ bound, !hasBound⟩
  else
    return .of start

def namePattern (g : Grammar) : Parser Pattern := do
  let _ ← takeWord "ref"
  let _ ← takeWord "mut"
  if startsWord "self" (← get) then
    let _ ← anyWord
  else
    let _ ← name
  if ← takeSigns "@" then
    return .of (← g.pattern).parts
  else
    return .of []

def dotsPattern (g : Grammar) : Parser Pattern := do
  if ← takeSigns "..=" then
    let (_, bound) ← g.upperBound true
    return ⟨bound, true⟩
  else
    signs ".."
    let (hasBound, bound) ← g.upperBound false
    return ⟨bound, hasBound⟩

def startsPathPattern (tokens : List Token) : Bool :=
  let after := tokens.drop 1
  (startsIdentifier tokens &&
      (startsAnySigns ["::", "!", ".."] after || startsGroup .brace after ||
        startsGroup .parenthesis after)) ||
    (startsWord "self" tokens && startsSigns "::" after) ||
    startsAnySigns ["::", "<"] tokens || startsOneOf ["Self", "super", "crate"] tokens

def patternRule (g : Grammar) : Parser Pattern := do
  let here ← get
  if startsPathPattern here then
    g.pathPattern
  else if ← takeWord "_" then
    return .of []
  else if ← takeWord "box" then
    let _ ← g.pattern
    return .of []
  else if startsSigns "-" here || startsLiteral here || startsWord "const" here then
    g.constantPattern
  else if startsOneOf ["ref", "mut", "self"] here || startsIdentifier here then
    g.namePattern
  else if ← takeSigns "&" then
    let _ ← takeWord "mut"
    return .of (← g.pattern).parts
  else if startsGroup .parenthesis here then
    return .of (← inGroup .parenthesis (commaSeparated g.alternatives)).flatten
  else if startsGroup .bracket here then
    return .of (← inGroup .bracket (commaSeparated g.listedPattern)).flatten
  else if startsSigns ".." here && !startsSigns "..." here then
    g.dotsPattern
  else
    failure

end RestModel.Source.Grammar
