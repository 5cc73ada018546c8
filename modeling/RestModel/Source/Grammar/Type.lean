import RestModel.Source.Grammar.Basic

/-! # Paths and types -/

namespace RestModel.Source.Grammar

open RestModel.Source.Parser

/-! ## Paths -/

def constantArgument (g : Grammar) : Parser Code := do
  let here ← get
  if startsLiteral here then
    literal
  else if startsIdentifier here then
    return .path [] (← name) []
  else if startsGroup .brace here then
    return .other (← g.body)
  else
    failure

/-- The bounds after a colon, up to tokens that pass a test. -/
def bounds (g : Grammar) (ends : List Token → Bool) : Parser (List Code) := do
  return (← summed ends (g.bound false)).flatMap (·.2)

/-- An argument between angle brackets. A name before an equals sign or a colon says
something about an associated type. -/
def argument (g : Grammar) : Parser Code := do
  let here ← get
  if startsLifetime here && !startsSigns "+" (here.drop 1) then
    lifetime
    return .other []
  if startsLiteral here || startsGroup .brace here then
    return .other [← g.constantArgument]
  let (type, kind) ← g.type true
  if kind = .name && (← takeSigns "=") then
    let here ← get
    if startsLiteral here || startsGroup .brace here then
      return .other [type, ← g.constantArgument]
    else
      return .other [type, ← g.anyType]
  if kind = .name && (← takeSigns ":") then
    let limits ← g.bounds fun tokens => startsAnySigns [",", ">"] tokens
    return .other (type :: limits)
  return type

def angledArguments (g : Grammar) : Parser (List Code) := do
  signs "<"
  let arguments ← separated "," (startsSigns ">") g.argument
  signs ">"
  return arguments

def segment (g : Grammar) (inExpression : Bool) :
    Parser (String × Option (List Code)) := do
  if startsOneOf ["super", "self", "crate", "try"] (← get) then
    return (← anyWord, none)
  let name ← if startsWord "Self" (← get) then anyWord else name
  let here ← get
  if !inExpression && startsSigns "<" here && !startsSigns "<=" here then
    return (name, some (← g.angledArguments))
  else if startsSigns "::" here && startsSigns "<" (here.drop 2) then
    signs "::"
    return (name, some (← g.angledArguments))
  else
    return (name, none)

def namedPath (g : Grammar) (inExpression : Bool) : Parser Path := do
  let isGlobal ← takeSigns "::"
  let first ← g.segment inExpression
  let isNext := fun tokens =>
    startsSigns "::" tokens && !startsGroup .parenthesis (tokens.drop 2)
  let rest ← collectWhile isNext do
    signs "::"
    g.segment inExpression
  return Path.ofSegments false isGlobal [] first rest

def anyPath (g : Grammar) (inExpression : Bool) : Parser Path := do
  if ← takeSigns "<" then
    let type ← g.anyType
    let others ←
      if ← takeWord "as" then do
        let path ← g.namedPath false
        pure [type, path.code]
      else
        pure [type]
    signs ">"
    signs "::"
    let first ← g.segment inExpression
    let rest ← collectWhile (startsSigns "::") do
      signs "::"
      g.segment inExpression
    return Path.ofSegments true false others first rest
  else
    g.namedPath inExpression

def returnType (g : Grammar) (allowsSum : Bool) : Parser (List Code) := do
  if ← takeSigns "->" then
    return [(← g.type allowsSum).1]
  else
    return []

def startsParenthesized (path : Path) (tokens : List Token) : Bool :=
  path.arguments.isNone &&
    (startsGroup .parenthesis tokens ||
      (startsSigns "::" tokens && startsGroup .parenthesis (tokens.drop 2)))

def parenthesizedArguments (g : Grammar) : Parser (List Code) := do
  let _ ← takeSigns "::"
  let inputs ← inGroup .parenthesis (commaSeparated g.anyType)
  return inputs ++ (← g.returnType false)

/-! ## Bounds and generics -/

def genericParameter (g : Grammar) : Parser (List Code) := do
  let attributes ← g.outerAttributes
  let here ← get
  let ends := fun tokens => startsAnySigns [",", ">", "="] tokens
  if startsLifetime here then
    lifetime
    if ← takeSigns ":" then
      let _ ← summed ends lifetime
    return attributeCode attributes
  else if startsIdentifier here then
    let _ ← name
    let limits ← if ← takeSigns ":" then g.bounds ends else pure []
    let default ← if ← takeSigns "=" then pure [← g.anyType] else pure []
    return attributeCode attributes ++ limits ++ default
  else if ← takeWord "const" then
    let _ ← name
    signs ":"
    let type ← g.anyType
    let default ← if ← takeSigns "=" then pure [← g.constantArgument] else pure []
    return attributeCode attributes ++ type :: default
  else
    word "_"
    return attributeCode attributes

/-- Parameters between angle brackets, if there are any. The result says whether
there are brackets. -/
def generics (g : Grammar) : Parser (Bool × List Code) := do
  if ← takeSigns "<" then
    let parameters ← separated "," (startsSigns ">") g.genericParameter
    signs ">"
    return (true, parameters.flatten)
  else
    return (false, [])

/-- Whether parameters between angle brackets follow, and not a path that starts at a
type. -/
def startsGenerics (tokens : List Token) : Bool :=
  let after := tokens.drop 1
  startsSigns "<" tokens &&
    (startsAnySigns [">", "#"] after || startsWord "const" after ||
      ((startsLifetime after || startsIdentifier after) &&
        (startsAnySigns [">", ",", "="] (after.drop 1) ||
          (startsSigns ":" (after.drop 1) && !startsSigns "::" (after.drop 1)))))

def forLifetimes (g : Grammar) : Parser (Bool × List Code) := do
  if ← takeWord "for" then
    signs "<"
    let parameters ← separated "," (startsSigns ">") g.genericParameter
    signs ">"
    return (true, parameters.flatten)
  else
    return (false, [])

/-- Take the word that makes a bound constant, also after a tilde or between brackets. -/
def takeConst : Parser Bool := do
  let here ← get
  if startsGroup .bracket here then
    inGroup .bracket (word "const")
    return true
  else if startsSigns "~" here then
    signs "~"
    word "const"
    return true
  else
    takeWord "const"

/-- A trait as a bound. A constant one is read, but its code is not kept. -/
def traitBound (g : Grammar) : Parser (List Code) := do
  let (hasLifetimes, parameters) ← g.forLifetimes
  let isConstant ← takeConst
  let isRelaxed ← takeSigns "?"
  let later ←
    if isRelaxed && !hasLifetimes then do
      let (_, parameters) ← g.forLifetimes
      pure parameters
    else
      pure []
  let path ← g.namedPath false
  let arguments ←
    if startsParenthesized path (← get) then g.parenthesizedArguments else pure []
  return if isConstant then [] else parameters ++ later ++ path.code :: arguments

def captures : Parser Unit := do
  word "use"
  signs "<"
  let _ ← separated "," (startsSigns ">") do
    if !(← takeLifetime) then
      if !(← takeWord "Self") then
        let _ ← name
  signs ">"

/-- A bound of a type, and whether it is a lifetime. -/
def anyBound (g : Grammar) (allowsCapture : Bool) : Parser (Bool × List Code) := do
  let here ← get
  if startsLifetime here then
    lifetime
    return (true, [])
  else if startsWord "use" here then
    if !allowsCapture then
      failure
    captures
    return (false, [])
  else if startsGroup .parenthesis here then
    return (false, ← inGroup .parenthesis g.traitBound)
  else
    return (false, ← g.traitBound)

def endsCondition (tokens : List Token) : Bool :=
  tokens.isEmpty || startsGroup .brace tokens || startsAnySigns [",", ";", "="] tokens ||
    (startsSigns ":" tokens && !startsSigns "::" tokens)

def condition (g : Grammar) : Parser (List Code) := do
  let here ← get
  if startsLifetime here && startsSigns ":" (here.drop 1) then
    lifetime
    signs ":"
    let _ ← summed endsCondition lifetime
    return []
  else
    let (_, parameters) ← g.forLifetimes
    let type ← g.anyType
    signs ":"
    return parameters ++ type :: (← g.bounds endsCondition)

def conditionsWithin (g : Grammar) : (fuel : Nat) → Parser (List Code)
  | 0 => failure
  | fuel + 1 => do
      if endsCondition (← get) then
        return []
      let first ← g.condition
      if ← takeSigns "," then
        return first ++ (← conditionsWithin g fuel)
      else
        return first

def whereClause (g : Grammar) : Parser (Bool × List Code) := do
  if ← takeWord "where" then
    return (true, ← g.conditionsWithin ((← get).length + 1))
  else
    return (false, [])

/-! ## Types -/

def startsFurtherBound (tokens : List Token) : Bool :=
  startsAnyWord tokens || startsAnySigns ["::", "?"] tokens || startsLifetime tokens ||
    startsGroup .parenthesis tokens

/-- Bounds after plus signs; a plus sign may also stand at the end. -/
def furtherBounds (g : Grammar) (allowsCapture : Bool) (goesOn : List Token → Bool) :
    Parser (List (Bool × List Code)) :=
  collect do
    if !startsSigns "+" (← get) then
      return none
    signs "+"
    if goesOn (← get) then
      let bound ← g.bound allowsCapture
      return some bound
    else
      return none

/-- Bounds between plus signs, at least one of which is a trait. -/
def someBounds (g : Grammar) (allowsSum allowsCapture : Bool) : Parser (List Code) := do
  let first ← g.bound allowsCapture
  let goesOn := fun tokens =>
    startsFurtherBound tokens || startsGroup .bracket tokens || startsWord "const" tokens
  let rest ← if allowsSum then g.furtherBounds allowsCapture goesOn else pure []
  if (first :: rest).all (·.1) then
    failure
  return (first :: rest).flatMap (·.2)

def functionTypeArgument (g : Grammar) (isFirst : Bool) : Parser (List Code) := do
  let attributes ← g.outerAttributes
  let here ← get
  let startsNamed := fun (tokens : List Token) =>
    (startsIdentifier tokens || startsWord "_" tokens || (isFirst && startsWord "self" tokens)) &&
      startsSigns ":" (tokens.drop 1) && !startsSigns "::" (tokens.drop 1)
  if isFirst && startsWord "mut" here && startsWord "self" (here.drop 1) then
    word "mut"
    if startsNamed (← get) then
      drop 2
      return attributeCode attributes ++ [← g.anyType]
    else
      word "self"
      return attributeCode attributes
  else
    if startsNamed here then
      drop 2
    return attributeCode attributes ++ [← g.anyType]

/-- The further arguments of the type of a function that takes any number. -/
def startsVariadic (tokens : List Token) : Bool :=
  startsSigns "..." tokens ||
    ((startsIdentifier tokens || startsWord "_" tokens) && startsSigns ":" (tokens.drop 1) &&
      startsSigns "..." (tokens.drop 2))

def functionTypeArguments (g : Grammar) : (fuel : Nat) → (isFirst : Bool) → Parser (List Code)
  | 0, _ => failure
  | fuel + 1, isFirst => do
      if ← atEnd then
        return []
      let attributes ← g.outerAttributes
      if startsVariadic (← get) then
        if !(← takeSigns "...") then
          drop 2
          signs "..."
        let _ ← takeSigns ","
        return attributeCode attributes
      let first ← g.functionTypeArgument isFirst
      if ← atEnd then
        return attributeCode attributes ++ first
      signs ","
      return attributeCode attributes ++ first ++ (← functionTypeArguments g fuel false)

def convention : Parser Bool := do
  if ← takeWord "extern" then
    if let .text _ :: _ ← get then
      drop 1
    return true
  else
    return false

def functionType (g : Grammar) : Parser (List Code) := do
  let _ ← takeWord "unsafe"
  let _ ← convention
  word "fn"
  let arguments ← inGroup .parenthesis do
    g.functionTypeArguments ((← get).length + 1) true
  return arguments ++ (← g.returnType false)

inductive Enclosed where
  | tuple (types : List Code)
  | lifetimeSum (bounds : List Code)
  | relaxedBound (bound : List Code)
  | single (type : Code) (kind : TypeKind)

def enclosed (g : Grammar) : Parser Enclosed := do
  let here ← get
  if here.isEmpty then
    return .tuple []
  else if startsLifetime here then
    return .lifetimeSum (← g.someBounds true false)
  else if startsSigns "?" here then
    return .relaxedBound (← g.traitBound)
  else
    let (first, kind) ← g.type true
    if ← takeSigns "," then
      return .tuple (first :: (← commaSeparated g.anyType))
    else
      return .single first kind

def parenthesizedType (g : Grammar) (allowsSum : Bool) : Parser (Code × TypeKind) := do
  let content ← inGroup .parenthesis g.enclosed
  let rest := g.furtherBounds false fun _ => true
  match content with
  | .tuple types => return (.other types, .other)
  | .lifetimeSum bounds => return (.other bounds, .other)
  | .relaxedBound bound =>
      let more ← rest
      return (.other (bound ++ more.flatMap (·.2)), if more.isEmpty then .bound else .other)
  | .single type kind =>
      if allowsSum && kind ≠ .other && startsSigns "+" (← get) then
        return (.other (type :: (← rest).flatMap (·.2)), .other)
      else
        return (.other [type], .other)

def pathType (g : Grammar) (hasLifetimes allowsSum : Bool) : Parser (Code × TypeKind) := do
  let path ← g.path false
  let here ← get
  let isParenthesized := startsParenthesized path here
  let arguments ← if isParenthesized then g.parenthesizedArguments else pure []
  let path := { path with others := path.others ++ arguments }
  if path.isQualified then
    return (path.code, .other)
  let here ← get
  if startsSigns "!" here && !startsSigns "!=" here && path.isPlain && !isParenthesized then
    signs "!"
    let _ ← anyGroup
    return (.other [], .other)
  if hasLifetimes || (allowsSum && startsSigns "+" here) then
    let more ← if allowsSum then g.furtherBounds false startsFurtherBound else pure []
    let hasMore := allowsSum && startsSigns "+" here
    return (.other (path.code :: more.flatMap (·.2)), if hasMore then .other else .bound)
  let isName := path.count = 1 && !path.isGlobal && !isParenthesized
  return (path.code, if isName then .name else .path)

def bracketedType (g : Grammar) : Parser Code :=
  inGroup .bracket do
    let element ← g.anyType
    if ← takeSigns ";" then
      return .other [element, ← g.anyExpression]
    else
      return .other [element]

def typeRule (g : Grammar) (allowsSum : Bool) : Parser (Code × TypeKind) := do
  let (hasLifetimes, parameters) ← g.forLifetimes
  let here ← get
  let startsFunction := startsOneOf ["fn", "unsafe", "extern"] here
  let startsNamed := startsIdentifier here || startsOneOf ["super", "self", "Self", "crate"] here
  if hasLifetimes && !(startsFunction || startsNamed) then
    failure
  if startsGroup .parenthesis here then
    g.parenthesizedType allowsSum
  else if startsFunction then
    return (.other (parameters ++ (← g.functionType)), .other)
  else if startsNamed || startsAnySigns ["::", "<"] here then
    let (type, kind) ← g.pathType hasLifetimes allowsSum
    return if parameters.isEmpty then (type, kind) else (.other (parameters ++ [type]), kind)
  else if ← takeWord "dyn" then
    let isOwned ← takeSigns "*"
    let bounds ← g.someBounds allowsSum false
    return (.other (if isOwned then [] else bounds), .other)
  else if startsGroup .bracket here then
    return (← g.bracketedType, .other)
  else if ← takeSigns "*" then
    if !(← takeWord "const") then
      word "mut"
    return (.other [← g.plainType], .other)
  else if ← takeSigns "&" then
    let _ ← takeLifetime
    let _ ← takeWord "mut"
    return (.other [← g.plainType], .other)
  else if startsSigns "!" here then
    signs "!"
    return (.other [], .other)
  else if ← takeWord "impl" then
    return (.other (← g.someBounds allowsSum true), .other)
  else if ← takeWord "_" then
    return (.other [], .other)
  else if startsLifetime here then
    return (.other (← g.someBounds true false), .other)
  else
    failure

end RestModel.Source.Grammar
