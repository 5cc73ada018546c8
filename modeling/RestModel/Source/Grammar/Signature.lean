import RestModel.Source.Grammar.Pattern

/-! # Signatures and fields

What declarations of functions and types are made of. -/

namespace RestModel.Source.Grammar

open RestModel.Source.Parser

/-- Read who may use what follows. The result says whether anything is said; a word
between parentheses belongs to it only if it stands there alone. -/
def visibility : Parser Bool := do
  if !(← takeWord "pub") then
    return false
  if let .group .parenthesis content :: rest ← get then
    if startsOneOf ["crate", "self", "super"] content then
      if content.length = 1 then
        set rest
    else if startsWord "in" content then
      let some (_, []) := modulePath.run (content.drop 1) | failure
      set rest
  return true

/-! ## Functions -/

def afterWord (word : String) (tokens : List Token) : List Token :=
  if startsWord word tokens then tokens.drop 1 else tokens

/-- Whether the signature of a function follows. In a block of foreign items it may say
that the function is safe. -/
def startsSignature (allowsSafe : Bool) (tokens : List Token) : Bool :=
  let rest := afterWord "async" (afterWord "const" tokens)
  let rest :=
    if allowsSafe && startsWord "safe" rest then rest.drop 1 else afterWord "unsafe" rest
  match convention.run rest with
  | some (_, rest) => startsWord "fn" rest
  | none => false

def receiver (g : Grammar) : Parser (List Code) := do
  if ← takeSigns "&" then
    let _ ← takeLifetime
    let _ ← takeWord "mut"
    word "self"
    return []
  else
    let _ ← takeWord "mut"
    word "self"
    if ← takeSigns ":" then return [← g.anyType] else return []

/-- The arguments of a function. Only the first one can be a receiver, and dots can
stand only for the last one. -/
def functionArguments (g : Grammar) : (fuel : Nat) → (isFirst : Bool) → Parser (List Code)
  | 0, _ => failure
  | fuel + 1, isFirst => do
      if ← atEnd then
        return []
      let others := attributeCode (← g.outerAttributes)
      if ← takeSigns "..." then
        let _ ← takeSigns ","
        return others
      let here ← get
      let argument ←
        match ← attempt g.receiver with
        | some parts => if isFirst then pure (some parts) else failure
        | none =>
            if startsIdentifier here && startsSigns "<" (here.drop 1) then
              pure (some [← g.anyType])
            else do
              let pattern ← g.pattern
              signs ":"
              if ← takeSigns "..." then
                pure none
              else
                pure (some (pattern.parts ++ [← g.anyType]))
      match argument with
      | none =>
          let _ ← takeSigns ","
          return others
      | some parts =>
          if ← atEnd then
            return others ++ parts
          signs ","
          return others ++ parts ++ (← functionArguments g fuel false)

def signature (g : Grammar) (allowsSafe : Bool) : Parser (Bool × List Code) := do
  let _ ← takeWord "const"
  let _ ← takeWord "async"
  let isUnsafe ← takeWord "unsafe"
  let isSafe ← if allowsSafe && !isUnsafe then takeWord "safe" else pure false
  let _ ← convention
  word "fn"
  let _ ← name
  let (_, parameters) ← g.generics
  let arguments ← inGroup .parenthesis do
    g.functionArguments ((← get).length + 1) true
  let result ← g.returnType true
  let (_, conditions) ← g.whereClause
  return (isSafe, parameters ++ conditions ++ arguments ++ result)

/-! ## Fields -/

def namedField (g : Grammar) : Parser Code := do
  let attributes ← g.outerAttributes
  let _ ← visibility
  let name ← nameOrUnderscore
  signs ":"
  let here ← get
  let holdsFields := startsWord "struct" here ||
    (startsWord "union" here && startsGroup .brace (here.drop 1))
  let type ←
    if name == "_" && holdsFields then do
      drop 1
      let _ ← inGroup .brace g.fields
      pure (.other [])
    else
      g.anyType
  return .field (attributeCode attributes) (some name) (docLines attributes) type

def unnamedField (g : Grammar) : Parser Code := do
  let attributes ← g.outerAttributes
  let _ ← visibility
  return .field (attributeCode attributes) none (docLines attributes) (← g.anyType)

def fieldsRule (g : Grammar) : Parser (List Code) := commaSeparated g.namedField

def namedFields (g : Grammar) : Parser (List Code) := inGroup .brace g.fieldsRule

def unnamedFields (g : Grammar) : Parser (List Code) :=
  inGroup .parenthesis (commaSeparated g.unnamedField)

end RestModel.Source.Grammar
