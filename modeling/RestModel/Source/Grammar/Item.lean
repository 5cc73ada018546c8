import RestModel.Source.Grammar.Signature
import RestModel.Source.Grammar.Statement

/-! # Items

An item declares something. Forms that are allowed only so that macros can make
something else of them hold no code. -/

namespace RestModel.Source.Grammar

open RestModel.Source.Parser

/-- Bounds after a colon, if there is one, up to tokens that pass a test. The result
says whether there is a colon. -/
def optionalBounds (g : Grammar) (ends : List Token → Bool) : Parser (Bool × List Code) := do
  if ← takeSigns ":" then return (true, ← g.bounds ends) else return (false, [])

def optionalBody (g : Grammar) : Parser (Option (List Code)) := do
  if ← takeSigns ";" then return none else return some (← g.body)

/-! ## Constants and names of types -/

structure Constant where
  type : Code
  value : Option Code
  /-- Whether it depends on parameters or conditions. -/
  isGeneric : Bool

def constant (g : Grammar) : Parser Constant := do
  word "const"
  let _ ← nameOrUnderscore
  let (hasParameters, _) ← g.generics
  signs ":"
  let type ← g.anyType
  let value ← if ← takeSigns "=" then pure (some (← g.anyExpression)) else pure none
  let (hasConditions, _) ← g.whereClause
  signs ";"
  return ⟨type, value, hasParameters || hasConditions⟩

/-- A constant that has a value and depends on nothing. -/
def Constant.parts? (constant : Constant) : Option (List Code) := do
  let value ← constant.value
  if constant.isGeneric then none else some [constant.type, value]

structure TypeName where
  name : String
  others : List Code
  hasBounds : Bool
  definition : Option Code

/-- The declaration of the name of a type. Conditions stand before or after its
definition. -/
def typeName (g : Grammar) (conditionsBefore conditionsAfter : Bool) : Parser TypeName := do
  word "type"
  let name ← name
  let (_, parameters) ← g.generics
  let (hasBounds, bounds) ← g.optionalBounds fun tokens =>
    startsWord "where" tokens || startsAnySigns ["=", ";"] tokens
  let (hasConditions, before) ← if conditionsBefore then g.whereClause else pure (false, [])
  let definition ← if ← takeSigns "=" then pure (some (← g.anyType)) else pure none
  let (_, after) ←
    if conditionsAfter && !hasConditions then g.whereClause else pure (false, [])
  signs ";"
  return ⟨name, parameters ++ bounds ++ before ++ after, hasBounds, definition⟩

/-- The name of a type that is defined, and only that. -/
def TypeName.parts? (type : TypeName) : Option (List Code) := do
  let definition ← type.definition
  if type.hasBounds then none else some (type.others ++ [definition])

/-! ## Macros -/

def macroItem (hasName : Bool) : Parser Unit := do
  let _ ← modulePath
  signs "!"
  if hasName then
    if !(← takeWord "try") && startsIdentifier (← get) then
      let _ ← name
  if (← anyGroup) ≠ .brace then
    signs ";"

def macroDeclaration : Parser Unit := do
  word "macro"
  let _ ← name
  if startsGroup .parenthesis (← get) then
    let _ ← anyGroup
  if (← anyGroup) ≠ .brace then
    failure

/-! ## Members -/

def traitMember (g : Grammar) : Parser Code := do
  let others := attributeCode (← g.outerAttributes)
  let isVisible ← visibility
  let isDefault ← takeWord "default"
  let here ← get
  let parts ←
    if startsSignature false here then do
      let (_, signature) ← g.signature false
      let body ← g.optionalBody
      pure (some (signature ++ body.getD []))
    else if startsWord "const" here then do
      let constant ← g.constant
      pure (if constant.isGeneric then none else some (constant.type :: constant.value.toList))
    else if startsWord "type" here then do
      let type ← g.typeName false true
      pure (some (type.others ++ type.definition.toList))
    else if !isVisible && !isDefault && startsModulePath here then do
      macroItem false
      pure (some [])
    else
      failure
  match parts with
  | some parts => return .other (if isVisible || isDefault then [] else others ++ parts)
  | none => return .other []

def implementationMember (g : Grammar) : Parser Code := do
  let others := attributeCode (← g.outerAttributes)
  let isVisible ← visibility
  let here ← get
  let isDefault := startsWord "default" here && !startsSigns "!" (here.drop 1)
  if isDefault then
    drop 1
  let here ← get
  let parts ←
    if startsSignature false here then do
      let (_, signature) ← g.signature false
      pure ((← g.optionalBody).map (signature ++ ·))
    else if startsWord "const" here then do
      pure (← g.constant).parts?
    else if startsWord "type" here then do
      pure (← g.typeName false true).parts?
    else if !isVisible && !isDefault && startsModulePath here then do
      macroItem false
      pure (some [])
    else
      failure
  match parts with
  | some parts => return .other (others ++ parts)
  | none => return .other []

def foreignVariable (g : Grammar) : Parser (Option (List Code)) := do
  let isUnsafe ← takeWord "unsafe"
  let isSafe ← if isUnsafe then pure false else takeWord "safe"
  word "static"
  let _ ← takeWord "mut"
  let _ ← name
  signs ":"
  let type ← g.anyType
  let hasValue ← takeSigns "="
  if hasValue then
    let _ ← g.anyExpression
  signs ";"
  return if isUnsafe || isSafe || hasValue then none else some [type]

def foreignMember (g : Grammar) : Parser Code := do
  let others := attributeCode (← g.outerAttributes)
  let isVisible ← visibility
  let here ← get
  let parts ←
    if startsSignature true here then do
      let (isSafe, signature) ← g.signature true
      let body ← g.optionalBody
      pure (if isSafe || body.isSome then none else some signature)
    else if startsWord "static" here ||
        (startsOneOf ["unsafe", "safe"] here && startsWord "static" (here.drop 1)) then
      g.foreignVariable
    else if startsWord "type" here then do
      let type ← g.typeName true true
      pure (if type.hasBounds || type.definition.isSome then none else some type.others)
    else if !isVisible && startsModulePath here then do
      macroItem false
      pure (some [])
    else
      failure
  match parts with
  | some parts => return .other (others ++ parts)
  | none => return .other []

def members (g : Grammar) (member : Parser Code) : Parser (List Code) :=
  inGroup .brace do
    let attributes ← g.innerAttributes
    return attributeCode attributes ++ (← untilEnd member)

/-! ## Kinds of items -/

def functionItem (g : Grammar) (others : List Code) : Parser Code := do
  let (_, signature) ← g.signature false
  match ← g.optionalBody with
  | some body => return .other (others ++ signature ++ body)
  | none => return .other []

def libraryItem : Parser Unit := do
  word "extern"
  word "crate"
  if !(← takeWord "self") then
    let _ ← name
  if ← takeWord "as" then
    let _ ← nameOrUnderscore
  signs ";"

def foreignItem (g : Grammar) (others : List Code) : Parser Code := do
  let _ ← takeWord "unsafe"
  if !(← convention) then
    failure
  return .other (others ++ (← g.members g.foreignMember))

/-- A tree of names that are brought into scope. Only a tree that no name precedes may
start with a double colon. -/
def useTreeRule (g : Grammar) (allowsGlobal : Bool) : Parser Unit := do
  let here ← get
  if startsIdentifier here || startsOneOf ["self", "super", "crate", "try"] here then
    drop 1
    if ← takeSigns "::" then
      g.useTree false
    else if ← takeWord "as" then
      let _ ← nameOrUnderscore
  else if startsSigns "*" here then
    signs "*"
  else
    let _ ← inGroup .brace <| commaSeparated do
      let isGlobal ← if allowsGlobal then takeSigns "::" else pure false
      g.useTree (allowsGlobal && !isGlobal)

def useItem (g : Grammar) : Parser Unit := do
  word "use"
  let isGlobal ← takeSigns "::"
  g.useTree !isGlobal
  signs ";"

def variableItem (g : Grammar) (others : List Code) : Parser Code := do
  word "static"
  let _ ← takeWord "mut"
  let _ ← name
  if ← takeSigns "=" then
    let _ ← g.anyExpression
    signs ";"
    return .other []
  signs ":"
  let type ← g.anyType
  if ← takeSigns ";" then
    return .other []
  signs "="
  let value ← g.anyExpression
  signs ";"
  return .other (others ++ [type, value])

/-- A module. Its contents may stand elsewhere. -/
def moduleItem (g : Grammar) (others : List Code) : Parser Code := do
  let _ ← takeWord "unsafe"
  word "mod"
  if !(← takeWord "try") then
    let _ ← name
  if ← takeSigns ";" then
    return .other others
  let (inner, items) ← inGroup .brace do
    let attributes ← g.innerAttributes
    let items ← untilEnd do
      let attributes ← g.outerAttributes
      g.item attributes
    return (attributeCode attributes, items)
  return .module (others ++ inner) items

def typeItem (g : Grammar) (attributes : List Attribute) : Parser Code := do
  let type ← g.typeName true false
  match type.parts? with
  | some parts =>
      return .named type.name (docLines attributes) (attributeCode attributes ++ parts)
  | none => return .other []

/-- A struct. Only fields without names may stand before conditions. -/
def structItem (g : Grammar) (attributes : List Attribute) : Parser Code := do
  word "struct"
  let name ← name
  let (_, parameters) ← g.generics
  let (hasConditions, before) ← g.whereClause
  let here ← get
  let (after, fields) ←
    if !hasConditions && startsGroup .parenthesis here then do
      let fields ← g.unnamedFields
      let (_, after) ← g.whereClause
      signs ";"
      pure (after, fields)
    else if startsGroup .brace here then do
      pure ([], ← g.namedFields)
    else do
      signs ";"
      pure ([], [])
  let others := attributeCode attributes ++ parameters ++ before ++ after
  return .struct name (docLines attributes) others fields

def variant (g : Grammar) : Parser (List Code) := do
  let others := attributeCode (← g.outerAttributes)
  let _ ← visibility
  let _ ← name
  let here ← get
  let fields ←
    if startsGroup .brace here then g.namedFields
    else if startsGroup .parenthesis here then g.unnamedFields
    else pure []
  let value ← if ← takeSigns "=" then pure [← g.anyExpression] else pure []
  return others ++ fields ++ value

def enumItem (g : Grammar) (attributes : List Attribute) : Parser Code := do
  word "enum"
  let name ← name
  let (_, parameters) ← g.generics
  let (_, conditions) ← g.whereClause
  let variants ← inGroup .brace (commaSeparated g.variant)
  return .named name (docLines attributes)
    (attributeCode attributes ++ parameters ++ conditions ++ variants.flatten)

def unionItem (g : Grammar) (others : List Code) : Parser Code := do
  word "union"
  let _ ← name
  let (_, parameters) ← g.generics
  let (_, conditions) ← g.whereClause
  return .other (others ++ parameters ++ conditions ++ (← g.namedFields))

def traitItem (g : Grammar) (others : List Code) : Parser Code := do
  let isUnsafe ← takeWord "unsafe"
  let isAuto ← takeWord "auto"
  word "trait"
  let _ ← name
  let (_, parameters) ← g.generics
  if !isUnsafe && !isAuto && (← takeSigns "=") then
    let bounds ← g.bounds fun tokens => startsWord "where" tokens || startsSigns ";" tokens
    let (_, conditions) ← g.whereClause
    signs ";"
    return .other (others ++ parameters ++ conditions ++ bounds)
  else
    let (_, bounds) ← g.optionalBounds fun tokens =>
      startsWord "where" tokens || startsGroup .brace tokens
    let (_, conditions) ← g.whereClause
    let members ← g.members g.traitMember
    return .other (others ++ parameters ++ conditions ++ bounds ++ members)

/-- An implementation. It holds no code if its form can only be meant for a macro: if it
says who may use it, if it is constant, or if it implements what is no trait. -/
def implementationItem (g : Grammar) (others : List Code) (isVisible : Bool) :
    Parser Code := do
  let _ ← takeWord "default"
  let _ ← takeWord "unsafe"
  word "impl"
  let (_, parameters) ← if startsGenerics (← get) then g.generics else pure (false, [])
  let here ← get
  let isConstant := startsWord "const" here ||
    (startsSigns "?" here && startsWord "const" (here.drop 1))
  if isConstant then
    let _ ← takeSigns "?"
    word "const"
  let here ← get
  let isNegative := startsSigns "!" here && !startsGroup .brace (here.drop 1)
  if isNegative then
    signs "!"
  let (first, kind) ← g.type true
  let isForType ← takeWord "for"
  let subject ←
    if isForType then do pure [first, ← g.anyType]
    else pure (if isNegative then [] else [first])
  let (_, conditions) ← g.whereClause
  let members ← g.members g.implementationMember
  let isTrait := kind = .name || kind = .path
  if isVisible || isConstant || (isForType && !isTrait) then
    return .other []
  else
    return .other (others ++ parameters ++ conditions ++ subject ++ members)

def itemRule (g : Grammar) (attributes : List Attribute) : Parser Code := do
  let others := attributeCode attributes
  let isVisible ← visibility
  let here ← get
  let after := here.drop 1
  if startsSignature false here then
    g.functionItem others
  else if startsWord "extern" here then
    if startsWord "crate" after then
      libraryItem
      return .other others
    else if isVisible then
      failure
    else
      g.foreignItem others
  else if startsWord "use" here then
    g.useItem
    return .other others
  else if startsWord "static" here then
    g.variableItem others
  else if startsWord "const" here then
    let constant ← g.constant
    return .other (constant.parts?.elim [] (others ++ ·))
  else if startsWord "unsafe" here then
    if startsWord "trait" after || (startsWord "auto" after && startsWord "trait" (after.drop 1))
        then
      g.traitItem others
    else if startsWord "impl" after then
      g.implementationItem others isVisible
    else if startsWord "extern" after && !isVisible then
      g.foreignItem others
    else if startsWord "mod" after then
      g.moduleItem others
    else
      failure
  else if startsWord "mod" here then
    g.moduleItem others
  else if startsWord "type" here then
    g.typeItem attributes
  else if startsWord "struct" here then
    g.structItem attributes
  else if startsWord "enum" here then
    g.enumItem attributes
  else if startsWord "union" here && startsIdentifier after then
    g.unionItem others
  else if startsWord "trait" here || (startsWord "auto" here && startsWord "trait" after) then
    g.traitItem others
  else if startsWord "impl" here || (startsWord "default" here && !startsSigns "!" after) then
    g.implementationItem others isVisible
  else if startsWord "macro" here then
    macroDeclaration
    return .other []
  else if !isVisible && startsModulePath here then
    macroItem true
    return .other others
  else
    failure

end RestModel.Source.Grammar
