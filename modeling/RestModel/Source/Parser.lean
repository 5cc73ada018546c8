import RestModel.Source.Code
import RestModel.Source.Token

/-! # Steps of reading code

A step looks at the tokens that are left and takes some of them away, or fails. -/

namespace RestModel.Source

abbrev Parser := StateT (List Token) Option

/-! ## Looking ahead -/

def startsChars : List Char → List Token → Bool
  | [], _ => true
  | [c], .sign d _ :: _ => c == d
  | c :: rest, .sign d isJoint :: tokens => c == d && isJoint && startsChars rest tokens
  | _, _ => false

def startsSigns (signs : String) (tokens : List Token) : Bool := startsChars signs.toList tokens

def startsAnySigns (choices : List String) (tokens : List Token) : Bool :=
  choices.any fun signs => startsSigns signs tokens

def startsAnyWord : List Token → Bool
  | .word _ :: _ => true
  | _ => false

def startsOneOf (words : List String) : List Token → Bool
  | .word word :: _ => words.contains word
  | _ => false

def startsWord (word : String) (tokens : List Token) : Bool := startsOneOf [word] tokens

def keywords : List String :=
  ["_", "abstract", "as", "async", "await", "become", "box", "break", "const", "continue",
    "crate", "do", "dyn", "else", "enum", "extern", "false", "final", "fn", "for", "if", "impl",
    "in", "let", "loop", "macro", "match", "mod", "move", "mut", "override", "priv", "pub", "ref",
    "return", "Self", "self", "static", "struct", "super", "trait", "true", "try", "type",
    "typeof", "unsafe", "unsized", "use", "virtual", "where", "while", "yield"]

def startsIdentifier : List Token → Bool
  | .word word :: _ => !keywords.contains word
  | _ => false

def startsLifetime : List Token → Bool
  | .lifetime _ :: _ => true
  | _ => false

def startsGroup (delimiter : Delimiter) : List Token → Bool
  | .group other _ :: _ => other == delimiter
  | _ => false

def startsNumber : List Token → Bool
  | .whole _ _ :: _ => true
  | .decimal _ :: _ => true
  | _ => false

/-- Whether a literal follows. A number may have a minus sign. -/
def startsLiteral : List Token → Bool
  | .text _ :: _ => true
  | .whole _ _ :: _ => true
  | .decimal _ :: _ => true
  | .literal :: _ => true
  | .word word :: _ => word == "true" || word == "false"
  | .sign '-' _ :: rest => startsNumber rest
  | _ => false

/-- Whether a path starts: with a name, a keyword that stands for a module or a type,
or a double colon. -/
def startsModulePath (tokens : List Token) : Bool :=
  startsIdentifier tokens || startsOneOf ["self", "super", "crate"] tokens ||
    startsSigns "::" tokens

/-! ## Single tokens -/

namespace Parser

def drop (count : Nat) : Parser Unit := modify (List.drop count)

def takeSigns (signs : String) : Parser Bool := do
  if startsSigns signs (← get) then
    drop signs.length
    return true
  else
    return false

def signs (signs : String) : Parser Unit := do
  if !(← takeSigns signs) then
    failure

def takeWord (word : String) : Parser Bool := do
  if startsWord word (← get) then
    drop 1
    return true
  else
    return false

def word (word : String) : Parser Unit := do
  if !(← takeWord word) then
    failure

def anyWord : Parser String := do
  match ← get with
  | .word word :: rest =>
      set rest
      return word
  | _ => failure

def name : Parser String := do
  if startsIdentifier (← get) then anyWord else failure

def nameOrUnderscore : Parser String := do
  if startsWord "_" (← get) then anyWord else name

def takeLifetime : Parser Bool := do
  if startsLifetime (← get) then
    drop 1
    return true
  else
    return false

def lifetime : Parser Unit := do
  if !(← takeLifetime) then
    failure

def literal : Parser Code := do
  let here ← get
  if !startsLiteral here then
    failure
  match here with
  | .text content :: rest =>
      set rest
      return .text content
  | .sign _ _ :: _ =>
      drop 2
      return .other []
  | _ =>
      drop 1
      return .other []

/-- Take the number of a field: a whole number below 2^32 without a suffix. -/
def fieldNumber : Parser Unit := do
  match ← get with
  | .whole value false :: rest => if value < Nat.pow 2 32 then set rest else failure
  | _ => failure

def inGroup (delimiter : Delimiter) (inner : Parser α) : Parser α := do
  match ← get with
  | .group other content :: rest =>
      if other ≠ delimiter then
        failure
      match inner.run content with
      | some (value, []) =>
          set rest
          return value
      | _ => failure
  | _ => failure

def anyGroup : Parser Delimiter := do
  match ← get with
  | .group delimiter _ :: rest =>
      set rest
      return delimiter
  | _ => failure

def atEnd : Parser Bool := do return (← get).isEmpty

/-! ## Repetition -/

/-- Repeat a step until it yields nothing. Each time it takes a token, so a `fuel`
above the number of tokens never runs out. -/
def collectWithin (step : Parser (Option α)) : (fuel : Nat) → Parser (List α)
  | 0 => failure
  | fuel + 1 => do
      match ← step with
      | none => return []
      | some first => return first :: (← collectWithin step fuel)

def collect (step : Parser (Option α)) : Parser (List α) := do
  collectWithin step ((← get).length + 1)

def collectWhile (test : List Token → Bool) (step : Parser α) : Parser (List α) :=
  collect do
    if test (← get) then
      let value ← step
      return some value
    else
      return none

def untilEnd (step : Parser α) : Parser (List α) := collectWhile (!·.isEmpty) step

def separatedWithin (between : String) (ends : List Token → Bool) (item : Parser α) :
    (fuel : Nat) → Parser (List α)
  | 0 => failure
  | fuel + 1 => do
      if ends (← get) then
        return []
      let first ← item
      if ends (← get) then
        return [first]
      signs between
      return first :: (← separatedWithin between ends item fuel)

def separated (between : String) (ends : List Token → Bool) (item : Parser α) :
    Parser (List α) := do
  separatedWithin between ends item ((← get).length + 1)

def commaSeparated (item : Parser α) : Parser (List α) := separated "," List.isEmpty item

/-- Read items with plus signs between them, at most up to tokens that pass a test.
The last item is the one that no plus sign follows. -/
def summedWithin (ends : List Token → Bool) (item : Parser α) : (fuel : Nat) → Parser (List α)
  | 0 => failure
  | fuel + 1 => do
      if ends (← get) then
        return []
      let first ← item
      if ← takeSigns "+" then
        return first :: (← summedWithin ends item fuel)
      else
        return [first]

def summed (ends : List Token → Bool) (item : Parser α) : Parser (List α) := do
  summedWithin ends item ((← get).length + 1)

/-- Run a step if it succeeds, and take nothing otherwise. -/
def attempt (step : Parser α) : Parser (Option α) := fun tokens =>
  match step.run tokens with
  | some (value, rest) => some (some value, rest)
  | none => some (none, tokens)

/-- The tokens that would be left after a step. -/
def ahead? (step : Parser α) (tokens : List Token) : Option (List Token) :=
  (step.run tokens).map (·.2)

end Parser

end RestModel.Source
