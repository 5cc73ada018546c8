import RestModel.Directive.Basic

/-! # Reading directives

A directive is a plus sign followed by a name, an option in brackets and a
payload after an equals sign, where option and payload may be absent. The name
holds neither brackets nor equals signs, the option no closing bracket and the
payload no line break; so there is at most one way to divide a text. With the plus
sign before it, what `parts?` divides is what this pattern matches, and `parts?`
yields what its groups capture:

    ^\+(?P<name>[^=\[\]]+?)(?:\[(?P<option>[^\]]*)\])?(?:=(?P<payload>.*))?$

Likewise `option?` reads what the following pattern matches:

    ^(?P<key>[A-Za-z][A-Za-z0-9_]*)\((?P<value>[^()]*)\)$ -/

namespace RestModel.Directive

/-- The division of a directive, each part as it is written. -/
structure Parts where
  name : List Char
  option : Option (List Char)
  payload : Option (List Char)
  deriving Repr, DecidableEq

def isNameChar (c : Char) : Bool := c != '=' && c != '[' && c != ']'

def payloadPart? : List Char → Option (Option (List Char))
  | [] => some none
  | '=' :: payload => if payload.contains '\n' then none else some (some payload)
  | _ => none

/-- The option part and the payload part behind the name. -/
def tailParts? : List Char → Option (Option (List Char) × Option (List Char))
  | '[' :: text =>
      match text.dropWhile (· != ']') with
      | _ :: after => (payloadPart? after).map (some (text.takeWhile (· != ']')), ·)
      | [] => none
  | text => (payloadPart? text).map (none, ·)

/-- Divide what follows the plus sign. -/
def parts? (text : List Char) : Option Parts :=
  let name := text.takeWhile isNameChar
  if name.isEmpty then
    none
  else
    (tailParts? (text.dropWhile isNameChar)).map fun (option, payload) => ⟨name, option, payload⟩

/-- Whether a character may follow the first letter of an option's name. -/
def isOptionNameChar (c : Char) : Bool := c.isAlphanum || c == '_'

def isOptionValueChar (c : Char) : Bool := c != '(' && c != ')'

def option? (text : List Char) : Option DirectiveOption :=
  match text with
  | [] => none
  | first :: _ =>
      let name := text.takeWhile isOptionNameChar
      match text.dropWhile isOptionNameChar with
      | '(' :: rest =>
          if first.isAlpha && rest.dropWhile isOptionValueChar == [')'] then
            some ⟨String.ofList name,
              String.ofList (Text.trimChars (rest.takeWhile isOptionValueChar))⟩
          else
            none
      | _ => none

/-- A part without blanks at its ends, if anything is left of it. -/
def nonEmptyPart? (part : List Char) : Option String :=
  match Text.trimChars part with
  | [] => none
  | characters => some (String.ofList characters)

def nameParts? (name : List Char) : Option (String × String × Option String) := do
  let (vocabulary, rest) ← Text.cutFirstChars ':' (Text.trimChars name)
  let (feature, arguments) := match Text.cutFirstChars ':' rest with
    | some (feature, arguments) => (feature, nonEmptyPart? arguments)
    | none => (rest, none)
  let vocabulary ← nonEmptyPart? vocabulary
  let feature ← nonEmptyPart? feature
  return (vocabulary, feature, arguments)

def ofParts (text : String) (parts : Parts) : Except DirectiveError Directive :=
  match nameParts? parts.name with
  | none => .error (.missingFeature text)
  | some (vocabulary, feature, arguments) =>
      let payload := parts.payload.bind nonEmptyPart?
      match parts.option with
      | none => .ok ⟨text, vocabulary, .ofName feature, arguments, none, payload⟩
      | some part =>
          match option? (Text.trimChars part) with
          | none => .error (.malformedOption text)
          | some option => .ok ⟨text, vocabulary, .ofName feature, arguments, some option, payload⟩

/-- Read a directive. Blanks around it do not count. -/
def ofText (text : String) : Except DirectiveError Directive :=
  let text := Text.trim text
  match text.toList with
  | '+' :: rest =>
      match parts? rest with
      | none => .error (.malformedOption text)
      | some parts => ofParts text parts
  | _ => .error (.missingSigil text)

end RestModel.Directive
