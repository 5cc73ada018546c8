import RestModel.Keyed
import RestModel.Text.Case
import RestModel.Text.Pieces

/-! # Names of types and fields

Names of types are written in camel case and names of fields in snake case.
Both depend on nothing but the key they are made from and, where names have to
differ, on the names that are taken. -/

namespace RestModel.Naming

def capitalise : List Char → List Char
  | [] => []
  | first :: rest => first.toUpper :: rest

/-- The words of a key, that is its runs of ASCII letters and digits, each with
a capital first letter. Capitals inside a word stay. -/
def camelCase (key : String) : String :=
  String.ofList
    ((Text.piecesBy (fun c => !Text.isAsciiAlphanumeric c) key.toList).flatMap capitalise)

/-- Whether an underscore belongs before a capital, given its neighbours: after
a small letter or a digit, and where a run of capitals ends in a word. -/
def isWordStart (previous following : Option Char) : Bool :=
  match previous with
  | none => false
  | some before =>
      if Text.isLowercase before || before.isDigit then
        true
      else if Text.isUppercase before then
        match following with
        | none => false
        | some after => Text.isLowercase after
      else
        false

/-- Add an underscore to a text that is given last character first, unless it is
empty or ends in an underscore. -/
def withUnderscore (written : List Char) : List Char :=
  match written with
  | [] => []
  | '_' :: rest => '_' :: rest
  | last :: rest => '_' :: last :: rest

/-- Continue a snake case text, given last character first, where `previous` is
the character of the key before the remaining ones. -/
def snakeCaseFrom (written : List Char) (previous : Option Char) : List Char → List Char
  | [] => written
  | c :: rest =>
      let written :=
        if Text.isUppercase c then
          let start := if isWordStart previous rest.head? then withUnderscore written else written
          (Text.smallLetters c).reverse ++ start
        else if c == '-' || c == ' ' || c == '.' then
          withUnderscore written
        else
          c :: written
      snakeCaseFrom written (some c) rest

/-- A key in snake case: small letters, with an underscore at the start of each
word and in place of hyphens, blanks and points. -/
def snakeCase (key : String) : String :=
  String.ofList (snakeCaseFrom [] none key.toList).reverse

/-- The words that a field may only be named by as raw identifiers. -/
def keywords : List String :=
  ["as", "break", "const", "continue", "crate", "else", "enum", "extern", "false", "fn", "for",
    "if", "impl", "in", "let", "loop", "match", "mod", "move", "mut", "pub", "ref", "return",
    "self", "Self", "static", "struct", "super", "trait", "true", "type", "unsafe", "use", "where",
    "while", "async", "await", "dyn"]

def escapeKeyword (name : String) : String :=
  if name ∈ keywords then "r#" ++ name else name

def identifierChar (c : Char) : Char :=
  if Text.isAsciiAlphanumeric c || c == '_' then c else '_'

/-- Put an underscore before a digit and in place of an empty name. -/
def withIdentifierStart : List Char → List Char
  | [] => ['_']
  | first :: rest => if first.isDigit then '_' :: first :: rest else first :: rest

/-- The name of the field of a property: its key in snake case, made an
identifier. -/
def fieldName (key : String) : String :=
  escapeKeyword
    (String.ofList (withIdentifierStart ((snakeCase key).toList.map identifierChar)))

def isDelimiter (c : Char) : Bool := c == '_' || c == '-' || c == '.'

/-- Continue a text, given last character first, leaving out each delimiter that
the text so far ends in. -/
def collapseFrom (written : List Char) : List Char → List Char
  | [] => written
  | c :: rest =>
      if isDelimiter c && written.head? == some c then
        collapseFrom written rest
      else
        collapseFrom (c :: written) rest

/-- The form of a key in which runs of one delimiter count as a single one, so
that `policy__id` and `policy_id` agree. -/
def normalKey (key : String) : String :=
  String.ofList (collapseFrom [] key.toList).reverse

def numbered (name : String) (number : Nat) : String :=
  name ++ "_" ++ toString number

/-- The names to choose from for a name: itself, then itself with a number. -/
def candidates (name : String) (count : Nat) : List String :=
  name :: (List.range count).map fun index => numbered name (index + 1)

/-- The first candidate for a name that is not taken. Of one candidate more than
there are taken names, one is free. -/
def freshName (taken : List String) (name : String) : String :=
  ((candidates name taken.length).find? (· ∉ taken)).getD name

def takeName (taken : List String) (name : String) : String × List String :=
  let chosen := freshName taken name
  (chosen, insertText chosen taken)

def takeNames (taken : List String) : List String → List String × List String
  | [] => ([], taken)
  | name :: rest =>
      let (chosen, taken) := takeName taken name
      let (others, taken) := takeNames taken rest
      (chosen :: others, taken)

def isParameterSegment (segment : String) : Bool :=
  segment.toList.head? == some '\x7b' && segment.toList.getLast? == some '\x7d'

def lastFixedSegment? (path : String) : Option String :=
  (Text.pieces '/' path).reverse.find? fun segment =>
    !segment.isEmpty && !isParameterSegment segment

end RestModel.Naming
