import RestModel.Text.Digits
import RestModel.Text.Word

/-! # Filters of messages

A filter is a set of rules, each of which sets the least level of the messages
of a target, or of all of them. A rule may also ask for a span of work and for
fields of a message. More specific rules come first. -/

namespace RestModel.Log

/-- The level of messages, or the absence of any. -/
inductive Level where
  | off
  | error
  | warn
  | info
  | debug
  | trace
  deriving DecidableEq, Repr, Inhabited

namespace Level

def all : List Level := [.off, .error, .warn, .info, .debug, .trace]

def name : Level → String
  | .off => "off"
  | .error => "error"
  | .warn => "warn"
  | .info => "info"
  | .debug => "debug"
  | .trace => "trace"

def ofName? (text : String) : Option Level :=
  let digits := match text.toList with
    | '+' :: rest => rest
    | digits => digits
  match Text.digitsOf? 10 digits with
  | some place => all[place]?
  | none => all.find? fun level => level.name == text.map Char.toLower

end Level

structure FieldMatch where
  name : String
  value : Option String
  deriving DecidableEq, Repr

structure Rule where
  level : Level
  target : Option String
  span : Option String
  fields : List FieldMatch
  deriving DecidableEq, Repr

/-! ## Order -/

/-- The order of texts that may be absent; an absent one comes first. -/
def compareOptional : Option String → Option String → Ordering
  | none, none => .eq
  | none, some _ => .lt
  | some _, none => .gt
  | some a, some b => compare a b

/-- The order of fields: first those without a value, then by name. -/
def FieldMatch.compare (a b : FieldMatch) : Ordering :=
  (Ord.compare a.value.isSome.toNat b.value.isSome.toNat).then <|
    (Ord.compare a.name b.name).then <| compareOptional a.value b.value

def compareFields : List FieldMatch → List FieldMatch → Ordering
  | [], [] => .eq
  | [], _ :: _ => .lt
  | _ :: _, [] => .gt
  | a :: as, b :: bs => (a.compare b).then (compareFields as bs)

namespace Rule

/-- How specific a rule is: whether it has a target, and how long that is;
whether it asks for a span; and for how many fields. -/
def rank (rule : Rule) : List Nat :=
  [rule.target.isSome.toNat, (rule.target.map String.utf8ByteSize).getD 0,
    rule.span.isSome.toNat, rule.fields.length]

def compareRising (a b : Rule) : Ordering :=
  (Ord.compare a.rank b.rank).then <|
    (compareOptional a.target b.target).then <|
      (compareOptional a.span b.span).then <| compareFields a.fields b.fields

/-- Whether a rule asks for nothing that becomes known only in a message. -/
def isStatic (rule : Rule) : Bool :=
  rule.span.isNone && rule.fields.all (·.value.isNone)

def text (rule : Rule) : String :=
  let fields := rule.fields.map fun field =>
    field.name ++ ((field.value.map fun value => "=" ++ value).getD "")
  let braces := if fields.isEmpty then "" else "\x7b" ++ ",".intercalate fields ++ "\x7d"
  let scope :=
    if rule.span.isSome || !fields.isEmpty then "[" ++ rule.span.getD "" ++ braces ++ "]"
    else ""
  let subject := rule.target.getD "" ++ scope
  if rule.target.isSome || !scope.isEmpty then subject ++ "=" ++ rule.level.name
  else rule.level.name

/-- Put a rule into its place, instead of one that differs in level alone. -/
def insert (rule : Rule) : List Rule → List Rule
  | [] => [rule]
  | first :: rest =>
      match rule.compareRising first with
      | .gt => rule :: first :: rest
      | .eq => rule :: rest
      | .lt => first :: insert rule rest

/-! ## Reading -/

/-- Read the level at the end of a rule; all messages if it is empty. -/
def readLevel? (text : List Char) : Option Level :=
  if text.isEmpty then some .trace else Level.ofName? (String.ofList text)

def readField? (text : List Char) : Option FieldMatch :=
  if text.isEmpty then
    none
  else
    let name := text.takeWhile (· != '=')
    let value := match text.dropWhile (· != '=') with
      | [] => none
      | _ :: rest => some (String.ofList (rest.takeWhile (· != '=')))
    some ⟨String.ofList name, value⟩

def readSpan? (target : Option String) (text : List Char) : Option Rule := do
  let name := text.takeWhile fun c => c != ']' && c != '\x7b'
  let span := String.ofList name
  let (span, fields, rest) ← match text.drop name.length with
    | ']' :: rest => some (some span, [], rest)
    | '\x7b' :: rest => do
        let field := rest.takeWhile (· != '\x7d')
        match rest.drop field.length with
        | '\x7d' :: ']' :: rest =>
            let field ← readField? field
            some (if name.isEmpty then none else some span, [field], rest)
        | _ => none
    | _ => none
  match rest with
  | [] => some ⟨.trace, target, span, fields⟩
  | '=' :: rest => (readLevel? rest).map fun level => ⟨level, target, span, fields⟩
  | _ => none

def startsTarget (c : Char) : Bool :=
  c == '-' || c == ':' || c == '_' || Text.isLetterOrNumber c

/-- Read a rule, whose text has no commas. A name on its own is a level if there
is one of that name, and otherwise a target. -/
def ofText? (text : String) : Option Rule :=
  match text.toList with
  | [] => none
  | '[' :: rest => readSpan? none rest
  | c :: rest =>
      if startsTarget c then
        let name := (c :: rest).takeWhile fun c => c != '=' && c != '['
        let target := String.ofList name
        match (c :: rest).drop name.length with
        | '=' :: rest => (readLevel? rest).map fun level => ⟨level, some target, none, []⟩
        | '[' :: rest => readSpan? (some target) rest
        | _ =>
            match Level.ofName? target with
            | some level => some ⟨level, none, none, []⟩
            | none => some ⟨.trace, some target, none, []⟩
      else
        none

end Rule

/-- A set of rules, the most specific ones first. Those that a message decides
are kept apart. -/
structure Filter where
  fixed : List Rule
  open_ : List Rule

namespace Filter

def ofLevel (level : Level) : Filter := ⟨[⟨level, none, none, []⟩], []⟩

def add (filter : Filter) (rule : Rule) : Filter :=
  if rule.isStatic then { filter with fixed := rule.insert filter.fixed }
  else { filter with open_ := rule.insert filter.open_ }

def text (filter : Filter) : String :=
  ",".intercalate ((filter.fixed ++ filter.open_).map Rule.text)

end Filter

end RestModel.Log
