import RestModel.Json.Basic

/-! # Tables of TOML

A text gives the members of its tables piece by piece: under headers and by dotted
keys. No piece may state again what another one has stated. -/

namespace RestModel.Toml

/-- How a table came to be. -/
inductive TableForm where
  /-- Named on the way to a table below it. -/
  | implied
  /-- Stated by a header of its own. -/
  | stated
  /-- Named by a dotted key. -/
  | dotted
  /-- Written between braces, and thus complete. -/
  | closed
  deriving DecidableEq, Repr

inductive Value where
  | text (content : String)
  | whole (value : Int)
  | truth (value : Bool)
  /-- Items between brackets, or tables that were each stated by a header. -/
  | list (areStated : Bool) (items : List Value)
  | table (form : TableForm) (members : List (String × Value))
  deriving Repr, Inhabited

abbrev Members := List (String × Value)

/-- Add a value under a dotted key. The tables on the way must be dotted as well. -/
def insertDotted (value : Value) : (path : List String) → Members → Option Members
  | [], _ => none
  | [key], members =>
      if Keyed.contains key members then none else some (Keyed.insert key value members)
  | key :: next :: rest, members =>
      match Keyed.get? key members with
      | none => do
          let inner ← insertDotted value (next :: rest) []
          return Keyed.insert key (.table .dotted inner) members
      | some (.table form inner) =>
          if form = .dotted || (form = .implied && !rest.isEmpty) then do
            let inner ← insertDotted value (next :: rest) inner
            return Keyed.insert key (.table form inner) members
          else
            none
      | some _ => none

def insertEach (entries : List (List String × Value)) (members : Members) : Option Members :=
  entries.foldlM (fun members (path, value) => insertDotted value path members) members

/-- A header, and the entries under it. -/
structure Passage where
  path : List String
  isItem : Bool
  entries : List (List String × Value)

/-- Add the table of a header to a list of such tables, or on its own. -/
def stateTable (isItem : Bool) (entries : List (List String × Value)) (key : String)
    (members : Members) : Option Members :=
  match isItem, Keyed.get? key members with
  | false, none => do
      return Keyed.insert key (.table .stated (← insertEach entries [])) members
  | false, some (.table .implied inner) => do
      return Keyed.insert key (.table .stated (← insertEach entries inner)) members
  | true, none => do
      return Keyed.insert key (.list true [.table .stated (← insertEach entries [])]) members
  | true, some (.list true items) => do
      let item := .table .stated (← insertEach entries [])
      return Keyed.insert key (.list true (items ++ [item])) members
  | _, _ => none

/-- Add the table of a header under a path. Of a list of tables, the last one is on
the way. -/
def stateUnder (isItem : Bool) (entries : List (List String × Value)) :
    (path : List String) → Members → Option Members
  | [], _ => none
  | [key], members => stateTable isItem entries key members
  | key :: next :: rest, members =>
      match Keyed.get? key members with
      | none => do
          let inner ← stateUnder isItem entries (next :: rest) []
          return Keyed.insert key (.table .implied inner) members
      | some (.table form inner) =>
          if form = .closed then
            none
          else do
            let inner ← stateUnder isItem entries (next :: rest) inner
            return Keyed.insert key (.table form inner) members
      | some (.list true items) =>
          match items.getLast? with
          | some (.table form inner) => do
              let inner ← stateUnder isItem entries (next :: rest) inner
              return Keyed.insert key (.list true (items.dropLast ++ [.table form inner])) members
          | _ => none
      | some _ => none

/-- The members of a text: the entries before the first header, and the passages
after it. -/
def assemble (entries : List (List String × Value)) (passages : List Passage) :
    Option Members := do
  passages.foldlM
    (fun members passage => stateUnder passage.isItem passage.entries passage.path members)
    (← insertEach entries [])

namespace Value

mutual
def toJson : Value → Json
  | .text content => .string content
  | .whole value => .int value
  | .truth value => .bool value
  | .list _ items => .array (itemsToJson items)
  | .table _ members => .object (membersToJson members)

def itemsToJson : List Value → List Json
  | [] => []
  | item :: rest => item.toJson :: itemsToJson rest

def membersToJson : List (String × Value) → List (String × Json)
  | [] => []
  | (key, value) :: rest => (key, value.toJson) :: membersToJson rest
end

end Value

end RestModel.Toml
