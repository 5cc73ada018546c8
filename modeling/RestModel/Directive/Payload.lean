import RestModel.Directive.Basic
import RestModel.Keyed
import RestModel.Text.Digits

/-! # Payloads

A marker declares the shape of its payload. Lists separate their items by
semicolons and maps their entries by commas, at every level of nesting. -/

namespace RestModel

/-- What a directive may be attached to. -/
inductive Target where
  /-- The doc comment of a source file. -/
  | package
  | type
  | field
  deriving Repr, DecidableEq, Inhabited

namespace Target

def name : Target → String
  | .package => "package"
  | .type => "type"
  | .field => "field"

def ofName? : String → Option Target
  | "package" => some .package
  | "type" => some .type
  | "field" => some .field
  | _ => none

def rank : Target → Nat
  | .package => 0
  | .type => 1
  | .field => 2

end Target

inductive PayloadShape where
  | string
  | int
  | bool
  | any
  | list (item : PayloadShape)
  | map (key value : PayloadShape)
  | optional (inner : PayloadShape)
  deriving Repr, DecidableEq, Inhabited

inductive RegistryError where
  | unsupportedKeyType (marker found : String)
  | unsupportedNestedShape (marker found : String)
  | conflictingDefinition (marker : String) (target : Target)
  | invalidName (name : String)
  deriving Repr, DecidableEq, Inhabited

def RegistryError.message : RegistryError → String
  | .unsupportedKeyType marker found =>
      "marker `" ++ marker ++ "`: map arguments must use string keys, found " ++ found
  | .unsupportedNestedShape marker found =>
      "marker `" ++ marker ++ "`: unsupported nested argument shape " ++ found
  | .conflictingDefinition marker target =>
      "marker `" ++ marker ++ "` is already registered for " ++ target.name ++
        " with a different definition"
  | .invalidName name => "invalid marker name `" ++ name ++ "`"

inductive PayloadValue where
  /-- No payload was given, and none is required. -/
  | absent
  | string (text : String)
  | int (value : Int)
  | bool (value : Bool)
  | any (text : String)
  | list (items : List PayloadValue)
  | map (entries : List (String × PayloadValue))
  deriving Repr, Inhabited

def PayloadValue.text? : PayloadValue → Option String
  | .string text => some text
  | .any text => some text
  | _ => none

namespace PayloadShape

def display : PayloadShape → String
  | .string => "string"
  | .int => "int"
  | .bool => "bool"
  | .any => "any"
  | .list item => "list<" ++ item.display ++ ">"
  | .map key value => "map<" ++ key.display ++ ", " ++ value.display ++ ">"
  | .optional inner => "optional<" ++ inner.display ++ ">"

def isOptional : PayloadShape → Bool
  | .optional _ => true
  | _ => false

/-- Check a shape below another one: keys of maps are texts, and nothing is
optional. -/
def checkNested (marker : String) : PayloadShape → Except RegistryError Unit
  | .string | .int | .bool | .any => .ok ()
  | .list item => item.checkNested marker
  | .map key value =>
      if key = .string then value.checkNested marker
      else .error (.unsupportedKeyType marker key.display)
  | .optional inner =>
      .error (.unsupportedNestedShape marker (PayloadShape.optional inner).display)

def check (marker : String) : PayloadShape → Except RegistryError Unit
  | .optional inner =>
      if inner.isOptional then
        .error (.unsupportedNestedShape marker (PayloadShape.optional inner).display)
      else
        inner.checkNested marker
  | shape => shape.checkNested marker

end PayloadShape

/-- An integer of 64 bits: decimal digits after an optional sign. -/
def readInt? (text : List Char) : Option Int := do
  let value ← match text with
    | '-' :: digits => (Text.digitsOf? 10 digits).map fun value => -(value : Int)
    | '+' :: digits => (Text.digitsOf? 10 digits).map fun value => (value : Int)
    | digits => (Text.digitsOf? 10 digits).map fun value => (value : Int)
  if -(Nat.pow 2 63 : Int) ≤ value ∧ value < Nat.pow 2 63 then some value else none

def payloadPieces (separator : Char) (text : String) : List String :=
  (Text.pieces separator text).filterMap Text.nonBlank?

namespace PayloadShape

/-- Read every piece, up to the first that cannot be read. -/
def readAll (read : String → Except DirectiveError PayloadValue) :
    List String → Except DirectiveError (List PayloadValue)
  | [] => .ok []
  | piece :: rest => do
      let value ← read piece
      let others ← readAll read rest
      return value :: others

/-- Read every entry of a map after those already read; later entries win. -/
def readEntries (invalid : DirectiveError)
    (read : String → Except DirectiveError PayloadValue) :
    List (String × PayloadValue) → List String →
      Except DirectiveError (List (String × PayloadValue))
  | entries, [] => .ok entries
  | entries, piece :: rest =>
      match Text.cutFirst? ':' piece with
      | none => .error invalid
      | some (key, raw) => do
          let value ← read (Text.trim raw)
          readEntries invalid read (Keyed.insert (Text.trim key) value entries) rest

def read : PayloadShape → String → Except DirectiveError PayloadValue
  | .string, raw => .ok (.string raw)
  | .any, raw => .ok (.any raw)
  | .int, raw =>
      match readInt? (Text.trimChars raw.toList) with
      | some value => .ok (.int value)
      | none => .error (.invalidPayload raw PayloadShape.int.display)
  | .bool, raw =>
      match Text.trim raw with
      | "true" => .ok (.bool true)
      | "false" => .ok (.bool false)
      | _ => .error (.invalidPayload raw PayloadShape.bool.display)
  | .list item, raw => (readAll item.read (payloadPieces ';' raw)).map .list
  | .map key value, raw =>
      (readEntries (.invalidPayload raw (PayloadShape.map key value).display) value.read []
        (payloadPieces ',' raw)).map .map
  | .optional inner, raw => inner.read raw

end PayloadShape

end RestModel
