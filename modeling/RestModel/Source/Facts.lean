import RestModel.Keyed
import RestModel.Resource.Fact
import RestModel.Source.Reader

/-! # Facts of a source file

Lines of doc comments that start with a plus sign are directives. A field whose type
has the type of a resource as its first argument is a handle; struct literals say how
it is initialised. -/

namespace RestModel.Source

/-! ## Directives -/

def directiveLines (docs : List String) : List String :=
  docs.filter fun line => line.toList.head? == some '+'

def directivesOf (origin declaration : String) (target : Target) (docs : List String) :
    List DirectiveFact :=
  (directiveLines docs).map fun line => ⟨declaration, target, line, origin⟩

mutual
def itemDirectives (origin : String) : Code → List DirectiveFact
  | .struct name docs _ fields =>
      directivesOf origin name .type docs ++
        fields.flatMap fun
          | .field _ (some field) docs _ =>
              directivesOf origin (name ++ "." ++ field) .field docs
          | _ => []
  | .named name docs _ => directivesOf origin name .type docs
  | .module _ items => itemsDirectives origin items
  | _ => []

def itemsDirectives (origin : String) : List Code → List DirectiveFact
  | [] => []
  | item :: rest => itemDirectives origin item ++ itemsDirectives origin rest
end

def SourceFile.directives (origin : String) (file : SourceFile) : List DirectiveFact :=
  directivesOf origin origin .package file.docs ++ itemsDirectives origin file.items

/-! ## Handles -/

def resourceOf? : Code → Option String
  | .path _ _ (.path _ name _ :: _) => some name
  | _ => none

/-- The handles that a struct declares: their fields, with their resources and the lines
of their doc comments. -/
def handles : Code → List (String × String × List String)
  | .struct _ _ _ fields => fields.filterMap fun
      | .field _ (some name) docs type => do
          let resource ← resourceOf? type
          return (name, resource, docs)
      | _ => none
  | _ => []

structure Initialiser where
  basePath : Option String
  operations : List String
  deriving Repr, DecidableEq

namespace Initialiser

def empty : Initialiser := ⟨none, []⟩

def saysSomething (initialiser : Initialiser) : Bool :=
  initialiser.basePath.isSome || !initialiser.operations.isEmpty

def operationNames : List String :=
  ["C", "L", "R", "U", "D", "Create", "List", "Read", "Update", "Delete"]

/-- Add a text: the first one is the base path. -/
def addText (initialiser : Initialiser) (content : String) : Initialiser :=
  { initialiser with basePath := initialiser.basePath.or (some content) }

/-- Add a name, if it is that of an operation. Each counts once. -/
def addName (initialiser : Initialiser) (name : String) : Initialiser :=
  if operationNames.contains name && !initialiser.operations.contains name then
    { initialiser with operations := initialiser.operations ++ [name] }
  else
    initialiser

mutual
/-- Add what an expression says. Texts and names count in arguments, in receivers of
methods and in rows. -/
def scan (initialiser : Initialiser) : Code → Initialiser
  | .text content => initialiser.addText content
  | .path _ name _ => initialiser.addName name
  | .call _ arguments => initialiser.scanAll arguments
  | .method receiver _ arguments => (initialiser.scan receiver).scanAll arguments
  | .row items => initialiser.scanAll items
  | .attributed _ inner => initialiser.scan inner
  | _ => initialiser

def scanAll (initialiser : Initialiser) : List Code → Initialiser
  | [] => initialiser
  | code :: rest => (initialiser.scan code).scanAll rest
end

end Initialiser

/-- The fields that a struct literal initialises, with what it says about each. -/
def initialisers : Code → List (String × Initialiser)
  | .record _ entries _ => entries.filterMap fun
      | .entry _ (some name) value =>
          let initialiser := Initialiser.empty.scan value
          if initialiser.saysSomething then some (name, initialiser) else none
      | _ => none
  | _ => []

/-- The handles in a file, by field. Of several fields of one name, and of several struct
literals that initialise it, the last one counts. -/
def SourceFile.wiring (origin : String) (file : SourceFile) : List WiringFact :=
  let pieces := Code.piecesOf file.items
  let initialisers := Keyed.ofList (pieces.flatMap initialisers)
  (Keyed.ofList (pieces.flatMap handles)).map fun (field, resource, comments) =>
    let initialiser := (Keyed.get? field initialisers).getD .empty
    ⟨resource, field, initialiser.basePath, initialiser.operations, comments, origin⟩

/-! ## Texts -/

inductive SourceError where
  | unreadable
  deriving Repr, DecidableEq

namespace SourceError

def message : SourceError → String
  | .unreadable => "Failed to parse Rust source"

end SourceError

def directivesOfText (origin text : String) : Except SourceError (List DirectiveFact) :=
  match SourceFile.ofText? text with
  | some file => .ok (file.directives origin)
  | none => .error .unreadable

def wiringOfText (origin text : String) : Except SourceError (List WiringFact) :=
  match SourceFile.ofText? text with
  | some file => .ok (file.wiring origin)
  | none => .error .unreadable

end RestModel.Source
