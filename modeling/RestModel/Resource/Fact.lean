import RestModel.Directive.Payload

/-! # Facts about sources

Sources contribute two kinds of facts: directives of declarations, and handles
of resources in hand-written code. -/

namespace RestModel

structure DirectiveFact where
  /-- The name of a type, of a type and a field of it, or of a file. -/
  declaration : String
  target : Target
  text : String
  origin : String
  deriving Repr, DecidableEq, Inhabited

/-- The handle of a resource in hand-written code. -/
structure WiringFact where
  resource : String
  field : String
  basePath : Option String
  /-- The operations that initialise the handle, by letter or name. -/
  operations : List String
  comments : List String
  origin : String
  deriving Repr, DecidableEq, Inhabited

structure Facts where
  directives : List DirectiveFact
  wiring : List WiringFact
  deriving Repr, DecidableEq, Inhabited

namespace Facts

def empty : Facts := ⟨[], []⟩

def append (facts others : Facts) : Facts :=
  ⟨facts.directives ++ others.directives, facts.wiring ++ others.wiring⟩

end Facts

def DirectiveFact.location (fact : DirectiveFact) : String :=
  match fact.target with
  | .package => fact.origin
  | _ => fact.origin ++ ":" ++ fact.declaration

def WiringFact.location (fact : WiringFact) : String := fact.origin ++ ":" ++ fact.field

def WiringFact.directiveLines (fact : WiringFact) : List String :=
  fact.comments.filter fun line => line.toList.head? == some '+'

end RestModel
