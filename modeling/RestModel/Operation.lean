/-! # Operations on resources

A resource can be created, listed, read, updated and deleted. Every listing has
the operations in this order. -/

namespace RestModel

inductive Operation where
  | create
  | list
  | read
  | update
  | delete
  deriving Repr, DecidableEq, Inhabited

namespace Operation

def all : List Operation := [.create, .list, .read, .update, .delete]

def letter : Operation → Char
  | .create => 'C'
  | .list => 'L'
  | .read => 'R'
  | .update => 'U'
  | .delete => 'D'

def name : Operation → String
  | .create => "Create"
  | .list => "List"
  | .read => "Read"
  | .update => "Update"
  | .delete => "Delete"

def ofLetter? (letter : Char) : Option Operation :=
  all.find? fun operation => operation.letter == letter

def ofIdentifier? (identifier : String) : Option Operation :=
  match identifier.toList with
  | [letter] => ofLetter? letter
  | _ => all.find? fun operation => operation.name == identifier

/-- The distinct operations of a list, in the order of listings. -/
def listing (operations : List Operation) : List Operation :=
  all.filter fun operation => operations.contains operation

theorem listing_listing (operations : List Operation) :
    listing (listing operations) = listing operations := by
  apply List.filter_congr
  intro operation member
  simp [listing, member]

def letters (operations : List Operation) : String :=
  String.ofList (operations.map letter)

end Operation

end RestModel
