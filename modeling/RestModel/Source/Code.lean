import RestModel.Text.Blank

/-! # Pieces of code

Source code as far as facts depend on it: structs with their fields, the literals
that make values of them, and what can stand in such a literal. The rest of a
source is kept for what it contains. -/

namespace RestModel.Source

inductive Code where
  | text (content : String)
  /-- A path, in a type or an expression: its last name, the arguments of that
  between angle brackets, and the code in the rest of it. -/
  | path (others : List Code) (name : String) (arguments : List Code)
  | call (callee : Code) (arguments : List Code)
  | method (receiver : Code) (others arguments : List Code)
  /-- The items of an array or a tuple, or what a pair of parentheses or a reference
  holds. -/
  | row (items : List Code)
  | record (before entries after : List Code)
  /-- An entry of a struct literal; the name is absent if it is a number. -/
  | entry (others : List Code) (name : Option String) (value : Code)
  | struct (name : String) (docs : List String) (others fields : List Code)
  /-- A field of a declaration; the name is absent if it has none. -/
  | field (others : List Code) (name : Option String) (docs : List String) (type : Code)
  /-- The declaration of an enum or of another name for a type. -/
  | named (name : String) (docs : List String) (others : List Code)
  | module (others items : List Code)
  | attributed (others : List Code) (inner : Code)
  | other (parts : List Code)
  deriving Repr, Inhabited

namespace Code

mutual
/-- A piece of code and all the pieces in it, each before its own pieces, in the
order of the source. -/
def pieces : Code → List Code
  | .text content => [.text content]
  | .path others name arguments =>
      .path others name arguments :: piecesOf others ++ piecesOf arguments
  | .call callee arguments => .call callee arguments :: callee.pieces ++ piecesOf arguments
  | .method receiver others arguments =>
      .method receiver others arguments ::
        receiver.pieces ++ piecesOf others ++ piecesOf arguments
  | .row items => .row items :: piecesOf items
  | .record before entries after =>
      .record before entries after :: piecesOf before ++ piecesOf entries ++ piecesOf after
  | .entry others name value => .entry others name value :: piecesOf others ++ value.pieces
  | .struct name docs others fields =>
      .struct name docs others fields :: piecesOf others ++ piecesOf fields
  | .field others name docs type =>
      .field others name docs type :: piecesOf others ++ type.pieces
  | .named name docs others => .named name docs others :: piecesOf others
  | .module others items => .module others items :: piecesOf others ++ piecesOf items
  | .attributed others inner => .attributed others inner :: piecesOf others ++ inner.pieces
  | .other parts => .other parts :: piecesOf parts

def piecesOf : List Code → List Code
  | [] => []
  | code :: rest => code.pieces ++ piecesOf rest
end

def withAttributes (others : List Code) (code : Code) : Code :=
  if others.isEmpty then code else .attributed others code

end Code

structure SourceFile where
  docs : List String
  items : List Code

end RestModel.Source
