/-! # Positions in a YAML text -/

namespace RestModel.Yaml

def isBreak (c : Char) : Bool :=
  c == '\n' || c == '\r' || c.toNat == 0x85 || c.toNat == 0x2028 || c.toNat == 0x2029

def isSpace (c : Char) : Bool := c == ' ' || c == '\t'

/-- A place in a text: what follows it, and where it is. Columns count characters,
and `offset` counts the bytes before the place. -/
structure Cursor where
  rest : List Char
  line : Nat
  column : Nat
  offset : Nat

namespace Cursor

def start (text : List Char) : Cursor := ⟨text, 0, 0, 0⟩

def peek? (cursor : Cursor) : Option Char := cursor.rest.head?

def isAt (cursor : Cursor) (c : Char) : Bool := cursor.rest.head? == some c

def isAtEnd (cursor : Cursor) : Bool := cursor.rest.isEmpty

def isAtBreak (cursor : Cursor) : Bool := cursor.rest.head?.any isBreak

def isAtSpace (cursor : Cursor) : Bool := cursor.rest.head?.any isSpace

/-- Whether a text has a blank or a line's end at its start, or is empty. -/
def startsBlank : List Char → Bool
  | [] => true
  | c :: _ => isSpace c || isBreak c

def isAtBlank (cursor : Cursor) : Bool := startsBlank cursor.rest

def isBeforeBlank (cursor : Cursor) : Bool := startsBlank cursor.rest.tail

def bytes (characters : List Char) : Nat :=
  characters.foldl (fun count c => count + c.utf8Size) 0

def skipMany (cursor : Cursor) (count : Nat) : Cursor :=
  ⟨cursor.rest.drop count, cursor.line, cursor.column + count,
    cursor.offset + bytes (cursor.rest.take count)⟩

def skip (cursor : Cursor) : Cursor := cursor.skipMany 1

def skipWhile (cursor : Cursor) (test : Char → Bool) : Cursor :=
  cursor.skipMany (cursor.rest.takeWhile test).length

/-- Move past a line's end. A carriage return and a line feed are one. -/
def skipBreak (cursor : Cursor) : Cursor :=
  match cursor.rest with
  | '\r' :: '\n' :: rest => ⟨rest, cursor.line + 1, 0, cursor.offset + 2⟩
  | c :: rest => ⟨rest, cursor.line + 1, 0, cursor.offset + c.utf8Size⟩
  | [] => cursor

def breakText (cursor : Cursor) : List Char :=
  match cursor.rest with
  | c :: _ => if c.toNat == 0x2028 || c.toNat == 0x2029 then [c] else ['\n']
  | [] => []

/-- Whether a mark of documents follows: three equal characters at the start of a
line, and a blank. -/
def isAtDocumentMark (cursor : Cursor) (mark : Char) : Bool :=
  cursor.column == 0 &&
    match cursor.rest with
    | a :: b :: c :: rest => a == mark && b == mark && c == mark && startsBlank rest
    | _ => false

def isAtDocument (cursor : Cursor) : Bool :=
  cursor.isAtDocumentMark '-' || cursor.isAtDocumentMark '.'

def skipLine (cursor : Cursor) : Cursor := cursor.skipWhile fun c => !isBreak c

end Cursor

end RestModel.Yaml
