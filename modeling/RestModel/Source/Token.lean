import RestModel.Source.Literal
import RestModel.Text.Blank

/-! # Tokens of Rust

Source code is cut into tokens, and what stands between brackets is one token. A
doc comment is cut like the attribute it stands for. -/

namespace RestModel.Source

inductive Delimiter where
  | parenthesis
  | bracket
  | brace
  deriving DecidableEq, Repr

namespace Delimiter

def ofOpening? : Char → Option Delimiter
  | '(' => some .parenthesis
  | '[' => some .bracket
  | '{' => some .brace
  | _ => none

def ofClosing? : Char → Option Delimiter
  | ')' => some .parenthesis
  | ']' => some .bracket
  | '}' => some .brace
  | _ => none

end Delimiter

inductive Token where
  | word (name : String)
  | lifetime (name : String)
  | text (content : String)
  | whole (value : Nat) (hasSuffix : Bool)
  | decimal (spelling : String)
  | literal
  /-- A sign, and whether another one follows at once. -/
  | sign (character : Char) (isJoint : Bool)
  | group (delimiter : Delimiter) (content : List Token)
  deriving Repr, Inhabited

mutual
def Token.count : Token → Nat
  | .group _ content => countTokens content + 1
  | _ => 1

def countTokens : List Token → Nat
  | [] => 0
  | token :: rest => token.count + countTokens rest
end

/-! ## Comments -/

def readLine : List Char → List Char × List Char
  | [] => ([], [])
  | '\n' :: rest => ([], '\n' :: rest)
  | '\r' :: '\n' :: rest => ([], '\n' :: rest)
  | c :: rest =>
      let (line, rest) := readLine rest
      (c :: line, rest)

/-- Read the rest of a block comment with a number of open levels, after the
characters read so far, last one first. -/
def readBlockEnd : (level : Nat) → List Char → List Char → Option (List Char × List Char)
  | _, _, [] => none
  | level, read, '/' :: '*' :: rest => readBlockEnd (level + 1) ('*' :: '/' :: read) rest
  | level, read, '*' :: '/' :: rest =>
      if level ≤ 1 then some (read.reverse, rest)
      else readBlockEnd (level - 1) ('/' :: '*' :: read) rest
  | level, read, c :: rest => readBlockEnd level (c :: read) rest

def isPlainBlock : List Char → Bool
  | '/' :: '*' :: '*' :: '/' :: _ => true
  | '/' :: '*' :: '*' :: '*' :: _ => true
  | '/' :: '*' :: '*' :: _ => false
  | '/' :: '*' :: '!' :: _ => false
  | '/' :: '*' :: _ => true
  | _ => false

def isPlainLine : List Char → Bool
  | '/' :: '/' :: '/' :: '/' :: _ => true
  | '/' :: '/' :: '/' :: _ => false
  | '/' :: '/' :: '!' :: _ => false
  | '/' :: '/' :: _ => true
  | _ => false

def isSpace (c : Char) : Bool :=
  if c.toNat < 128 then c == ' ' || (9 ≤ c.toNat && c.toNat ≤ 13)
  else Text.isBlank c || c.toNat == 0x200E || c.toNat == 0x200F

/-- Move past blanks and comments that document nothing. A block comment without an
end is not moved past. -/
def skipSpace : (fuel : Nat) → List Char → List Char
  | 0, text => text
  | fuel + 1, text =>
      if isPlainLine text then
        skipSpace fuel (readLine text).2
      else if isPlainBlock text then
        match readBlockEnd 1 [] (text.drop 2) with
        | some (_, rest) => skipSpace fuel rest
        | none => text
      else
        match text with
        | c :: rest => if isSpace c then skipSpace fuel rest else text
        | [] => []

/-- Read a doc comment: whether it documents what it stands in, its text, and what
follows it. -/
def readDoc (text : List Char) : Option (Bool × List Char × List Char) :=
  let ofLine := fun isInner text =>
    let (line, rest) := readLine text
    some (isInner, line, rest)
  let ofBlock := fun isInner text =>
    (readBlockEnd 1 [] text).map fun (content, rest) => (isInner, content, rest)
  match text with
  | '/' :: '/' :: '!' :: rest => ofLine true rest
  | '/' :: '*' :: '!' :: rest => ofBlock true rest
  | '/' :: '/' :: '/' :: '/' :: _ => none
  | '/' :: '/' :: '/' :: rest => ofLine false rest
  | '/' :: '*' :: '*' :: '*' :: _ => none
  | '/' :: '*' :: '*' :: rest => ofBlock false rest
  | _ => none

def hasWholeLineEnds : List Char → Bool
  | [] => true
  | '\r' :: '\n' :: rest => hasWholeLineEnds rest
  | c :: rest => c != '\r' && hasWholeLineEnds rest

/-- The tokens of the attribute that a doc comment stands for, last one first. -/
def docTokens (isInner : Bool) (content : List Char) : List Token :=
  let brackets := Token.group .bracket
    [.word "doc", .sign '=' false, .text (String.ofList content)]
  if isInner then [brackets, .sign '!' false, .sign '#' false]
  else [brackets, .sign '#' false]

/-! ## Single tokens -/

/-- Whether a sign starts a text. A slash that starts a comment is none. -/
def startsSign : List Char → Bool
  | '/' :: '/' :: _ => false
  | '/' :: '*' :: _ => false
  | c :: _ => "~!@#$%^&*-=+|;:,<.>/?'".toList.contains c
  | [] => false

def readLiteral (text : List Char) : Option (Token × List Char) :=
  let asText := fun (result : Option (String × List Char)) =>
    result.map fun (content, rest) => (Token.text content, rest)
  let asOther := fun (result : Option (String × List Char)) =>
    result.map fun (_, rest) => (Token.literal, rest)
  let fuel := text.length + 1
  let quoted := match text with
    | '"' :: rest => asText (readQuoted .text fuel [] rest)
    | 'r' :: rest => asText (readRaw .text rest)
    | 'b' :: '"' :: rest => asOther (readQuoted .bytes fuel [] rest)
    | 'b' :: 'r' :: rest => asOther (readRaw .bytes rest)
    | 'b' :: '\'' :: rest => (readCharacter .bytes rest).map fun rest => (Token.literal, rest)
    | 'c' :: '"' :: rest => asOther (readQuoted .terminated fuel [] rest)
    | 'c' :: 'r' :: rest => asOther (readRaw .terminated rest)
    | '\'' :: rest => (readCharacter .text rest).map fun rest => (Token.literal, rest)
    | _ => none
  let decimal := do
    let (spelling, rest) ← readDecimal text
    let (suffix, rest) ← readNumberEnd rest
    return (Token.decimal (String.ofList (spelling ++ suffix)), rest)
  let whole := do
    let (value, hasSuffix, rest) ← readWhole text
    return (Token.whole value hasSuffix, rest)
  quoted.or (decimal.or whole)

def startsQuotation (text : List Char) : Bool :=
  ["r\"", "r#\"", "r##", "b\"", "b'", "br\"", "br#", "c\"", "cr\"", "cr#"].any fun start =>
    start.toList.isPrefixOf text

/-- Read a sign. A single quote starts a lifetime. -/
def readSign (text : List Char) : Option (Token × List Char) :=
  match text with
  | '\'' :: rest => do
      let (name, after) ← readAnyName rest
      let isRaw := "r#".toList.isPrefixOf rest
      if after.head? == some '\'' || (after.head? == some '#' && !isRaw) then
        none
      return (.lifetime name, after)
  | c :: rest => if startsSign text then some (.sign c (startsSign rest), rest) else none
  | [] => none

def readLeaf (text : List Char) : Option (Token × List Char) :=
  (readLiteral text).or <| (readSign text).or <|
    if startsQuotation text then none
    else (readAnyName text).map fun (name, rest) => (.word name, rest)

/-! ## Brackets -/

/-- Read the tokens of a text, given the tokens since the last bracket that is still
open, last one first, and the brackets that are open with the tokens before each. -/
def readTokens : (fuel : Nat) → List Token → List (Delimiter × List Token) → List Char →
    Option (List Token)
  | 0, _, _, _ => none
  | fuel + 1, read, outer, text =>
      let text := skipSpace fuel text
      let doc := (readDoc text).filter fun (_, content, _) => hasWholeLineEnds content
      match doc, text with
      | some (isInner, content, rest), _ =>
          readTokens fuel (docTokens isInner content ++ read) outer rest
      | none, [] => if outer.isEmpty then some read.reverse else none
      | none, c :: rest =>
          match Delimiter.ofOpening? c, Delimiter.ofClosing? c, outer with
          | some delimiter, _, _ => readTokens fuel [] ((delimiter, read) :: outer) rest
          | none, some closing, (delimiter, before) :: outer =>
              if closing = delimiter then
                readTokens fuel (.group delimiter read.reverse :: before) outer rest
              else
                none
          | none, some _, [] => none
          | none, none, _ => do
              let (token, rest) ← readLeaf text
              readTokens fuel (token :: read) outer rest

def tokens? (text : List Char) : Option (List Token) :=
  readTokens (text.length + 1) [] [] text

end RestModel.Source
