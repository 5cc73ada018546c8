import RestModel.Source.Grammar.Item

/-! # Source files

A source file is a row of items. `SourceFile.ofText?` reads one, or finds that the text
is none. -/

namespace RestModel.Source

/-- The grammar with a number of levels of nesting. A rule takes a token at least every
fifth level. -/
def grammar : (levels : Nat) → Grammar
  | 0 => .empty
  | levels + 1 =>
      { type := fun allowsSum => (grammar levels).typeRule allowsSum
        bound := fun allowsCapture => (grammar levels).anyBound allowsCapture
        path := fun inExpression => (grammar levels).anyPath inExpression
        expression := fun allowsRecord => (grammar levels).expressionRule allowsRecord
        operand := fun allowsRecord => (grammar levels).operandRule allowsRecord
        statement := fun tokens => (grammar levels).statementRule tokens
        pattern := fun tokens => (grammar levels).patternRule tokens
        statements := fun tokens => (grammar levels).statementsRule tokens
        fields := fun tokens => (grammar levels).fieldsRule tokens
        item := fun attributes => (grammar levels).itemRule attributes
        useTree := fun allowsGlobal => (grammar levels).useTreeRule allowsGlobal }

namespace SourceFile

open RestModel.Source.Parser

def ofTokens? (tokens : List Token) : Option SourceFile :=
  let g := grammar (5 * countTokens tokens + 5)
  let file : Parser SourceFile := do
    let attributes ← g.innerAttributes
    let items ← untilEnd do
      let attributes ← g.outerAttributes
      g.item attributes
    let code := attributeCode attributes
    return ⟨innerDocLines attributes, if code.isEmpty then items else .other code :: items⟩
  (file.run tokens).map (·.1)

/-- Drop the mark that tells the order of bytes. -/
def withoutMark (text : List Char) : List Char :=
  match text with
  | '\uFEFF' :: rest => rest
  | _ => text

/-- Drop a first line that names the program to run. A number sign and an exclamation
mark start an attribute if a bracket follows. -/
def withoutRunner (text : List Char) : List Char :=
  match text with
  | '#' :: '!' :: rest =>
      if (skipSpace (rest.length + 1) rest).head? == some '[' then text
      else text.dropWhile (· != '\n')
  | _ => text

/-- Read a source file. A second mark after the first is no part of the text either. -/
def ofText? (text : String) : Option SourceFile := do
  ofTokens? (← tokens? (withoutMark (withoutRunner (withoutMark text.toList))))

end SourceFile

end RestModel.Source
