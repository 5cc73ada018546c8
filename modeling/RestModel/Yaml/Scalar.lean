import RestModel.Text.Digits
import RestModel.Yaml.Cursor

/-! # Scalars of YAML

A scalar is plain, quoted or a block of lines. Where a plain or quoted scalar
goes on in the next line, the line's end counts as a blank, and empty lines count
as one line's end each. -/

namespace RestModel.Yaml

/-- The blanks and line ends met within a scalar since its last character. -/
structure Gap where
  spaces : List Char
  first : Option (List Char)
  others : List Char

namespace Gap

def empty : Gap := ⟨[], none, []⟩

/-- The text that a gap stands for. -/
def text (gap : Gap) : List Char :=
  match gap.first with
  | none => gap.spaces
  | some ['\n'] => if gap.others.isEmpty then [' '] else gap.others
  | some first => first ++ gap.others

def addBreak (gap : Gap) (text : List Char) : Gap :=
  match gap.first with
  | none => ⟨[], some text, []⟩
  | some first => ⟨gap.spaces, some first, gap.others ++ text⟩

/-- Add a blank, which counts only before any line's end. -/
def addSpace (gap : Gap) (c : Char) : Gap :=
  match gap.first with
  | none => { gap with spaces := gap.spaces ++ [c] }
  | some _ => gap

def hasBreak (gap : Gap) : Bool := gap.first.isSome

end Gap

/-- Read the blanks and line ends at a place. Before `indent`, no tab may follow a
line's end. -/
def readGap (indent : Int) : (fuel : Nat) → Cursor → Gap → Option (Gap × Cursor)
  | 0, _, _ => none
  | fuel + 1, cursor, gap =>
      match cursor.peek? with
      | none => some (gap, cursor)
      | some c =>
          if isSpace c then
            if gap.hasBreak && (cursor.column : Int) < indent && c == '\t' then none
            else readGap indent fuel cursor.skip (gap.addSpace c)
          else if isBreak c then
            readGap indent fuel cursor.skipBreak (gap.addBreak cursor.breakText)
          else
            some (gap, cursor)

def isFlowIndicator (c : Char) : Bool := [',', '[', ']', '{', '}'].contains c

/-- Read the characters of a plain scalar up to a blank or its end. The first
result is reversed. A colon before a bracket is an error. -/
def readPlainRun (inFlow : Bool) : List Char → List Char → Option (List Char × List Char)
  | read, [] => some (read, [])
  | read, c :: rest =>
      if isSpace c || isBreak c then
        some (read, c :: rest)
      else if inFlow && c == ':' && rest.head?.any (fun d => d == '?' || isFlowIndicator d) then
        none
      else if (c == ':' && Cursor.startsBlank rest) || (inFlow && isFlowIndicator c) then
        some (read, c :: rest)
      else
        readPlainRun inFlow (c :: read) rest

/-- Read a plain scalar up to its end, after the characters read so far, last one
first. The last result says whether it was followed by a line's end. -/
def readPlain (inFlow : Bool) (indent : Int) : (fuel : Nat) → Cursor → List Char → Gap →
    Option (List Char × Cursor × Bool)
  | 0, _, _, _ => none
  | fuel + 1, cursor, read, gap =>
      if cursor.isAtDocument || cursor.isAt '#' then
        some (read.reverse, cursor, gap.hasBreak)
      else
        match readPlainRun inFlow [] cursor.rest with
        | none => none
        | some (run, _) =>
            let after := cursor.skipMany run.length
            let read := if run.isEmpty then read else run ++ gap.text.reverse ++ read
            let gap := if run.isEmpty then gap else .empty
            if !(after.isAtSpace || after.isAtBreak) then
              some (read.reverse, after, gap.hasBreak)
            else
              match readGap indent (after.rest.length + 1) after gap with
              | none => none
              | some (gap, next) =>
                  if !inFlow && (next.column : Int) < indent then
                    some (read.reverse, next, gap.hasBreak)
                  else
                    readPlain inFlow indent fuel next read gap

def escapeChar? : Char → Option Char
  | '0' => some (Char.ofNat 0)
  | 'a' => some (Char.ofNat 7)
  | 'b' => some (Char.ofNat 8)
  | 't' | '\t' => some '\t'
  | 'n' => some '\n'
  | 'v' => some (Char.ofNat 11)
  | 'f' => some (Char.ofNat 12)
  | 'r' => some '\r'
  | 'e' => some (Char.ofNat 27)
  | ' ' => some ' '
  | '"' => some '"'
  | '\'' => some '\''
  | '/' => some '/'
  | '\\' => some '\\'
  | 'N' => some (Char.ofNat 0x85)
  | '_' => some (Char.ofNat 0xA0)
  | 'L' => some (Char.ofNat 0x2028)
  | 'P' => some (Char.ofNat 0x2029)
  | _ => none

def escapeDigits? : Char → Option Nat
  | 'x' => some 2
  | 'u' => some 4
  | 'U' => some 8
  | _ => none

/-- Read the characters of a quoted scalar up to a blank or its closing quote. The
first result is reversed; the last one says that a line's end was escaped. -/
def readQuotedRun (double : Bool) : (fuel : Nat) → Cursor → List Char →
    Option (List Char × Cursor × Bool)
  | 0, _, _ => none
  | fuel + 1, cursor, read =>
      match cursor.rest with
      | [] => none
      | '\'' :: '\'' :: _ =>
          if double then readQuotedRun double fuel cursor.skip ('\'' :: read)
          else readQuotedRun double fuel (cursor.skipMany 2) ('\'' :: read)
      | '\'' :: _ =>
          if double then readQuotedRun double fuel cursor.skip ('\'' :: read)
          else some (read, cursor, false)
      | '"' :: _ =>
          if double then some (read, cursor, false)
          else readQuotedRun double fuel cursor.skip ('"' :: read)
      | '\\' :: rest =>
          if !double then
            readQuotedRun double fuel cursor.skip ('\\' :: read)
          else
            match rest with
            | [] => none
            | c :: rest =>
                if isBreak c then
                  some (read, cursor.skip.skipBreak, true)
                else
                  match escapeChar? c, escapeDigits? c with
                  | some escaped, _ =>
                      readQuotedRun double fuel (cursor.skipMany 2) (escaped :: read)
                  | none, some count =>
                      match Text.charOfHex? (rest.take count) with
                      | some escaped =>
                          if count ≤ rest.length then
                            readQuotedRun double fuel (cursor.skipMany (2 + count))
                              (escaped :: read)
                          else
                            none
                      | none => none
                  | none, none => none
      | c :: _ =>
          if isSpace c || isBreak c then some (read, cursor, false)
          else readQuotedRun double fuel cursor.skip (c :: read)

def readQuoted (double : Bool) : (fuel : Nat) → Cursor → List Char →
    Option (List Char × Cursor)
  | 0, _, _ => none
  | fuel + 1, cursor, read =>
      if cursor.isAtDocument then
        none
      else
        match readQuotedRun double (cursor.rest.length + 1) cursor read with
        | none => none
        | some (read, cursor, escaped) =>
            if !escaped && cursor.isAt (if double then '"' else '\'') then
              some (read.reverse, cursor.skip)
            else
              let gap : Gap := if escaped then ⟨[], some [], []⟩ else .empty
              match readGap (-1) (cursor.rest.length + 1) cursor gap with
              | none => none
              | some (gap, next) => readQuoted double fuel next (gap.text.reverse ++ read)

/-- How the line ends after a block of lines are kept. -/
inductive Chomping where
  | strip
  | clip
  | keep
  deriving DecidableEq

def readBlockHeader : List Char → Chomping × Option Nat × Nat
  | '+' :: c :: _ => if c.isDigit then (.keep, some (c.toNat - 48), 2) else (.keep, none, 1)
  | '-' :: c :: _ => if c.isDigit then (.strip, some (c.toNat - 48), 2) else (.strip, none, 1)
  | ['+'] => (.keep, none, 1)
  | ['-'] => (.strip, none, 1)
  | c :: '+' :: _ => if c.isDigit then (.keep, some (c.toNat - 48), 2) else (.clip, none, 0)
  | c :: '-' :: _ => if c.isDigit then (.strip, some (c.toNat - 48), 2) else (.clip, none, 0)
  | c :: _ => if c.isDigit then (.clip, some (c.toNat - 48), 1) else (.clip, none, 0)
  | [] => (.clip, none, 0)

/-- Read the empty lines of a block. Without a known indentation, `widest` is the
widest one met so far. The result ends at the start of a line's content. -/
def readBlockGap (indent : Nat) : (fuel : Nat) → Cursor → (widest : Nat) → List Char →
    Option (List Char × Nat × Cursor)
  | 0, _, _, _ => none
  | fuel + 1, cursor, widest, read =>
      let spaces := (cursor.rest.takeWhile (· == ' ')).length
      let count := if indent = 0 then spaces else min spaces (indent - cursor.column)
      let after := cursor.skipMany count
      let widest := max widest after.column
      if (indent = 0 || after.column < indent) && after.isAt '\t' then
        none
      else if after.isAtBreak then
        readBlockGap indent fuel after.skipBreak widest (read ++ after.breakText)
      else
        some (read, widest, after)

/-- Read the lines of a block, after the characters read so far, last one first.
`lead` is the line's end before the next line, `gap` are the empty lines after it,
and `indented` says that the line before started with a blank. -/
def readBlockLines (literal : Bool) (indent : Nat) : (fuel : Nat) → Cursor → List Char →
    (lead gap : List Char) → (indented : Bool) → Option (List Char × List Char × List Char × Cursor)
  | 0, _, _, _, _, _ => none
  | fuel + 1, cursor, read, lead, gap, indented =>
      if cursor.column = indent && !cursor.isAtEnd then
        let starts := cursor.isAtSpace
        let joint :=
          if !literal && lead == ['\n'] && !indented && !starts then
            if gap.isEmpty then [' '] else gap
          else
            lead ++ gap
        let line := cursor.rest.takeWhile fun c => !isBreak c
        let read := line.reverse ++ joint.reverse ++ read
        let after := cursor.skipMany line.length
        let lead := after.breakText
        match readBlockGap indent (after.rest.length + 2) after.skipBreak 0 [] with
        | none => none
        | some (gap, _, next) => readBlockLines literal indent fuel next read lead gap starts
      else
        some (read, lead, gap, cursor)

def readBlock (literal : Bool) (parent : Int) (cursor : Cursor) : Option (List Char × Cursor) := do
  let (chomping, increment, used) := readBlockHeader cursor.rest
  if increment = some 0 then
    none
  let cursor := (cursor.skipMany used).skipWhile isSpace
  let cursor := if cursor.isAt '#' then cursor.skipLine else cursor
  if !(cursor.isAtBreak || cursor.isAtEnd) then
    none
  let cursor := if cursor.isAtBreak then cursor.skipBreak else cursor
  let known := match increment with
    | none => 0
    | some increment => (max parent 0).toNat + increment
  let fuel := cursor.rest.length + 2
  let (gap, widest, cursor) ← readBlockGap known fuel cursor 0 []
  let indent := if known = 0 then max widest (max (parent + 1).toNat 1) else known
  let (read, lead, gap, cursor) ← readBlockLines literal indent fuel cursor [] [] gap false
  let tail := match chomping with
    | .strip => []
    | .clip => lead
    | .keep => lead ++ gap
  return (read.reverse ++ tail, cursor)

end RestModel.Yaml
