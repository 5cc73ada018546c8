import RestModel.Yaml.Scalar

/-! # Tokens of YAML

A text is cut into tokens from left to right. Indentation becomes tokens that open
and close blocks; a key whose colon comes after it is marked once the colon is
met. -/

namespace RestModel.Yaml

inductive Token where
  /-- `%YAML`, with the number of the version. -/
  | version (major minor : Nat)
  /-- `%TAG`, with a handle and what it stands for. -/
  | handle (name expansion : List Char)
  | documentStart
  | documentEnd
  | blockSequenceStart
  | blockMappingStart
  | blockEnd
  | flowSequenceStart
  | flowSequenceEnd
  | flowMappingStart
  | flowMappingEnd
  | blockEntry
  | flowEntry
  | key
  | value
  | alias (name : List Char)
  | anchor (name : List Char)
  | tag (handle suffix : List Char)
  /-- A scalar; `isPlain` if it is neither quoted nor a block. -/
  | scalar (text : List Char) (isPlain : Bool)
  deriving DecidableEq, Repr

/-- A place where a key may have begun. -/
structure KeyStart where
  tokenCount : Nat
  line : Nat
  column : Nat
  offset : Nat
  /-- Whether nothing but a key can stand there. -/
  isRequired : Bool

/-- The longest key, in bytes, that may come before its colon. -/
def longestKey : Nat := 1024

/-- Whether a key that began at a place may still end at a cursor. -/
def KeyStart.isInReach (start : KeyStart) (cursor : Cursor) : Bool :=
  start.line == cursor.line && cursor.offset ≤ start.offset + longestKey

structure Scan where
  cursor : Cursor
  tokens : List Token
  /-- The column of the innermost block; `-1` outside of all blocks. -/
  indent : Int
  /-- The columns of the blocks around it, innermost first. -/
  outerIndents : List Int
  /-- The latest place where a key may have begun within the innermost brackets. -/
  keyStart : Option KeyStart
  outerKeyStarts : List (Option KeyStart)
  allowsKey : Bool

namespace Scan

def start (text : List Char) : Scan := ⟨.start text, [], -1, [], none, [], true⟩

def inFlow (scan : Scan) : Bool := !scan.outerKeyStarts.isEmpty

def push (scan : Scan) (token : Token) : Scan := { scan with tokens := token :: scan.tokens }

def insertAt (scan : Scan) (position : Nat) (token : Token) : Scan :=
  let later := scan.tokens.length - position
  { scan with tokens := scan.tokens.take later ++ token :: scan.tokens.drop later }

/-- Give up a key that may have begun. An error if nothing else can stand there. -/
def dropKey (scan : Scan) : Option Scan :=
  match scan.keyStart with
  | some start => if start.isRequired then none else some { scan with keyStart := none }
  | none => some scan

def saveKey (scan : Scan) : Option Scan :=
  if scan.allowsKey then do
    let cursor := scan.cursor
    let isRequired := !scan.inFlow && scan.indent == cursor.column
    let scan ← scan.dropKey
    return { scan with
      keyStart := some ⟨scan.tokens.length, cursor.line, cursor.column, cursor.offset, isRequired⟩ }
  else
    some scan

def refresh (cursor : Cursor) : Option KeyStart → Option (Option KeyStart)
  | none => some none
  | some start =>
      if start.isInReach cursor then some (some start)
      else if start.isRequired then none
      else some none

def dropStaleKeys (scan : Scan) : Option Scan := do
  let keyStart ← refresh scan.cursor scan.keyStart
  let outerKeyStarts ← scan.outerKeyStarts.mapM (refresh scan.cursor)
  return { scan with keyStart, outerKeyStarts }

def openBlock (scan : Scan) (column : Nat) (position : Nat) (token : Token) : Scan :=
  if !scan.inFlow && scan.indent < column then
    { scan.insertAt position token with
      indent := column, outerIndents := scan.indent :: scan.outerIndents }
  else
    scan

/-- The token that closes a block, once for each indentation that is further in
than a column, and the indentations left. -/
def closeBlocks (column : Int) (tokens : List Token) (indent : Int) :
    List Int → List Token × Int × List Int
  | [] => (tokens, indent, [])
  | outer :: rest =>
      if column < indent then closeBlocks column (.blockEnd :: tokens) outer rest
      else (tokens, indent, outer :: rest)

def closeTo (scan : Scan) (column : Int) : Scan :=
  if scan.inFlow then
    scan
  else
    let (tokens, indent, outerIndents) :=
      closeBlocks column scan.tokens scan.indent scan.outerIndents
    { scan with tokens, indent, outerIndents }

def skip (scan : Scan) (count : Nat) : Scan :=
  { scan with cursor := scan.cursor.skipMany count }

def allowingKey (scan : Scan) (allowsKey : Bool) : Scan := { scan with allowsKey }

/-! ## Space between tokens -/

/-- Move past blanks, comments and line ends. A tab is no blank where a key may
begin outside of brackets. -/
def skipSpace : (fuel : Nat) → Scan → Scan
  | 0, scan => scan
  | fuel + 1, scan =>
      let cursor :=
        if scan.cursor.offset == 0 && scan.cursor.peek?.any (·.toNat == 0xFEFF) then
          scan.cursor.skip
        else
          scan.cursor
      let allowsTab := scan.inFlow || !scan.allowsKey
      let cursor := cursor.skipWhile fun c => c == ' ' || (allowsTab && c == '\t')
      let cursor := if cursor.isAt '#' then cursor.skipLine else cursor
      if cursor.isAtBreak then
        skipSpace fuel
          { scan with cursor := cursor.skipBreak, allowsKey := scan.allowsKey || !scan.inFlow }
      else
        { scan with cursor }

/-! ## Names and tags -/

def isNameChar (c : Char) : Bool := c.isAlphanum || c == '_' || c == '-'

/-- Read the characters of an address, of which some are written by number.
The first result is reversed. -/
def readAddress (allowed : Char → Bool) : List Char → List Char → Option (List Char × List Char)
  | read, [] => some (read, [])
  | read, '%' :: a :: b :: rest => do
      let octet ← Text.charOfHex? [a, b]
      readAddress allowed (octet :: read) rest
  | read, c :: rest =>
      if c == '%' then none
      else if allowed c then readAddress allowed (c :: read) rest
      else some (read, c :: rest)

def octetCount? (octet : Char) : Option Nat :=
  if octet.toNat < 0x80 then some 1
  else if 0xC0 ≤ octet.toNat ∧ octet.toNat < 0xE0 then some 2
  else if 0xE0 ≤ octet.toNat ∧ octet.toNat < 0xF0 then some 3
  else if 0xF0 ≤ octet.toNat ∧ octet.toNat < 0xF8 then some 4
  else none

/-- Whether octets are whole characters, where `due` ones are left of the current
character. -/
def areWholeOctets : (due : Nat) → List Char → Bool
  | due, [] => due == 0
  | 0, octet :: rest =>
      match octetCount? octet with
      | some count => areWholeOctets (count - 1) rest
      | none => false
  | due + 1, octet :: rest =>
      0x80 ≤ octet.toNat && octet.toNat < 0xC0 && areWholeOctets due rest

def isTagChar (c : Char) : Bool :=
  isNameChar c ||
    [';', '/', '?', ':', '@', '&', '=', '+', '$', '.', '!', '~', '*', '\'', '(', ')'].contains c

def isAddressChar (c : Char) : Bool := isTagChar c || [',', '[', ']'].contains c

def readTagAddress (allowed : Char → Bool) (lead : List Char) (text : List Char) :
    Option (List Char × List Char) := do
  let (read, rest) ← readAddress allowed [] text
  let octets := read.reverse
  if !areWholeOctets 0 octets then
    none
  return (lead.tail ++ octets, rest)

/-- Read the handle of a tag: a name between exclamation marks, or one mark. -/
def readHandle (text : List Char) : Option (List Char × List Char) :=
  match text with
  | '!' :: rest =>
      let name := rest.takeWhile isNameChar
      match rest.dropWhile isNameChar with
      | '!' :: rest => some ('!' :: name ++ ['!'], rest)
      | rest => some ('!' :: name, rest)
  | _ => none

def readTag (text : List Char) : Option (List Char × List Char × List Char) :=
  match text with
  | '!' :: '<' :: rest => do
      let (address, rest) ← readTagAddress isAddressChar [] rest
      if address.isEmpty then
        none
      match rest with
      | '>' :: rest => some ([], address, rest)
      | _ => none
  | _ => do
      let (handle, rest) ← readHandle text
      if 1 < handle.length && handle.getLast? == some '!' then
        let (suffix, rest) ← readTagAddress isTagChar [] rest
        if suffix.isEmpty then
          none
        return (handle, suffix, rest)
      else
        let (suffix, rest) ← readTagAddress isTagChar handle rest
        return if suffix.isEmpty then ([], ['!'], rest) else (['!'], suffix, rest)

def scanTag (scan : Scan) : Option Scan := do
  let text := scan.cursor.rest
  let (handle, suffix, rest) ← readTag text
  if !(Cursor.startsBlank rest || (scan.inFlow && rest.head? == some ',')) then
    none
  return (scan.push (.tag handle suffix)).skip (text.length - rest.length)

def endsName : List Char → Bool
  | [] => true
  | c :: _ => isSpace c || isBreak c || ['?', ':', ',', ']', '}', '%', '@', '`'].contains c

def scanName (scan : Scan) (token : List Char → Token) : Option Scan :=
  let rest := scan.cursor.rest.tail
  let name := rest.takeWhile isNameChar
  if name.isEmpty || !endsName (rest.drop name.length) then
    none
  else
    some ((scan.push (token name)).skip (name.length + 1))

/-! ## Directives -/

def readVersionPart (text : List Char) : Option (Nat × List Char) :=
  let digits := text.takeWhile Char.isDigit
  if digits.isEmpty || 9 < digits.length then none
  else some (Text.digitsValue digits, text.drop digits.length)

def readDirective (name text : List Char) : Option (Token × List Char) :=
  if name == "YAML".toList then do
    let (major, rest) ← readVersionPart (text.dropWhile isSpace)
    match rest with
    | '.' :: rest =>
        let (minor, rest) ← readVersionPart rest
        return (.version major minor, rest)
    | _ => none
  else if name == "TAG".toList then do
    let (handle, rest) ← readHandle (text.dropWhile isSpace)
    if 1 < handle.length && handle.getLast? != some '!' then
      none
    if !rest.head?.any isSpace then
      none
    let (expansion, rest) ← readTagAddress isAddressChar [] (rest.dropWhile isSpace)
    if expansion.isEmpty || !Cursor.startsBlank rest then
      none
    return (.handle handle expansion, rest)
  else
    none

def scanDirective (scan : Scan) : Option Scan := do
  let text := scan.cursor.rest
  let name := text.tail.takeWhile isNameChar
  let rest := text.tail.drop name.length
  if name.isEmpty || !Cursor.startsBlank rest then
    none
  let (token, rest) ← readDirective name rest
  let scan := (scan.push token).skip (text.length - rest.length)
  let cursor := scan.cursor.skipWhile isSpace
  let cursor := if cursor.isAt '#' then cursor.skipLine else cursor
  if cursor.isAtBreak then
    return { scan with cursor := cursor.skipBreak }
  else if cursor.isAtEnd then
    return { scan with cursor }
  else
    none

/-! ## One token -/

def finish (scan : Scan) : Option Scan := (scan.closeTo (-1)).dropKey

/-- The start of a directive or the mark of a document: all blocks end. -/
def leaveDocument (scan : Scan) : Option Scan := do
  let scan ← scan.finish
  return scan.allowingKey false

def openFlow (scan : Scan) (token : Token) : Option Scan := do
  let scan ← scan.saveKey
  let scan := { scan with
    keyStart := none, outerKeyStarts := scan.keyStart :: scan.outerKeyStarts }
  return ((scan.allowingKey true).push token).skip 1

def closeFlow (scan : Scan) (token : Token) : Option Scan := do
  let scan ← scan.dropKey
  let scan := match scan.outerKeyStarts with
    | [] => scan
    | keyStart :: outerKeyStarts => { scan with keyStart, outerKeyStarts }
  return ((scan.allowingKey false).push token).skip 1

def beginBlock (scan : Scan) (token : Token) : Option Scan :=
  if scan.inFlow then some scan
  else if !scan.allowsKey then none
  else some (scan.openBlock scan.cursor.column scan.tokens.length token)

def scanEntry (scan : Scan) : Option Scan := do
  let scan ← scan.beginBlock .blockSequenceStart
  let scan ← scan.dropKey
  return ((scan.allowingKey true).push .blockEntry).skip 1

def scanKey (scan : Scan) : Option Scan := do
  let scan ← scan.beginBlock .blockMappingStart
  let scan ← scan.dropKey
  return ((scan.allowingKey !scan.inFlow).push .key).skip 1

/-- A colon before a value. If a key may have begun before it, it did. -/
def scanValue (scan : Scan) : Option Scan :=
  match scan.keyStart with
  | some start =>
      let scan := scan.insertAt start.tokenCount .key
      let scan := scan.openBlock start.column start.tokenCount .blockMappingStart
      some (({ scan with keyStart := none, allowsKey := false }.push .value).skip 1)
  | none => do
      let scan ← scan.beginBlock .blockMappingStart
      return ((scan.allowingKey !scan.inFlow).push .value).skip 1

def scanBlockScalar (scan : Scan) (literal : Bool) : Option Scan := do
  let scan ← scan.dropKey
  let (text, cursor) ← readBlock literal scan.indent scan.cursor.skip
  return { scan.push (.scalar text false) with cursor, allowsKey := true }

def scanQuoted (scan : Scan) (double : Bool) : Option Scan := do
  let scan ← scan.saveKey
  let (text, cursor) ← readQuoted double (scan.cursor.rest.length + 1) scan.cursor.skip []
  return { scan.push (.scalar text false) with cursor, allowsKey := false }

/-- A plain scalar. If a line's end follows it, a key may begin after that. -/
def scanPlain (scan : Scan) : Option Scan := do
  let scan ← scan.saveKey
  let (text, cursor, endsLine) ←
    readPlain scan.inFlow (scan.indent + 1) (scan.cursor.rest.length + 1) scan.cursor [] .empty
  return { scan.push (.scalar text true) with cursor, allowsKey := endsLine }

def isIndicator (c : Char) : Bool :=
  ['-', '?', ':', ',', '[', ']', '{', '}', '#', '&', '*', '!', '|', '>', '\'', '"', '%', '@',
    '`'].contains c

def scanAt (scan : Scan) (c : Char) : Option Scan :=
  let beforeBlank := scan.cursor.isBeforeBlank
  if scan.cursor.column == 0 && c == '%' then do
    let scan ← scan.leaveDocument
    scan.scanDirective
  else if scan.cursor.isAtDocumentMark '-' then do
    let scan ← scan.leaveDocument
    return (scan.push .documentStart).skip 3
  else if scan.cursor.isAtDocumentMark '.' then do
    let scan ← scan.leaveDocument
    return (scan.push .documentEnd).skip 3
  else if c == '[' then
    scan.openFlow .flowSequenceStart
  else if c == '{' then
    scan.openFlow .flowMappingStart
  else if c == ']' then
    scan.closeFlow .flowSequenceEnd
  else if c == '}' then
    scan.closeFlow .flowMappingEnd
  else if c == ',' then do
    let scan ← scan.dropKey
    return ((scan.allowingKey true).push .flowEntry).skip 1
  else if c == '-' && beforeBlank then
    scan.scanEntry
  else if c == '?' && (scan.inFlow || beforeBlank) then
    scan.scanKey
  else if c == ':' && (scan.inFlow || beforeBlank) then
    scan.scanValue
  else if c == '*' then do
    let scan ← scan.saveKey
    (scan.allowingKey false).scanName .alias
  else if c == '&' then do
    let scan ← scan.saveKey
    (scan.allowingKey false).scanName .anchor
  else if c == '!' then do
    let scan ← scan.saveKey
    (scan.allowingKey false).scanTag
  else if c == '|' && !scan.inFlow then
    scan.scanBlockScalar true
  else if c == '>' && !scan.inFlow then
    scan.scanBlockScalar false
  else if c == '\'' then
    scan.scanQuoted false
  else if c == '"' then
    scan.scanQuoted true
  else if !(isSpace c || isIndicator c) || c == '-' || (!scan.inFlow && (c == '?' || c == ':')) then
    scan.scanPlain
  else
    none

/-- Cut the rest of a text into tokens. Each step but the last one consumes a
character, so a `fuel` above the number of characters never runs out. -/
def run : (fuel : Nat) → Scan → Option (List Token)
  | 0, _ => none
  | fuel + 1, scan => do
      let scan := scan.skipSpace (scan.cursor.rest.length + 1)
      let scan ← scan.dropStaleKeys
      let scan := scan.closeTo scan.cursor.column
      match scan.cursor.peek? with
      | none =>
          let scan ← scan.finish
          return scan.tokens.reverse
      | some c =>
          let scan ← scan.scanAt c
          run fuel scan

end Scan

def isPrintable (c : Char) : Bool :=
  c == '\t' || c == '\n' || c == '\r' || (0x20 ≤ c.toNat && c.toNat ≤ 0x7E) ||
    c.toNat == 0x85 || (0xA0 ≤ c.toNat && c.toNat ≤ 0xD7FF) ||
    (0xE000 ≤ c.toNat && c.toNat ≤ 0xFFFD) || 0x10000 ≤ c.toNat

def tokens? (text : String) : Option (List Token) :=
  let characters := text.toList
  if characters.all isPrintable then
    (Scan.start characters).run (characters.length + 2)
  else
    none

end RestModel.Yaml
