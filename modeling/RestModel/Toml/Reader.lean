import RestModel.Text.Digits
import RestModel.Toml.Value

/-! # Reading TOML

The reader knows the values that settings are made of: texts, whole numbers, truth
values, lists and tables. A text with a value of another kind, such as a fraction
or a date, is refused. -/

namespace RestModel.Toml

def isBlank (c : Char) : Bool := c == ' ' || c == '\t'

/-- Whether a character may stand in a comment or between quotes. -/
def isTextChar (c : Char) : Bool := c == '\t' || (0x20 ≤ c.toNat && c.toNat ≠ 0x7F)

/-- Whether a character may stand in a key without quotes. -/
def isKeyChar (c : Char) : Bool := c.isAlphanum || c == '_' || c == '-'

def skipComment : List Char → Option (List Char)
  | '#' :: rest =>
      let after := rest.dropWhile isTextChar
      match after with
      | [] | '\n' :: _ | '\r' :: '\n' :: _ => some after
      | _ => none
  | text => some text

/-- Move past blanks and a comment up to the end of a line, and past that. -/
def endLine (text : List Char) : Option (List Char) := do
  match ← skipComment (text.dropWhile isBlank) with
  | [] => some []
  | '\n' :: rest => some rest
  | '\r' :: '\n' :: rest => some rest
  | _ => none

def skipLines : (fuel : Nat) → List Char → Option (List Char)
  | 0, _ => none
  | fuel + 1, text => do
      match ← skipComment (text.dropWhile isBlank) with
      | '\n' :: rest => skipLines fuel rest
      | '\r' :: '\n' :: rest => skipLines fuel rest
      | rest => some rest

/-! ## Texts -/

def readEscape : List Char → Option (Char × List Char)
  | 'b' :: rest => some (Char.ofNat 8, rest)
  | 't' :: rest => some ('\t', rest)
  | 'n' :: rest => some ('\n', rest)
  | 'f' :: rest => some (Char.ofNat 12, rest)
  | 'r' :: rest => some ('\r', rest)
  | 'e' :: rest => some (Char.ofNat 27, rest)
  | '"' :: rest => some ('"', rest)
  | '\\' :: rest => some ('\\', rest)
  | mark :: rest => do
      let count ← match mark with
        | 'x' => some 2
        | 'u' => some 4
        | 'U' => some 8
        | _ => none
      if rest.length < count then
        none
      return (← Text.charOfHex? (rest.take count), rest.drop count)
  | [] => none

/-- Read a text of one line after its opening quote, after the characters read so
far, last one first. Escapes count only between double quotes. -/
def readLine (quote : Char) : (fuel : Nat) → List Char → List Char →
    Option (String × List Char)
  | 0, _, _ => none
  | fuel + 1, read, text =>
      match text with
      | [] => none
      | c :: rest =>
          if c == quote then
            some (String.ofList read.reverse, rest)
          else if c == '\\' && quote == '"' then do
            let (escaped, rest) ← readEscape rest
            readLine quote fuel (escaped :: read) rest
          else if isTextChar c then
            readLine quote fuel (c :: read) rest
          else
            none

def isBlankOrEnd (c : Char) : Bool := isBlank c || c == '\n' || c == '\r'

def hasWholeLineEnds : List Char → Bool
  | [] => true
  | '\r' :: '\n' :: rest => hasWholeLineEnds rest
  | c :: rest => c != '\r' && hasWholeLineEnds rest

/-- Read a text of several lines after its opening quotes, after the characters
read so far, last one first. Of five quotes at its end two belong to the text; a
backslash at the end of a line takes away all blanks and line ends after it. -/
def readLines (quote : Char) : (fuel : Nat) → List Char → List Char →
    Option (String × List Char)
  | 0, _, _ => none
  | fuel + 1, read, text =>
      match text with
      | [] => none
      | '\r' :: '\n' :: rest => readLines quote fuel ('\n' :: '\r' :: read) rest
      | c :: rest =>
          if c == quote then
            let count := min 5 (text.takeWhile (· == quote)).length
            if count < 3 then
              readLines quote fuel (c :: read) rest
            else
              some (String.ofList ((List.replicate (count - 3) quote ++ read).reverse),
                text.drop count)
          else if c == '\\' && quote == '"' then
            match rest.dropWhile isBlank with
            | '\n' :: _ | '\r' :: '\n' :: _ =>
                let gap := rest.takeWhile isBlankOrEnd
                if hasWholeLineEnds gap then readLines quote fuel read (rest.drop gap.length)
                else none
            | _ => do
                let (escaped, rest) ← readEscape rest
                readLines quote fuel (escaped :: read) rest
          else if isTextChar c || c == '\n' then
            readLines quote fuel (c :: read) rest
          else
            none

def readText (quote : Char) (rest : List Char) : Option (String × List Char) :=
  let fuel := rest.length + 1
  match rest with
  | a :: b :: lines =>
      if a == quote && b == quote then
        match lines with
        | '\n' :: lines => readLines quote fuel [] lines
        | '\r' :: '\n' :: lines => readLines quote fuel [] lines
        | lines => readLines quote fuel [] lines
      else
        readLine quote fuel [] rest
  | _ => readLine quote fuel [] rest

/-! ## Keys -/

def readKeyPart (text : List Char) : Option (String × List Char) :=
  match text with
  | '"' :: rest => readLine '"' (rest.length + 1) [] rest
  | '\'' :: rest => readLine '\'' (rest.length + 1) [] rest
  | _ =>
      let part := text.takeWhile isKeyChar
      if part.isEmpty then none else some (String.ofList part, text.drop part.length)

def readKey : (fuel : Nat) → List Char → Option (List String × List Char)
  | 0, _ => none
  | fuel + 1, text => do
      let (part, rest) ← readKeyPart (text.dropWhile isBlank)
      match rest.dropWhile isBlank with
      | '.' :: rest =>
          let (parts, rest) ← readKey fuel rest
          return (part :: parts, rest)
      | rest => return ([part], rest)

/-! ## Values -/

/-- Digits with single underscores between them, which do not count. -/
def plainDigits? : List Char → Option (List Char)
  | [] => none
  | [c] => if c == '_' then none else some [c]
  | c :: '_' :: rest => if c == '_' then none else (plainDigits? rest).map (c :: ·)
  | c :: rest => if c == '_' then none else (plainDigits? rest).map (c :: ·)

def wholeOf? (text : List Char) : Option Int := do
  let marked := fun base digits => do
    return ((← Text.digitsOf? base (← plainDigits? digits)) : Int)
  let plain := fun digits => do
    let digits ← plainDigits? digits
    if digits.head? == some '0' && digits.length ≠ 1 then
      none
    return ((← Text.digitsOf? 10 digits) : Int)
  match text with
  | '0' :: 'x' :: digits => marked 16 digits
  | '0' :: 'o' :: digits => marked 8 digits
  | '0' :: 'b' :: digits => marked 2 digits
  | '-' :: digits => (plain digits).map fun value => -value
  | '+' :: digits => plain digits
  | digits => plain digits

def wordValue? (word : List Char) : Option Value :=
  if word == "true".toList then some (.truth true)
  else if word == "false".toList then some (.truth false)
  else (wholeOf? word).map .whole

def isWordChar (c : Char) : Bool := isKeyChar c || c == '+' || c == '.' || c == ':'

mutual
/-- Read a value. Every call consumes a character, so a `fuel` above the number of
characters never runs out. -/
def readValue : (fuel : Nat) → List Char → Option (Value × List Char)
  | 0, _ => none
  | fuel + 1, text =>
      match text with
      | '"' :: rest => (readText '"' rest).map fun (text, rest) => (.text text, rest)
      | '\'' :: rest => (readText '\'' rest).map fun (text, rest) => (.text text, rest)
      | '[' :: rest => readItems fuel [] rest
      | '{' :: rest => readEntries fuel [] rest
      | _ => do
          let word := text.takeWhile isWordChar
          return (← wordValue? word, text.drop word.length)

def readItems : (fuel : Nat) → List Value → List Char → Option (Value × List Char)
  | 0, _, _ => none
  | fuel + 1, read, text => do
      match ← skipLines (text.length + 1) text with
      | ']' :: rest => return (.list false read.reverse, rest)
      | text =>
          let (item, rest) ← readValue fuel text
          match ← skipLines (rest.length + 1) rest with
          | ',' :: rest => readItems fuel (item :: read) rest
          | ']' :: rest => return (.list false (item :: read).reverse, rest)
          | _ => none

def readEntries : (fuel : Nat) → Members → List Char → Option (Value × List Char)
  | 0, _, _ => none
  | fuel + 1, read, text => do
      match ← skipLines (text.length + 1) text with
      | '}' :: rest => return (.table .closed read, rest)
      | text =>
          let (path, rest) ← readKey (text.length + 1) text
          match rest with
          | '=' :: rest =>
              let (value, rest) ← readValue fuel (rest.dropWhile isBlank)
              let read ← insertDotted value path read
              match ← skipLines (rest.length + 1) rest with
              | ',' :: rest => readEntries fuel read rest
              | '}' :: rest => return (.table .closed read, rest)
              | _ => none
          | _ => none
end

/-! ## Texts as a whole -/

def readHeader (text : List Char) : Option (Passage × List Char) := do
  let (isItem, text) := match text with
    | '[' :: rest => (true, rest)
    | rest => (false, rest)
  let (path, rest) ← readKey (text.length + 1) text
  match isItem, rest with
  | false, ']' :: rest => return (⟨path, false, []⟩, ← endLine rest)
  | true, ']' :: ']' :: rest => return (⟨path, true, []⟩, ← endLine rest)
  | _, _ => none

/-- Read the entries up to the next header, and that header. -/
def readPassage : (fuel : Nat) → List (List String × Value) → List Char →
    Option (List (List String × Value) × Option (Passage × List Char))
  | 0, _, _ => none
  | fuel + 1, read, text => do
      match ← skipLines (text.length + 1) text with
      | [] => return (read.reverse, none)
      | '[' :: rest => return (read.reverse, some (← readHeader rest))
      | text =>
          let (path, rest) ← readKey (text.length + 1) text
          match rest with
          | '=' :: rest =>
              let rest := rest.dropWhile isBlank
              let (value, rest) ← readValue (rest.length + 1) rest
              readPassage fuel ((path, value) :: read) (← endLine rest)
          | _ => none

def readPassages : (fuel : Nat) → Option (Passage × List Char) → Option (List Passage)
  | _, none => some []
  | 0, some _ => none
  | fuel + 1, some (passage, text) => do
      let (entries, next) ← readPassage (text.length + 1) [] text
      return { passage with entries } :: (← readPassages fuel next)

def read? (text : String) : Option Json := do
  let characters := match text.toList with
    | c :: rest => if c.toNat == 0xFEFF then rest else c :: rest
    | [] => []
  let fuel := characters.length + 1
  let (entries, next) ← readPassage fuel [] characters
  return (Value.table .stated (← assemble entries (← readPassages fuel next))).toJson

end RestModel.Toml
