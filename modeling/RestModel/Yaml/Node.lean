import RestModel.Keyed
import RestModel.Yaml.Token

/-! # Nodes of YAML

Tokens are put together to the one document of a text. An alias names a node by
the number of its anchor, and is resolved only when the node's value is taken. -/

namespace RestModel.Yaml

/-- A node of a document, with its tag and the number of its anchor. -/
inductive Node where
  | scalar (anchor : Option Nat) (tag : Option String) (text : String) (isPlain : Bool)
  | sequence (anchor : Option Nat) (tag : Option String) (items : List Node)
  | mapping (anchor : Option Nat) (tag : Option String) (entries : List (Node × Node))
  | alias (target : Nat)
  deriving Repr, Inhabited

namespace Node

/-- What stands where a node is left out. -/
def empty : Node := .scalar none none "" true

def anchor? : Node → Option Nat
  | .scalar anchor _ _ _ => anchor
  | .sequence anchor _ _ => anchor
  | .mapping anchor _ _ => anchor
  | .alias _ => none

end Node

/-! ## Putting tokens together -/

/-- Tokens that are put together in part. -/
structure Assembly where
  tokens : List Token
  /-- What the handles of tags stand for. -/
  handles : List (String × String)
  anchors : List (String × Nat)

abbrev Assembler := StateT Assembly Option

namespace Assembler

def peek? : Assembler (Option Token) := do return (← get).tokens.head?

def advance : Assembler Unit :=
  modify fun assembly => { assembly with tokens := assembly.tokens.tail }

def accept (token : Token) : Assembler Bool := do
  if (← peek?) == some token then
    advance
    return true
  else
    return false

def expect (token : Token) : Assembler Unit := do
  if !(← accept token) then
    failure

def isBefore (tokens : List Token) : Assembler Bool := do
  return (← peek?).any tokens.contains

/-- Read an anchor, and number it. An anchor that is met again gets a number of its
own, which is the number of names so far. -/
def anchor? : Assembler (Option Nat) := do
  match ← peek? with
  | some (.anchor name) =>
      advance
      let assembly ← get
      let number := assembly.anchors.length
      set { assembly with
        anchors := Keyed.insert (String.ofList name) number assembly.anchors }
      return some number
  | _ => return none

def tag? : Assembler (Option String) := do
  match ← peek? with
  | some (.tag handle suffix) =>
      advance
      if handle.isEmpty then
        return some (String.ofList suffix)
      else
        let some expansion := Keyed.get? (String.ofList handle) (← get).handles | failure
        return some (expansion ++ String.ofList suffix)
  | _ => return none

def aliasOf (name : List Char) : Assembler Node := do
  let some number := Keyed.get? (String.ofList name) (← get).anchors | failure
  return .alias number

mutual
/-- Put a node together. A call consumes a token or leads to one that does, so a
`fuel` above twice the number of tokens never runs out. -/
def node (inBlock allowsIndentless : Bool) : (fuel : Nat) → Assembler Node
  | 0 => failure
  | fuel + 1 => do
      if let some (.alias name) ← peek? then
        advance
        return ← aliasOf name
      let before ← anchor?
      let tag ← tag?
      let after ← if before.isNone then anchor? else pure none
      let anchor := before.or after
      match ← peek? with
      | some (.scalar text isPlain) =>
          advance
          let tag := if tag == some "!" then none else tag
          return .scalar anchor tag (String.ofList text) isPlain
      | some .flowSequenceStart =>
          advance
          return .sequence anchor tag (← flowItems true fuel)
      | some .flowMappingStart =>
          advance
          return .mapping anchor tag (← flowEntries true fuel)
      | token =>
          if allowsIndentless && token == some .blockEntry then
            return .sequence anchor tag (← indentlessItems fuel)
          else if inBlock && token == some .blockSequenceStart then
            advance
            return .sequence anchor tag (← blockItems fuel)
          else if inBlock && token == some .blockMappingStart then
            advance
            return .mapping anchor tag (← blockEntries fuel)
          else if anchor.isSome || tag.isSome then
            return .scalar anchor (if tag == some "!" then none else tag) "" true
          else
            failure

def nodeUnless (ends : List Token) (inBlock allowsIndentless : Bool) :
    (fuel : Nat) → Assembler Node
  | 0 => failure
  | fuel + 1 => do
      if ← isBefore ends then
        return .empty
      else
        node inBlock allowsIndentless fuel

def blockItems : (fuel : Nat) → Assembler (List Node)
  | 0 => failure
  | fuel + 1 => do
      if ← accept .blockEntry then
        let item ← nodeUnless [.blockEntry, .blockEnd] true false fuel
        return item :: (← blockItems fuel)
      else
        expect .blockEnd
        return []

/-- The items of a sequence that is not indented within its mapping. -/
def indentlessItems : (fuel : Nat) → Assembler (List Node)
  | 0 => failure
  | fuel + 1 => do
      if ← accept .blockEntry then
        let item ← nodeUnless [.blockEntry, .key, .value, .blockEnd] true false fuel
        return item :: (← indentlessItems fuel)
      else
        return []

def blockEntries : (fuel : Nat) → Assembler (List (Node × Node))
  | 0 => failure
  | fuel + 1 => do
      if ← accept .key then
        let ends := [.key, .value, .blockEnd]
        let key ← nodeUnless ends true true fuel
        let value ←
          if ← accept .value then nodeUnless ends true true fuel else pure .empty
        return (key, value) :: (← blockEntries fuel)
      else
        expect .blockEnd
        return []

/-- The items of a sequence between brackets. A key without brackets of its own
is a mapping of one entry; if nothing follows its question mark, the token that
does is left out. -/
def flowItems (isFirst : Bool) : (fuel : Nat) → Assembler (List Node)
  | 0 => failure
  | fuel + 1 => do
      if ← accept .flowSequenceEnd then
        return []
      if !isFirst then
        expect .flowEntry
      if ← accept .key then
        let ends := [.flowEntry, .flowSequenceEnd]
        let key ←
          if ← isBefore (.value :: ends) then do
            advance
            pure .empty
          else
            node false false fuel
        let value ←
          if ← accept .value then nodeUnless ends false false fuel else pure .empty
        return .mapping none none [(key, value)] :: (← flowItems false fuel)
      else if ← accept .flowSequenceEnd then
        return []
      else
        let item ← node false false fuel
        return item :: (← flowItems false fuel)

def flowEntries (isFirst : Bool) : (fuel : Nat) → Assembler (List (Node × Node))
  | 0 => failure
  | fuel + 1 => do
      if ← accept .flowMappingEnd then
        return []
      if !isFirst then
        expect .flowEntry
      let ends := [.flowEntry, .flowMappingEnd]
      if ← accept .key then
        let key ← nodeUnless (.value :: ends) false false fuel
        let value ←
          if ← accept .value then nodeUnless ends false false fuel else pure .empty
        return (key, value) :: (← flowEntries false fuel)
      else if ← accept .flowMappingEnd then
        return []
      else
        let key ← node false false fuel
        return (key, .empty) :: (← flowEntries false fuel)
end

/-- What the handles of tags stand for where nothing else is said. -/
def standardHandles : List (String × String) :=
  [("!", "!"), ("!!", "tag:yaml.org,2002:")]

/-- Read the directives before a document. Versions `1.1` and `1.2` are known, and
nothing may be said twice. -/
def directives (hasVersion : Bool) (handles : List (String × String)) :
    List Token → Option (List (String × String) × List Token)
  | .version major minor :: rest =>
      if hasVersion || major ≠ 1 || (minor ≠ 1 && minor ≠ 2) then none
      else directives true handles rest
  | .handle name expansion :: rest =>
      let name := String.ofList name
      if (Keyed.get? name handles).isSome then none
      else directives hasVersion (handles ++ [(name, String.ofList expansion)]) rest
  | rest => some (handles, rest)

def document (fuel : Nat) : Assembler Node := do
  let assembly ← get
  let (handles, rest) ← directives false [] assembly.tokens
  set { assembly with tokens := rest, handles := handles ++ standardHandles }
  match rest with
  | .documentStart :: _ =>
      advance
      match ← peek? with
      | none | some .documentStart | some .documentEnd | some (.version _ _)
      | some (.handle _ _) => return .empty
      | some _ => node true false fuel
  | _ =>
      if rest.length < assembly.tokens.length || rest.isEmpty then failure
      else node true false fuel

end Assembler

namespace Node

def ofTokens? (tokens : List Token) : Option Node := do
  let (node, rest) ← (Assembler.document (2 * tokens.length + 4)).run ⟨tokens, [], []⟩
  if rest.tokens.all (· == .documentEnd) then some node else none

def ofText? (text : String) : Option Node := do
  ofTokens? (← tokens? text)

end Node

end RestModel.Yaml
