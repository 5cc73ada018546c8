import RestModel.Files.Basic

/-! # Trees of files

A tree of files and folders as a value, with the access to it. -/

namespace RestModel

inductive FileTree.Entry where
  | file (text : String)
  | folder
  deriving Repr, DecidableEq

/-- The entries of a tree by the names on the way to them. The root is a folder without
an entry of its own. -/
structure FileTree where
  entries : List (List String × FileTree.Entry)
  deriving Repr, DecidableEq

namespace FileTree

def entry? (tree : FileTree) (place : List String) : Option Entry :=
  if place.isEmpty then some .folder else tree.entries.lookup place

def put (tree : FileTree) (place : List String) (entry : Entry) : FileTree :=
  ⟨(place, entry) :: tree.entries.filter fun stored => stored.1 ≠ place⟩

/-- Put a folder at a place, unless something stands there. -/
def putFolder (tree : FileTree) (place : List String) : FileTree :=
  if (tree.entry? place).isSome then tree else tree.put place .folder

def putFile (tree : FileTree) (place : List String) (text : String) : FileTree :=
  let folders := (List.range place.length).map fun count => place.take count
  (folders.foldl putFolder tree).put place (.file text)

def ofFiles (files : List (String × String)) : FileTree :=
  files.foldl (fun tree (path, text) => tree.putFile (Text.pieces '/' path) text) ⟨[]⟩

def toFiles (tree : FileTree) : List (String × String) :=
  Keyed.ofList <| tree.entries.filterMap fun (place, entry) =>
    match entry with
    | .file text => some (Text.join "/" place, text)
    | .folder => none

/-- Go one step from a place. Nothing is known beyond the root. -/
def step (tree : FileTree) (place : List String) (part : String) :
    Except FileProblem (List String) :=
  match tree.entry? place with
  | none => .error .absent
  | some (.file _) => .error .throughFile
  | some .folder =>
      if part.isEmpty || part == "." then .ok place
      else if part == ".." then
        if place.isEmpty then .error .absent else .ok place.dropLast
      else .ok (place ++ [part])

def locate (tree : FileTree) (path : String) : Except FileProblem (List String) :=
  if path.isEmpty || Path.isAbsolute path then .error .absent
  else (Text.pieces '/' path).foldlM tree.step []

def kind? (tree : FileTree) (path : String) : Option EntryKind :=
  match tree.locate path with
  | .error _ => none
  | .ok place =>
      (tree.entry? place).map fun
        | .file _ => .file
        | .folder => .folder

def names (tree : FileTree) (folder : String) : List String :=
  match tree.locate folder with
  | .error _ => []
  | .ok place =>
      tree.entries.filterMap fun (other, _) =>
        if other.dropLast = place then other.getLast? else none

def read (tree : FileTree) (path : String) : Except FileProblem String := do
  match tree.entry? (← tree.locate path) with
  | some (.file text) => return text
  | some .folder => throw .folder
  | none => throw .absent

def makeFolders (tree : FileTree) (place : List String) :
    List String → Except FileProblem FileTree
  | [] => .ok tree
  | part :: rest =>
      match tree.step place part with
      | .error problem => .error problem
      | .ok next =>
          match tree.entry? next with
          | some (.file _) => .error (if rest.isEmpty then .taken else .throughFile)
          | _ => (tree.putFolder next).makeFolders next rest

def makeFolder (tree : FileTree) (path : String) : Except FileProblem FileTree :=
  if path.isEmpty || Path.isAbsolute path then .error .absent
  else tree.makeFolders [] (Text.pieces '/' path)

/-- Write a file into a folder that is there. A path that ends in a slash or in dots names
a folder. -/
def write (tree : FileTree) (path text : String) : Except FileProblem FileTree := do
  if path.isEmpty || Path.isAbsolute path then
    throw .absent
  let parts := Text.pieces '/' path
  let named := (parts.reverse.dropWhile String.isEmpty).reverse
  let last := named.getLast?.getD ""
  let place ← tree.step (← named.dropLast.foldlM tree.step []) last
  if named.length < parts.length || last == "." || last == ".." then
    throw .folder
  match tree.entry? place with
  | some .folder => throw .folder
  | _ => return tree.put place (.file text)

def change (next : FileTree → Except FileProblem FileTree) :
    StateM FileTree (Except FileProblem Unit) := fun tree =>
  match next tree with
  | .ok changed => (.ok (), changed)
  | .error problem => (.error problem, tree)

/-- The access to a tree that is the state of a computation. Each level of folders takes
an entry, so there are no more levels than entries. -/
def access (tree : FileTree) : FileAccess (StateM FileTree) where
  kind? path := do return (← get).kind? path
  names folder := do return (← get).names folder
  read path := do return (← get).read path
  makeFolder path := change fun tree => tree.makeFolder path
  write path text := change fun tree => tree.write path text
  depthLimit := tree.entries.length

end FileTree

end RestModel
