import RestModel.Keyed
import RestModel.Path

/-! # Access to files

A run reads and writes files through a `FileAccess`, which says what stands where a
path leads. -/

namespace RestModel

inductive EntryKind where
  | file
  | folder
  deriving Repr, DecidableEq

inductive FileProblem where
  | absent
  /-- A file stands where a folder is to be made. -/
  | taken
  | throughFile
  /-- A folder stands where a file is needed. -/
  | folder
  | other (message : String)
  deriving Repr, DecidableEq

def FileProblem.message : FileProblem → String
  | .absent => "No such file or directory (os error 2)"
  | .taken => "File exists (os error 17)"
  | .throughFile => "Not a directory (os error 20)"
  | .folder => "Is a directory (os error 21)"
  | .other message => message

/-- The ways to use files. -/
structure FileAccess (m : Type → Type) where
  kind? : (path : String) → m (Option EntryKind)
  names : (folder : String) → m (List String)
  read : (path : String) → m (Except FileProblem String)
  makeFolder : (path : String) → m (Except FileProblem Unit)
  write : (path text : String) → m (Except FileProblem Unit)
  /-- No folder lies below more folders than this. -/
  depthLimit : Nat

namespace FileAccess

variable {m : Type → Type} [Monad m]

def contains (files : FileAccess m) (path : String) : m Bool := do
  return (← files.kind? path).isSome

mutual
/-- The source files where a path leads: the file itself, or those in the folder, in
the order of their names. The contents of a folder take its place in that order. -/
def sourcesWithin (files : FileAccess m) : (depth : Nat) → (path : String) → m (List String)
  | 0, _ => pure []
  | depth + 1, path => do
      match ← files.kind? path with
      | none => return []
      | some .file => return if Path.extension? path == some "rs" then [path] else []
      | some .folder =>
          let names := sortTexts (← files.names path)
          sourcesOfAll files depth (names.map (Path.join path))

def sourcesOfAll (files : FileAccess m) :
    (depth : Nat) → (paths : List String) → m (List String)
  | _, [] => pure []
  | depth, path :: rest => do
      let first ← sourcesWithin files depth path
      return first ++ (← sourcesOfAll files depth rest)
end

def sources (files : FileAccess m) (path : String) : m (List String) :=
  files.sourcesWithin (files.depthLimit + 2) path

end FileAccess

end RestModel
