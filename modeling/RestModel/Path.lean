import RestModel.Text.Pieces

/-! # Paths

A path names a file by the folders on the way to it, with slashes between them. A
path that starts with a slash is absolute. Empty parts and parts that are one dot
lead nowhere, save for a dot at the start of a relative path. -/

namespace RestModel.Path

def isAbsolute (path : String) : Bool := path.toList.head? == some '/'

/-- A path as seen from a base. -/
def join (base path : String) : String :=
  if isAbsolute path then path
  else if base.isEmpty || base.toList.getLast? == some '/' then base ++ path
  else base ++ "/" ++ path

/-- Drop the parts at the end that lead nowhere. -/
def dropVoidEnd (isRooted : Bool) (parts : List String) : List String :=
  match parts with
  | [] => []
  | first :: rest =>
      let rest := (rest.reverse.dropWhile fun part => part.isEmpty || part == ".").reverse
      if rest.isEmpty && (first.isEmpty || (isRooted && first == ".")) then [] else first :: rest

/-- The parts of a path after the root, without those at the end that lead
nowhere. -/
def parts (path : String) : List String :=
  if isAbsolute path then dropVoidEnd true (Text.pieces '/' (path.drop 1).toString)
  else dropVoidEnd false (Text.pieces '/' path)

def parent? (path : String) : Option String :=
  match parts path with
  | [] => none
  | first :: rest =>
      let isRooted := isAbsolute path
      let folder := "/".intercalate (dropVoidEnd isRooted (first :: rest).dropLast)
      some (if isRooted then "/" ++ folder else folder)

def fileName? (path : String) : Option String :=
  match (parts path).getLast? with
  | none => none
  | some name => if name == "." || name == ".." then none else some name

/-- What comes after the last dot of a file's name, unless nothing comes before it. -/
def extension? (path : String) : Option String :=
  (fileName? path).bind fun name =>
    match (Text.pieces '.' name).reverse with
    | last :: before =>
        if before.all String.isEmpty && before.length ≤ 1 then none else some last
    | [] => none

end RestModel.Path
