/-! # Cutting text at separators

Texts are cut at every separator, at the first one or at the last one. The
separator itself belongs to no piece. -/

namespace RestModel.Text

/-- The pieces of a text between the characters that satisfy `isSeparator`, in
order. A text with `n` separators has `n + 1` pieces. -/
def piecesBy (isSeparator : Char → Bool) : List Char → List (List Char)
  | [] => [[]]
  | c :: rest =>
      if isSeparator c then
        [] :: piecesBy isSeparator rest
      else
        match piecesBy isSeparator rest with
        | [] => [[c]]
        | first :: others => (c :: first) :: others

def pieces (separator : Char) (text : String) : List String :=
  (piecesBy (· == separator) text.toList).map String.ofList

def cutFirstChars (separator : Char) (text : List Char) : Option (List Char × List Char) :=
  match text.dropWhile (· != separator) with
  | [] => none
  | _ :: after => some (text.takeWhile (· != separator), after)

def cutFirst? (separator : Char) (text : String) : Option (String × String) :=
  (cutFirstChars separator text.toList).map fun (before, after) =>
    (String.ofList before, String.ofList after)

def beforeLast? (separator : Char) (text : String) : Option String :=
  match text.toList.reverse.dropWhile (· != separator) with
  | [] => none
  | _ :: before => some (String.ofList before.reverse)

/-- The part before the first separator, or the whole text. -/
def beforeFirst (separator : Char) (text : String) : String :=
  String.ofList (text.toList.takeWhile (· != separator))

def afterChars? : List Char → List Char → Option (List Char)
  | [], text => some text
  | c :: beginning, d :: text => if c = d then afterChars? beginning text else none
  | _ :: _, [] => none

def after? (beginning text : String) : Option String :=
  (afterChars? beginning.toList text.toList).map String.ofList

def beginsWith (beginning text : String) : Bool :=
  (after? beginning text).isSome

def join (separator : String) : List String → String
  | [] => ""
  | [only] => only
  | first :: rest => first ++ separator ++ join separator rest

end RestModel.Text
