/-! # Maps with ordered keys

A map from texts is the list of its entries, ordered by key: the order in which
every listing of this library shows them. Texts are ordered by code point. -/

namespace RestModel

/-- The lists of entries that `Keyed.insert` builds: keys strictly increase. -/
def Keyed.Ordered (entries : List (String × α)) : Prop :=
  entries.Pairwise fun entry later => entry.1 < later.1

namespace Keyed

def get? (key : String) : List (String × α) → Option α
  | [] => none
  | (stored, value) :: rest => if stored = key then some value else get? key rest

def contains (key : String) (entries : List (String × α)) : Bool :=
  (get? key entries).isSome

/-- Store a value under a key, in key order, in place of what was stored there. -/
def insert (key : String) (value : α) : List (String × α) → List (String × α)
  | [] => [(key, value)]
  | (stored, old) :: rest =>
      if key < stored then
        (key, value) :: (stored, old) :: rest
      else if key = stored then
        (key, value) :: rest
      else
        (stored, old) :: insert key value rest

/-- Store a value under a key that has none yet. -/
def insertNew (key : String) (value : α) (entries : List (String × α)) : List (String × α) :=
  if contains key entries then entries else insert key value entries

/-- Change the value under a key, starting from `default` if there is none. -/
def alter (key : String) (default : α) (change : α → α) (entries : List (String × α)) :
    List (String × α) :=
  insert key (change ((get? key entries).getD default)) entries

def erase (key : String) (entries : List (String × α)) : List (String × α) :=
  entries.filter fun entry => entry.1 ≠ key

/-- The map of a list of entries in which later entries win. -/
def ofList (entries : List (String × α)) : List (String × α) :=
  entries.foldl (fun map (key, value) => insert key value map) []

def keys (entries : List (String × α)) : List String :=
  entries.map (·.1)

def values (entries : List (String × α)) : List α :=
  entries.map (·.2)

end Keyed

def insertText (text : String) : List String → List String
  | [] => [text]
  | stored :: rest =>
      if text < stored then
        text :: stored :: rest
      else if text = stored then
        stored :: rest
      else
        stored :: insertText text rest

def sortTexts (texts : List String) : List String :=
  texts.mergeSort fun left right => !decide (right < left)

end RestModel
