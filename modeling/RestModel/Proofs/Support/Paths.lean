import RestModel.Proofs.Text
import RestModel.Support.Check

/-! # Collections and their items

Two paths belong to a resource: that of its collection, and that of its items, which has a
parameter after the collection. Either of them leads to both, as long as the collection is not
at the root. -/

namespace RestModel

private theorem find?_eq_some_of_unique {test : α → Bool} {items : List α} {item : α}
    (member : item ∈ items) (passes : test item = true)
    (only : ∀ other ∈ items, test other = true → other = item) : items.find? test = some item := by
  cases found : items.find? test with
  | none => exact absurd passes (List.find?_eq_none.mp found item member)
  | some other =>
      rw [only other (List.mem_of_find?_eq_some found) (List.find?_some found)]

namespace ResourcePaths

/-- A segment of a path that is a parameter with a name. -/
def IsParameter (segment : String) : Prop :=
  ∃ name : String, name ≠ "" ∧ '/' ∉ name.toList ∧ segment = "\x7b" ++ name ++ "\x7d"

/-- A path that is the root or ends in a segment, which is not a parameter. -/
def IsCollection (path : String) : Prop :=
  path = "/" ∨ path ≠ "" ∧ path.toList.getLast? ≠ some '/' ∧
    ∀ parent segment, IsParameter segment → path ≠ parent ++ "/" ++ segment

/-- A path that has a parameter after its collection. -/
def IsItemPath (collection path : String) : Prop :=
  ∃ segment, IsParameter segment ∧
    path = (if collection = "/" then "" else collection) ++ "/" ++ segment

/-! ## Parameters -/

theorem isNamedParameter_iff {segment : List Char} :
    isNamedParameter segment = true ↔
      ∃ name, name ≠ [] ∧ '/' ∉ name ∧ segment = '\x7b' :: (name ++ ['\x7d']) := by
  unfold isNamedParameter
  simp only [Bool.and_eq_true, decide_eq_true_eq, beq_iff_eq, Bool.not_eq_true',
    List.contains_eq_mem, decide_eq_false_iff_not]
  constructor
  · rintro ⟨⟨⟨long, first⟩, last⟩, whole⟩
    rcases List.head?_eq_some_iff.mp first with ⟨rest, rfl⟩
    rcases List.getLast?_eq_some_iff.mp last with ⟨before, written⟩
    cases before with
    | nil => simp at written
    | cons opening name =>
        obtain ⟨rfl, rfl⟩ := List.cons.inj written
        refine ⟨name, ?_, ?_, rfl⟩
        · rintro rfl
          simp at long
        · intro slash
          exact whole (by simp [slash])
  · rintro ⟨name, named, whole, rfl⟩
    have long := List.length_pos_iff.mpr named
    refine ⟨⟨⟨?_, rfl⟩, ?_⟩, ?_⟩
    · rw [List.length_cons, List.length_append, List.length_singleton]
      omega
    · rw [← List.cons_append, List.getLast?_concat]
    · simp [whole]

private theorem isNamedParameter_toList_iff {segment : String} :
    isNamedParameter segment.toList = true ↔ IsParameter segment := by
  rw [isNamedParameter_iff]
  constructor
  · rintro ⟨name, named, whole, written⟩
    refine ⟨String.ofList name, ?_, ?_, ?_⟩
    · simpa using named
    · simpa using whole
    · rw [← String.toList_inj]
      simp [written]
  · rintro ⟨name, named, whole, rfl⟩
    refine ⟨name.toList, ?_, whole, ?_⟩
    · simpa using named
    · simp

private theorem IsParameter.not_mem {segment : String} (parameter : IsParameter segment) :
    '/' ∉ segment.toList := by
  rcases parameter with ⟨name, _, whole, rfl⟩
  simp [whole]

/-! ## Cutting off the last segment -/

theorem withoutSlashes_eq {path : String} {before : List Char} {last : Char}
    (written : path.toList = before ++ [last]) (noSlash : last ≠ '/') :
    withoutSlashes path = path.toList := by
  unfold withoutSlashes
  rw [written]
  simp [noSlash]

private theorem parent?_append {segment : List Char} (whole : '/' ∉ segment) (parent : List Char) :
    parent? (parent ++ '/' :: segment) =
      if isNamedParameter segment then some (if parent.isEmpty then ['/'] else parent)
      else none := by
  have written : (parent ++ '/' :: segment).reverse =
      segment.reverse ++ '/' :: parent.reverse := by
    simp
  have absent : '/' ∉ segment.reverse := by
    rwa [List.mem_reverse]
  rcases Text.append_separator_iff.mp ⟨written, absent⟩ with ⟨last, before⟩
  unfold parent?
  rw [before, ← last]
  simp

private theorem isItemOf_iff {collection path : List Char} :
    isItemOf collection path = true ↔
      ∃ segment, isNamedParameter segment = true ∧ path = collection ++ '/' :: segment := by
  unfold isItemOf
  constructor
  · intro found
    split at found
    · next segment after => exact ⟨segment, found, Text.afterChars?_eq_some_iff.mp after⟩
    · cases found
  · rintro ⟨segment, named, written⟩
    rw [Text.afterChars?_eq_some_iff.mpr written]
    exact named

/-- Segments may be looked for among texts or among their characters. -/
theorem exists_parameter_iff {path parent : String} :
    (∃ segment, isNamedParameter segment = true ∧ path.toList = parent.toList ++ '/' :: segment) ↔
      ∃ segment, IsParameter segment ∧ path = parent ++ "/" ++ segment := by
  constructor
  · rintro ⟨segment, named, written⟩
    refine ⟨String.ofList segment, ?_, ?_⟩
    · rwa [← isNamedParameter_toList_iff, String.toList_ofList]
    · rw [← String.toList_inj, written]
      simp
  · rintro ⟨segment, parameter, rfl⟩
    exact ⟨segment.toList, isNamedParameter_toList_iff.mpr parameter, by simp⟩

private theorem parent?_eq_none_iff {path : String} :
    parent? path.toList = none ↔
      ∀ parent segment, IsParameter segment → path ≠ parent ++ "/" ++ segment := by
  constructor
  · rintro none parent segment parameter rfl
    have written : (parent ++ "/" ++ segment).toList = parent.toList ++ '/' :: segment.toList := by
      simp
    rw [written, parent?_append parameter.not_mem,
      if_pos (isNamedParameter_toList_iff.mpr parameter)] at none
    cases none
  · intro noParameter
    by_cases slashed : '/' ∈ path.toList
    · rcases List.eq_append_cons_of_mem (List.mem_reverse.mpr slashed) with
        ⟨last, before, backwards, absent⟩
      have written :
          path.toList = (String.ofList before.reverse).toList ++ '/' :: last.reverse := by
        rw [← path.toList.reverse_reverse, backwards]
        simp
      rw [written, parent?_append (by rwa [List.mem_reverse]), if_neg]
      intro named
      rcases exists_parameter_iff.mp ⟨last.reverse, named, written⟩ with
        ⟨segment, parameter, isWritten⟩
      exact noParameter _ segment parameter isWritten
    · have absent : '/' ∉ path.toList.reverse := by rwa [List.mem_reverse]
      unfold parent?
      rw [Text.dropWhile_ne_eq_nil_iff.mpr absent]

private theorem isItemPath_iff {collection path : String} :
    IsItemPath collection path ↔
      isItemOf (if collection = "/" then "" else collection).toList path.toList = true := by
  rw [isItemOf_iff, exists_parameter_iff]
  rfl

instance (collection path : String) : Decidable (IsItemPath collection path) :=
  decidable_of_iff _ isItemPath_iff.symm

private theorem isCollection_iff {path : String} :
    IsCollection path ↔
      path = "/" ∨ path ≠ "" ∧ path.toList.getLast? ≠ some '/' ∧ parent? path.toList = none := by
  rw [parent?_eq_none_iff]
  rfl

instance (path : String) : Decidable (IsCollection path) :=
  decidable_of_iff _ isCollection_iff.symm

/-! ## The paths of a resource -/

variable {declared : List String} {collection item : String}

private theorem ofPath_item (isCollection : IsCollection collection)
    (isItem : IsItemPath collection item) :
    ofPath declared item = ⟨collection, some item⟩ := by
  rcases isItem with ⟨segment, parameter, isWritten⟩
  generalize isParent : (if collection = "/" then "" else collection) = parent at isWritten
  have named := isNamedParameter_toList_iff.mpr parameter
  have written : item.toList = parent.toList ++ '/' :: segment.toList := by
    rw [isWritten]
    simp
  have trimmed : withoutSlashes item = item.toList := by
    rcases parameter with ⟨name, _, _, isSegment⟩
    have ends : item.toList = (parent.toList ++ '/' :: '\x7b' :: name.toList) ++ ['\x7d'] := by
      rw [written, isSegment]
      simp
    exact withoutSlashes_eq ends (by decide)
  have before : (if parent.toList.isEmpty then ['/'] else parent.toList) = collection.toList := by
    subst isParent
    rcases isCollection with rfl | ⟨written, _, _⟩
    · rfl
    · split <;> simp_all
  have above : parent? item.toList = some collection.toList := by
    rw [written, parent?_append parameter.not_mem, if_pos named, before]
  unfold ofPath
  dsimp only
  rw [trimmed, above]
  simp only [String.ofList_toList]

private theorem ofPath_collection (isCollection : IsCollection collection) :
    ofPath declared collection =
      ⟨collection, declared.find? fun other => isItemOf collection.toList other.toList⟩ := by
  have parts : withoutSlashes collection = collection.toList ∧
      parent? collection.toList = none := by
    rcases isCollection_iff.mp isCollection with rfl | ⟨written, noSlash, noParent⟩
    · decide
    · refine ⟨?_, noParent⟩
      cases isLast : collection.toList.getLast? with
      | none =>
          have isEmpty := List.getLast?_eq_none_iff.mp isLast
          exact absurd (String.toList_eq_nil_iff.mp isEmpty) written
      | some last =>
          rcases List.getLast?_eq_some_iff.mp isLast with ⟨before, ends⟩
          exact withoutSlashes_eq ends fun isSlash => noSlash (isSlash ▸ isLast)
  unfold ofPath
  dsimp only
  rw [parts.1, parts.2, String.ofList_toList]

end ResourcePaths

namespace Checker

open ResourcePaths

/-- The path of a collection leads to its items if only one path of items is declared, and their
path leads back to the collection. The collection at the root is the exception: its items lead
to it, but it does not lead to its items. -/
theorem resourcePaths_pair {checker : Checker} {collection item : String}
    (isCollection : IsCollection collection)
    (declared : item ∈ Keyed.keys checker.document.paths) (isItem : IsItemPath collection item)
    (only : ∀ path ∈ Keyed.keys checker.document.paths, IsItemPath collection path → path = item) :
    checker.resourcePaths item = ⟨collection, some item⟩ ∧
      (checker.resourcePaths collection).collection = collection ∧
      (checker.resourcePaths collection = ⟨collection, some item⟩ ↔ collection ≠ "/") := by
  unfold resourcePaths
  rw [ofPath_item isCollection isItem, ofPath_collection isCollection]
  refine ⟨rfl, rfl, ?_⟩
  rw [ResourcePaths.mk.injEq]
  constructor
  · rintro ⟨_, found⟩ rfl
    -- A path below the root has one slash before its parameter, and not the two that are
    -- looked for.
    rcases isItem with ⟨segment, parameter, written⟩
    have leads := List.find?_some found
    rcases isItemOf_iff.mp leads with ⟨last, _, whole⟩
    have slashed : segment.toList = '/' :: last := by
      simpa [written] using whole
    exact parameter.not_mem (slashed ▸ List.mem_cons_self)
  · intro apart
    have same : ∀ path : String, isItemOf collection.toList path.toList = true ↔
        IsItemPath collection path := by
      intro path
      rw [isItemPath_iff, if_neg apart]
    exact ⟨rfl, find?_eq_some_of_unique declared ((same item).mpr isItem) fun path member isPath =>
      only path member ((same path).mp isPath)⟩

/-- A service with shelves at its root, which hold books. -/
def library : Checker where
  document := {
    title := "library"
    paths := [("/", []), ("/books", []), ("/books/{isbn}", []), ("/books/{isbn}/pages", []),
      ("/{shelf}", [])]
    components := []
    sharedRequests := []
    sharedResponses := []
    listWrapperKeys := [] }
  policy := .standard

theorem resourcePaths_pair_library :
    IsCollection "/books" ∧ "/books/{isbn}" ∈ Keyed.keys library.document.paths ∧
      (∀ path ∈ Keyed.keys library.document.paths,
        IsItemPath "/books" path ↔ path = "/books/{isbn}") ∧
      library.resourcePaths "/books/{isbn}" = ⟨"/books", some "/books/{isbn}"⟩ ∧
      library.resourcePaths "/books" = ⟨"/books", some "/books/{isbn}"⟩ := by
  have isCollection : IsCollection "/books" := by decide +kernel
  have declared : "/books/{isbn}" ∈ Keyed.keys library.document.paths := by decide +kernel
  have items : ∀ path ∈ Keyed.keys library.document.paths,
      IsItemPath "/books" path ↔ path = "/books/{isbn}" := by
    decide +kernel
  rcases resourcePaths_pair isCollection declared ((items _ declared).mpr rfl)
      fun path member => (items path member).mp with
    ⟨ofItem, _, ofCollection⟩
  exact ⟨isCollection, declared, items, ofItem, ofCollection.mpr (by decide)⟩

/-- The only path of shelves leads to the root, but the root does not lead to the shelves. -/
theorem resourcePaths_root :
    IsCollection "/" ∧ "/{shelf}" ∈ Keyed.keys library.document.paths ∧
      (∀ path ∈ Keyed.keys library.document.paths, IsItemPath "/" path ↔ path = "/{shelf}") ∧
      library.resourcePaths "/{shelf}" = ⟨"/", some "/{shelf}"⟩ ∧
      library.resourcePaths "/" = ⟨"/", none⟩ := by
  decide +kernel

end Checker

end RestModel
