import RestModel.Proofs.Keyed
import RestModel.Source.Facts

/-! # Handles of a file

Every struct of a file is searched for handles, wherever it stands in the code. The handles are
stored by the names of their fields, though, whatever struct the fields are in: of several handles
with the same name, only the last one of the file is left. -/

namespace RestModel

namespace Source

/-! ## Pieces within others -/

namespace Code

/-- The pieces that a piece of code is directly made of. -/
def parts : Code → List Code
  | .text _ => []
  | .path others _ arguments => others ++ arguments
  | .call callee arguments => callee :: arguments
  | .method receiver others arguments => receiver :: others ++ arguments
  | .row items => items
  | .record before entries after => before ++ entries ++ after
  | .entry others _ value => others ++ [value]
  | .struct _ _ others fields => others ++ fields
  | .field others _ _ type => others ++ [type]
  | .named _ _ others => others
  | .module others items => others ++ items
  | .attributed others inner => others ++ [inner]
  | .other parts => parts

/-- A piece of code is a whole or stands anywhere in it. -/
inductive IsWithin (piece : Code) : Code → Prop where
  | self : piece.IsWithin piece
  | part {part whole : Code} (member : part ∈ whole.parts) (within : piece.IsWithin part) :
      piece.IsWithin whole

private theorem piecesOf_eq_flatMap (codes : List Code) :
    piecesOf codes = codes.flatMap pieces := by
  induction codes with
  | nil => rfl
  | cons code rest induction => rw [piecesOf, List.flatMap_cons, induction]

private theorem pieces_eq_cons (code : Code) : code.pieces = code :: code.parts.flatMap pieces := by
  cases code <;> simp [pieces, parts, piecesOf_eq_flatMap]

private theorem sizeOf_lt_of_mem_parts {part whole : Code} (member : part ∈ whole.parts) :
    sizeOf part < sizeOf whole := by
  have smaller {codes : List Code} (among : part ∈ codes) : sizeOf part < sizeOf codes :=
    List.sizeOf_lt_of_mem among
  cases whole <;> simp only [parts, List.mem_append, List.mem_cons, List.not_mem_nil] at member <;>
    grind

private theorem isWithin_of_mem_pieces {piece whole : Code} (member : piece ∈ whole.pieces) :
    piece.IsWithin whole := by
  rw [pieces_eq_cons] at member
  rcases List.mem_cons.mp member with rfl | member
  · exact .self
  · rcases List.mem_flatMap.mp member with ⟨part, isPart, member⟩
    exact .part isPart (isWithin_of_mem_pieces member)
termination_by sizeOf whole
decreasing_by exact sizeOf_lt_of_mem_parts isPart

private theorem IsWithin.mem_pieces {piece whole : Code} (within : piece.IsWithin whole) :
    piece ∈ whole.pieces := by
  induction within with
  | self =>
      rw [pieces_eq_cons]
      exact List.mem_cons_self
  | part member _ induction =>
      rw [pieces_eq_cons]
      exact List.mem_cons_of_mem _ (List.mem_flatMap.mpr ⟨_, member, induction⟩)

private theorem mem_pieces_iff {piece whole : Code} : piece ∈ whole.pieces ↔ piece.IsWithin whole :=
  ⟨isWithin_of_mem_pieces, IsWithin.mem_pieces⟩

private theorem mem_piecesOf_iff {piece : Code} {codes : List Code} :
    piece ∈ piecesOf codes ↔ ∃ code ∈ codes, piece.IsWithin code := by
  simp only [piecesOf_eq_flatMap, List.mem_flatMap, mem_pieces_iff]

/-! ## Handles that structs declare -/

/-- A type is a path whose first argument is a path to a resource. -/
def IsHandleOf (type : Code) (resource : String) : Prop :=
  ∃ others name argumentOthers arguments rest,
    type = .path others name (.path argumentOthers resource arguments :: rest)

private theorem resourceOf?_eq_some_iff {type : Code} {resource : String} :
    resourceOf? type = some resource ↔ type.IsHandleOf resource := by
  unfold resourceOf?
  constructor
  · intro found
    split at found
    · cases found
      exact ⟨_, _, _, _, _, rfl⟩
    · cases found
  · rintro ⟨others, name, argumentOthers, arguments, rest, rfl⟩
    rfl

/-- A piece of code is a struct with a named field whose type is a handle. -/
def HasHandle (code : Code) (field resource : String) (comments : List String) : Prop :=
  ∃ name docs others fields fieldOthers type, code = .struct name docs others fields ∧
    .field fieldOthers (some field) comments type ∈ fields ∧ type.IsHandleOf resource

theorem mem_handles_iff {code : Code} {field resource : String} {comments : List String} :
    (field, resource, comments) ∈ handles code ↔ code.HasHandle field resource comments := by
  unfold handles
  constructor
  · intro member
    split at member
    · next name docs others fields =>
        rcases List.mem_filterMap.mp member with ⟨code, isField, found⟩
        split at found
        · next fieldOthers fieldName fieldDocs type =>
            rcases Option.bind_eq_some_iff.mp found with ⟨held, isHeld, same⟩
            cases same
            exact ⟨name, docs, others, fields, fieldOthers, type, rfl, isField,
              resourceOf?_eq_some_iff.mp isHeld⟩
        · cases found
    · cases member
  · rintro ⟨name, docs, others, fields, fieldOthers, type, rfl, isField, isHandle⟩
    refine List.mem_filterMap.mpr ⟨_, isField, ?_⟩
    exact Option.bind_eq_some_iff.mpr ⟨resource, resourceOf?_eq_some_iff.mpr isHandle, rfl⟩

end Code

namespace SourceFile

/-- A struct anywhere in a file declares a handle. -/
def DeclaresHandle (file : SourceFile) (field resource : String) (comments : List String) : Prop :=
  ∃ item ∈ file.items, ∃ code : Code, code.IsWithin item ∧ code.HasHandle field resource comments

/-- The handles that the structs of a file declare, in the order of the source. -/
def handles (file : SourceFile) : List (String × String × List String) :=
  (Code.piecesOf file.items).flatMap Source.handles

theorem mem_handles_iff {file : SourceFile} {field resource : String} {comments : List String} :
    (field, resource, comments) ∈ file.handles ↔ file.DeclaresHandle field resource comments := by
  simp only [handles, List.mem_flatMap, Code.mem_handles_iff, Code.mem_piecesOf_iff]
  constructor
  · rintro ⟨code, ⟨item, member, within⟩, has⟩
    exact ⟨item, member, code, within, has⟩
  · rintro ⟨item, member, code, within, has⟩
    exact ⟨code, ⟨item, member, within⟩, has⟩

/-! ## Handles that are found -/

theorem map_wiring (file : SourceFile) (origin : String) :
    (file.wiring origin).map (fun fact => (fact.field, fact.resource, fact.comments)) =
      Keyed.ofList file.handles := by
  unfold wiring
  rw [List.map_map]
  exact List.map_id _

private theorem mem_wiring_iff {file : SourceFile} {field resource : String}
    {comments : List String}
    (origin : String) :
    (∃ fact ∈ file.wiring origin,
        fact.field = field ∧ fact.resource = resource ∧ fact.comments = comments) ↔
      (file.handles.filter (·.1 = field)).getLast? = some (field, resource, comments) := by
  rw [← Keyed.mem_ofList_iff, ← file.map_wiring origin, List.mem_map]
  simp only [Prod.mk.injEq]

private theorem pairwise_field_wiring (file : SourceFile) (origin : String) :
    (file.wiring origin).Pairwise fun fact later => fact.field < later.field := by
  have ordered := Keyed.ordered_ofList file.handles
  rw [← file.map_wiring origin, Keyed.Ordered, List.pairwise_map] at ordered
  exact ordered

private theorem declaresHandle_of_mem_wiring {file : SourceFile} {origin : String}
    {fact : WiringFact}
    (member : fact ∈ file.wiring origin) :
    file.DeclaresHandle fact.field fact.resource fact.comments := by
  have isLast := (mem_wiring_iff origin).mp ⟨fact, member, rfl, rfl, rfl⟩
  exact mem_handles_iff.mp (List.mem_filter.mp (List.mem_of_getLast? isLast)).1

private theorem exists_mem_wiring {file : SourceFile} {field resource : String}
    {comments : List String}
    (declares : file.DeclaresHandle field resource comments) (origin : String) :
    ∃ fact ∈ file.wiring origin, fact.field = field := by
  have among : (field, resource, comments) ∈ file.handles.filter (·.1 = field) :=
    List.mem_filter.mpr ⟨mem_handles_iff.mpr declares, decide_eq_true rfl⟩
  cases isLast : (file.handles.filter (·.1 = field)).getLast? with
  | none => exact absurd (List.getLast?_eq_none_iff.mp isLast) (List.ne_nil_of_mem among)
  | some last =>
      rcases last with ⟨stored, held, lines⟩
      have isField : stored = field := by
        simpa using (List.mem_filter.mp (List.mem_of_getLast? isLast)).2
      subst isField
      rcases (mem_wiring_iff origin).mpr isLast with ⟨fact, member, named, _⟩
      exact ⟨fact, member, named⟩

end SourceFile

private theorem wiringOfText_eq_ok {text : String} {file : SourceFile}
    (read : SourceFile.ofText? text = some file) (origin : String) :
    wiringOfText origin text = .ok (file.wiring origin) := by
  unfold wiringOfText
  rw [read]

/-- From every text that can be read, at most one handle is found for every name of a field, and
only one that a struct declares. A handle that a struct declares is found, with its resource and
its comments, exactly if it is the last one of the file whose field has its name. -/
theorem wiringOfText_handles {text : String} {file : SourceFile}
    (read : SourceFile.ofText? text = some file) (origin : String) :
    ∃ facts, wiringOfText origin text = .ok facts ∧
      (facts.Pairwise fun fact later => fact.field < later.field) ∧
      (∀ fact ∈ facts, file.DeclaresHandle fact.field fact.resource fact.comments) ∧
      ∀ field resource comments, file.DeclaresHandle field resource comments →
        (∃ fact ∈ facts, fact.field = field) ∧
        ((∃ fact ∈ facts,
            fact.field = field ∧ fact.resource = resource ∧ fact.comments = comments) ↔
          (file.handles.filter (·.1 = field)).getLast? = some (field, resource, comments)) := by
  refine ⟨file.wiring origin, wiringOfText_eq_ok read origin, file.pairwise_field_wiring origin,
    ?_, ?_⟩
  · exact fun fact member => SourceFile.declaresHandle_of_mem_wiring member
  · exact fun field resource comments declares =>
      ⟨SourceFile.exists_mem_wiring declares origin, SourceFile.mem_wiring_iff origin⟩

/-! ## A car and a boat -/

/-- Two structs with an engine each. -/
def harbourText : String :=
  "struct Car \x7b engine: Handle<Engine> \x7d " ++
    "struct Boat \x7b engine: Handle<Motor>,\n/// Linen.\nsail: Handle<Sail> \x7d"

private theorem exists_harbour : ∃ file, SourceFile.ofText? harbourText = some file ∧
    file.handles = [("engine", "Engine", []), ("engine", "Motor", []),
      ("sail", "Sail", ["Linen."])] :=
  Option.map_eq_some_iff.mp (by decide +kernel)

theorem wiringOfText_handles_harbour : ∃ file facts,
    SourceFile.ofText? harbourText = some file ∧
      file.DeclaresHandle "sail" "Sail" ["Linen."] ∧
      wiringOfText "harbour" harbourText = .ok facts ∧
      ∃ fact ∈ facts,
        fact.field = "sail" ∧ fact.resource = "Sail" ∧ fact.comments = ["Linen."] := by
  rcases exists_harbour with ⟨file, read, areHandles⟩
  rcases wiringOfText_handles read "harbour" with ⟨facts, found, _, _, each⟩
  have declares : file.DeclaresHandle "sail" "Sail" ["Linen."] :=
    SourceFile.mem_handles_iff.mp (by simp [areHandles])
  refine ⟨file, facts, read, declares, found, (each _ _ _ declares).2.mpr ?_⟩
  rw [areHandles]
  decide +kernel

/-- The engine of the car is not found. -/
theorem wiringOfText_harbour : ∃ file facts,
    SourceFile.ofText? harbourText = some file ∧ file.DeclaresHandle "engine" "Engine" [] ∧
      wiringOfText "harbour" harbourText = .ok facts ∧
      ∀ fact ∈ facts, fact.resource ≠ "Engine" := by
  rcases exists_harbour with ⟨file, read, areHandles⟩
  have resources : (file.wiring "harbour").map WiringFact.resource = ["Motor", "Sail"] := by
    have handles := congrArg (List.map (·.2.1)) (file.map_wiring "harbour")
    rw [areHandles, List.map_map] at handles
    exact handles.trans (by decide +kernel)
  refine ⟨file, file.wiring "harbour", read, SourceFile.mem_handles_iff.mp (by simp [areHandles]),
    wiringOfText_eq_ok read "harbour", fun fact member isEngine => ?_⟩
  have listed := List.mem_map_of_mem (f := WiringFact.resource) member
  rw [resources, isEngine] at listed
  revert listed
  decide

end Source

end RestModel
