import RestModel.Proofs.Directive.Registration

/-! # Finding markers

A text is looked up by its name, and then by ever shorter beginnings of the name, each of which
ends before a colon. So the definition with the longest name is found. A marker is found under
its own name unless that name holds a bracket or has blanks at its ends, as lookup takes those
for parts of a directive. -/

namespace RestModel.Registry

/-- A beginning of a name that ends before one of its colons, or the name itself. -/
def IsLeading (beginning name : String) : Prop :=
  beginning = name ∨ ∃ rest, name = beginning ++ ":" ++ rest

/-- A text without blanks at its ends and without one plus sign, up to the first equals sign and
then up to the first bracket, again without blanks at its ends. -/
def bareName (text : String) : String :=
  let trimmed := Text.trim text
  let bare := (Text.after? "+" trimmed).getD trimmed
  Text.trim (Text.beforeFirst '[' (Text.beforeFirst '=' bare))

/-- Look for a name and, as long as nothing is found, for what stands before its last colon. -/
def search (registry : Registry) (target : Target) (name : String) : Option Marker :=
  match registry.find? name target with
  | some definition => some definition
  | none =>
      match _ : Text.beforeLast? ':' name with
      | some shorter => registry.search target shorter
      | none => none
termination_by name.length
decreasing_by
  apply Text.length_lt_of_beforeLast?
  assumption

/-! ## Beginnings of a name -/

theorem isLeading_iff_toList {beginning name : String} :
    IsLeading beginning name ↔
      beginning = name ∨ ∃ rest, name.toList = beginning.toList ++ ':' :: rest := by
  unfold IsLeading
  constructor
  · rintro (equal | ⟨rest, rfl⟩)
    · exact .inl equal
    · exact .inr ⟨rest.toList, by simp⟩
  · rintro (equal | ⟨rest, written⟩)
    · exact .inl equal
    · exact .inr ⟨String.ofList rest, String.toList_inj.mp (by simp [written])⟩

private theorem IsLeading.length_le {beginning name : String} (leading : IsLeading beginning name) :
    beginning.length ≤ name.length := by
  rcases leading with rfl | ⟨rest, rfl⟩
  · exact Nat.le_refl _
  · rw [String.length_append, String.length_append]
    omega

private theorem IsLeading.eq_of_length_le {beginning name : String}
    (leading : IsLeading beginning name)
    (long : name.length ≤ beginning.length) : beginning = name := by
  rcases leading with equal | ⟨rest, rfl⟩
  · exact equal
  · rw [String.length_append, String.length_append] at long
    have one : ":".length = 1 := rfl
    omega

/-- The beginnings of a name are the name and the beginnings of what stands before its last
colon. -/
theorem isLeading_iff_of_beforeLast? {beginning name shorter : String}
    (before : Text.beforeLast? ':' name = some shorter) :
    IsLeading beginning name ↔ beginning = name ∨ IsLeading beginning shorter := by
  rcases Text.beforeLast?_eq_some_iff.mp before with ⟨last, written, absent⟩
  simp only [isLeading_iff_toList, written, ← String.toList_inj]
  constructor
  · rintro (equal | ⟨rest, split⟩)
    · exact .inl equal
    · right
      rcases List.append_eq_append_iff.mp split with ⟨between, equal, tail⟩ | ⟨between, equal, tail⟩
      · cases between with
        | nil => exact .inl (by simpa using equal)
        | cons c more =>
            rcases List.cons.inj tail with ⟨_, inLast⟩
            simp [inLast] at absent
      · cases between with
        | nil => exact .inl (by simpa using equal.symm)
        | cons c more =>
            rcases List.cons.inj tail with ⟨rfl, _⟩
            exact .inr ⟨more, equal⟩
  · rintro (equal | equal | ⟨rest, begins⟩)
    · exact .inl equal
    · exact .inr ⟨last, by rw [equal]⟩
    · exact .inr ⟨rest ++ ':' :: last, by simp [begins]⟩

private theorem isLeading_iff_of_undivided {beginning name : String}
    (undivided : Text.beforeLast? ':' name = none) :
    IsLeading beginning name ↔ beginning = name := by
  rw [isLeading_iff_toList]
  refine ⟨?_, .inl⟩
  rintro (equal | ⟨rest, written⟩)
  · exact equal
  · exact absurd (by simp [written]) (Text.beforeLast?_eq_none_iff.mp undivided)

/-- Lookup tries a name before what stands before its last colon. -/
theorem leadingNames_eq (name : String) :
    leadingNames name = name :: ((Text.beforeLast? ':' name).elim [] leadingNames) := by
  cases before : Text.beforeLast? ':' name with
  | none =>
      have absent := Text.beforeLast?_eq_none_iff.mp before
      simp [leadingNames, Text.pieces, Text.piecesBy_of_not_mem absent, Text.join]
  | some shorter =>
      rcases Text.beforeLast?_eq_some_iff.mp before with ⟨last, written, absent⟩
      have segments : Text.pieces ':' name = Text.pieces ':' shorter ++ [String.ofList last] := by
        simp [Text.pieces, written, Text.piecesBy_append_separator,
          Text.piecesBy_of_not_mem absent]
      have one_more : (Text.pieces ':' name).length = (Text.pieces ':' shorter).length + 1 := by
        simp [segments]
      simp only [leadingNames, Option.elim_some]
      rw [one_more, List.range_succ_eq_map, List.map_cons, List.map_map]
      congr 1
      · rw [List.take_of_length_le (by omega), Text.join_pieces]
      · apply List.map_congr_left
        intro dropped _
        rw [Function.comp_apply, Nat.succ_eq_add_one, Nat.add_sub_add_right, segments,
          List.take_append_of_le_length (Nat.sub_le _ _)]

/-! ## The longest name that is registered -/

variable {registry : Registry} {definition : Marker} {target : Target}

private theorem lookup?_eq_search (registry : Registry) (text : String) (target : Target) :
    registry.lookup? text target = registry.search target (nameIn text) := by
  unfold lookup?
  fun_induction search registry target (nameIn text) with
  | case1 name definition found =>
      rw [leadingNames_eq]
      simp [found]
  | case2 name missing shorter before induction =>
      rw [leadingNames_eq]
      simp [missing, before, induction]
  | case3 name missing undivided =>
      rw [leadingNames_eq]
      simp [missing, undivided]

theorem search_eq_none_iff {name : String} : registry.search target name = none ↔
    ∀ beginning, IsLeading beginning name → registry.find? beginning target = none := by
  fun_induction search registry target name with
  | case1 name known found =>
      simp only [reduceCtorEq, false_iff]
      intro unknown
      rw [unknown name (.inl rfl)] at found
      contradiction
  | case2 name missing shorter before induction =>
      rw [induction]
      simp only [isLeading_iff_of_beforeLast? before]
      constructor
      · rintro unknown beginning (rfl | leading)
        · exact missing
        · exact unknown beginning leading
      · intro unknown beginning leading
        exact unknown beginning (.inr leading)
  | case3 name missing undivided =>
      simp [isLeading_iff_of_undivided undivided, missing]

/-- What is found is known under a beginning of the name, and under no longer one is anything
known. -/
theorem search_eq_some_iff {name : String} : registry.search target name = some definition ↔
    registry.find? definition.name target = some definition ∧ IsLeading definition.name name ∧
      ∀ beginning, IsLeading beginning name →
        (registry.find? beginning target).isSome = true →
          beginning.length ≤ definition.name.length := by
  fun_induction search registry target name with
  | case1 name known found =>
      have isNamed := (mem_of_find? found).2.1
      constructor
      · rintro ⟨⟩
        refine ⟨isNamed ▸ found, .inl isNamed, ?_⟩
        intro beginning leading _
        exact isNamed ▸ leading.length_le
      · rintro ⟨isKnown, leading, longest⟩
        have same := leading.eq_of_length_le (longest name (.inl rfl) (by simp [found]))
        rw [← found, ← same, isKnown]
  | case2 name missing shorter before induction =>
      rw [induction]
      simp only [isLeading_iff_of_beforeLast? before]
      constructor
      · rintro ⟨isKnown, leading, longest⟩
        refine ⟨isKnown, .inr leading, ?_⟩
        rintro beginning (rfl | begins) isSome
        · simp [missing] at isSome
        · exact longest beginning begins isSome
      · rintro ⟨isKnown, rfl | leading, longest⟩
        · simp [missing] at isKnown
        · exact ⟨isKnown, leading, fun beginning begins => longest beginning (.inr begins)⟩
  | case3 name missing undivided =>
      simp only [reduceCtorEq, false_iff, isLeading_iff_of_undivided undivided]
      rintro ⟨isKnown, rfl, _⟩
      simp [missing] at isKnown

private theorem nameIn_eq_bareName (text : String) : nameIn text = bareName text := by
  unfold nameIn bareName Text.trim Text.beforeFirst Text.after?
  simp only [String.toList_ofList]
  cases Text.trimChars text.toList with
  | nil => simp [Text.afterChars?]
  | cons first rest =>
      by_cases isSigil : first = '+'
      · subst isSigil
        simp [Text.afterChars?]
      · have notSigil : '+' ≠ first := Ne.symm isSigil
        simp [Text.afterChars?, isSigil, notSigil]

private theorem IsWellFormed.find?_eq_some_iff (wellFormed : registry.IsWellFormed)
    {name : String} :
    registry.find? name target = some definition ↔
      definition ∈ registry.definitions ∧ definition.name = name ∧ definition.target = target := by
  refine ⟨mem_of_find?, ?_⟩
  rintro ⟨member, rfl, rfl⟩
  exact wellFormed.own definition member

private theorem IsWellFormed.isSome_find?_iff (wellFormed : registry.IsWellFormed) {name : String} :
    (registry.find? name target).isSome = true ↔
      ∃ definition ∈ registry.definitions, definition.name = name ∧ definition.target = target := by
  rw [Option.isSome_iff_exists]
  simp only [wellFormed.find?_eq_some_iff]

theorem IsWellFormed.search_eq_some_iff (wellFormed : registry.IsWellFormed) {name : String} :
    registry.search target name = some definition ↔
      (definition ∈ registry.definitions ∧ definition.target = target ∧
          IsLeading definition.name name) ∧
        ∀ other ∈ registry.definitions, other.target = target → IsLeading other.name name →
          other.name.length ≤ definition.name.length := by
  simp only [Registry.search_eq_some_iff, wellFormed.find?_eq_some_iff,
    wellFormed.isSome_find?_iff, true_and]
  constructor
  · rintro ⟨⟨member, isFor⟩, leading, longest⟩
    refine ⟨⟨member, isFor, leading⟩, ?_⟩
    intro other isOther otherFor begins
    exact longest other.name begins ⟨other, isOther, rfl, otherFor⟩
  · rintro ⟨⟨member, isFor, leading⟩, longest⟩
    refine ⟨⟨member, isFor⟩, leading, ?_⟩
    rintro _ begins ⟨other, isOther, rfl, otherFor⟩
    exact longest other isOther otherFor begins

theorem IsWellFormed.search_eq_none_iff (wellFormed : registry.IsWellFormed) {name : String} :
    registry.search target name = none ↔
      ∀ definition ∈ registry.definitions, definition.target = target →
        ¬IsLeading definition.name name := by
  rw [Registry.search_eq_none_iff]
  constructor
  · rintro unknown definition member rfl leading
    have missing := unknown definition.name leading
    simp [wellFormed.own definition member] at missing
  · intro unknown beginning leading
    apply Option.eq_none_iff_forall_not_mem.mpr
    intro definition found
    rcases mem_of_find? found with ⟨member, rfl, isFor⟩
    exact unknown definition member isFor leading

/-- After any calls, a text is found under the longest beginning of its name that is registered
for the target. -/
theorem lookup?_longest (calls : List Marker) (text : String) (target : Target) :
    (∀ definition, (afterCalls calls).lookup? text target = some definition ↔
      (definition ∈ (afterCalls calls).definitions ∧ definition.target = target ∧
          IsLeading definition.name (bareName text)) ∧
        ∀ other ∈ (afterCalls calls).definitions, other.target = target →
          IsLeading other.name (bareName text) → other.name.length ≤ definition.name.length) ∧
      ((afterCalls calls).lookup? text target = none ↔
        ∀ definition ∈ (afterCalls calls).definitions, definition.target = target →
          ¬IsLeading definition.name (bareName text)) ∧
      (afterCalls calls).lookup? text target =
        (afterCalls calls).search target (bareName text) := by
  have wellFormed := isWellFormed_afterCalls calls
  have searched := lookup?_eq_search (afterCalls calls) text target
  rw [nameIn_eq_bareName] at searched
  rw [searched]
  exact ⟨fun _ => wellFormed.search_eq_some_iff, wellFormed.search_eq_none_iff, rfl⟩

/-- Options and further segments are left out until a name is known. -/
example :
    let marker (name : String) : Marker := ⟨name, .type, .int, "how long it is"⟩
    let registry := afterCalls (["shop", "shop:", "shop::size"].map marker)
    registry.lookup? " +shop::size:cm[mm]=3" .type = some (marker "shop::size") ∧
      registry.lookup? "+shop::sizes" .type = some (marker "shop:") ∧
      registry.lookup? "+shop" .field = none := by
  decide +kernel

/-! ## A marker under its own name -/

/-- A name that lookup takes as a whole: without brackets, and without blanks at its ends. -/
def IsWhole (name : String) : Prop := '[' ∉ name.toList ∧ Text.trim name = name

instance (name : String) : Decidable (IsWhole name) := inferInstanceAs (Decidable (_ ∧ _))

private theorem isWhole_iff {name : String} :
    IsWhole name ↔ '[' ∉ name.toList ∧ Text.trimChars name.toList = name.toList := by
  unfold IsWhole
  rw [← String.toList_inj, Text.trim, String.toList_ofList]

/-- Cutting and trimming shorten a name unless it is taken as a whole. -/
theorem trimChars_takeWhile_eq_iff {name kept : List Char} (sublist : kept.Sublist name)
    (whole : Text.trimChars name = name → kept = name) :
    Text.trimChars (kept.takeWhile (· != '[')) = name ↔
      '[' ∉ name ∧ Text.trimChars name = name := by
  constructor
  · intro same
    have trimmed := Text.trimChars_sublist (kept.takeWhile (· != '['))
    rw [same] at trimmed
    have cut : kept.takeWhile (· != '[') = name :=
      ((List.takeWhile_sublist _).trans sublist).eq_of_length_le trimmed.length_le
    refine ⟨?_, by rw [← cut, same, cut]⟩
    rw [← cut]
    exact Text.not_mem_takeWhile '[' kept
  · rintro ⟨unbracketed, trimmed⟩
    rw [whole trimmed, Text.takeWhile_ne_of_not_mem unbracketed, trimmed]

private theorem trimEndChars_of_trimChars {name : List Char}
    (trimmed : Text.trimChars name = name) :
    Text.trimEndChars name = name := by
  have shorter := Text.trimEndChars_sublist (name.dropWhile Text.isBlank)
  rw [show Text.trimEndChars (name.dropWhile Text.isBlank) = name from trimmed] at shorter
  have unblank : name.dropWhile Text.isBlank = name :=
    (List.dropWhile_sublist _).eq_of_length_le shorter.length_le
  rwa [Text.trimChars, unblank] at trimmed

section Own

variable {name : String} (unpaid : '=' ∉ name.toList)

include unpaid

private theorem toList_bareName_sigil : (bareName ("+" ++ name)).toList =
    Text.trimChars ((Text.trimEndChars name.toList).takeWhile (· != '[')) := by
  have trimmed : Text.trimChars ("+" ++ name).toList = '+' :: Text.trimEndChars name.toList := by
    simpa using Text.trimChars_cons (by decide) name.toList
  have absent : '=' ∉ Text.trimEndChars name.toList := fun member =>
    unpaid ((Text.trimEndChars_sublist _).subset member)
  rw [← nameIn_eq_bareName]
  simp only [nameIn, trimmed, String.toList_ofList]
  rw [Text.takeWhile_ne_of_not_mem absent]

private theorem toList_bareName_payload (payload : String) :
    (bareName ("+" ++ name ++ "=" ++ payload)).toList =
      Text.trimChars (name.toList.takeWhile (· != '[')) := by
  have trimmed : Text.trimChars ("+" ++ name ++ "=" ++ payload).toList =
      '+' :: (name.toList ++ '=' :: Text.trimEndChars payload.toList) := by
    rw [← Text.trimEndChars_append_cons (by decide), ← Text.trimChars_cons (by decide)]
    simp
  rw [← nameIn_eq_bareName]
  simp only [nameIn, trimmed, String.toList_ofList]
  rw [Text.takeWhile_append_cons (Text.differs_of_not_mem unpaid) (by decide)]

end Own

/-- A text whose name comes from that of a definition, by cutting and trimming, leads to the
definition only if nothing is cut off and nothing is trimmed. -/
theorem lookup?_eq_some_iff_isWhole {calls : List Marker}
    (known : definition ∈ (afterCalls calls).definitions) {text : String} {kept : List Char}
    (named : (bareName text).toList = Text.trimChars (kept.takeWhile (· != '[')))
    (sublist : kept.Sublist definition.name.toList)
    (whole : Text.trimChars definition.name.toList = definition.name.toList →
      kept = definition.name.toList) :
    (afterCalls calls).lookup? text definition.target = some definition ↔
      IsWhole definition.name := by
  have short : (bareName text).length ≤ definition.name.length := by
    rw [← String.length_toList, ← String.length_toList, named]
    exact ((Text.trimChars_sublist _).trans ((List.takeWhile_sublist _).trans sublist)).length_le
  have isOwn : bareName text = definition.name ↔ IsWhole definition.name := by
    rw [← String.toList_inj, named, isWhole_iff]
    exact trimChars_takeWhile_eq_iff sublist whole
  rw [← isOwn, lookup?_eq_search, nameIn_eq_bareName, search_eq_some_iff]
  constructor
  · rintro ⟨_, leading, _⟩
    exact (leading.eq_of_length_le short).symm
  · intro same
    rw [same]
    refine ⟨(isWellFormed_afterCalls calls).own definition known, .inl rfl, ?_⟩
    intro beginning leading _
    exact leading.length_le

/-- A marker that is registered is found under its own name, with or without a payload, exactly
if lookup takes the name as a whole. -/
theorem lookup?_own {calls : List Marker} (known : definition ∈ (afterCalls calls).definitions)
    (payload : String) :
    ((afterCalls calls).lookup? ("+" ++ definition.name) definition.target = some definition ↔
        IsWhole definition.name) ∧
      ((afterCalls calls).lookup? ("+" ++ definition.name ++ "=" ++ payload) definition.target =
          some definition ↔ IsWhole definition.name) := by
  have unpaid := ((isWellFormed_afterCalls calls).names definition known).unpaid
  constructor
  · exact lookup?_eq_some_iff_isWhole known (toList_bareName_sigil unpaid)
      (Text.trimEndChars_sublist _) trimEndChars_of_trimChars
  · exact lookup?_eq_some_iff_isWhole known (toList_bareName_payload unpaid payload)
      (List.Sublist.refl _) fun _ => rfl

def sizeMarker (name : String) : Marker := ⟨name, .type, .int, "how long it is"⟩

theorem lookup?_own_size :
    sizeMarker "shop:size" ∈ (afterCalls [sizeMarker "shop", sizeMarker "shop:size"]).definitions ∧
      IsWhole (sizeMarker "shop:size").name ∧
      (afterCalls [sizeMarker "shop", sizeMarker "shop:size"]).lookup? "+shop:size" .type =
        some (sizeMarker "shop:size") ∧
      (afterCalls [sizeMarker "shop", sizeMarker "shop:size"]).lookup? "+shop:size=[7]=:x " .type =
        some (sizeMarker "shop:size") := by
  have known : sizeMarker "shop:size" ∈
      (afterCalls [sizeMarker "shop", sizeMarker "shop:size"]).definitions := by decide +kernel
  have whole : IsWhole (sizeMarker "shop:size").name := by decide +kernel
  rcases lookup?_own known "[7]=:x " with ⟨bare, paid⟩
  exact ⟨known, whole, bare.mpr whole, paid.mpr whole⟩

/-- Markers that are registered and not found under their own names: with a bracket, for which
another marker is found, and with a blank in front. -/
theorem lookup?_own_bracketed :
    sizeMarker "shop:size[cm]" ∈ (afterCalls [sizeMarker "shop:size",
        sizeMarker "shop:size[cm]"]).definitions ∧
      (afterCalls [sizeMarker "shop:size", sizeMarker "shop:size[cm]"]).lookup? "+shop:size[cm]"
        .type = some (sizeMarker "shop:size") ∧
      sizeMarker " shop:size" ∈ (afterCalls [sizeMarker " shop:size"]).definitions ∧
      (afterCalls [sizeMarker " shop:size"]).lookup? "+ shop:size=7" .type = none := by
  decide +kernel

end RestModel.Registry
