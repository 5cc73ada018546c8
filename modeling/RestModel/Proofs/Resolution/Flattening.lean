import RestModel.Proofs.Distinct
import RestModel.Proofs.Resolution.Wrapping

/-! # Compositions within compositions

Merging takes everything that is said from the first schema that says it, so it does not matter
which schemas are put together first, as long as they keep their places. That is why a
composition among the parts of another one can give way to its own parts. -/

namespace RestModel

namespace Schema

/-! ## Merging is associative -/

theorem properties_merge (schema other : Schema) (keepRequired : Bool) :
    (schema.merge other keepRequired).properties =
      Keyed.addAll schema.properties other.properties := rfl

private theorem required_merge (schema other : Schema) :
    (schema.merge other true).required = other.required.foldl (addNew id) schema.required := by
  have step : (fun required key : _ =>
      if List.contains required key then required else required ++ [key]) =
        addNew (id : String → String) := by
    funext required key
    simp [addNew]
  rw [← step]
  rfl

/-- Whatever is merged first, everything that is said comes from the first schema that says
it, and what is required keeps its order. -/
theorem merge_assoc (schema part other : Schema) :
    (schema.merge part true).merge other true = schema.merge (part.merge other true) true := by
  have first {α : Type} (said next last : Option α) :
      ((said <|> next) <|> last) = (said <|> (next <|> last)) := by
    cases said <;> rfl
  have properties : ((schema.merge part true).merge other true).properties =
      (schema.merge (part.merge other true) true).properties := by
    simp only [properties_merge, Keyed.addAll_addAll]
  have required : ((schema.merge part true).merge other true).required =
      (schema.merge (part.merge other true) true).required := by
    simp only [required_merge, foldl_addNew_foldl]
  exact (Schema.mk.injEq ..).mpr ⟨first _ _ _, first _ _ _, first _ _ _, Bool.or_assoc _ _ _,
    properties, required, first _ _ _, first _ _ _, rfl, rfl⟩

private theorem merge_free (schema : Schema) (keepRequired : Bool) :
    schema.merge free keepRequired = schema := by
  cases schema
  simp [merge, free]

/-- Merging several schemas one after another comes to merging what they come to. -/
theorem foldl_merge_eq (schema : Schema) (parts : List Schema) :
    parts.foldl (fun schema part => schema.merge part true) schema =
      schema.merge (parts.foldl (fun schema part => schema.merge part true) free) true := by
  -- Parts are merged from the left, so the induction is about any schema to start from.
  have shifted : ∀ start : Schema,
      parts.foldl (fun schema part => schema.merge part true) (schema.merge start true) =
        schema.merge (parts.foldl (fun schema part => schema.merge part true) start) true := by
    induction parts with
    | nil => exact fun _ => rfl
    | cons part rest induction =>
        intro start
        rw [List.foldl_cons, merge_assoc, induction, List.foldl_cons]
  have whole := shifted free
  rwa [merge_free] at whole

/-! ## Compositions -/

theorem addVariants_nil (schema : Schema) : schema.addVariants [] = schema := by
  cases schema
  simp [addVariants]

private theorem resolveWith_allOf (expand : String → Schema) (parts : List Json) :
    resolveWith expand (composition "allOf" parts) =
      (parts.map (resolveWith expand)).foldl (fun schema part => schema.merge part true) free := by
  rw [resolveWith_of_assembled _ rfl rfl]
  exact addVariants_nil _

/-- An object with other parts to its composition. -/
def withParts (members : List (String × Json)) (parts : List Json) : Json :=
  .object (Keyed.insert "allOf" (.array parts) members)

variable {members : List (String × Json)}

private theorem get?_withParts {key : String} (other : key ≠ "allOf") (parts : List Json) :
    (withParts members parts).get? key = Keyed.get? key members :=
  Keyed.get?_insert_of_ne other ..

private theorem itemsAt_withParts (members : List (String × Json)) (parts : List Json) :
    (withParts members parts).itemsAt "allOf" = parts := by
  have stored : (withParts members parts).get? "allOf" = some (.array parts) :=
    Keyed.get?_insert_self ..
  rw [Json.itemsAt, stored]
  rfl

/-- The parts of a composition count by what they merge into a schema, and only there. -/
theorem resolveWith_withParts_congr {expand : String → Schema} {parts others : List Json}
    (plain : (Json.object members).textAt? "$ref" = none)
    (same : ∀ schema : Schema,
      (parts.map (resolveWith expand)).foldl (fun schema part => schema.merge part true) schema =
        (others.map (resolveWith expand)).foldl (fun schema part => schema.merge part true)
          schema) :
    resolveWith expand (withParts members parts) =
      resolveWith expand (withParts members others) := by
  have written (parts : List Json) : (withParts members parts).textAt? "$ref" = none := by
    rwa [Json.textAt?, get?_withParts (by decide)]
  rw [resolveWith_of_assembled expand rfl (written parts),
    resolveWith_of_assembled expand rfl (written others)]
  simp only [assemble, itemsAt_withParts, same]
  -- Everything else is read under other keys, where the two objects are alike.
  simp only [Parts.variants, Json.membersAt, Json.additionalAt?, Json.variantsAt, writtenType?,
    writtenNullable, Json.textAt?, Json.itemsAt, get?_withParts, ne_eq, String.reduceEq,
    not_false_eq_true]

/-- A composition that is a part of another one says what its own parts say in its place,
whatever components are being resolved. -/
theorem resolveWithin_flattens (components : List (String × Json)) (stack : List String)
    (members : List (String × Json)) (plain : (Json.object members).textAt? "$ref" = none)
    (before inner after : List Json) :
    resolveWithin components stack
        (withParts members (before ++ [composition "allOf" inner] ++ after)) =
      resolveWithin components stack (withParts members (before ++ inner ++ after)) := by
  refine resolveWith_withParts_congr plain fun schema => ?_
  simp only [List.map_append, List.foldl_append, List.map_cons, List.map_nil, List.foldl_cons,
    List.foldl_nil]
  rw [resolveWith_allOf, ← foldl_merge_eq]

/-- A record has a number, and a work has a title and an older kind of number. -/
def records : List (String × Json) :=
  [("Record", .object [
      ("properties", .object [("number", .object [("type", .string "integer")])]),
      ("required", .array [.string "number"])]),
    ("Work", .object [
      ("description", .string "A work"),
      ("properties", .object [
        ("number", .object [("type", .string "string")]),
        ("title", .object [("type", .string "string")])]),
      ("required", .array [.string "title", .string "number"])])]

/-- Whether a book is a record of a dated work or a record, a work and dated, the record comes
first. -/
theorem resolveWithin_flattens_records :
    let book := [("allOf", Json.null), ("properties", .object [("pages", .object [])])]
    let record := Json.object [("$ref", .string "#/components/schemas/Record")]
    let work := Json.object [("$ref", .string "#/components/schemas/Work")]
    let dated := Json.object [
      ("description", .string "Dated"), ("required", .array [.string "date", .string "title"])]
    (Json.object book).textAt? "$ref" = none ∧
      resolveWithin records ["Book"]
          (withParts book ([record] ++ [composition "allOf" [work, dated]] ++ [])) =
        resolveWithin records ["Book"] (withParts book ([record] ++ [work, dated] ++ [])) ∧
      let resolved := resolveWithin records ["Book"] (withParts book [record, work, dated])
      resolved.properties.map (fun entry => (entry.1, entry.2.type)) =
          [("number", some .integer), ("pages", none), ("title", some .string)] ∧
        resolved.required = ["number", "title", "date"] ∧
        resolved.description = some "A work" := by
  intro book record work dated
  exact ⟨rfl, resolveWithin_flattens records ["Book"] book rfl [record] [work, dated] [],
    by decide +kernel, by decide +kernel, by decide +kernel⟩

end Schema

end RestModel
