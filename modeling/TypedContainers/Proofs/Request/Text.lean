import TypedContainers.Proofs.Json.Document
import TypedContainers.Request

/-!
# The text of the requests

Both requests are sent as compact text.  What is read from it is the request itself, and
the field list is the same piece of text in both.
-/

namespace TypedContainers.Request

/-! ## Requests fit -/

theorem fits_fieldArray (schema : ContainerSchema) (depth : Nat) :
    Json.Fits (depth + 1) (fieldArray schema) := by
  apply Json.Fits.array
  intro item hitem
  obtain ⟨name, _, rfl⟩ := List.mem_map.mp hitem
  exact Json.Fits.string

theorem fits_instances (schema : ContainerSchema) :
    Json.Fits Json.maxDepth (instances schema) := by
  apply Json.Fits.object
  rw [List.forall_mem_singleton]
  apply Json.Fits.object
  rw [List.forall_mem_singleton]
  apply Json.Fits.object
  rw [List.forall_mem_singleton]
  exact fits_fieldArray schema _

/-- A limit of 53 bits is in the range of numbers. -/
theorem fits_filter (schema : ContainerSchema) (restriction : String) {limit : Int}
    (hlimit : limit.natAbs < Nat.pow 2 53) :
    Json.Fits Json.maxDepth (filter schema restriction limit) := by
  apply Json.Fits.object
  rw [List.forall_mem_cons, List.forall_mem_cons, List.forall_mem_singleton]
  refine ⟨Json.Fits.string, fits_fieldArray schema _, ?_⟩
  exact Json.Fits.number (Json.overflows_ofInt hlimit)

theorem natAbs_toInt_lt (limit : Int32) : limit.toInt.natAbs < Nat.pow 2 53 := by
  have hlow := limit.le_toInt
  have hhigh := limit.toInt_lt
  have hbits : limit.toInt.natAbs < 2147483649 := by omega
  exact Nat.lt_trans hbits (by decide)

/-! ## The pieces of a request -/

theorem compact_instances (schema : ContainerSchema) :
    Json.compact (instances schema) =
      "\x7b\"panes\":\x7b\"card\":\x7b\"fields\":" ++ Json.compact (fieldArray schema) ++
        "\x7d\x7d\x7d" := by
  apply String.toList_inj.mp
  simp only [Json.compact, String.toList_append, String.toList_ofList, instances,
    Json.compactChars, Json.compactMembers, List.append_assoc, List.cons_append]
  rfl

theorem compact_filter (schema : ContainerSchema) (restriction : String) (limit : Int) :
    Json.compact (filter schema restriction limit) =
      "\x7b\"restriction\":" ++ Json.compact (.string restriction) ++ ",\"fields\":" ++
        Json.compact (fieldArray schema) ++ ",\"limit\":" ++ toString limit ++ "\x7d" := by
  have hlimit : Json.numberChars (.ofInt limit) = (toString limit).toList := List.append_nil _
  apply String.toList_inj.mp
  simp only [Json.compact, String.toList_append, String.toList_ofList, ← hlimit, filter,
    Json.compactChars, Json.compactMembers, List.append_assoc]
  rfl

/-- What is read from the text of a request is what it was made from: the field list, and
the restriction and the limit as they were given, member by member in order.  The piece
of text that holds the field list is the same in both requests. -/
theorem requests_of_text (schema : ContainerSchema) (restriction : String)
    (limit : Int32) :
    let fields := Json.array ((fieldList schema).map Json.string)
    Json.read (Json.compact (instances schema)) =
        .ok (.object [("panes", .object [("card", .object [("fields", fields)])])]) ∧
      Json.read (Json.compact (filter schema restriction limit.toInt)) =
        .ok (.object [("restriction", .string restriction), ("fields", fields),
          ("limit", .number (.ofInt limit.toInt))]) ∧
      ∃ text : String, Json.read text = .ok fields ∧
        Json.compact (instances schema) =
          "\x7b\"panes\":\x7b\"card\":\x7b\"fields\":" ++ text ++ "\x7d\x7d\x7d" ∧
        Json.compact (filter schema restriction limit.toInt) =
          "\x7b\"restriction\":" ++ Json.compact (.string restriction) ++ ",\"fields\":" ++
            text ++ ",\"limit\":" ++ toString limit.toInt ++ "\x7d" := by
  intro fields
  have hinstances := Json.read_compact (fits_instances schema)
  have hfilter := Json.read_compact (fits_filter schema restriction (natAbs_toInt_lt limit))
  have hfields := Json.read_compact (fits_fieldArray schema 126)
  exact ⟨hinstances, hfilter, Json.compact (fieldArray schema), hfields,
    compact_instances schema, compact_filter schema restriction limit.toInt⟩

example :
    Json.compact (filter ⟨"job", "no", ["name", "no"]⟩ "name = \"A\"" (-1)) =
      "\x7b\"restriction\":\"name = \\\"A\\\"\"," ++
        "\"fields\":[\"no\",\"name\",\"createddate\"],\"limit\":-1\x7d" := by decide

end TypedContainers.Request
