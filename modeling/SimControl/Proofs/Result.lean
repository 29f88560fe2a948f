import SimControl.Proofs.Json.ReadBack
import SimControl.Result

/-!
# Results are read back

A result is read back from both of its texts with everything that it says, except that data that is null is not there
any more (`parse?_of_mem`). So a result is read back as it was unless its data is null (`optional_data_eq_iff`), which
of the results that are built as a success or as a failure only `noop` is (`Built.data_eq_null_iff`).
-/

namespace SimControl

namespace CommandResult

/-- All fields of a result, in the order in which they are written. -/
def fields (r : CommandResult) : List (String × Json) :=
  r.outcomeFields ++ [("timestamp", .ofUInt64 r.timestamp)]

def fieldNames : List String :=
  ["success", "data", "error", "code", "timestamp"]

theorem names_sublist (r : CommandResult) : (r.fields.map (·.1)).Sublist fieldNames := by
  obtain ⟨success, data, error, code, timestamp⟩ := r
  cases data <;> cases error <;> cases code <;> simp [fields, outcomeFields, fieldNames]

theorem ofFields?_fields (r : CommandResult) : ofFields? r.fields = some { r with data := Json.optional r.data } := by
  obtain ⟨success, data, error, code, timestamp⟩ := r
  cases data <;> cases error <;> cases code <;> rfl

/-- The payload of a result can be read inside the result. -/
def Readable (r : CommandResult) : Prop :=
  ∀ j, r.data = some j → j.Readable (Json.Reader.maxDepth - 1)

theorem readable_of_mem_fields {r : CommandResult} (hr : r.Readable) {e : String × Json} (he : e ∈ r.fields) :
    e.2.Readable (Json.Reader.maxDepth - 1) := by
  simp only [fields, outcomeFields, List.mem_append, List.mem_cons, Option.mem_toList, Option.map_map,
    Option.map_eq_some_iff, List.not_mem_nil, or_false] at he
  rcases he with (rfl | (⟨j, hj, rfl⟩ | ⟨message, -, rfl⟩) | ⟨code, -, rfl⟩) | rfl
  · exact .bool _
  · exact hr j hj
  · exact .string _
  · exact .string _
  · exact .number nofun

variable {text : Nat → Json → List Char} {lead : Nat → List Char} {gap : List Char}

/-- A result is read back, without data that is null. -/
theorem parse?_text (h : Json.Layout text lead gap) {r : CommandResult} (hr : r.Readable) :
    parse? (String.ofList (text 0 r.toJson)) = some { r with data := Json.optional r.data } := by
  let reader (count : Nat) : Json.Reader (List (String × Json)) :=
    Json.Reader.record (fieldNames.map fun name => (name, Json.Reader.valueInside 1 count)) count
  have hnames := r.names_sublist
  have hreads : Json.Reader.Reads (reader (text 0 r.toJson).length) (text 0 r.toJson) r.fields := by
    refine h.reads_record (hnames.nodup (by decide)) (fun e he => ?_) (Nat.le_refl _)
    have hname : e.1 ∈ fieldNames := hnames.subset (List.mem_map_of_mem he)
    exact ⟨_, lookup_map _ hname, h.reads_inside (readable_of_mem_fields hr he)⟩
  rw [parse?, String.toList_ofList]
  exact (congrArg (Option.bind · ofFields?) (Json.Reader.readAll_of_reads reader hreads)).trans r.ofFields?_fields

/-- Both texts of a result are read back, without data that is null. -/
theorem parse?_of_mem {r : CommandResult} (hr : r.Readable) {s : String}
    (hs : s ∈ [r.toJson.compact, r.toJson.pretty]) : parse? s = some { r with data := Json.optional r.data } := by
  rcases List.mem_cons.1 hs with rfl | hs
  · exact parse?_text Json.layout_compact hr
  · rw [List.mem_singleton.1 hs]
    exact parse?_text Json.layout_pretty hr

theorem optional_data_eq_iff {r : CommandResult} :
    { r with data := Json.optional r.data } = r ↔ r.data ≠ some .null := by
  obtain ⟨success, data, error, code, timestamp⟩ := r
  cases data with
  | none => simp [Json.optional]
  | some j => cases j <;> simp [Json.optional]

/-! ## Built results -/

/-- Built as a success or as a failure. -/
inductive Built : CommandResult → Prop where
  | ok (data : Json) : Built (.ok data)
  | failure (code message : String) : Built (.failure code message)

/-- Of the built results only the success without data to speak of has null data. -/
theorem Built.data_eq_null_iff {r : CommandResult} (h : r.Built) : r.data = some .null ↔ r = .noop := by
  cases h with
  | ok data => simp [noop, CommandResult.ok]
  | failure code message => simp [noop, CommandResult.ok, CommandResult.failure]

end CommandResult

end SimControl
