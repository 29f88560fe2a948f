import SimControl.Json.Record
import SimControl.Proofs.Dictionary
import SimControl.Proofs.Json.Container

/-!
# Data is read back

A value is read back from its compact and from its pretty text (`Layout.parse?`), and so is a record (`reads_record`).
Both texts are laid out alike and differ only in the blanks between their parts. What the reader cannot take is excluded
by `Readable`: too many containers inside each other, fields that are not in order, and doubles whose text stands for
another double.
-/

namespace SimControl

namespace Json

/-- A value in canonical form with at most `depth` containers inside each other, whose doubles are read back. -/
inductive Readable : Nat → Json → Prop where
  | null {depth : Nat} : Readable depth .null
  | bool {depth : Nat} (b : Bool) : Readable depth (.bool b)
  | number {depth : Nat} {n : Number} (h : ∀ x, n = .double x → Reader.number true n.text = some (n, [])) :
      Readable depth (.number n)
  | string {depth : Nat} (s : String) : Readable depth (.string s)
  | array {depth : Nat} {items : List Json} (h : ∀ j ∈ items, Readable depth j) : Readable (depth + 1) (.array items)
  | object {depth : Nat} {fields : List (String × Json)} (hsorted : fields.Pairwise fun a b => a.1 < b.1)
      (h : ∀ e ∈ fields, Readable depth e.2) : Readable (depth + 1) (.object fields)

/-! ## Layouts -/

/-- How a writer lays out values: which blanks stand before an item or a field of a container at some depth and before
its closing bracket, and which between a key and its value. -/
structure Layout (text : Nat → Json → List Char) (lead : Nat → List Char) (gap : List Char) : Prop where
  lead_blank : ∀ depth, Reader.Blanks (lead depth)
  gap_blank : Reader.Blanks gap
  null : ∀ depth, text depth .null = ['n', 'u', 'l', 'l']
  bool : ∀ depth b, text depth (.bool b) = if b then ['t', 'r', 'u', 'e'] else ['f', 'a', 'l', 's', 'e']
  number : ∀ depth n, text depth (.number n) = n.text
  string : ∀ depth s, text depth (.string s) = quoted s
  array_nil : ∀ depth, text depth (.array []) = ['[', ']']
  array : ∀ depth {items : List Json}, items ≠ [] → text depth (.array items) =
    '[' :: (Reader.joined (items.map fun j => lead (depth + 1) ++ text (depth + 1) j) ++ (lead depth ++ [']']))
  object_nil : ∀ depth, text depth (.object []) = ['\x7b', '\x7d']
  object : ∀ depth {fields : List (String × Json)}, fields ≠ [] → text depth (.object fields) =
    '\x7b' :: (Reader.joined (fields.map fun e =>
      lead (depth + 1) ++ (quoted e.1 ++ ':' :: (gap ++ text (depth + 1) e.2))) ++ (lead depth ++ ['\x7d']))

theorem compactItems_eq (items : List Json) : compactItems items = Reader.joined (items.map compactChars) := by
  induction items with
  | nil => rfl
  | cons j items ih =>
      cases items with
      | nil => rfl
      | cons k items =>
          rw [compactItems, ih]
          · rfl
          · exact List.cons_ne_nil k items

theorem compactFields_eq (fields : List (String × Json)) :
    compactFields fields = Reader.joined (fields.map fun e => quoted e.1 ++ ':' :: compactChars e.2) := by
  induction fields with
  | nil => rfl
  | cons e fields ih =>
      cases fields with
      | nil => rfl
      | cons f fields =>
          rw [compactFields, ih]
          · simp [Reader.joined]
          · exact List.cons_ne_nil f fields

theorem prettyItems_eq (depth : Nat) (items : List Json) :
    prettyItems depth items = Reader.joined (items.map fun j => newLine depth ++ prettyChars depth j) := by
  induction items with
  | nil => rfl
  | cons j items ih =>
      cases items with
      | nil => rfl
      | cons k items =>
          rw [prettyItems, ih]
          · rfl
          · exact List.cons_ne_nil k items

theorem prettyFields_eq (depth : Nat) (fields : List (String × Json)) :
    prettyFields depth fields = Reader.joined (fields.map fun e =>
      newLine depth ++ (quoted e.1 ++ ':' :: ([' '] ++ prettyChars depth e.2))) := by
  induction fields with
  | nil => rfl
  | cons e fields ih =>
      cases fields with
      | nil => simp [prettyFields, Reader.joined]
      | cons f fields =>
          rw [prettyFields, ih]
          · simp [Reader.joined]
          · exact List.cons_ne_nil f fields

theorem layout_compact : Layout (fun _ => compactChars) (fun _ => []) [] where
  lead_blank _ := nofun
  gap_blank := nofun
  null _ := rfl
  bool _ b := by cases b <;> rfl
  number _ _ := rfl
  string _ _ := rfl
  array_nil _ := rfl
  array _ items _ := by rw [compactChars, compactItems_eq]; rfl
  object_nil _ := rfl
  object _ fields _ := by rw [compactChars, compactFields_eq]; rfl

theorem layout_pretty : Layout prettyChars newLine [' '] where
  lead_blank depth := by
    rw [Reader.Blanks, newLine, List.forall_mem_cons]
    refine ⟨by decide, fun c hc => ?_⟩
    rw [List.eq_of_mem_replicate hc]
    decide
  gap_blank c hc := by
    rw [List.mem_singleton.1 hc]
    decide
  null _ := rfl
  bool _ b := by cases b <;> rfl
  number _ _ := rfl
  string _ _ := rfl
  array_nil _ := rfl
  array depth items hne := by
    rw [prettyChars, prettyItems_eq, List.append_assoc]
    exact hne
  object_nil _ := rfl
  object depth fields hne := by
    rw [prettyChars, prettyFields_eq, List.append_assoc]
    exact hne

/-! ## Texts -/

variable {text : Nat → Json → List Char} {lead : Nat → List Char} {gap : List Char}

theorem Layout.reads_array (h : Layout text lead gap) {depth count k : Nat} {items : List Json}
    (hitems : ∀ j ∈ items, (text (k + 1) j).length ≤ count →
      Reader.Reads (Reader.value true count depth) (text (k + 1) j) j)
    (hcount : (text k (.array items)).length ≤ count) :
    Reader.Reads (Reader.value true count (depth + 1)) (text k (.array items)) (.array items) := by
  by_cases hne : items = []
  · subst hne
    rw [h.array_nil]
    exact ⟨⟨_, _, rfl, by decide, by decide⟩, fun rest _ => rfl⟩
  · rw [h.array k hne] at hcount ⊢
    simp only [List.length_cons, List.length_append] at hcount
    -- The same count bounds the number of items and the reading of each, so it has to exceed both.
    have hparts := Reader.length_parts_le (items.map fun j => lead (k + 1) ++ text (k + 1) j)
    rw [List.length_map] at hparts
    have hreads : ∀ j ∈ items, Reader.Reads (Reader.value true count depth) (text (k + 1) j) j := by
      intro j hj
      have hpart := Reader.length_le_joined (List.mem_map_of_mem (f := fun j => lead (k + 1) ++ text (k + 1) j) hj)
      rw [List.length_append] at hpart
      exact hitems j hj (by omega)
    have hlength : items.length ≤ count := by omega
    refine ⟨⟨_, _, rfl, by decide, by decide⟩, fun rest _ => ?_⟩
    have hbody := Reader.arrayBody_joined (h.lead_blank (k + 1)) (h.lead_blank k) (text (k + 1)) id rest hne hreads
      hlength
    rw [List.cons_append, List.append_assoc, List.append_assoc, List.singleton_append, Reader.value_bracket, hbody,
      List.map_id]
    rfl

/-- The fields of an object are read by the readers of their keys. -/
theorem Layout.objectBody (h : Layout text lead gap) {α : Type} (value : String → Reader α) (f : Json → α)
    {count k : Nat} {fields : List (String × Json)}
    (hfields : ∀ e ∈ fields, (text (k + 1) e.2).length ≤ count →
      Reader.Reads (value e.1) (text (k + 1) e.2) (f e.2))
    (hcount : (text k (.object fields)).length ≤ count) (rest : List Char) :
    ∃ body, text k (.object fields) ++ rest = '\x7b' :: body ∧
      Reader.objectBody true value count body = some (fields.map fun e => (e.1, f e.2), rest) := by
  by_cases hne : fields = []
  · subst hne
    rw [h.object_nil]
    exact ⟨'\x7d' :: rest, rfl, rfl⟩
  · rw [h.object k hne] at hcount ⊢
    simp only [List.length_cons, List.length_append] at hcount
    have hparts := Reader.length_parts_le (fields.map fun e =>
      lead (k + 1) ++ (quoted e.1 ++ ':' :: (gap ++ text (k + 1) e.2)))
    rw [List.length_map] at hparts
    have hreads : ∀ e ∈ fields, Reader.Reads (value e.1) (text (k + 1) e.2) (f e.2) := by
      intro e he
      have hpart := Reader.length_le_joined (List.mem_map_of_mem (f := fun e : String × Json =>
        lead (k + 1) ++ (quoted e.1 ++ ':' :: (gap ++ text (k + 1) e.2))) he)
      simp only [List.length_append, List.length_cons] at hpart
      exact hfields e he (by omega)
    refine ⟨_, ?_, Reader.objectBody_joined (h.lead_blank (k + 1)) h.gap_blank (h.lead_blank k) (text (k + 1)) f rest
      hne hreads (by omega)⟩
    rw [List.cons_append, List.append_assoc, List.append_assoc, List.singleton_append]

theorem Layout.starts_object (h : Layout text lead gap) (k : Nat) (fields : List (String × Json)) :
    ∃ c cs, text k (.object fields) = c :: cs ∧ Reader.isBlank c = false ∧ c ≠ ']' := by
  by_cases hne : fields = []
  · subst hne
    exact ⟨_, _, h.object_nil k, by decide, by decide⟩
  · exact ⟨_, _, h.object k hne, by decide, by decide⟩

theorem Layout.reads_object (h : Layout text lead gap) {depth count k : Nat} {fields : List (String × Json)}
    (hfields : ∀ e ∈ fields, (text (k + 1) e.2).length ≤ count →
      Reader.Reads (Reader.value true count depth) (text (k + 1) e.2) e.2)
    (hcount : (text k (.object fields)).length ≤ count) :
    Reader.Reads (Reader.value true count (depth + 1)) (text k (.object fields)) (.object fields) := by
  refine ⟨h.starts_object k fields, fun rest _ => ?_⟩
  obtain ⟨body, htext, hread⟩ :=
    h.objectBody (fun _ => Reader.value true count depth) id hfields hcount rest
  rw [htext, Reader.value_brace, hread]
  simp only [id, Option.map_some, List.map_id']

/-- A readable value is read back from its text. -/
theorem Layout.reads (h : Layout text lead gap) {depth : Nat} {j : Json} (hj : Readable depth j) {count : Nat} :
    ∀ k, (text k j).length ≤ count → Reader.Reads (Reader.value true count depth) (text k j) j := by
  induction hj with
  | null =>
      intro k _
      rw [h.null]
      exact ⟨⟨_, _, rfl, by decide, by decide⟩, fun rest _ => Reader.value_scalar _ _ (by decide) (by decide) _⟩
  | bool b =>
      intro k _
      rw [h.bool]
      cases b with
      | true =>
          exact ⟨⟨_, _, rfl, by decide, by decide⟩, fun rest _ => Reader.value_scalar _ _ (by decide) (by decide) _⟩
      | false =>
          exact ⟨⟨_, _, rfl, by decide, by decide⟩, fun rest _ => Reader.value_scalar _ _ (by decide) (by decide) _⟩
  | @number depth n hdouble =>
      intro k _
      rw [h.number]
      refine Reader.reads_number ?_ count depth
      cases n with
      | natural n => exact Reader.number_natural n
      | negative n => exact Reader.number_negative n
      | double x => exact hdouble x rfl
  | string s =>
      intro k _
      rw [h.string]
      exact Reader.reads_string s _ _
  | array _ ih => exact fun k hcount => h.reads_array (fun j hj => ih j hj (k + 1)) hcount
  | object _ _ ih => exact fun k hcount => h.reads_object (fun e he => ih e he (k + 1)) hcount

/-! ## Canonical form -/

theorem canonicalItems_eq_map (items : List Json) : canonicalItems items = items.map canonical := by
  induction items with
  | nil => rfl
  | cons j items ih => rw [canonicalItems, ih, List.map_cons]

theorem canonicalFields_eq_map (fields : List (String × Json)) :
    canonicalFields fields = fields.map fun e => (e.1, e.2.canonical) := by
  induction fields with
  | nil => rfl
  | cons e fields ih => rw [canonicalFields, ih, List.map_cons]

theorem canonicalItems_eq {items : List Json} (h : ∀ j ∈ items, j.canonical = j) : canonicalItems items = items := by
  rw [canonicalItems_eq_map, List.map_congr_left h, List.map_id']

theorem canonicalFields_eq {fields : List (String × Json)} (h : ∀ e ∈ fields, e.2.canonical = e.2) :
    canonicalFields fields = fields := by
  have hsame : ∀ e ∈ fields, (e.1, e.2.canonical) = e := fun e he => Prod.ext rfl (h e he)
  rw [canonicalFields_eq_map, List.map_congr_left hsame, List.map_id']

theorem Readable.canonical_eq {depth : Nat} {j : Json} (h : Readable depth j) : j.canonical = j := by
  induction h with
  | array _ ih => rw [canonical, canonicalItems_eq ih]
  | object hsorted _ ih => rw [canonical, canonicalFields_eq ih, record, ofParams, Dictionary.entries_ofList hsorted]
  | _ => rfl

/-! ## Whole texts -/

theorem Reader.readAll_of_reads {α : Type} (reader : Nat → Reader α) {cs : List Char} {a : α}
    (h : Reads (reader cs.length) cs a) : readAll reader cs = some a := by
  obtain ⟨c, more, hcs, hblank, -⟩ := h.starts
  have hstart : Reader.skipBlank cs = cs := hcs ▸ skipBlank_cons hblank more
  have hread : reader cs.length cs = some (a, []) := by
    have hread := h.reads [] delimited_nil
    rwa [List.append_nil] at hread
  rw [readAll, hstart, hread]
  rfl

theorem Layout.parse? (h : Layout text lead gap) {j : Json} (hj : Readable Reader.maxDepth j) :
    Json.parse? (String.ofList (text 0 j)) = some j := by
  have hread := Reader.readAll_of_reads (fun count => Reader.value true count Reader.maxDepth)
    (h.reads hj 0 (Nat.le_refl _))
  rw [Json.parse?, String.toList_ofList, hread, Option.map_some, hj.canonical_eq]

/-! ## Records -/

theorem Layout.reads_inside (h : Layout text lead gap) {depth count k : Nat} {j : Json}
    (hj : Readable (Reader.maxDepth - depth) j) (hcount : (text k j).length ≤ count) :
    Reader.Reads (Reader.valueInside depth count) (text k j) j := by
  have hread := h.reads hj k hcount
  refine ⟨hread.starts, fun rest hrest => ?_⟩
  rw [Reader.valueInside, hread.reads rest hrest]
  exact congrArg (fun j => some (j, rest)) hj.canonical_eq

/-- The reader of a field, which skips the field if there is none of its name. -/
def Reader.field {α : Type} (readers : List (String × Reader α)) (count : Nat) (key : String) : Reader (Option α) :=
  fun cs =>
    match readers.lookup key with
    | some reader => (reader cs).map fun (a, rest) => (some a, rest)
    | none => (value false count count cs).map fun (_, rest) => (none, rest)

theorem Reader.record_brace {α : Type} (readers : List (String × Reader α)) (count : Nat) (body : List Char) :
    record readers count ('\x7b' :: body) =
      match objectBody true (field readers count) count body with
      | none => none
      | some (fields, rest) =>
        let known := fields.filterMap fun (key, a) => a.map (key, ·)
        if (known.map (·.1)).Nodup then some (known, rest) else none := rfl

/-- A record is read back, if there is a reader for each of its fields. -/
theorem Layout.reads_record (h : Layout text lead gap) {readers : List (String × Reader Json)} {count k : Nat}
    {fields : List (String × Json)} (hnd : (fields.map (·.1)).Nodup)
    (hfields : ∀ e ∈ fields, ∃ reader, readers.lookup e.1 = some reader ∧
      ((text (k + 1) e.2).length ≤ count → Reader.Reads reader (text (k + 1) e.2) e.2))
    (hcount : (text k (.object fields)).length ≤ count) :
    Reader.Reads (Reader.record readers count) (text k (.object fields)) fields := by
  have hknown : ∀ e ∈ fields, (text (k + 1) e.2).length ≤ count →
      Reader.Reads (Reader.field readers count e.1) (text (k + 1) e.2) (some e.2) := by
    intro e he hlength
    obtain ⟨reader, hlookup, hreads⟩ := hfields e he
    have hread := hreads hlength
    refine ⟨hread.starts, fun rest hrest => ?_⟩
    simp only [Reader.field, hlookup, hread.reads rest hrest]
    rfl
  have hall : ((fields.map fun e => (e.1, some e.2)).filterMap fun (key, j) => j.map (key, ·)) = fields := by
    rw [List.filterMap_map]
    exact List.filterMap_some
  refine ⟨h.starts_object k fields, fun rest _ => ?_⟩
  obtain ⟨body, htext, hread⟩ := h.objectBody (Reader.field readers count) some hknown hcount rest
  rw [htext, Reader.record_brace, hread]
  simp only [hall]
  rw [if_pos hnd]

end Json

end SimControl
