import SimControl.Proofs.Json.Scalar

/-!
# Arrays and objects are read part by part

A reader of a value `Reads` a text if it takes the value from it whatever follows that is no part of a number. Then the
readers of containers take all values from texts that are joined by commas, with blanks around them: `arrayBody_joined`,
`objectBody_joined`.
-/

namespace SimControl.Json

namespace Reader

/-! ## Blanks -/

def Blanks (cs : List Char) : Prop :=
  ∀ c ∈ cs, isBlank c = true

theorem skipBlank_append {blanks : List Char} (h : Blanks blanks) (cs : List Char) :
    skipBlank (blanks ++ cs) = skipBlank cs :=
  List.dropWhile_append_of_pos h

theorem skipBlank_cons {c : Char} (h : isBlank c = false) (cs : List Char) : skipBlank (c :: cs) = c :: cs :=
  List.dropWhile_cons_of_neg (by simp [h])

theorem delimited_append {blanks : List Char} (h : Blanks blanks) {c : Char}
    (hc : c ∈ [',', ']', '\x7d']) (cs : List Char) : Delimited (blanks ++ c :: cs) := by
  have hblank : ∀ d, isBlank d = true → isDigit d = false ∧ d ≠ '.' ∧ d ≠ 'e' ∧ d ≠ 'E' := by
    intro d hd
    simp only [isBlank, Bool.or_eq_true, beq_iff_eq] at hd
    rcases hd with ((rfl | rfl) | rfl) | rfl <;> decide
  have hclose : isDigit c = false ∧ c ≠ '.' ∧ c ≠ 'e' ∧ c ≠ 'E' := by
    simp only [List.mem_cons, List.not_mem_nil, or_false] at hc
    rcases hc with rfl | rfl | rfl <;> decide
  cases blanks with
  | nil => exact delimited_cons hclose cs
  | cons d blanks => exact delimited_cons (hblank d (h d List.mem_cons_self)) _

/-! ## Values one after the other -/

variable {α β : Type}

/-- The reader takes the text for the value, whatever follows that is no part of a number. -/
structure Reads (reader : Reader α) (text : List Char) (a : α) : Prop where
  starts : ∃ c cs, text = c :: cs ∧ isBlank c = false ∧ c ≠ ']'
  reads : ∀ rest, Delimited rest → reader (text ++ rest) = some (a, rest)

/-- Parts with commas between them. -/
def joined : List (List Char) → List Char
  | [] => []
  | [part] => part
  | part :: parts => part ++ ',' :: joined parts

theorem joined_cons (part : List Char) {parts : List (List Char)} (hne : parts ≠ []) :
    joined (part :: parts) = part ++ ',' :: joined parts := by
  rw [joined]
  exact hne

theorem length_le_joined {parts : List (List Char)} {part : List Char} (h : part ∈ parts) :
    part.length ≤ (joined parts).length := by
  induction parts with
  | nil => cases h
  | cons first parts ih =>
      by_cases hne : parts = []
      · subst hne
        rw [joined, List.mem_singleton.1 h]
      · rw [joined_cons first hne, List.length_append, List.length_cons]
        rcases List.mem_cons.1 h with rfl | h
        · omega
        · have hle := ih h
          omega

theorem length_parts_le (parts : List (List Char)) : parts.length ≤ (joined parts).length + 1 := by
  induction parts with
  | nil => exact Nat.zero_le _
  | cons first parts ih =>
      by_cases hne : parts = []
      · subst hne
        exact Nat.le_add_left ..
      · rw [joined_cons first hne, List.length_append, List.length_cons, List.length_cons]
        omega

variable {lead tail : List Char}

theorem Reads.skipBlank {reader : Reader α} {text : List Char} {a : α} (h : Reads reader text a) (hlead : Blanks lead)
    (rest : List Char) : Reader.skipBlank (lead ++ text ++ rest) = text ++ rest := by
  obtain ⟨c, cs, rfl, hblank, -⟩ := h.starts
  rw [List.append_assoc, skipBlank_append hlead]
  exact skipBlank_cons hblank _

section

variable {item : Reader α} {text : List Char} {a : α}

theorem items_last (h : Reads item text a) (hlead : Blanks lead) (htail : Blanks tail) (count : Nat)
    (rest : List Char) : items item (count + 1) (lead ++ text ++ (tail ++ ']' :: rest)) = some ([a], rest) := by
  rw [items, h.skipBlank hlead, h.reads _ (delimited_append htail (by simp) rest)]
  simp only [Option.bind_eq_bind, Option.bind_some, skipBlank_append htail]
  rfl

theorem items_more (h : Reads item text a) (hlead : Blanks lead) (count : Nat) (cs : List Char) :
    items item (count + 1) (lead ++ text ++ ',' :: cs) =
      (items item count cs).map fun (more, rest) => (a :: more, rest) := by
  have hdelimited : Delimited (',' :: cs) := delimited_cons (by decide) cs
  rw [items, h.skipBlank hlead, h.reads _ hdelimited]
  simp only [Option.bind_eq_bind, Option.bind_some]
  rw [skipBlank_cons (by decide), Option.map_eq_bind]
  rfl

end

/-- The items are read one after the other, each from its own part. -/
theorem items_joined {item : Reader α} (hlead : Blanks lead) (htail : Blanks tail) (text : β → List Char)
    (f : β → α) (rest : List Char) {bs : List β} (hne : bs ≠ [])
    (hreads : ∀ b ∈ bs, Reads item (text b) (f b)) {count : Nat} (hcount : bs.length ≤ count) :
    items item count (joined (bs.map fun b => lead ++ text b) ++ (tail ++ ']' :: rest)) = some (bs.map f, rest) := by
  -- The induction ends with a single item, which no comma follows: `items` takes no empty list.
  induction bs generalizing count with
  | nil => exact absurd rfl hne
  | cons b bs ih =>
      obtain ⟨count, rfl⟩ : ∃ n, count = n + 1 := ⟨count - 1, by rw [List.length_cons] at hcount; omega⟩
      rw [List.forall_mem_cons] at hreads
      by_cases hlast : bs = []
      · subst hlast
        exact items_last hreads.1 hlead htail count rest
      · have hmore := ih hlast hreads.2 (Nat.le_of_succ_le_succ hcount)
        rw [List.map_cons, joined_cons _ (by simpa using hlast), List.append_assoc, List.cons_append,
          items_more hreads.1 hlead, hmore]
        rfl

section

variable {value : String → Reader α} {key : String} {text gap : List Char} {a : α}

/-- A field is its key and its value; what follows it decides whether there are more. -/
theorem fields_eq (hreads : Reads (value key) text a) (hlead : Blanks lead) (hgap : Blanks gap) (count : Nat)
    {cs : List Char} (hcs : Delimited cs) :
    fields true value (count + 1) (lead ++ (quoted key ++ ':' :: (gap ++ text)) ++ cs) =
      match skipBlank cs with
      | ',' :: rest => do
        let (more, rest) ← fields true value count rest
        some ((key, a) :: more, rest)
      | '\x7d' :: rest => some ([(key, a)], rest)
      | _ => none := by
  obtain ⟨body, hbody, hkey⟩ := stringBody_quoted key (':' :: (gap ++ text ++ cs))
  have hstart : skipBlank (lead ++ (quoted key ++ ':' :: (gap ++ text)) ++ cs) = '"' :: body := by
    rw [List.append_assoc, skipBlank_append hlead, List.append_assoc, List.cons_append, hbody]
    exact skipBlank_cons (by decide) body
  rw [fields, hstart]
  simp only [hkey, Option.bind_eq_bind, Option.bind_some, String.ofList_toList]
  rw [skipBlank_cons (by decide)]
  show (value key (skipBlank (gap ++ text ++ cs))).bind _ = _
  rw [hreads.skipBlank hgap, hreads.reads _ hcs]
  rfl

theorem fields_last (hreads : Reads (value key) text a) (hlead : Blanks lead) (hgap : Blanks gap)
    (htail : Blanks tail) (count : Nat) (rest : List Char) :
    fields true value (count + 1) (lead ++ (quoted key ++ ':' :: (gap ++ text)) ++ (tail ++ '\x7d' :: rest)) =
      some ([(key, a)], rest) := by
  rw [fields_eq hreads hlead hgap count (delimited_append htail (by simp) rest), skipBlank_append htail]
  rfl

theorem fields_more (hreads : Reads (value key) text a) (hlead : Blanks lead) (hgap : Blanks gap) (count : Nat)
    (cs : List Char) :
    fields true value (count + 1) (lead ++ (quoted key ++ ':' :: (gap ++ text)) ++ ',' :: cs) =
      (fields true value count cs).map fun (more, rest) => ((key, a) :: more, rest) := by
  have hdelimited : Delimited (',' :: cs) := delimited_cons (by decide) cs
  rw [fields_eq hreads hlead hgap count hdelimited, skipBlank_cons (by decide), Option.map_eq_bind]
  rfl

end

theorem fields_joined {value : String → Reader α} {gap : List Char} (hlead : Blanks lead) (hgap : Blanks gap)
    (htail : Blanks tail) (text : β → List Char) (f : β → α) (rest : List Char) {bs : List (String × β)} (hne : bs ≠ [])
    (hreads : ∀ e ∈ bs, Reads (value e.1) (text e.2) (f e.2)) {count : Nat} (hcount : bs.length ≤ count) :
    fields true value count
      (joined (bs.map fun e => lead ++ (quoted e.1 ++ ':' :: (gap ++ text e.2))) ++ (tail ++ '\x7d' :: rest)) =
        some (bs.map fun e => (e.1, f e.2), rest) := by
  induction bs generalizing count with
  | nil => exact absurd rfl hne
  | cons e bs ih =>
      obtain ⟨count, rfl⟩ : ∃ n, count = n + 1 := ⟨count - 1, by rw [List.length_cons] at hcount; omega⟩
      rw [List.forall_mem_cons] at hreads
      by_cases hlast : bs = []
      · subst hlast
        exact fields_last hreads.1 hlead hgap htail count rest
      · have hmore := ih hlast hreads.2 (Nat.le_of_succ_le_succ hcount)
        rw [List.map_cons, joined_cons _ (by simpa using hlast), List.append_assoc, List.cons_append,
          fields_more hreads.1 hlead hgap, hmore]
        rfl

/-! ## Containers -/

theorem arrayBody_eq (item : Reader α) (count : Nat) {cs : List Char} {c : Char}
    (h : ∃ more, skipBlank cs = c :: more) (hblank : isBlank c = false) (hne : c ≠ ']') :
    arrayBody item count cs = items item count cs := by
  obtain ⟨more, hcs⟩ := h
  have hitems : items item count (c :: more) = items item count cs := by
    cases count with
    | zero => rfl
    | succ count => rw [items, items, hcs, skipBlank_cons hblank]
  unfold arrayBody
  split
  · rename_i rest heq
    exact absurd (List.cons.inj (hcs.symm.trans heq)).1 hne
  · rw [hcs, hitems]

theorem objectBody_eq (value : String → Reader α) (count : Nat) {cs : List Char}
    (h : ∃ more, skipBlank cs = '"' :: more) : objectBody true value count cs = fields true value count cs := by
  obtain ⟨more, hcs⟩ := h
  have hfields : fields true value count ('"' :: more) = fields true value count cs := by
    cases count with
    | zero => rfl
    | succ count => rw [fields, fields, hcs, skipBlank_cons (by decide)]
  unfold objectBody
  rw [hcs]
  exact hfields

theorem joined_eq (part : List Char) (parts : List (List Char)) : ∃ more, joined (part :: parts) = part ++ more := by
  by_cases hne : parts = []
  · subst hne
    exact ⟨[], (List.append_nil part).symm⟩
  · exact ⟨_, joined_cons part hne⟩

theorem arrayBody_joined {item : Reader α} (hlead : Blanks lead) (htail : Blanks tail) (text : β → List Char)
    (f : β → α) (rest : List Char) {bs : List β} (hne : bs ≠ [])
    (hreads : ∀ b ∈ bs, Reads item (text b) (f b)) {count : Nat} (hcount : bs.length ≤ count) :
    arrayBody item count (joined (bs.map fun b => lead ++ text b) ++ (tail ++ ']' :: rest)) =
      some (bs.map f, rest) := by
  rw [← items_joined hlead htail text f rest hne hreads hcount]
  obtain ⟨b, bs, rfl⟩ := List.exists_cons_of_ne_nil hne
  have hb := hreads b List.mem_cons_self
  obtain ⟨more, hjoined⟩ := joined_eq (lead ++ text b) (bs.map fun b => lead ++ text b)
  obtain ⟨c, cs, htext, hblank, hclose⟩ := hb.starts
  refine arrayBody_eq item count ⟨cs ++ (more ++ (tail ++ ']' :: rest)), ?_⟩ hblank hclose
  rw [List.map_cons, hjoined, List.append_assoc, hb.skipBlank hlead, htext]
  rfl

theorem objectBody_joined {value : String → Reader α} {gap : List Char} (hlead : Blanks lead) (hgap : Blanks gap)
    (htail : Blanks tail) (text : β → List Char) (f : β → α) (rest : List Char) {bs : List (String × β)} (hne : bs ≠ [])
    (hreads : ∀ e ∈ bs, Reads (value e.1) (text e.2) (f e.2)) {count : Nat} (hcount : bs.length ≤ count) :
    objectBody true value count
      (joined (bs.map fun e => lead ++ (quoted e.1 ++ ':' :: (gap ++ text e.2))) ++ (tail ++ '\x7d' :: rest)) =
        some (bs.map fun e => (e.1, f e.2), rest) := by
  rw [← fields_joined hlead hgap htail text f rest hne hreads hcount]
  obtain ⟨e, bs, rfl⟩ := List.exists_cons_of_ne_nil hne
  obtain ⟨more, hjoined⟩ := joined_eq (lead ++ (quoted e.1 ++ ':' :: (gap ++ text e.2)))
    (bs.map fun e => lead ++ (quoted e.1 ++ ':' :: (gap ++ text e.2)))
  obtain ⟨body, hbody, -⟩ := stringBody_quoted e.1 (':' :: (gap ++ text e.2))
  refine objectBody_eq value count ⟨body ++ (more ++ (tail ++ '\x7d' :: rest)), ?_⟩
  rw [List.map_cons, hjoined, List.append_assoc, List.append_assoc, skipBlank_append hlead, hbody]
  exact skipBlank_cons (by decide) _

/-! ## Scalars -/

theorem value_scalar (count depth : Nat) {c : Char} (hbracket : c ≠ '[') (hbrace : c ≠ '\x7b') (cs : List Char) :
    value true count depth (c :: cs) = scalar true (c :: cs) := by
  cases depth with
  | zero => rfl
  | succ depth =>
      unfold value
      split
      · exact absurd (List.cons.inj ‹_›).1 hbracket
      · exact absurd (List.cons.inj ‹_›).1 hbrace
      · rfl

theorem value_bracket (count depth : Nat) (cs : List Char) : value true count (depth + 1) ('[' :: cs) =
    (arrayBody (value true count depth) count cs).map fun (items, rest) => (.array items, rest) := rfl

theorem value_brace (count depth : Nat) (cs : List Char) : value true count (depth + 1) ('\x7b' :: cs) =
    (objectBody true (fun _ => value true count depth) count cs).map fun (fields, rest) => (.object fields, rest) :=
  rfl

theorem reads_number {n : Number} (h : number true n.text = some (n, [])) (count depth : Nat) :
    Reads (value true count depth) n.text (.number n) := by
  obtain ⟨c, cs, htext⟩ : ∃ c cs, n.text = c :: cs := by
    refine List.exists_cons_of_ne_nil fun hnil => ?_
    rw [hnil] at h
    cases h
  rw [htext] at h ⊢
  have hstart := startsNumber_of_number h
  have hblank : isBlank c = false := by
    simp only [isBlank, Bool.or_eq_false_iff, beq_eq_false_iff_ne]
    exact ⟨⟨⟨ne_of_startsNumber hstart (by decide), ne_of_startsNumber hstart (by decide)⟩,
      ne_of_startsNumber hstart (by decide)⟩, ne_of_startsNumber hstart (by decide)⟩
  refine ⟨⟨c, cs, rfl, hblank, ne_of_startsNumber hstart (by decide)⟩, fun rest hrest => ?_⟩
  rw [List.cons_append, value_scalar count depth (ne_of_startsNumber hstart (by decide))
    (ne_of_startsNumber hstart (by decide)), scalar_number hstart, ← List.cons_append, hrest.number h]
  rfl

theorem reads_string (s : String) (count depth : Nat) : Reads (value true count depth) (quoted s) (.string s) := by
  refine ⟨⟨'"', _, rfl, by decide, by decide⟩, fun rest _ => ?_⟩
  obtain ⟨body, hbody, hread⟩ := stringBody_quoted s rest
  rw [hbody, value_scalar count depth (by decide) (by decide), scalar, hread]
  simp only [Option.map_some, String.ofList_toList]

end Reader

end SimControl.Json
