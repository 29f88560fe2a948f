import Mathlib.Data.List.Forall2
import SimControl.Dictionary

/-!
# Look-ups in dictionaries

A dictionary is known by `get?`, and its entries are what is found in it (`mem_entries_iff`). `get?_insert` says what
an insertion does to it, `get?_insertAll_of_mem` what the insertion of many entries with different keys does, and
`get?_ofList_filterMap` what is found if each name has its value by a rule. Two dictionaries that are filled side by
side with the same keys and related values stay related: `related_ofList`.
-/

namespace SimControl

theorem lookup_cons_eq_ite {κ α : Type} [DecidableEq κ] (k key : κ) (value : α) (rest : List (κ × α)) :
    ((key, value) :: rest).lookup k = if k = key then some value else rest.lookup k := by
  rw [List.lookup_cons]
  by_cases h : k = key
  · rw [if_pos h, beq_iff_eq.2 h]
  · rw [if_neg h, beq_eq_false_iff_ne.2 h]

theorem lookup_map {κ α : Type} [DecidableEq κ] (f : κ → α) {k : κ} {names : List κ} (hk : k ∈ names) :
    (names.map fun name => (name, f name)).lookup k = some (f k) := by
  induction names with
  | nil => cases hk
  | cons name names ih =>
      rw [List.map_cons, lookup_cons_eq_ite]
      by_cases heq : k = name
      · rw [if_pos heq, heq]
      · rw [if_neg heq]
        exact ih ((List.mem_cons.1 hk).resolve_left heq)

theorem mem_of_lookup {κ α : Type} [DecidableEq κ] {k : κ} {value : α} {entries : List (κ × α)}
    (h : entries.lookup k = some value) : (k, value) ∈ entries := by
  induction entries with
  | nil => cases h
  | cons entry rest ih =>
      obtain ⟨key, first⟩ := entry
      rw [lookup_cons_eq_ite] at h
      split at h
      · rename_i heq
        exact heq ▸ Option.some.inj h ▸ List.mem_cons_self
      · exact List.mem_cons_of_mem _ (ih h)

namespace Dictionary

variable {α : Type}

theorem lookup_insertEntry (key : String) (value : α) (k : String) (entries : List (String × α)) :
    (insertEntry key value entries).lookup k = if k = key then some value else entries.lookup k := by
  induction entries with
  | nil => rw [insertEntry, lookup_cons_eq_ite]
  | cons entry rest ih =>
      unfold insertEntry
      split
      · rw [lookup_cons_eq_ite]
      · split
        · rename_i heq
          obtain ⟨entryKey, old⟩ := entry
          subst heq
          by_cases hk : k = key <;> simp only [lookup_cons_eq_ite, hk, if_true, if_false]
        · rename_i hne
          rw [lookup_cons_eq_ite, lookup_cons_eq_ite, ih]
          by_cases hk : k = key
          · subst hk
            rw [if_neg hne, if_pos rfl, if_pos rfl]
          · rw [if_neg hk, if_neg hk]

@[simp] theorem get?_empty (k : String) : (empty : Dictionary α).get? k = none := rfl

@[simp] theorem get?_insert (d : Dictionary α) (key : String) (value : α) (k : String) :
    (d.insert key value).get? k = if k = key then some value else d.get? k :=
  lookup_insertEntry key value k d.entries

theorem insertAll_append (d : Dictionary α) (xs ys : List (String × α)) :
    d.insertAll (xs ++ ys) = (d.insertAll xs).insertAll ys :=
  List.foldl_append

theorem get?_insertAll_of_not_mem {k : String} {entries : List (String × α)}
    (hk : k ∉ entries.map (·.1)) (d : Dictionary α) : (d.insertAll entries).get? k = d.get? k := by
  induction entries generalizing d with
  | nil => rfl
  | cons e rest ih =>
      rw [List.map_cons, List.mem_cons, not_or] at hk
      rw [insertAll, List.foldl_cons, ← insertAll, ih hk.2, get?_insert, if_neg hk.1]

/-- Of entries with different keys none is overwritten. -/
theorem get?_insertAll_of_mem {k : String} {value : α} {entries : List (String × α)}
    (hnd : (entries.map (·.1)).Nodup) (hmem : (k, value) ∈ entries) (d : Dictionary α) :
    (d.insertAll entries).get? k = some value := by
  induction entries generalizing d with
  | nil => cases hmem
  | cons e rest ih =>
      rw [List.map_cons, List.nodup_cons] at hnd
      rw [insertAll, List.foldl_cons, ← insertAll]
      rcases List.mem_cons.1 hmem with rfl | hmem
      · rw [get?_insertAll_of_not_mem hnd.1, get?_insert, if_pos rfl]
      · exact ih hnd.2 hmem _

theorem get?_ofList_of_not_mem {k : String} {entries : List (String × α)}
    (hk : k ∉ entries.map (·.1)) : (ofList entries).get? k = none :=
  get?_insertAll_of_not_mem hk empty

theorem get?_ofList_of_mem {k : String} {value : α} {entries : List (String × α)}
    (hnd : (entries.map (·.1)).Nodup) (hmem : (k, value) ∈ entries) :
    (ofList entries).get? k = some value :=
  get?_insertAll_of_mem hnd hmem empty

theorem get?_ofList_singleton (key : String) (value : α) : (ofList [(key, value)]).get? key = some value := by
  rw [ofList, insertAll, List.foldl_cons, List.foldl_nil, get?_insert, if_pos rfl]

/-- A key whose entries all have one value has that value, however often it is put in. -/
theorem get?_insertAll_of_forall {k : String} {value : α} {entries : List (String × α)} {d : Dictionary α}
    (hall : ∀ e ∈ entries, e.1 = k → e.2 = value) (h : d.get? k = some value ∨ k ∈ entries.map (·.1)) :
    (d.insertAll entries).get? k = some value := by
  induction entries generalizing d with
  | nil => simpa [insertAll] using h
  | cons e rest ih =>
      rw [List.forall_mem_cons] at hall
      rw [insertAll, List.foldl_cons, ← insertAll]
      refine ih hall.2 ?_
      by_cases hk : k = e.1
      · refine .inl ?_
        rw [get?_insert, if_pos hk, hall.1 hk.symm]
      · rw [get?_insert, if_neg hk]
        exact h.imp_right fun hmem => (List.mem_cons.1 hmem).resolve_left hk

/-- What is found after many insertions was inserted or was there before. -/
theorem mem_or_get?_of_insertAll {k : String} {value : α} {entries : List (String × α)} {d : Dictionary α}
    (h : (d.insertAll entries).get? k = some value) : (k, value) ∈ entries ∨ d.get? k = some value := by
  induction entries generalizing d with
  | nil => exact .inr h
  | cons e rest ih =>
      rw [insertAll, List.foldl_cons, ← insertAll] at h
      rcases ih h with hrest | hinsert
      · exact .inl (List.mem_cons_of_mem _ hrest)
      · rw [get?_insert] at hinsert
        split at hinsert
        · rename_i hk
          obtain rfl := Option.some.inj hinsert
          exact .inl (hk ▸ List.mem_cons_self)
        · exact .inr hinsert

/-- The dictionary of the names that have a value by some rule. -/
theorem get?_ofList_filterMap (f : String → Option α) (names : List String) (k : String) :
    (ofList (names.filterMap fun name => (f name).map fun value => (name, value))).get? k =
      if k ∈ names then f k else none := by
  have hmem : ∀ e ∈ names.filterMap (fun name => (f name).map fun value => (name, value)),
      e.1 ∈ names ∧ f e.1 = some e.2 := by
    intro e he
    obtain ⟨name, hname, hentry⟩ := List.mem_filterMap.1 he
    obtain ⟨value, hvalue, rfl⟩ := Option.map_eq_some_iff.1 hentry
    exact ⟨hname, hvalue⟩
  cases hk : (if k ∈ names then f k else none) with
  | none =>
      refine get?_ofList_of_not_mem fun hkey => ?_
      obtain ⟨e, he, rfl⟩ := List.mem_map.1 hkey
      obtain ⟨hname, hvalue⟩ := hmem e he
      rw [if_pos hname, hvalue] at hk
      cases hk
  | some value =>
      obtain ⟨hname, hvalue⟩ : k ∈ names ∧ f k = some value := by
        split at hk
        · exact ⟨‹_›, hk⟩
        · cases hk
      refine get?_insertAll_of_forall (fun e he heq => ?_) (.inr ?_)
      · obtain ⟨-, hother⟩ := hmem e he
        rw [heq, hvalue] at hother
        exact (Option.some.inj hother).symm
      · exact List.mem_map.2 ⟨(k, value), List.mem_filterMap.2 ⟨k, hname, by rw [hvalue, Option.map_some]⟩, rfl⟩

theorem get?_ofList_map (f : String → α) (names : List String) (k : String) :
    (ofList (names.map fun name => (name, f name))).get? k = if k ∈ names then some (f k) else none := by
  rw [← get?_ofList_filterMap (fun name => some (f name)), ← List.filterMap_eq_map]
  rfl

/-- A dictionary has the entries that are found in it. -/
theorem mem_entries_iff {d : Dictionary α} {k : String} {value : α} :
    (k, value) ∈ d.entries ↔ d.get? k = some value := by
  refine ⟨fun h => ?_, mem_of_lookup⟩
  obtain ⟨entries, hsorted⟩ := d
  induction entries with
  | nil => cases h
  | cons e rest ih =>
      obtain ⟨key, first⟩ := e
      rw [List.pairwise_cons] at hsorted
      rw [get?, lookup_cons_eq_ite]
      rcases List.mem_cons.1 h with heq | hrest
      · obtain ⟨rfl, rfl⟩ := Prod.mk.inj heq
        rw [if_pos rfl]
      · have hlt : key < k := hsorted.1 _ hrest
        rw [if_neg (fun heq => String.lt_irrefl _ (heq ▸ hlt))]
        exact ih hsorted.2 hrest

theorem insertEntry_last {entries : List (String × α)} {key : String} (h : ∀ e ∈ entries, e.1 < key) (value : α) :
    insertEntry key value entries = entries ++ [(key, value)] := by
  induction entries with
  | nil => rfl
  | cons e rest ih =>
      rw [List.forall_mem_cons] at h
      have hnot : ¬ key < e.1 := fun hlt => String.lt_irrefl _ (String.lt_trans h.1 hlt)
      have hne : key ≠ e.1 := fun heq => String.lt_irrefl _ (heq ▸ h.1)
      rw [insertEntry, if_neg hnot, if_neg hne, ih h.2, List.cons_append]

theorem entries_ofList {entries : List (String × α)} (h : entries.Pairwise fun a b => a.1 < b.1) :
    (ofList entries).entries = entries := by
  have hinsert : ∀ (rest : List (String × α)) (d : Dictionary α),
      (d.entries ++ rest).Pairwise (fun a b => a.1 < b.1) → (d.insertAll rest).entries = d.entries ++ rest := by
    intro rest
    induction rest with
    | nil => exact fun d _ => (List.append_nil d.entries).symm
    | cons e rest ih =>
        intro d hd
        have hlast : (d.insert e.1 e.2).entries = d.entries ++ [e] :=
          insertEntry_last (fun a ha => (List.pairwise_append.1 hd).2.2 a ha e List.mem_cons_self) e.2
        rw [insertAll, List.foldl_cons, ← insertAll, ih, hlast, List.append_assoc, List.singleton_append]
        rwa [hlast, List.append_assoc, List.singleton_append]
  exact hinsert entries empty h

theorem mem_entries_ofList {entries : List (String × α)} (hnd : (entries.map (·.1)).Nodup) {e : String × α} :
    e ∈ (ofList entries).entries ↔ e ∈ entries := by
  rw [show e = (e.1, e.2) from rfl, mem_entries_iff]
  refine ⟨fun h => ?_, get?_ofList_of_mem hnd⟩
  by_cases hkey : e.1 ∈ entries.map (·.1)
  · obtain ⟨other, hother, heq⟩ := List.mem_map.1 hkey
    have hvalue : (ofList entries).get? e.1 = some other.2 := heq ▸ get?_ofList_of_mem hnd hother
    obtain rfl : other = e := Prod.ext heq (Option.some.inj (hvalue.symm.trans h))
    exact hother
  · rw [get?_ofList_of_not_mem hkey] at h
    cases h

theorem mem_keys_iff {d : Dictionary α} {k : String} : k ∈ d.keys ↔ ∃ value, d.get? k = some value := by
  rw [keys, List.mem_map]
  constructor
  · rintro ⟨⟨_, value⟩, hentry, rfl⟩
    exact ⟨value, mem_entries_iff.1 hentry⟩
  · rintro ⟨value, hvalue⟩
    exact ⟨(k, value), mem_entries_iff.2 hvalue, rfl⟩

/-! ## Dictionaries side by side -/

section

variable {R : String → α → α → Prop}

def SameKey (R : String → α → α → Prop) (a b : String × α) : Prop :=
  a.1 = b.1 ∧ R a.1 a.2 b.2

def Related (R : String → α → α → Prop) (a b : Dictionary α) : Prop :=
  List.Forall₂ (SameKey R) a.entries b.entries

theorem forall₂_insertEntry {key : String} {v w : α} (hvw : R key v w) {as bs : List (String × α)}
    (h : List.Forall₂ (SameKey R) as bs) :
    List.Forall₂ (SameKey R) (insertEntry key v as) (insertEntry key w bs) := by
  induction h with
  | nil => exact .cons ⟨rfl, hvw⟩ .nil
  | @cons a b as bs hab hrest ih =>
      rw [insertEntry, insertEntry, ← hab.1]
      split
      · exact .cons ⟨rfl, hvw⟩ (.cons hab hrest)
      · split
        · exact .cons ⟨rfl, hvw⟩ hrest
        · exact .cons hab ih

theorem related_insertAll {as bs : List (String × α)} (h : List.Forall₂ (SameKey R) as bs)
    {d e : Dictionary α} (hde : Related R d e) : Related R (d.insertAll as) (e.insertAll bs) := by
  induction h generalizing d e with
  | nil => exact hde
  | @cons a b as bs hab hrest ih =>
      have hinsert : Related R (d.insert a.1 a.2) (e.insert b.1 b.2) := by
        rw [← hab.1]
        exact forall₂_insertEntry hab.2 hde
      exact ih hinsert

theorem related_ofList {as bs : List (String × α)} (h : List.Forall₂ (SameKey R) as bs) :
    Related R (ofList as) (ofList bs) :=
  related_insertAll h .nil

theorem Related.keys_eq {a b : Dictionary α} (h : Related R a b) : a.keys = b.keys := by
  refine List.forall₂_eq_eq_eq ▸ ?_
  exact List.forall₂_map_left_iff.2 (List.forall₂_map_right_iff.2 (h.imp fun _ _ hab => hab.1))

theorem rel_lookup {as bs : List (String × α)} (h : List.Forall₂ (SameKey R) as bs) (key : String) :
    Option.Rel (R key) (as.lookup key) (bs.lookup key) := by
  induction h with
  | nil => exact .none
  | @cons a b as bs hab hrest ih =>
      obtain ⟨k, v⟩ := a
      obtain ⟨l, w⟩ := b
      obtain ⟨rfl, hvw⟩ := hab
      rw [lookup_cons_eq_ite, lookup_cons_eq_ite]
      split
      · rename_i hk
        exact hk ▸ .some hvw
      · exact ih

theorem Related.get? {a b : Dictionary α} (h : Related R a b) (key : String) :
    Option.Rel (R key) (a.get? key) (b.get? key) :=
  rel_lookup h key

end

end Dictionary

end SimControl
