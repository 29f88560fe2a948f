import SimControl.Proofs.Pattern.Beginning
import SimControl.Proofs.Pattern.Preferred

/-!
# Patterns piece by piece

`pattern.Consumes taken rest found` says that from a place before `taken` the pattern prefers to take just that, if
`rest` follows, and that it gives the groups `found` on the way. Each form of pattern has its own rule, and the
rule for a sequence puts the pieces of a text together (`Consumes.seq`). An optional part is taken, or it is left out
where no way leads through it, or where no way leads through it and on (`Consumes.optional_back`). What is consumed
from the beginning of a text is found there (`Consumes.find?`).
-/

namespace SimControl.Pattern

open Position

/-- Before a text the pattern prefers to take the first part of it, and gives these groups. -/
def Consumes (pattern : Pattern) (taken rest : List Char) (found : List (String × List Char)) : Prop :=
  ∀ (before : List Char) (offset : Nat) (groups : List (String × List Char)),
    pattern.first? ⟨before, taken ++ rest, offset, groups, []⟩ =
      some ⟨taken.reverse ++ before, rest, offset + taken.length, found ++ groups, []⟩

/-- No way leads through the pattern before the text. -/
def Stuck (pattern : Pattern) (text : List Char) : Prop :=
  ∀ p q : Position, p.rest = text → ¬ pattern.Leads p q

namespace Consumes

variable {a b tail : Pattern} {taken more rest : List Char} {found others : List (String × List Char)}

theorem empty (rest : List Char) : Pattern.empty.Consumes [] rest [] :=
  fun _ _ _ => rfl

theorem seq (ha : a.Consumes taken (more ++ rest) found) (hb : b.Consumes more rest others) :
    (Pattern.seq a b).Consumes (taken ++ more) rest (others ++ found) := by
  intro before offset groups
  have hfirst := ha before offset groups
  have hsecond := hb (taken.reverse ++ before) (offset + taken.length) (found ++ groups)
  rw [List.append_assoc taken, List.reverse_append, List.append_assoc, List.append_assoc others, List.length_append,
    ← Nat.add_assoc]
  exact first?_seq hfirst hsecond

theorem group (name : String) (ha : a.Consumes taken rest found) :
    (Pattern.group name a).Consumes taken rest ((name, taken) :: found) := by
  intro before offset groups
  have htook : Took taken ⟨before, taken ++ rest, offset, groups, []⟩
      ⟨taken.reverse ++ before, rest, offset + taken.length, found ++ groups, []⟩ := ⟨rfl, rfl, rfl⟩
  rw [first?_group name (ha before offset groups), record, htook.textTo]
  rfl

theorem one {set : CharSet} {c : Char} (h : set.contains c = true) (rest : List Char) :
    (chars set).Consumes [c] rest [] := by
  intro before offset groups
  exact follow_chars h none some ⟨before, c :: rest, offset, groups, []⟩ rest

/-! ## Words and runs -/

theorem literals {word said : List Char} (hcase : said.map Text.fold = word.map Text.fold)
    (htail : tail.Consumes more rest found) : (Pattern.literals word tail).Consumes (said ++ more) rest found := by
  intro before offset groups
  rw [List.append_assoc said, List.reverse_append, List.append_assoc, List.length_append, ← Nat.add_assoc]
  exact first?_literals hcase (htail (said.reverse ++ before) (offset + said.length) groups)

theorem run {set : CharSet} (hne : taken ≠ []) (hin : ∀ c ∈ taken, set.contains c = true)
    (hout : ∀ c ∈ rest.head?, set.contains c = false) :
    (oneOrMore true (chars set)).Consumes taken rest [] :=
  fun before offset groups => first?_run hne hin hout before offset groups []

theorem manyRun {set : CharSet} (hin : ∀ c ∈ taken, set.contains c = true)
    (hout : ∀ c ∈ rest.head?, set.contains c = false) :
    (many true (chars set)).Consumes taken rest [] := by
  intro before offset groups
  have hlength : taken.length < (taken ++ rest).length + 1 := by
    rw [List.length_append]
    omega
  exact rounds_run hin hout hlength before offset groups

/-! ## Choices -/

theorem first?_alt_left {p q : Position} (h : a.first? p = some q) : (alt a b).first? p = some q := by
  have hleft : a.follow none some p = some q := h
  rw [first?, follow]
  simp only [Position.pass?, Option.bind_some, Option.map_none, hleft]
  rfl

theorem first?_alt_right {p : Position} (h : ∀ q, ¬ a.Leads p.unmarked q) : (alt a b).first? p = b.first? p := by
  have hnone : a.follow none some p = none := by
    refine Option.eq_none_iff_forall_ne_some.2 fun q hq => ?_
    obtain ⟨r, hr, -⟩ := leads_of_follow a hq
    exact h _ hr
  rw [first?, follow]
  simp only [Position.pass?, Option.bind_some, Option.map_none, hnone]
  rfl

theorem alt_left (ha : a.Consumes taken rest found) : (alt a b).Consumes taken rest found :=
  fun before offset groups => first?_alt_left (ha before offset groups)

theorem alt_right (hstuck : a.Stuck (taken ++ rest)) (hb : b.Consumes taken rest found) :
    (alt a b).Consumes taken rest found := by
  intro before offset groups
  rw [first?_alt_right fun q => hstuck _ q rfl]
  exact hb before offset groups

theorem optional (ha : a.Consumes taken rest found) : (optional true a).Consumes taken rest found :=
  ha.alt_left

theorem left_out (hstuck : a.Stuck rest) : (Pattern.optional true a).Consumes [] rest [] :=
  alt_right hstuck (.empty rest)

/-- An optional part is left out if no way leads through it and through what comes behind it. -/
theorem optional_back (hstuck : (Pattern.seq a tail).Stuck (taken ++ rest)) (htail : tail.Consumes taken rest found) :
    (Pattern.seq (Pattern.optional true a) tail).Consumes taken rest found := by
  intro before offset groups
  have hnone : a.follow none (tail.follow none some) ⟨before, taken ++ rest, offset, groups, []⟩ = none := by
    refine Option.eq_none_iff_forall_ne_some.2 fun q hq => ?_
    have hboth : (Pattern.seq a tail).follow none some ⟨before, taken ++ rest, offset, groups, []⟩ = some q := hq
    obtain ⟨r, hr, -⟩ := leads_of_follow _ hboth
    exact hstuck _ _ rfl hr
  have hback : (tail.follow none some) ⟨before, taken ++ rest, offset, groups, []⟩ = _ := htail before offset groups
  rw [Pattern.optional, if_pos rfl, first?, follow, follow]
  simp only [Position.pass?, Option.bind_some, Option.map_none, hnone]
  exact hback

/-! ## Searches -/

/-- What is consumed from the beginning of a text is found there. -/
theorem find? (h : a.Consumes taken rest found) : ∃ m, a.find? (taken ++ rest) = some m ∧ m.groups = found :=
  ⟨_, find?_of_matchAt? (matchAt?_of_first? (h [] 0 [])), List.append_nil found⟩

/-- A text that begins with a word begins at the boundary of a word. -/
theorem first?_boundary {text : List Char} (h : startsWithWord text = true) :
    boundary.first? (start text) = some (start text) := by
  have hbegin : (start text).atBoundary = true := (Bool.false_bne _).trans h
  rw [first?, follow, if_pos hbegin]

theorem find?_of_word (h : a.Consumes taken rest found) (hword : startsWithWord (taken ++ rest) = true) :
    ∃ m, (Pattern.seq .boundary a).find? (taken ++ rest) = some m ∧ m.groups = found :=
  ⟨_, find?_of_matchAt? (matchAt?_of_first? (first?_seq (first?_boundary hword) (h [] 0 []))),
    List.append_nil found⟩

end Consumes

/-! ## Where no way leads on -/

/-- No way leads through a word before another letter. -/
theorem stuck_of_letter {c d : Char} (h : Text.fold d ≠ Text.fold c) (word rest : List Char) (tail : Pattern) :
    (literals (c :: word) tail).Stuck (d :: rest) := by
  rintro p q hrest ⟨mid, ⟨e, more, hp, hletter, -⟩, -⟩
  obtain ⟨rfl, -⟩ := List.cons.inj (hp.symm.trans hrest)
  exact h (beq_iff_eq.1 hletter).symm

theorem stuck_of_begins {pattern : Pattern} {clues : List Clue} (h : pattern.remainders? clues = some [])
    {text : List Char} (hbegins : Begins clues text) : pattern.Stuck text := by
  rintro p q rfl
  exact not_leads h hbegins

/-- At the end of a text a pattern that has to take a character is stuck. -/
theorem stuck_at_end {pattern : Pattern} (h : pattern.takes (fun _ => true) = true) : pattern.Stuck [] := by
  intro p q hrest hway
  obtain ⟨taken, htook, c, hc, -⟩ := hway.tookOne h
  rw [htook.rest] at hrest
  rw [(List.append_eq_nil_iff.1 hrest).1] at hc
  cases hc

/-- In white space and then a text without it, no way takes another character and then white space again. -/
theorem stuck_between {a tail : Pattern} (ha : a.takes (fun set => !Clue.blank.allows set) = true)
    (htail : tail.takes (· == .blank) = true) {gap text : List Char} (hgap : ∀ c ∈ gap, Text.isBlank c = true)
    (htext : ∀ c ∈ text, Text.isBlank c = false) : (seq a tail).Stuck (gap ++ text) := by
  rintro p q hrest ⟨mid, hfirst, hsecond⟩
  obtain ⟨first, htook, c, hc, other, hother, hin⟩ := hfirst.tookOne ha
  obtain ⟨second, htook', d, hd, white, hwhite, hin'⟩ := hsecond.tookOne htail
  obtain rfl := beq_iff_eq.1 hwhite
  rw [htook.rest, htook'.rest] at hrest
  rcases List.append_eq_append_iff.1 hrest with ⟨middle, hmiddle, -⟩ | ⟨middle, -, hmiddle⟩
  · have hblank := hgap c (hmiddle ▸ List.mem_append_left _ hc)
    rw [Bool.not_eq_true', ← Bool.not_eq_true] at hother
    exact hother (Clue.allows_of_contains hblank hin)
  · have hmem : d ∈ text := hmiddle ▸ List.mem_append_right _ (List.mem_append_left _ hd)
    rw [CharSet.contains, htext d hmem] at hin'
    cases hin'

end SimControl.Pattern
