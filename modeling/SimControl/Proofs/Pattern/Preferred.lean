import SimControl.Proofs.Pattern.Leads
import SimControl.Proofs.Pattern.Parallel

/-!
# The preferred way

`first?` is the end of the way that a pattern prefers when nothing has to follow. The pieces of a pattern can be
taken one by one along it (`first?_seq`), and if the last one succeeds, a match has been found
(`matchAt?_of_first?`). A greedy repetition of a set takes the whole run of characters of the set
(`first?_run`), and an optional part is left out where no way leads through it (`first?_optional`).
-/

namespace SimControl.Pattern

open Position

/-- The end of the preferred way. -/
def first? (pattern : Pattern) (p : Position) : Option Position :=
  pattern.follow none some p

theorem matchAt?_of_first? {pattern : Pattern} {p q : Position} (h : pattern.first? p = some q) :
    pattern.matchAt? p = some ⟨p.textTo q, q.groups⟩ :=
  follow_of_first h rfl

theorem first?_seq {a b : Pattern} {p q r : Position} (ha : a.first? p = some q) (hb : b.first? q = some r) :
    (seq a b).first? p = some r := by
  have hseq : a.follow none b.first? p = some r := follow_of_first ha hb
  exact hseq

theorem first?_group {a : Pattern} {p q : Position} (name : String) (ha : a.first? p = some q) :
    (group name a).first? p = some (record name p q) := by
  have hgroup : a.follow none (fun q => some (record name p q)) p = some (record name p q) :=
    follow_of_first ha rfl
  exact hgroup

/-- Where no way leads through it, an optional part is left out. -/
theorem first?_optional {a : Pattern} {p : Position} (h : ∀ q, ¬ a.Leads p.unmarked q) :
    (optional true a).first? p = some p := by
  have hnone : a.follow none some p = none := by
    refine Option.eq_none_iff_forall_ne_some.2 fun q hq => ?_
    obtain ⟨r, hr, -⟩ := leads_of_follow a hq
    exact h _ hr
  rw [optional, if_pos rfl, first?, follow]
  simp only [Position.pass?, Option.bind_some, Option.map_none, hnone]
  rfl

/-! ## Runs -/

theorem follow_chars {α : Type} {set : CharSet} {c : Char} (h : set.contains c = true) (point : Option Nat)
    (k : Position → Option α) (p : Position) (rest : List Char) :
    (chars set).follow point k { p with rest := c :: rest } = k (p.advance c rest) := by
  simp only [follow, h, if_true]
  rfl

theorem rounds_run {set : CharSet} {run rest : List Char} (hin : ∀ c ∈ run, set.contains c = true)
    (hout : ∀ c ∈ rest.head?, set.contains c = false) {count : Nat} (hcount : run.length < count)
    (before : List Char) (offset : Nat) (groups : List (String × List Char)) :
    rounds true none ((chars set).follow none) some count ⟨before, run ++ rest, offset, groups, []⟩ =
      some ⟨run.reverse ++ before, rest, offset + run.length, groups, []⟩ := by
  obtain ⟨count, rfl⟩ := Nat.exists_eq_add_one_of_ne_zero (Nat.ne_zero_of_lt hcount)
  induction run generalizing count before offset with
  | nil =>
      have hround : (chars set).follow none (rounds true none ((chars set).follow none) some count)
          ⟨before, rest, offset, groups, []⟩ = none := by
        cases rest with
        | nil => rfl
        | cons c rest => simp only [follow, hout c rfl, Bool.false_eq_true, if_false]
      simp only [rounds, Position.pass?, Option.bind_some, prefer, if_true, List.nil_append, hround]
      rfl
  | cons c run ih =>
      obtain ⟨count, rfl⟩ := Nat.exists_eq_add_one_of_ne_zero (Nat.ne_zero_of_lt (Nat.lt_of_succ_lt_succ hcount))
      rw [List.forall_mem_cons] at hin
      have hmore := ih hin.2 (c :: before) (offset + 1) count (Nat.lt_of_succ_lt_succ hcount)
      have hround := (follow_chars hin.1 none (rounds true none ((chars set).follow none) some (count + 1))
        ⟨before, c :: run ++ rest, offset, groups, []⟩ (run ++ rest)).trans hmore
      rw [List.reverse_cons, List.append_assoc, List.singleton_append, List.length_cons,
        Nat.add_comm run.length 1, ← Nat.add_assoc]
      exact congrArg (fun found => Option.orElse found fun _ => some ⟨before, c :: run ++ rest, offset, groups, []⟩)
        hround

/-- A greedy repetition takes the whole run. -/
theorem first?_run {set : CharSet} {run rest : List Char} (hne : run ≠ [])
    (hin : ∀ c ∈ run, set.contains c = true) (hout : ∀ c ∈ rest.head?, set.contains c = false)
    (before : List Char) (offset : Nat) (groups : List (String × List Char)) (passed : List Nat) :
    (oneOrMore true (chars set)).first? ⟨before, run ++ rest, offset, groups, passed⟩ =
      some ⟨run.reverse ++ before, rest, offset + run.length, groups, []⟩ := by
  cases run with
  | nil => exact absurd rfl hne
  | cons c run =>
      rw [List.forall_mem_cons] at hin
      have hlength : run.length < (c :: run ++ rest).length + 1 := by
        rw [List.length_append, List.length_cons]
        omega
      have hmore := rounds_run hin.2 hout hlength (c :: before) (offset + 1) groups
      rw [List.reverse_cons, List.append_assoc, List.singleton_append, List.length_cons,
        Nat.add_comm run.length 1, ← Nat.add_assoc]
      exact (follow_chars hin.1 none _ ⟨before, c :: run ++ rest, offset, groups, passed⟩ (run ++ rest)).trans hmore

/-! ## The pieces of a pattern -/

def front : Nat → Pattern → Pattern
  | 0, _ => .empty
  | n + 1, .seq a b => .seq a (front n b)
  | _ + 1, p => p

def back : Nat → Pattern → Pattern
  | 0, p => p
  | n + 1, .seq _ b => back n b
  | _ + 1, _ => .empty

theorem first?_front_back {n : Nat} {pattern : Pattern} {p q r : Position}
    (hfront : (front n pattern).first? p = some q) (hback : (back n pattern).first? q = some r) :
    pattern.first? p = some r := by
  have hsplit : ∀ (n : Nat) (pattern : Pattern) (k : Position → Option Position) (p : Position),
      (front n pattern).follow none ((back n pattern).follow none k) p = pattern.follow none k p := by
    intro n
    induction n with
    | zero => exact fun pattern k p => rfl
    | succ n ih =>
        intro pattern k p
        cases pattern with
        | seq a b =>
            have hrest : (front n b).follow none ((back n b).follow none k) = b.follow none k :=
              funext (ih b k)
            rw [front, back, follow, Option.map_none, hrest]
            rfl
        | _ => rfl
  have hfollow := follow_of_first hfront hback
  rwa [show (front n pattern).follow none (back n pattern).first? p = _ from hsplit n pattern some p] at hfollow

/-! ## Words -/

/-- A word, letter by letter, and what follows it. -/
def literals (word : List Char) (tail : Pattern) : Pattern :=
  word.foldr (fun c pattern => .seq (.chars (.literal c)) pattern) tail

theorem first?_literals {word found : List Char} (hcase : found.map Text.fold = word.map Text.fold)
    {tail : Pattern} {before rest : List Char} {offset : Nat} {groups : List (String × List Char)} {q : Position}
    (htail : tail.first? ⟨found.reverse ++ before, rest, offset + found.length, groups, []⟩ = some q) :
    (literals word tail).first? ⟨before, found ++ rest, offset, groups, []⟩ = some q := by
  induction word generalizing found before offset with
  | nil =>
      rw [List.map_nil, List.map_eq_nil_iff] at hcase
      subst hcase
      exact htail
  | cons c word ih =>
      cases found with
      | nil => cases hcase
      | cons d found =>
          rw [List.map_cons, List.map_cons, List.cons.injEq] at hcase
          have hletter : (CharSet.literal c).contains d = true := beq_iff_eq.2 hcase.1.symm
          rw [List.reverse_cons, List.append_assoc, List.singleton_append, List.length_cons,
            Nat.add_comm found.length 1, ← Nat.add_assoc] at htail
          exact first?_seq
            (follow_chars hletter none some ⟨before, d :: found ++ rest, offset, groups, []⟩ (found ++ rest))
            (ih hcase.2 htail)

/-- A way through a word takes the word in some case and no group. -/
theorem leads_literals {word : List Char} {tail : Pattern} {p q : Position}
    (h : (literals word tail).Leads p q) : ∃ found mid, Took found p mid ∧
      found.map Text.fold = word.map Text.fold ∧ mid.groups = p.groups ∧ tail.Leads mid q := by
  induction word generalizing p with
  | nil => exact ⟨[], p, .refl p, rfl, rfl, h⟩
  | cons c word ih =>
      obtain ⟨_, ⟨d, rest, hrest, hletter, rfl⟩, hword⟩ := h
      obtain ⟨found, mid, htook, hcase, hgroups, htail⟩ := ih hword
      refine ⟨d :: found, mid, (Took.advance hrest).trans htook, ?_, hgroups, htail⟩
      rw [List.map_cons, List.map_cons, hcase, beq_iff_eq.1 hletter]

/-- Where a match begins, a search comes to a result. -/
theorem isSome_findFrom? {pattern : Pattern} {skipped rest before : List Char} {offset : Nat}
    (h : (pattern.matchAt? ⟨skipped.reverse ++ before, rest, offset + skipped.length, [], []⟩).isSome = true) :
    (pattern.findFrom? before offset (skipped ++ rest)).isSome = true := by
  have horElse : ∀ {a : Option Match} {b : Unit → Option Match}, a.isSome = true ∨ (b ()).isSome = true →
      (a.orElse b).isSome = true := by
    rintro (_ | m) b (ha | hb)
    · cases ha
    · exact hb
    · rfl
    · rfl
  induction skipped generalizing before offset with
  | nil =>
      cases rest with
      | nil => exact h
      | cons c rest => exact horElse (.inl h)
  | cons c skipped ih =>
      rw [List.reverse_cons, List.append_assoc, List.singleton_append, List.length_cons,
        Nat.add_comm skipped.length 1, ← Nat.add_assoc] at h
      exact horElse (.inr (ih h))

/-- In a text without blanks, a word with an optional part that needs a blank is found as the bare word. -/
theorem find?_word (word : List Char) {a : Pattern} (ha : a.takes (· == .blank) = true) {text : List Char}
    (hblank : ∀ c ∈ text, Text.isBlank c = false) :
    (∀ m, (literals word (optional true a)).find? text = some m → m.groups = []) ∧
      (((literals word (optional true a)).find? text).isSome = true ↔
        word.map Text.fold <:+: text.map Text.fold) := by
  have hfound : ∀ m, (literals word (optional true a)).find? text = some m →
      m.groups = [] ∧ word.map Text.fold <:+: text.map Text.fold := by
    intro m hm
    obtain ⟨skipped, rest, rfl, q, hway, hgroups⟩ := leads_of_find? hm
    obtain ⟨found, mid, htook, hcase, hmid, htail⟩ := leads_literals hway
    have hrest : rest = found ++ mid.rest := htook.rest
    subst hrest
    refine ⟨?_, skipped.map Text.fold, mid.rest.map Text.fold, ?_⟩
    · rcases htail with hmore | hstop
      · refine absurd hmore (not_leads_of_no_blank ha (fun c hc => hblank c ?_) q)
        exact List.mem_append_right _ (List.mem_append_right _ hc)
      · rw [hgroups, show q = mid from hstop, hmid]
    · rw [List.map_append, List.map_append, hcase, List.append_assoc]
  refine ⟨fun m hm => (hfound m hm).1, fun h => ?_, ?_⟩
  · obtain ⟨m, hm⟩ := Option.isSome_iff_exists.1 h
    exact (hfound m hm).2
  · rintro ⟨first, last, hsplit⟩
    rw [List.append_assoc] at hsplit
    obtain ⟨skipped, rest, rfl, -, hrest⟩ := List.map_eq_append_iff.1 hsplit.symm
    obtain ⟨found, behind, rfl, hcase, -⟩ := List.map_eq_append_iff.1 hrest
    refine isSome_findFrom? ?_
    have hstop : (optional true a).first?
        ⟨found.reverse ++ (skipped.reverse ++ []), behind, 0 + skipped.length + found.length, [], []⟩ =
        some ⟨found.reverse ++ (skipped.reverse ++ []), behind, 0 + skipped.length + found.length, [], []⟩ :=
      first?_optional (not_leads_of_no_blank ha fun c hc => hblank c
        (List.mem_append_right _ (List.mem_append_right _ hc)))
    rw [matchAt?_of_first? (first?_literals hcase hstop)]
    rfl

/-! ## A parameter at the end -/

/-- From its beginning on, the whole text is preferred as the text of the group, which is the only one. -/
def GivesAll (pattern : Pattern) (name : String) (text : List Char) : Prop :=
  ∀ (before : List Char) (offset : Nat), pattern.first? ⟨before, text, offset, [], []⟩ =
    some ⟨text.reverse ++ before, [], offset + text.length, [(name, text)], []⟩

theorem givesAll_run {set : CharSet} {text : List Char} (hne : text ≠ [])
    (hin : ∀ c ∈ text, set.contains c = true) (name : String) :
    GivesAll (group name (oneOrMore true (chars set))) name text := by
  intro before offset
  have hrun : (oneOrMore true (chars set)).first? ⟨before, text ++ [], offset, [], []⟩ =
      some ⟨text.reverse ++ before, [], offset + text.length, [], []⟩ :=
    first?_run hne hin (by simp) before offset [] []
  rw [List.append_nil] at hrun
  have htook : Took text ⟨before, text, offset, [], []⟩
      ⟨text.reverse ++ before, [], offset + text.length, [], []⟩ := ⟨(List.append_nil text).symm, rfl, rfl⟩
  rw [first?_group name hrun, record, htook.textTo]

/-- An optional part that needs a blank is left out before a text without blanks. -/
theorem GivesAll.optional {a tail : Pattern} {name : String} {text : List Char}
    (ha : a.takes (· == .blank) = true) (hblank : ∀ c ∈ text, Text.isBlank c = false)
    (htail : GivesAll tail name text) : GivesAll (seq (Pattern.optional true a) tail) name text := by
  intro before offset
  exact first?_seq (first?_optional (not_leads_of_no_blank ha hblank)) (htail before offset)

theorem find?_of_matchAt? {pattern : Pattern} {text : List Char} {m : Match}
    (h : pattern.matchAt? (start text) = some m) : pattern.find? text = some m := by
  cases text with
  | nil => exact h
  | cons c rest => exact congrArg (fun found => Option.orElse found _) h

/-- Words at the beginning of a text, white space and then a parameter. -/
theorem find?_of_pieces {pattern tail : Pattern} {n : Nat} {words gap text : List Char} {name : String}
    (hwords : ∀ rest, (front n pattern).first? (start (words ++ rest)) =
      some ⟨words.reverse, rest, words.length, [], []⟩)
    (hback : back n pattern = .seq (.oneOrMore true (.chars .blank)) tail) (hne : gap ≠ [])
    (hgap : ∀ c ∈ gap, Text.isBlank c = true) (hbegins : ∀ c ∈ text.head?, Text.isBlank c = false)
    (htail : GivesAll tail name text) :
    ∃ m, pattern.find? (words ++ (gap ++ text)) = some m ∧ m.groups = [(name, text)] := by
  have hin : ∀ c ∈ gap, CharSet.blank.contains c = true := hgap
  have hout : ∀ c ∈ text.head?, CharSet.blank.contains c = false := hbegins
  have hrun : (oneOrMore true (chars .blank)).first? ⟨words.reverse, gap ++ text, words.length, [], []⟩ =
      some ⟨gap.reverse ++ words.reverse, text, words.length + gap.length, [], []⟩ :=
    first?_run hne hin hout words.reverse words.length [] []
  have hend := first?_seq hrun (htail _ _)
  rw [← hback] at hend
  exact ⟨_, find?_of_matchAt? (matchAt?_of_first? (first?_front_back (hwords _) hend)), rfl⟩

end SimControl.Pattern
