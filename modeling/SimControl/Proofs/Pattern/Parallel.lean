import SimControl.Pattern.Basic

/-!
# Two searches side by side

A search that looks at the same text from two places takes the same ways, so its results correspond as far as
those at the ends of the ways do (`follow_parallel`). There are two uses:

* what lies before a text matters only for the word boundary at its beginning, so a search in the middle of a
  text is a search in the rest of it (`findFrom?_eq_find?`);
* the first end of a way that a search comes to counts if what follows succeeds from there (`follow_of_first`).
-/

namespace SimControl.Pattern

open Position

/-- Pairs of places with the same text ahead, which stay pairs as long as both go the same way. -/
structure Parallel (P : Position → Position → Prop) : Prop where
  rest : ∀ {p q}, P p q → p.rest = q.rest
  passed : ∀ {p q}, P p q → p.passed = q.passed
  atBoundary : ∀ {p q}, P p q → p.atBoundary = q.atBoundary
  advance : ∀ {p q} c rest, P p q → P (p.advance c rest) (q.advance c rest)
  mark : ∀ {p q} passed, P p q → P { p with passed } { q with passed }
  record : ∀ {p q p' q'} name, P p q → P p' q' → P (record name p p') (record name q q')

section

variable {α β : Type}

/-- A correspondence of results that is kept when one search is tried after another. -/
structure Corresponds (R : Option α → Option β → Prop) : Prop where
  none : R none none
  orElse : ∀ {a b} {c : Unit → Option α} {d : Unit → Option β}, R a b → R (c ()) (d ()) →
    R (a.orElse c) (b.orElse d)

/-- What `k` and `k'` give from two places corresponds. -/
def Agree (P : Position → Position → Prop) (R : Option α → Option β → Prop) (k : Position → Option α)
    (k' : Position → Option β) : Prop :=
  ∀ {p q}, P p q → R (k p) (k' q)

variable {P : Position → Position → Prop} {R : Option α → Option β → Prop}

theorem Corresponds.prefer (hR : Corresponds R) (greedy : Bool) {again stop : Unit → Option α}
    {again' stop' : Unit → Option β} (hagain : R (again ()) (again' ())) (hstop : R (stop ()) (stop' ())) :
    R (prefer greedy again stop) (prefer greedy again' stop') := by
  cases greedy with
  | true => exact hR.orElse hagain hstop
  | false => exact hR.orElse hstop hagain

theorem Parallel.pass? (hP : Parallel P) (hR : Corresponds R) {k : Position → Option α}
    {k' : Position → Option β} (hk : Agree P R k k') (point : Option Nat) :
    Agree P R (fun p => (p.pass? point).bind k) (fun p => (p.pass? point).bind k') := by
  intro p q hpq
  cases point with
  | none => exact hk hpq
  | some n =>
      simp only [Position.pass?, hP.passed hpq]
      split
      · exact hR.none
      · exact hk (hP.mark _ hpq)

theorem Parallel.rounds (hP : Parallel P) (hR : Corresponds R)
    {body : (Position → Option α) → Position → Option α} {body' : (Position → Option β) → Position → Option β}
    (hbody : ∀ {k k'}, Agree P R k k' → Agree P R (body k) (body' k')) {k : Position → Option α}
    {k' : Position → Option β} (hk : Agree P R k k') (greedy : Bool) (point : Option Nat) (count : Nat) :
    Agree P R (rounds greedy point body k count) (rounds greedy point body' k' count) := by
  induction count with
  | zero => exact fun _ => hR.none
  | succ count ih => exact hP.pass? hR (fun hpq => hR.prefer greedy (hbody ih hpq) (hk hpq)) point

theorem Parallel.copies {size : Nat} {body : Option Nat → (Position → Option α) → Position → Option α}
    {body' : Option Nat → (Position → Option β) → Position → Option β}
    (hbody : ∀ point {k k'}, Agree P R k k' → Agree P R (body point k) (body' point k'))
    {k : Position → Option α} {k' : Position → Option β} (hk : Agree P R k k') (count : Nat)
    (point : Option Nat) : Agree P R (copies size body count point k) (copies size body' count point k') := by
  induction count generalizing point with
  | zero => exact hk
  | succ count ih => exact hbody point (ih _)

theorem follow_parallel (hP : Parallel P) (hR : Corresponds R) (pattern : Pattern) (point : Option Nat)
    {k : Position → Option α} {k' : Position → Option β} (hk : Agree P R k k') :
    Agree P R (pattern.follow point k) (pattern.follow point k') := by
  induction pattern generalizing point k k' with
  | empty => exact hk
  | chars set =>
      intro p q hpq
      rw [follow, follow, hP.rest hpq]
      split
      · exact hR.none
      · rename_i c rest _
        split
        · exact hk (hP.advance c rest hpq)
        · exact hR.none
  | boundary =>
      intro p q hpq
      rw [follow, follow, hP.atBoundary hpq]
      split
      · exact hk hpq
      · exact hR.none
  | finish =>
      intro p q hpq
      rw [follow, follow, hP.rest hpq]
      split
      · exact hk hpq
      · exact hR.none
  | seq a b iha ihb => exact iha _ (ihb _ hk)
  | alt a b iha ihb => exact hP.pass? hR (fun hpq => hR.orElse (iha _ hk hpq) (ihb _ hk hpq)) point
  | many greedy a ih =>
      intro p q hpq
      have hlength : p.rest.length = q.rest.length := congrArg List.length (hP.rest hpq)
      rw [follow, follow, hlength]
      exact hP.rounds hR (fun hk => ih _ hk) hk greedy point _ hpq
  | oneOrMore greedy a ih =>
      intro p q hpq
      have hlength : p.rest.length = q.rest.length := congrArg List.length (hP.rest hpq)
      rw [follow, follow, hlength]
      split
      · exact ih _ (hP.rounds hR (fun hk => ih _ hk) hk greedy _ _) (hP.mark [] hpq)
      · exact ih _ (hP.rounds hR (fun hk => ih _ hk) hk greedy _ _) hpq
  | times n a ih => exact Parallel.copies (fun point _ _ hk => ih point hk) hk n point
  | group name a ih =>
      intro p q hpq
      exact ih point (fun hpq' => hk (hP.record name hpq hpq')) hpq

end

/-! ## What lies before a text -/

/-- The same text ahead, `n` characters later, behind another text that ends in the same way. -/
structure Shifted (n : Nat) (p q : Position) : Prop where
  before : startsWithWord p.before = startsWithWord q.before
  rest : p.rest = q.rest
  offset : p.offset + n = q.offset
  groups : p.groups = q.groups
  passed : p.passed = q.passed

theorem Shifted.textTo {n : Nat} {p q p' q' : Position} (h : Shifted n p q) (h' : Shifted n p' q') :
    p.textTo p' = q.textTo q' := by
  rw [Position.textTo, Position.textTo, h.rest, ← h.offset, ← h'.offset, Nat.add_sub_add_right]

theorem parallel_shifted (n : Nat) : Parallel (Shifted n) where
  rest := Shifted.rest
  passed := Shifted.passed
  atBoundary h := by rw [atBoundary, atBoundary, h.before, h.rest]
  advance _ _ h := ⟨rfl, rfl, by rw [Position.advance, Position.advance, ← h.offset, Nat.add_right_comm],
    h.groups, rfl⟩
  mark _ h := ⟨h.before, h.rest, h.offset, h.groups, rfl⟩
  record name h h' := ⟨h'.before, h'.rest, h'.offset,
    by rw [Position.record, Position.record, h.textTo h', h'.groups], h'.passed⟩

theorem corresponds_eq {α : Type} : Corresponds (fun a b : Option α => a = b) where
  none := rfl
  orElse := by
    rintro a b c d rfl hcd
    cases a with
    | none => exact hcd
    | some x => rfl

theorem matchAt?_shifted (pattern : Pattern) {n : Nat} {p q : Position} (h : Shifted n p q) :
    pattern.matchAt? p = pattern.matchAt? q := by
  refine follow_parallel (parallel_shifted n) corresponds_eq pattern none (fun h' => ?_) h
  rw [h.textTo h', h'.groups]

theorem findFrom?_shifted (pattern : Pattern) {before other : List Char}
    (hbefore : startsWithWord before = startsWithWord other) (offset n : Nat) (text : List Char) :
    pattern.findFrom? before offset text = pattern.findFrom? other (offset + n) text := by
  induction text generalizing before other offset with
  | nil => exact pattern.matchAt?_shifted ⟨hbefore, rfl, rfl, rfl, rfl⟩
  | cons c rest ih =>
      have hhere : pattern.matchAt? ⟨before, c :: rest, offset, [], []⟩ =
          pattern.matchAt? ⟨other, c :: rest, offset + n, [], []⟩ :=
        pattern.matchAt?_shifted ⟨hbefore, rfl, rfl, rfl, rfl⟩
      have hlater : pattern.findFrom? (c :: before) (offset + 1) rest =
          pattern.findFrom? (c :: other) (offset + 1 + n) rest :=
        ih (show startsWithWord (c :: before) = startsWithWord (c :: other) from rfl) (offset + 1)
      rw [findFrom?, findFrom?, hhere, hlater, Nat.add_right_comm]

/-- Behind a text that does not end in a word, a search is the search in the rest of the text. -/
theorem findFrom?_eq_find? (pattern : Pattern) {before : List Char} (hbefore : startsWithWord before = false)
    (offset : Nat) (text : List Char) : pattern.findFrom? before offset text = pattern.find? text := by
  have hshift : pattern.find? text = pattern.findFrom? before (0 + offset) text :=
    pattern.findFrom?_shifted (show startsWithWord [] = startsWithWord before from hbefore.symm) 0 offset text
  rw [hshift, Nat.zero_add]

/-! ## The first end of a way -/

section

variable {α : Type}

/-- `b` is what `k` makes of the first end of a way, if that is a success. -/
def Continues (k : Position → Option α) (a : Option Position) (b : Option α) : Prop :=
  (a = none → b = none) ∧ ∀ q x, a = some q → k q = some x → b = some x

theorem parallel_eq : Parallel (fun p q : Position => p = q) where
  rest h := h ▸ rfl
  passed h := h ▸ rfl
  atBoundary h := h ▸ rfl
  advance _ _ h := h ▸ rfl
  mark _ h := h ▸ rfl
  record _ h h' := h ▸ h' ▸ rfl

theorem corresponds_continues (k : Position → Option α) : Corresponds (Continues k) where
  none := ⟨fun _ => rfl, nofun⟩
  orElse := by
    intro a b c d hab hcd
    cases a with
    | none =>
        rw [hab.1 rfl]
        exact hcd
    | some q =>
        refine ⟨nofun, fun q' x hq hx => ?_⟩
        rw [hab.2 q' x hq hx]
        rfl

/-- If `k` succeeds from the first end of a way, that is the result. -/
theorem follow_of_first {pattern : Pattern} {point : Option Nat} {k : Position → Option α} {p q : Position}
    {x : α} (hfirst : pattern.follow point some p = some q) (hk : k q = some x) :
    pattern.follow point k p = some x := by
  have hcontinues : Continues k (pattern.follow point some p) (pattern.follow point k p) := by
    refine follow_parallel parallel_eq (corresponds_continues k) pattern point ?_ rfl
    rintro p _ rfl
    exact ⟨nofun, fun q x hq hx => (congrArg k (Option.some.inj hq)).trans hx⟩
  exact hcontinues.2 q x hfirst hk

end

end SimControl.Pattern
