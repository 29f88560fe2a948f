import Mathlib.Logic.Relation
import SimControl.Pattern.Basic
import SimControl.Proofs.Dictionary

/-!
# Ways through a pattern

`p.Leads a b` says that some way through `p` goes from the place `a` to the place `b`, no matter which way is
preferred and which branch points have been passed. What `follow` finds lies at the end of such a way
(`leads_of_follow`), so whatever holds of all ways holds of every match:

* a way takes a piece of the text (`Leads.took`);
* if every way has to take a character of a certain kind, that piece holds one (`Leads.tookOne`);
* the text of a group is a piece that the body of one of its captures took (`Leads.captures`).
-/

namespace SimControl.Pattern

namespace Position

/-- The place as it is reached by a character, with no branch point passed. -/
def unmarked (p : Position) : Position :=
  { p with passed := [] }

theorem unmarked_of_pass? {point : Option Nat} {p q : Position} (h : p.pass? point = some q) :
    q.unmarked = p.unmarked := by
  cases point with
  | none => rw [Option.some.inj h]
  | some n =>
      rw [pass?] at h
      split at h
      · cases h
      · exact Option.some.inj h ▸ rfl

end Position

/-! ## The relation -/

/-- A relation a number of times in a row. -/
def Times {α : Type} (R : α → α → Prop) : Nat → α → α → Prop
  | 0, p, q => q = p
  | n + 1, p, r => ∃ q, R p q ∧ Times R n q r

/-- Some way through the pattern goes from the first place to the second one. -/
def Leads : Pattern → Position → Position → Prop
  | .empty, p, q => q = p
  | .chars set, p, q => ∃ c rest, p.rest = c :: rest ∧ set.contains c = true ∧ q = p.advance c rest
  | .boundary, p, q => p.atBoundary = true ∧ q = p
  | .finish, p, q => p.rest = [] ∧ q = p
  | .seq a b, p, r => ∃ q, a.Leads p q ∧ b.Leads q r
  | .alt a b, p, q => a.Leads p q ∨ b.Leads p q
  | .many _ a, p, q => Relation.ReflTransGen a.Leads p q
  | .oneOrMore _ a, p, r => ∃ q, a.Leads p q ∧ Relation.ReflTransGen a.Leads q r
  | .times n a, p, q => Times a.Leads n p q
  | .group name a, p, r => ∃ q, a.Leads p q ∧ r = Position.record name p q

section

variable {α : Type} {k : Position → Option α} {p : Position} {x : α}

/-- What is found from a place is found at a place that `R` leads to. -/
def FindsAlong (R : Position → Position → Prop) (k : Position → Option α) (p : Position) (x : α) : Prop :=
  ∃ q, R p.unmarked q.unmarked ∧ k q = some x

theorem orElse_eq_some {a : Option α} {b : Unit → Option α} (h : a.orElse b = some x) :
    a = some x ∨ b () = some x := by
  cases a with
  | none => exact .inr h
  | some y => exact .inl h

theorem prefer_eq_some {greedy : Bool} {again stop : Unit → Option α} (h : prefer greedy again stop = some x) :
    again () = some x ∨ stop () = some x := by
  cases greedy with
  | true => exact orElse_eq_some h
  | false => exact (orElse_eq_some h).symm

theorem findsAlong_rounds {body : (Position → Option α) → Position → Option α}
    {R : Position → Position → Prop}
    (hbody : ∀ {k p}, body k p = some x → FindsAlong R k p x) {greedy : Bool} {point : Option Nat} {count : Nat}
    (h : rounds greedy point body k count p = some x) : FindsAlong (Relation.ReflTransGen R) k p x := by
  induction count generalizing p with
  | zero => cases h
  | succ count ih =>
      obtain ⟨marked, hmarked, h⟩ := Option.bind_eq_some_iff.1 h
      rw [FindsAlong, ← Position.unmarked_of_pass? hmarked]
      rcases prefer_eq_some h with hagain | hstop
      · obtain ⟨q, hq, hrest⟩ := hbody hagain
        obtain ⟨r, hr, hk⟩ := ih hrest
        exact ⟨r, .head hq hr, hk⟩
      · exact ⟨marked, .refl, hstop⟩

theorem findsAlong_copies {size : Nat} {body : Option Nat → (Position → Option α) → Position → Option α}
    {R : Position → Position → Prop}
    (hbody : ∀ {point k p}, body point k p = some x → FindsAlong R k p x) {count : Nat} {point : Option Nat}
    (h : copies size body count point k p = some x) : FindsAlong (Times R count) k p x := by
  induction count generalizing point p with
  | zero => exact ⟨p, rfl, h⟩
  | succ count ih =>
      obtain ⟨q, hq, hrest⟩ := hbody h
      obtain ⟨r, hr, hk⟩ := ih hrest
      exact ⟨r, ⟨q.unmarked, hq, hr⟩, hk⟩

/-- What is found is found at the end of a way. -/
theorem leads_of_follow (pattern : Pattern) {point : Option Nat} (h : pattern.follow point k p = some x) :
    FindsAlong pattern.Leads k p x := by
  induction pattern generalizing point k p with
  | empty => exact ⟨p, rfl, h⟩
  | chars set =>
      rw [follow] at h
      split at h
      · cases h
      · rename_i c rest hrest
        split at h
        · rename_i hc
          exact ⟨p.advance c rest, ⟨c, rest, hrest, hc, rfl⟩, h⟩
        · cases h
  | boundary =>
      rw [follow] at h
      split at h
      · rename_i hat
        exact ⟨p, ⟨hat, rfl⟩, h⟩
      · cases h
  | finish =>
      rw [follow] at h
      split at h
      · rename_i hend
        exact ⟨p, ⟨List.isEmpty_iff.1 hend, rfl⟩, h⟩
      · cases h
  | seq a b iha ihb =>
      obtain ⟨q, hq, hrest⟩ := iha h
      obtain ⟨r, hr, hk⟩ := ihb hrest
      exact ⟨r, ⟨q.unmarked, hq, hr⟩, hk⟩
  | alt a b iha ihb =>
      obtain ⟨marked, hmarked, h⟩ := Option.bind_eq_some_iff.1 h
      rw [FindsAlong, ← Position.unmarked_of_pass? hmarked]
      rcases orElse_eq_some h with ha | hb
      · obtain ⟨q, hq, hk⟩ := iha ha
        exact ⟨q, .inl hq, hk⟩
      · obtain ⟨q, hq, hk⟩ := ihb hb
        exact ⟨q, .inr hq, hk⟩
  | many greedy a ih => exact findsAlong_rounds ih h
  | oneOrMore greedy a ih =>
      rw [follow] at h
      split at h
      all_goals
        obtain ⟨q, hq, hrest⟩ := ih h
        obtain ⟨r, hr, hk⟩ := findsAlong_rounds ih hrest
        exact ⟨r, ⟨q.unmarked, hq, hr⟩, hk⟩
  | times n a ih => exact findsAlong_copies ih h
  | group name a ih =>
      obtain ⟨q, hq, hk⟩ := ih h
      exact ⟨_, ⟨q.unmarked, hq, rfl⟩, hk⟩

end

/-! ## The text that is taken -/

namespace Position

/-- The second place lies behind a piece of the text that begins at the first one. -/
structure Took (taken : List Char) (p q : Position) : Prop where
  rest : p.rest = taken ++ q.rest
  before : q.before = taken.reverse ++ p.before
  offset : q.offset = p.offset + taken.length

theorem Took.refl (p : Position) : Took [] p p :=
  ⟨rfl, rfl, rfl⟩

theorem Took.advance {p : Position} {c : Char} {rest : List Char} (h : p.rest = c :: rest) :
    Took [c] p (p.advance c rest) :=
  ⟨h, rfl, rfl⟩

theorem Took.trans {p q r : Position} {first second : List Char} (hpq : Took first p q)
    (hqr : Took second q r) : Took (first ++ second) p r where
  rest := by rw [hpq.rest, hqr.rest, List.append_assoc]
  before := by rw [hqr.before, hpq.before, List.reverse_append, List.append_assoc]
  offset := by rw [hqr.offset, hpq.offset, List.length_append, Nat.add_assoc]

theorem Took.record {p q : Position} {taken : List Char} (h : Took taken p q) (name : String) :
    Took taken p (Position.record name p q) :=
  ⟨h.rest, h.before, h.offset⟩

theorem Took.textTo {p q : Position} {taken : List Char} (h : Took taken p q) : p.textTo q = taken := by
  rw [Position.textTo, h.rest, h.offset, Nat.add_sub_cancel_left, List.take_left']
  rfl

end Position

open Position

/-- What is reflexive, transitive and true of every character that is read, with or without the record of a
group, is true of every way. -/
theorem Leads.of_steps {S : Position → Position → Prop} (hrefl : ∀ p, S p p)
    (htrans : ∀ {p q r}, S p q → S q r → S p r)
    (hadvance : ∀ {p c rest}, p.rest = c :: rest → S p (p.advance c rest))
    (hrecord : ∀ {p q} name, S p q → S p (Position.record name p q)) {pattern : Pattern} {p q : Position}
    (h : pattern.Leads p q) : S p q := by
  have hstar : ∀ {R : Position → Position → Prop}, (∀ {p q}, R p q → S p q) → ∀ {p q},
      Relation.ReflTransGen R p q → S p q := by
    intro R hR p q hstar
    induction hstar with
    | refl => exact hrefl p
    | tail _ hlast ih => exact htrans ih (hR hlast)
  induction pattern generalizing p q with
  | empty => exact h ▸ hrefl p
  | chars set =>
      obtain ⟨c, rest, hrest, -, rfl⟩ := h
      exact hadvance hrest
  | boundary => exact h.2 ▸ hrefl p
  | finish => exact h.2 ▸ hrefl p
  | seq a b iha ihb =>
      obtain ⟨mid, ha, hb⟩ := h
      exact htrans (iha ha) (ihb hb)
  | alt a b iha ihb => exact h.elim iha ihb
  | many greedy a ih => exact hstar ih h
  | oneOrMore greedy a ih =>
      obtain ⟨mid, hfirst, hmore⟩ := h
      exact htrans (ih hfirst) (hstar ih hmore)
  | times n a ih =>
      induction n generalizing p with
      | zero => exact h ▸ hrefl p
      | succ n ihn =>
          obtain ⟨mid, hfirst, hmore⟩ := h
          exact htrans (ih hfirst) (ihn hmore)
  | group name a ih =>
      obtain ⟨mid, ha, rfl⟩ := h
      exact hrecord name (ih ha)

theorem Leads.took {pattern : Pattern} {p q : Position} (h : pattern.Leads p q) : ∃ taken, Took taken p q := by
  refine h.of_steps (S := fun p q => ∃ taken, Took taken p q) (fun p => ⟨[], .refl p⟩) ?_
    (fun hrest => ⟨_, .advance hrest⟩) ?_
  · rintro p q r ⟨first, hpq⟩ ⟨second, hqr⟩
    exact ⟨first ++ second, hpq.trans hqr⟩
  · rintro p q name ⟨taken, h⟩
    exact ⟨taken, h.record name⟩

/-! ## Characters that have to be taken -/

/-- Every way takes a character of a set that passes the test. -/
def takes (test : CharSet → Bool) : Pattern → Bool
  | .chars set => test set
  | .seq a b => a.takes test || b.takes test
  | .alt a b => a.takes test && b.takes test
  | .oneOrMore _ a => a.takes test
  | .times n a => n != 0 && a.takes test
  | .group _ a => a.takes test
  | _ => false

/-- A place behind a piece of the text with a character of a set that passes the test. -/
def TookOne (test : CharSet → Bool) (p q : Position) : Prop :=
  ∃ taken, Took taken p q ∧ ∃ c ∈ taken, ∃ set : CharSet, test set = true ∧ set.contains c = true

theorem TookOne.then {test : CharSet → Bool} {p q r : Position} (h : TookOne test p q)
    (hqr : ∃ taken, Took taken q r) : TookOne test p r := by
  obtain ⟨first, hpq, c, hc, hset⟩ := h
  obtain ⟨second, hqr⟩ := hqr
  exact ⟨first ++ second, hpq.trans hqr, c, List.mem_append_left _ hc, hset⟩

theorem TookOne.after {test : CharSet → Bool} {p q r : Position} (hpq : ∃ taken, Took taken p q)
    (h : TookOne test q r) : TookOne test p r := by
  obtain ⟨first, hpq⟩ := hpq
  obtain ⟨second, hqr, c, hc, hset⟩ := h
  exact ⟨first ++ second, hpq.trans hqr, c, List.mem_append_right _ hc, hset⟩

theorem Leads.tookOne {test : CharSet → Bool} {pattern : Pattern} {p q : Position}
    (htakes : pattern.takes test = true) (h : pattern.Leads p q) : TookOne test p q := by
  induction pattern generalizing p q with
  | empty => cases htakes
  | chars set =>
      obtain ⟨c, rest, hrest, hc, rfl⟩ := h
      exact ⟨[c], .advance hrest, c, List.mem_cons_self, set, htakes, hc⟩
  | boundary => cases htakes
  | finish => cases htakes
  | seq a b iha ihb =>
      obtain ⟨mid, ha, hb⟩ := h
      rcases Bool.or_eq_true_iff.1 htakes with hfirst | hsecond
      · exact (iha hfirst ha).then hb.took
      · exact .after ha.took (ihb hsecond hb)
  | alt a b iha ihb =>
      obtain ⟨hleft, hright⟩ := Bool.and_eq_true_iff.1 htakes
      exact h.elim (iha hleft) (ihb hright)
  | many greedy a ih => cases htakes
  | oneOrMore greedy a ih =>
      obtain ⟨mid, hfirst, hmore⟩ := h
      have hrest : (many greedy a).Leads mid q := hmore
      exact (ih htakes hfirst).then hrest.took
  | times n a ih =>
      obtain ⟨hn, ha⟩ := Bool.and_eq_true_iff.1 htakes
      cases n with
      | zero => cases hn
      | succ n =>
          obtain ⟨mid, hfirst, hmore⟩ := h
          have hrest : (times n a).Leads mid q := hmore
          exact (ih ha hfirst).then hrest.took
  | group name a ih =>
      obtain ⟨mid, ha, rfl⟩ := h
      obtain ⟨taken, htook, hone⟩ := ih htakes ha
      exact ⟨taken, htook.record name, hone⟩

/-- A pattern that has to take a character of some kind leads nowhere where there is none. -/
theorem not_leads_of_takes {test : CharSet → Bool} {pattern : Pattern} (htakes : pattern.takes test = true)
    {p : Position} (h : ∀ set, test set = true → ∀ c ∈ p.rest, set.contains c = false) (q : Position) :
    ¬ pattern.Leads p q := by
  intro hway
  obtain ⟨taken, htook, c, hc, set, hset, hcontains⟩ := hway.tookOne htakes
  rw [h set hset c (htook.rest ▸ List.mem_append_left _ hc)] at hcontains
  cases hcontains

theorem not_leads_of_no_blank {pattern : Pattern} (htakes : pattern.takes (· == .blank) = true) {p : Position}
    (h : ∀ c ∈ p.rest, Text.isBlank c = false) (q : Position) : ¬ pattern.Leads p q :=
  not_leads_of_takes htakes (fun _ hset c hc => beq_iff_eq.1 hset ▸ h c hc) q

/-! ## Groups -/

/-- The named groups with their bodies. -/
def captures : Pattern → List (String × Pattern)
  | .seq a b => a.captures ++ b.captures
  | .alt a b => a.captures ++ b.captures
  | .many _ a => a.captures
  | .oneOrMore _ a => a.captures
  | .times _ a => a.captures
  | .group name a => (name, a) :: a.captures
  | _ => []

/-- A group has the text that the body of one of the captures took. -/
def CapturedBy (captures : List (String × Pattern)) (group : String × List Char) : Prop :=
  ∃ body, (group.1, body) ∈ captures ∧ ∃ p q : Position, body.Leads p q ∧ p.textTo q = group.2

/-- The groups at the second place are those at the first one and captured ones. -/
def Captures (captures : List (String × Pattern)) (p q : Position) : Prop :=
  ∀ group ∈ q.groups, group ∈ p.groups ∨ CapturedBy captures group

theorem Captures.refl (captures : List (String × Pattern)) (p : Position) : Captures captures p p :=
  fun _ hgroup => .inl hgroup

theorem Captures.trans {captures : List (String × Pattern)} {p q r : Position} (hpq : Captures captures p q)
    (hqr : Captures captures q r) : Captures captures p r :=
  fun group hgroup => (hqr group hgroup).elim (hpq group) .inr

theorem Captures.mono {captures more : List (String × Pattern)} (hsub : captures ⊆ more) {p q : Position}
    (h : Captures captures p q) : Captures more p q := by
  intro group hgroup
  refine (h group hgroup).imp_right ?_
  rintro ⟨body, hbody, hway⟩
  exact ⟨body, hsub hbody, hway⟩

theorem Captures.star {captures : List (String × Pattern)} {R : Position → Position → Prop}
    (hR : ∀ {p q}, R p q → Captures captures p q) {p q : Position} (h : Relation.ReflTransGen R p q) :
    Captures captures p q := by
  induction h with
  | refl => exact .refl _ p
  | tail _ hlast ih => exact ih.trans (hR hlast)

/-- The text of a group is a piece that the body of one of its captures took. -/
theorem Leads.captures {pattern : Pattern} {p q : Position} (h : pattern.Leads p q) :
    Captures pattern.captures p q := by
  induction pattern generalizing p q with
  | empty => exact h ▸ .refl _ _
  | chars set =>
      obtain ⟨c, rest, -, -, rfl⟩ := h
      exact fun _ hgroup => .inl hgroup
  | boundary => exact h.2 ▸ .refl _ _
  | finish => exact h.2 ▸ .refl _ _
  | seq a b iha ihb =>
      obtain ⟨mid, ha, hb⟩ := h
      exact ((iha ha).mono (List.subset_append_left ..)).trans ((ihb hb).mono (List.subset_append_right ..))
  | alt a b iha ihb =>
      rcases h with ha | hb
      · exact (iha ha).mono (List.subset_append_left ..)
      · exact (ihb hb).mono (List.subset_append_right ..)
  | many greedy a ih => exact .star ih h
  | oneOrMore greedy a ih =>
      obtain ⟨mid, hfirst, hmore⟩ := h
      exact (ih hfirst).trans (.star ih hmore)
  | times n a ih =>
      induction n generalizing p with
      | zero => exact h ▸ .refl _ _
      | succ n ihn =>
          obtain ⟨mid, hfirst, hmore⟩ := h
          exact (ih hfirst).trans (ihn hmore)
  | group name a ih =>
      obtain ⟨mid, ha, rfl⟩ := h
      intro group hgroup
      rcases List.mem_cons.1 hgroup with rfl | hgroup
      · exact .inr ⟨a, List.mem_cons_self, p, mid, ha, rfl⟩
      · exact (ih ha).mono (List.subset_cons_self ..) group hgroup

/-! ## Matches -/

theorem leads_of_matchAt? {pattern : Pattern} {p : Position} {m : Match}
    (h : pattern.matchAt? p = some m) : ∃ q : Position, pattern.Leads p.unmarked q ∧ m.groups = q.groups := by
  obtain ⟨q, hq, hm⟩ := leads_of_follow pattern h
  exact ⟨q.unmarked, hq, Option.some.inj hm ▸ rfl⟩

/-- What is found lies at a place in the text, after some characters that are skipped. -/
theorem leads_of_findFrom? {pattern : Pattern} {text before : List Char} {offset : Nat} {m : Match}
    (h : pattern.findFrom? before offset text = some m) : ∃ skipped rest, text = skipped ++ rest ∧
      ∃ q, pattern.Leads ⟨skipped.reverse ++ before, rest, offset + skipped.length, [], []⟩ q ∧
        m.groups = q.groups := by
  induction text generalizing before offset with
  | nil => exact ⟨[], [], rfl, leads_of_matchAt? h⟩
  | cons c rest ih =>
      rcases orElse_eq_some h with hhere | hlater
      · exact ⟨[], c :: rest, rfl, leads_of_matchAt? hhere⟩
      · obtain ⟨skipped, behind, rfl, q, hq, hm⟩ := ih hlater
        refine ⟨c :: skipped, behind, rfl, q, ?_, hm⟩
        rwa [List.reverse_cons, List.append_assoc, List.singleton_append, List.length_cons,
          Nat.add_comm skipped.length 1, ← Nat.add_assoc]

theorem leads_of_find? {pattern : Pattern} {text : List Char} {m : Match} (h : pattern.find? text = some m) :
    ∃ skipped rest, text = skipped ++ rest ∧
      ∃ q, pattern.Leads ⟨skipped.reverse, rest, skipped.length, [], []⟩ q ∧ m.groups = q.groups := by
  obtain ⟨skipped, rest, htext, hway⟩ := leads_of_findFrom? h
  rw [List.append_nil, Nat.zero_add] at hway
  exact ⟨skipped, rest, htext, hway⟩

/-- The text of a group in a match is a piece that the body of one of its captures took. -/
theorem capturedBy_of_find? {pattern : Pattern} {text : List Char} {m : Match} (h : pattern.find? text = some m)
    {name : String} {cs : List Char} (hgroup : m.group? name = some cs) : CapturedBy pattern.captures (name, cs) := by
  obtain ⟨skipped, rest, -, q, hway, hgroups⟩ := leads_of_find? h
  have hmem : (name, cs) ∈ q.groups := hgroups ▸ mem_of_lookup hgroup
  exact (hway.captures _ hmem).resolve_left List.not_mem_nil

/-- Where no way begins, nothing is found. -/
theorem matchAt?_eq_none {pattern : Pattern} {p : Position} (h : ∀ q, ¬ pattern.Leads p.unmarked q) :
    pattern.matchAt? p = none := by
  refine Option.eq_none_iff_forall_ne_some.2 fun m hm => ?_
  obtain ⟨q, hq, -⟩ := leads_of_matchAt? hm
  exact h q hq

/-- A search passes over a character at which no way begins. -/
theorem findFrom?_cons {pattern : Pattern} {c : Char} {rest : List Char}
    (h : ∀ p q : Position, p.rest = c :: rest → ¬ pattern.Leads p q) (before : List Char) (offset : Nat) :
    pattern.findFrom? before offset (c :: rest) = pattern.findFrom? (c :: before) (offset + 1) rest := by
  rw [findFrom?, matchAt?_eq_none fun q => h _ q rfl]
  rfl

/-- If every way has to take a character of some kind, nothing is found in a text without. -/
theorem find?_of_takes {test : CharSet → Bool} {pattern : Pattern} (htakes : pattern.takes test = true)
    {text : List Char} (h : ∀ set, test set = true → ∀ c ∈ text, set.contains c = false) :
    pattern.find? text = none := by
  refine Option.eq_none_iff_forall_ne_some.2 fun m hm => ?_
  obtain ⟨skipped, rest, rfl, q, hway, -⟩ := leads_of_find? hm
  exact not_leads_of_takes htakes (fun set hset c hc => h set hset c (List.mem_append_right _ hc)) q hway

theorem find?_of_no_blank {pattern : Pattern} (htakes : pattern.takes (· == .blank) = true) {text : List Char}
    (h : ∀ c ∈ text, Text.isBlank c = false) : pattern.find? text = none :=
  find?_of_takes htakes fun _ hset c hc => beq_iff_eq.1 hset ▸ h c hc

end SimControl.Pattern
