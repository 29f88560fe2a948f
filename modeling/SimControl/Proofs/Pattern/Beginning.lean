import SimControl.Proofs.Pattern.Leads
import SimControl.Proofs.Pattern.Parallel
import SimControl.Proofs.Text.Caseless
import SimControl.Proofs.Text.Numeral

/-!
# Patterns at a known beginning

Often the characters that come first decide that a pattern does not match, whatever follows them. For a text of
which only the beginning is known, character by character, `remainders?` computes what may be left of the
beginning after the ways through a pattern. It gives up where a way may go on to what is not known, and where a
repetition takes no character. If it says that nothing is left, no way leads anywhere (`not_leads`).
-/

namespace SimControl.Pattern

open Position

/-- What is known of a character. -/
inductive Clue where
  | exactly (c : Char)
  | digit
  | blank
  deriving DecidableEq, Repr

namespace Clue

def holds : Clue → Char → Bool
  | .exactly a, c => a == c
  | .digit, c => c.isDigit
  | .blank, c => Text.isBlank c

/-- Some character of which the clue holds may be in the set. -/
def allows : Clue → CharSet → Bool
  | .exactly a, set => set.contains a
  | .digit, .literal a => (Text.fold a).isDigit
  | .digit, .blank => false
  | .digit, _ => true
  | .blank, .literal a => Text.isBlank (Text.fold a)
  | .blank, .nonblank => false
  | .blank, _ => true

theorem allows_of_contains {clue : Clue} {set : CharSet} {c : Char} (hc : clue.holds c = true)
    (hset : set.contains c = true) : clue.allows set = true := by
  cases clue with
  | exactly a => exact beq_iff_eq.1 hc ▸ hset
  | digit =>
      have hdigit : c.isDigit = true := hc
      cases set with
      | literal a =>
          have hfold : Text.fold a = c := (beq_iff_eq.1 hset).trans (Text.fold_of_isDigit hdigit)
          show (Text.fold a).isDigit = true
          rw [hfold, hdigit]
      | blank =>
          rw [CharSet.contains, Text.isBlank_of_isDigit hdigit] at hset
          cases hset
      | inLine => rfl
      | digit => rfl
      | nonblank => rfl
      | listed items => rfl
      | unlisted items => rfl
  | blank =>
      cases set with
      | literal a =>
          have hblank : Text.isBlank c = true := hc
          have hfold : Text.fold a = c := (beq_iff_eq.1 hset).trans (Text.fold_of_isBlank hblank)
          show Text.isBlank (Text.fold a) = true
          rw [hfold, hblank]
      | nonblank =>
          rw [CharSet.contains, show Text.isBlank c = true from hc] at hset
          cases hset
      | inLine => rfl
      | digit => rfl
      | blank => rfl
      | listed items => rfl
      | unlisted items => rfl

end Clue

/-- A text of whose first characters the clues hold. -/
def Begins : List Clue → List Char → Prop
  | [], _ => True
  | _ :: _, [] => False
  | clue :: clues, c :: rest => clue.holds c = true ∧ Begins clues rest

theorem begins_exactly (known rest : List Char) : Begins (known.map .exactly) (known ++ rest) := by
  induction known with
  | nil => trivial
  | cons c known ih => exact ⟨beq_self_eq_true c, ih⟩

/-! ## Computation -/

section

variable {α β : Type}

/-- All results for all members of a list, if there are results for each of them. -/
def gather (f : α → Option (List β)) : List α → Option (List β)
  | [] => some []
  | a :: rest => do return (← f a) ++ (← gather f rest)

theorem mem_of_gather {f : α → Option (List β)} {as : List α} {bs : List β} (h : gather f as = some bs) {a : α}
    (ha : a ∈ as) : ∃ found, f a = some found ∧ ∀ b ∈ found, b ∈ bs := by
  induction as generalizing bs with
  | nil => cases ha
  | cons first rest ih =>
      obtain ⟨found, hfound, h⟩ := Option.bind_eq_some_iff.1 h
      obtain ⟨others, hothers, h⟩ := Option.bind_eq_some_iff.1 h
      obtain rfl := Option.some.inj h
      rcases List.mem_cons.1 ha with rfl | ha
      · exact ⟨found, hfound, fun b hb => List.mem_append_left _ hb⟩
      · obtain ⟨more, hmore, hsub⟩ := ih hothers ha
        exact ⟨more, hmore, fun b hb => List.mem_append_right _ (hsub b hb)⟩

end

/-- The remainders of a beginning after less than `count` rounds. -/
def roundsRemainders? (body : List Clue → Option (List (List Clue))) :
    Nat → List Clue → Option (List (List Clue))
  | 0, _ => none
  | count + 1, clues => do
    let more ← gather (roundsRemainders? body count) (← body clues)
    return clues :: more

def timesRemainders? (body : List Clue → Option (List (List Clue))) :
    Nat → List Clue → Option (List (List Clue))
  | 0, clues => some [clues]
  | count + 1, clues => do gather (timesRemainders? body count) (← body clues)

/-- What may be left of a beginning after the ways through a pattern, unless a way may go beyond it. -/
def remainders? : Pattern → List Clue → Option (List (List Clue))
  | .empty, clues => some [clues]
  | .chars _, [] => none
  | .chars set, clue :: clues => some (if clue.allows set then [clues] else [])
  | .boundary, clues => some [clues]
  | .finish, [] => none
  | .finish, _ :: _ => some []
  | .seq a b, clues => do gather b.remainders? (← a.remainders? clues)
  | .alt a b, clues => do return (← a.remainders? clues) ++ (← b.remainders? clues)
  | .many _ a, clues => roundsRemainders? a.remainders? (clues.length + 1) clues
  | .oneOrMore _ a, clues => do
    gather (roundsRemainders? a.remainders? (clues.length + 1)) (← a.remainders? clues)
  | .times n a, clues => timesRemainders? a.remainders? n clues
  | .group _ a, clues => a.remainders? clues

/-! ## Soundness -/

/-- The text at a place begins with one of the remainders. -/
def LeavesOne (remainders : List (List Clue)) (q : Position) : Prop :=
  ∃ left ∈ remainders, Begins left q.rest

/-- The remainders that a function computes are right for a relation. -/
def SoundFor (R : Position → Position → Prop) (f : List Clue → Option (List (List Clue))) : Prop :=
  ∀ {clues remainders p q}, f clues = some remainders → Begins clues p.rest → R p q → LeavesOne remainders q

theorem SoundFor.gather {R : Position → Position → Prop} {f : List Clue → Option (List (List Clue))}
    (hf : SoundFor R f) {ends remainders : List (List Clue)} (h : gather f ends = some remainders)
    {p q : Position} (hp : LeavesOne ends p) (hR : R p q) : LeavesOne remainders q := by
  obtain ⟨left, hleft, hbegins⟩ := hp
  obtain ⟨found, hfound, hsub⟩ := mem_of_gather h hleft
  obtain ⟨last, hlast, hlastBegins⟩ := hf hfound hbegins hR
  exact ⟨last, hsub last hlast, hlastBegins⟩

theorem SoundFor.rounds {R : Position → Position → Prop} {body : List Clue → Option (List (List Clue))}
    (hbody : SoundFor R body) (count : Nat) :
    SoundFor (Relation.ReflTransGen R) (roundsRemainders? body count) := by
  induction count with
  | zero => exact fun h => nomatch h
  | succ count ih =>
      intro clues remainders p q h hbegins hstar
      obtain ⟨ends, hends, h⟩ := Option.bind_eq_some_iff.1 h
      obtain ⟨more, hmore, h⟩ := Option.bind_eq_some_iff.1 h
      obtain rfl := Option.some.inj h
      rcases Relation.ReflTransGen.cases_head hstar with rfl | ⟨mid, hfirst, hrest⟩
      · exact ⟨clues, List.mem_cons_self, hbegins⟩
      · obtain ⟨left, hleft, hlast⟩ := ih.gather hmore (hbody hends hbegins hfirst) hrest
        exact ⟨left, List.mem_cons_of_mem _ hleft, hlast⟩

theorem SoundFor.times {R : Position → Position → Prop} {body : List Clue → Option (List (List Clue))}
    (hbody : SoundFor R body) (count : Nat) : SoundFor (Times R count) (timesRemainders? body count) := by
  induction count with
  | zero =>
      intro clues remainders p q h hbegins hway
      obtain rfl := Option.some.inj h
      exact ⟨clues, List.mem_singleton_self clues, hway ▸ hbegins⟩
  | succ count ih =>
      intro clues remainders p q h hbegins hway
      obtain ⟨ends, hends, h⟩ := Option.bind_eq_some_iff.1 h
      obtain ⟨mid, hfirst, hrest⟩ := hway
      exact ih.gather h (hbody hends hbegins hfirst) hrest

theorem soundFor_remainders? (pattern : Pattern) : SoundFor pattern.Leads pattern.remainders? := by
  induction pattern with
  | empty =>
      intro clues remainders p q h hbegins hway
      obtain rfl := Option.some.inj h
      exact ⟨clues, List.mem_singleton_self clues, hway ▸ hbegins⟩
  | chars set =>
      rintro clues remainders p q h hbegins ⟨c, rest, hrest, hc, rfl⟩
      cases clues with
      | nil => cases h
      | cons clue clues =>
          rw [hrest] at hbegins
          rw [remainders?, if_pos (Clue.allows_of_contains hbegins.1 hc)] at h
          obtain rfl := Option.some.inj h
          exact ⟨clues, List.mem_singleton_self clues, hbegins.2⟩
  | boundary =>
      intro clues remainders p q h hbegins hway
      obtain rfl := Option.some.inj h
      exact ⟨clues, List.mem_singleton_self clues, hway.2 ▸ hbegins⟩
  | finish =>
      intro clues remainders p q h hbegins hway
      cases clues with
      | nil => cases h
      | cons clue clues =>
          rw [hway.1] at hbegins
          exact hbegins.elim
  | seq a b iha ihb =>
      rintro clues remainders p q h hbegins ⟨mid, ha, hb⟩
      obtain ⟨ends, hends, h⟩ := Option.bind_eq_some_iff.1 h
      exact ihb.gather h (iha hends hbegins ha) hb
  | alt a b iha ihb =>
      intro clues remainders p q h hbegins hway
      obtain ⟨left, hleft, h⟩ := Option.bind_eq_some_iff.1 h
      obtain ⟨right, hright, h⟩ := Option.bind_eq_some_iff.1 h
      obtain rfl := Option.some.inj h
      rcases hway with ha | hb
      · obtain ⟨last, hlast, hbegins⟩ := iha hleft hbegins ha
        exact ⟨last, List.mem_append_left _ hlast, hbegins⟩
      · obtain ⟨last, hlast, hbegins⟩ := ihb hright hbegins hb
        exact ⟨last, List.mem_append_right _ hlast, hbegins⟩
  | many greedy a ih => exact fun h => ih.rounds _ h
  | oneOrMore greedy a ih =>
      rintro clues remainders p q h hbegins ⟨mid, hfirst, hrest⟩
      obtain ⟨ends, hends, h⟩ := Option.bind_eq_some_iff.1 h
      exact SoundFor.gather (ih.rounds _) h (ih hends hbegins hfirst) hrest
  | times n a ih => exact fun h => ih.times n h
  | group name a ih =>
      rintro clues remainders p q h hbegins ⟨mid, ha, rfl⟩
      obtain ⟨left, hleft, hleftBegins⟩ := ih h hbegins ha
      exact ⟨left, hleft, hleftBegins⟩

/-- A pattern that leaves nothing of a known beginning has no way from there. -/
theorem not_leads {pattern : Pattern} {clues : List Clue} (h : pattern.remainders? clues = some [])
    {p q : Position} (hbegins : Begins clues p.rest) : ¬ pattern.Leads p q := by
  intro hway
  obtain ⟨left, hleft, -⟩ := pattern.soundFor_remainders? h hbegins hway
  cases hleft

/-! ## Searches -/

/-- No way begins at one of the known characters, whatever follows them. -/
def skips (pattern : Pattern) : List Char → Bool
  | [] => true
  | c :: known => pattern.remainders? ((c :: known).map .exactly) == some [] && pattern.skips known

theorem findFrom?_of_skips {pattern : Pattern} {known : List Char} (h : pattern.skips known = true)
    (rest before : List Char) (offset : Nat) : pattern.findFrom? before offset (known ++ rest) =
      pattern.findFrom? (known.reverse ++ before) (offset + known.length) rest := by
  induction known generalizing before offset with
  | nil => rfl
  | cons c known ih =>
      obtain ⟨hhere, hlater⟩ := Bool.and_eq_true_iff.1 h
      have hnone : ∀ p q : Position, p.rest = c :: (known ++ rest) → ¬ pattern.Leads p q := by
        intro p q hrest
        exact not_leads (beq_iff_eq.1 hhere) (hrest ▸ begins_exactly (c :: known) rest)
      rw [List.cons_append, findFrom?_cons hnone, ih hlater, List.reverse_cons, List.append_assoc,
        List.singleton_append, List.length_cons, Nat.add_comm known.length 1, Nat.add_assoc]

/-- A search passes over characters of which clues hold that leave no way. -/
theorem findFrom?_of_clues {pattern : Pattern} {run : List Char}
    (h : ∀ c ∈ run, ∃ clue, pattern.remainders? [clue] = some [] ∧ clue.holds c = true) (rest before : List Char)
    (offset : Nat) : pattern.findFrom? before offset (run ++ rest) =
      pattern.findFrom? (run.reverse ++ before) (offset + run.length) rest := by
  induction run generalizing before offset with
  | nil => rfl
  | cons c run ih =>
      rw [List.forall_mem_cons] at h
      obtain ⟨⟨clue, hclue, hholds⟩, hmore⟩ := h
      have hnone : ∀ p q : Position, p.rest = c :: (run ++ rest) → ¬ pattern.Leads p q := by
        intro p q hrest
        exact not_leads hclue (hrest ▸ ⟨hholds, trivial⟩)
      rw [List.cons_append, findFrom?_cons hnone, ih hmore, List.reverse_cons, List.append_assoc,
        List.singleton_append, List.length_cons, Nat.add_comm run.length 1, Nat.add_assoc]

theorem findFrom?_of_blanks {pattern : Pattern} (h : pattern.remainders? [.blank] = some []) {blanks : List Char}
    (hblanks : ∀ c ∈ blanks, Text.isBlank c = true) (rest before : List Char) (offset : Nat) :
    pattern.findFrom? before offset (blanks ++ rest) =
      pattern.findFrom? (blanks.reverse ++ before) (offset + blanks.length) rest :=
  findFrom?_of_clues (fun c hc => ⟨.blank, h, hblanks c hc⟩) rest before offset

/-- A pattern that skips some words and does not begin with white space is searched for behind them. -/
theorem find?_behind {pattern : Pattern} {words : List Char} (hwords : pattern.skips (words ++ [' ']) = true)
    (hblank : pattern.remainders? [.blank] = some []) {blanks : List Char}
    (hblanks : ∀ c ∈ blanks, Text.isBlank c = true) (text : List Char) :
    pattern.find? (words ++ (' ' :: blanks ++ text)) = pattern.find? text := by
  have hsplit : words ++ (' ' :: blanks ++ text) = words ++ [' '] ++ (blanks ++ text) := by
    simp only [List.append_assoc, List.cons_append, List.nil_append]
  have hend : startsWithWord (blanks.reverse ++ ((words ++ [' ']).reverse ++ [])) = false := by
    cases hlast : blanks.reverse with
    | nil =>
        rw [List.nil_append, List.append_nil, List.reverse_append]
        rfl
    | cons c others =>
        have hc : c ∈ blanks := List.mem_reverse.1 (hlast ▸ List.mem_cons_self)
        exact Text.isWordChar_of_isBlank (hblanks c hc)
  rw [hsplit, find?, findFrom?_of_skips hwords, findFrom?_of_blanks hblank hblanks, findFrom?_eq_find? _ hend]

end SimControl.Pattern
