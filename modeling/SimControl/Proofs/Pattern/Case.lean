import SimControl.Pattern.Basic
import SimControl.Proofs.Text.AsciiCase

/-!
# Matching up to ASCII case

What a pattern finds in a text, it finds in the lowered text at the same place: `find?_asciiLower`. The
search takes the same way in both texts. So every place that it comes to in the lowered text is the lowered
place that it comes to in the other one, and `follow_simulates` carries this through a pattern.
-/

namespace SimControl

open Text

/-! ## Sets of characters -/

namespace CharSet

theorem anyVariant_toLower (items : List ClassItem) (c : Char) :
    anyVariant items c.toLower = anyVariant items c := by
  rw [anyVariant, anyVariant, caseVariants, caseVariants, fold_toLower]

theorem contains_toLower (set : CharSet) (c : Char) : set.contains c.toLower = set.contains c := by
  cases set with
  | inLine => exact toLower_of_capitals (f := fun c => c != '\n') (by decide) c
  | literal a => rw [contains, contains, sameLetter, sameLetter, fold_toLower]
  | digit => exact isDecimalDigit_toLower c
  | blank => exact isBlank_toLower c
  | nonblank => exact congrArg (!·) (isBlank_toLower c)
  | listed items => exact anyVariant_toLower items c
  | unlisted items => exact congrArg (!·) (anyVariant_toLower items c)

end CharSet

namespace Pattern

/-! ## Places -/

def lowerGroups (groups : List (String × List Char)) : List (String × List Char) :=
  groups.map fun group => (group.1, asciiLower group.2)

theorem lookup_lowerGroups (groups : List (String × List Char)) (name : String) :
    (lowerGroups groups).lookup name = (groups.lookup name).map asciiLower := by
  induction groups with
  | nil => rfl
  | cons group rest ih =>
      rw [lowerGroups, List.map_cons, List.lookup_cons, List.lookup_cons, ← lowerGroups, ih]
      split
      · rfl
      · rfl

namespace Position

/-- The same place in the lowered text. -/
def lower (p : Position) : Position where
  before := asciiLower p.before
  rest := asciiLower p.rest
  offset := p.offset
  groups := lowerGroups p.groups
  passed := p.passed

theorem textTo_lower (p q : Position) : p.lower.textTo q.lower = asciiLower (p.textTo q) :=
  List.map_take.symm

theorem record_lower (name : String) (p q : Position) :
    record name p.lower q.lower = (record name p q).lower := by
  rw [record, textTo_lower]
  rfl

theorem isEmpty_rest_lower (p : Position) : p.lower.rest.isEmpty = p.rest.isEmpty :=
  isEmpty_asciiLower p.rest

theorem length_rest_lower (p : Position) : p.lower.rest.length = p.rest.length :=
  length_asciiLower p.rest

theorem startsWithWord_asciiLower (cs : List Char) :
    startsWithWord (asciiLower cs) = startsWithWord cs := by
  cases cs with
  | nil => rfl
  | cons c rest => exact isWordChar_toLower c

theorem atBoundary_lower (p : Position) : p.lower.atBoundary = p.atBoundary := by
  rw [atBoundary, atBoundary]
  exact congr (congrArg _ (startsWithWord_asciiLower _)) (startsWithWord_asciiLower _)

theorem pass?_lower (point : Option Nat) (p : Position) :
    p.lower.pass? point = (p.pass? point).map lower := by
  cases point with
  | none => rfl
  | some n =>
      cases h : p.passed.contains n with
      | true => simp only [pass?, lower, h, if_true, Option.map_none]
      | false => simp only [pass?, lower, h, Bool.false_eq_true, if_false, Option.map_some]

end Position

/-! ## Ways -/

variable {α : Type} {f : α → α}

/-- What `k` gives from a place, `k'` gives from the lowered place, up to `f`. -/
def Simulates (f : α → α) (k k' : Position → Option α) : Prop :=
  ∀ p : Position, k' p.lower = (k p).map f

theorem prefer_map (greedy : Bool) (again stop : Unit → Option α) :
    prefer greedy (fun u => (again u).map f) (fun u => (stop u).map f) = (prefer greedy again stop).map f := by
  cases greedy with
  | true => rw [prefer, prefer]; cases again () <;> rfl
  | false => rw [prefer, prefer]; cases stop () <;> rfl

/-- A branch point leads on from the lowered place just if it does from the place itself. -/
theorem pass?_simulates {k k' : Position → Option α} (hk : Simulates f k k') (point : Option Nat) :
    Simulates f (fun p => (p.pass? point).bind k) (fun p => (p.pass? point).bind k') := by
  intro p
  simp only [Position.pass?_lower]
  cases p.pass? point with
  | none => rfl
  | some q => exact hk q

theorem rounds_simulates {body : (Position → Option α) → Position → Option α}
    (hbody : ∀ {k k'}, Simulates f k k' → Simulates f (body k) (body k')) {k k' : Position → Option α}
    (hk : Simulates f k k') (greedy : Bool) (point : Option Nat) (count : Nat) :
    Simulates f (rounds greedy point body k count) (rounds greedy point body k' count) := by
  induction count with
  | zero => exact fun _ => rfl
  | succ count ih =>
      refine pass?_simulates (fun p => ?_) point
      rw [← prefer_map, hbody ih p, hk p]

theorem copies_simulates {size : Nat} {body : Option Nat → (Position → Option α) → Position → Option α}
    (hbody : ∀ point {k k'}, Simulates f k k' → Simulates f (body point k) (body point k')) (count : Nat)
    (point : Option Nat) {k k' : Position → Option α} (hk : Simulates f k k') :
    Simulates f (copies size body count point k) (copies size body count point k') := by
  induction count generalizing point with
  | zero => exact hk
  | succ count ih => exact hbody point (ih _)

theorem follow_simulates (pattern : Pattern) (point : Option Nat) {k k' : Position → Option α}
    (hk : Simulates f k k') : Simulates f (pattern.follow point k) (pattern.follow point k') := by
  induction pattern generalizing point k k' with
  | empty => exact hk
  | chars set =>
      rintro ⟨before, rest, offset, groups, passed⟩
      cases rest with
      | nil => rfl
      | cons c rest =>
          simp only [follow, Position.lower, asciiLower_cons, set.contains_toLower]
          split
          · exact hk (Position.advance ⟨before, c :: rest, offset, groups, passed⟩ c rest)
          · rfl
  | boundary =>
      intro p
      rw [follow, follow, p.atBoundary_lower]
      split
      · exact hk p
      · rfl
  | finish =>
      intro p
      rw [follow, follow, p.isEmpty_rest_lower]
      split
      · exact hk p
      · rfl
  | seq a b iha ihb => exact iha _ (ihb _ hk)
  | alt a b iha ihb =>
      refine pass?_simulates (fun p => ?_) point
      rw [iha _ hk p, ihb _ hk p]
      cases a.follow (point.map (· + 1)) k p with
      | none => rfl
      | some _ => rfl
  | many greedy a ih =>
      intro p
      rw [follow, follow, p.length_rest_lower]
      exact rounds_simulates (fun hk => ih _ hk) hk greedy point _ p
  | oneOrMore greedy a ih =>
      intro p
      rw [follow, follow, p.length_rest_lower]
      split
      · exact ih _ (rounds_simulates (fun hk => ih _ hk) hk greedy _ _) { p with passed := [] }
      · exact ih _ (rounds_simulates (fun hk => ih _ hk) hk greedy _ _) p
  | times n a ih => exact copies_simulates (fun point _ _ hk => ih point hk) n point hk
  | group name a ih =>
      refine fun p => ih point (fun q => ?_) p
      rw [Position.record_lower]
      exact hk _

/-! ## Matches -/

namespace Match

def lower (m : Match) : Match :=
  ⟨asciiLower m.span, lowerGroups m.groups⟩

theorem group?_lower (m : Match) (name : String) : m.lower.group? name = (m.group? name).map asciiLower :=
  lookup_lowerGroups m.groups name

end Match

theorem matchAt?_lower (pattern : Pattern) (p : Position) :
    pattern.matchAt? p.lower = (pattern.matchAt? p).map Match.lower := by
  refine pattern.follow_simulates none (fun q => ?_) p
  rw [Position.textTo_lower]
  rfl

theorem findFrom?_asciiLower (pattern : Pattern) (before : List Char) (offset : Nat) (text : List Char) :
    pattern.findFrom? (asciiLower before) offset (asciiLower text) =
      (pattern.findFrom? before offset text).map Match.lower := by
  induction text generalizing before offset with
  | nil => exact pattern.matchAt?_lower ⟨before, [], offset, [], []⟩
  | cons c rest ih =>
      have hhere : pattern.matchAt? ⟨asciiLower before, c.toLower :: asciiLower rest, offset, [], []⟩ =
          (pattern.matchAt? ⟨before, c :: rest, offset, [], []⟩).map Match.lower :=
        pattern.matchAt?_lower ⟨before, c :: rest, offset, [], []⟩
      rw [asciiLower_cons, findFrom?, findFrom?, hhere, ← asciiLower_cons, ih]
      cases pattern.matchAt? ⟨before, c :: rest, offset, [], []⟩ with
      | none => rfl
      | some _ => rfl

theorem find?_asciiLower (pattern : Pattern) (text : List Char) :
    pattern.find? (asciiLower text) = (pattern.find? text).map Match.lower :=
  pattern.findFrom?_asciiLower [] 0 text

end Pattern

end SimControl
