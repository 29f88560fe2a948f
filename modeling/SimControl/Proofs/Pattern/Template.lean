import SimControl.Proofs.Dictionary
import SimControl.Proofs.Pattern.Pieces

/-!
# Templates

A template is a text with holes. Of what is filled into a hole, only the characters are known that may begin it and
that may occur in it. `walk?` follows the preferred way of a pattern through a template. It gives up where the way
depends on what is filled in, and goes on to another alternative only where no way leads through the one before it.
So the pattern consumes the same parts of each filled template (`soundFor_of_walk?`), and if it captures the holes,
what is filled in is found (`find?_of_capturesHoles`). A pattern that matches from no place in a template is not found
in it, whatever is filled in: `findFrom?_of_silent`.
-/

namespace SimControl.Pattern

open Position

/-- All characters of which the clue holds are in the set. -/
def Clue.within (set : CharSet) : Clue → Bool
  | .exactly c => set.contains c
  | .digit => Text.digits.all set.contains
  | .blank => set == .blank

theorem Clue.contains_of_within {clue : Clue} {set : CharSet} (h : clue.within set = true) {c : Char}
    (hc : clue.holds c = true) : set.contains c = true := by
  cases clue with
  | exactly a => exact beq_iff_eq.1 hc ▸ h
  | digit => exact List.all_eq_true.1 h c (Text.mem_digits hc)
  | blank => exact beq_iff_eq.1 h ▸ hc

/-- A letter, or a hole for a text that is not empty. -/
inductive Part where
  | letter (c : Char)
  /-- The first clue holds of the first character, and one of the others of each character. -/
  | hole (name : String) (first : Clue) (each : List Clue)
  deriving DecidableEq, Repr

/-- The characters in a row, as parts of a template. -/
def letters (cs : List Char) : List Part :=
  cs.map .letter

namespace Part

/-! ## Filled templates -/

/-- The text of a part, if the holes are filled. -/
def text (filling : String → List Char) : Part → List Char
  | letter c => [c]
  | hole name _ _ => filling name

/-- What is filled in suits the hole. -/
def Suits (filling : String → List Char) : Part → Prop
  | letter _ => True
  | hole name first each => (∃ c ∈ (filling name).head?, first.holds c = true) ∧
      ∀ c ∈ filling name, ∃ clue ∈ each, clue.holds c = true

/-- All characters of the part are in the set. -/
def within (set : CharSet) : Part → Bool
  | letter c => set.contains c
  | hole _ _ each => each.all (·.within set)

/-- The part does not begin with a character of the set. -/
def apart (set : CharSet) : Part → Bool
  | letter c => !set.contains c
  | hole _ first _ => !first.allows set

variable {filling : String → List Char} {part : Part} {set : CharSet}

theorem Suits.exists_text (h : part.Suits filling) : ∃ c rest, part.text filling = c :: rest := by
  cases part with
  | letter c => exact ⟨c, [], rfl⟩
  | hole name first each =>
      obtain ⟨⟨c, hc, -⟩, -⟩ := h
      obtain ⟨rest, hrest⟩ := List.head?_eq_some_iff.1 hc
      exact ⟨c, rest, hrest⟩

theorem Suits.contains_of_within (h : part.Suits filling) (hset : part.within set = true) :
    ∀ c ∈ part.text filling, set.contains c = true := by
  intro c hc
  cases part with
  | letter d => exact List.mem_singleton.1 hc ▸ hset
  | hole name first each =>
      obtain ⟨clue, hclue, hholds⟩ := h.2 c hc
      exact Clue.contains_of_within (List.all_eq_true.1 hset clue hclue) hholds

theorem Suits.not_contains_of_apart (h : part.Suits filling) (hset : part.apart set = true) :
    ∀ c ∈ (part.text filling).head?, set.contains c = false := by
  intro c hc
  cases part with
  | letter d => exact Option.some.inj hc ▸ Bool.not_eq_eq_eq_not.1 hset
  | hole name first each =>
      obtain ⟨⟨d, hd, hfirst⟩, -⟩ := h
      obtain rfl : d = c := Option.some.inj (hd.symm.trans hc)
      refine Bool.eq_false_iff.2 fun hin => ?_
      rw [apart, Clue.allows_of_contains hfirst hin] at hset
      cases hset

end Part

/-- The text of a template, if the holes are filled. -/
def filled (filling : String → List Char) (parts : List Part) : List Char :=
  parts.flatMap (Part.text filling)

/-- What is known of the beginning of a filled template. -/
def clues : List Part → List Clue
  | [] => []
  | .letter c :: parts => .exactly c :: clues parts
  | .hole _ first _ :: _ => [first]

variable {filling : String → List Char} {parts : List Part}

@[simp] theorem filled_nil : filled filling [] = [] := rfl

@[simp] theorem filled_append (as bs : List Part) :
    filled filling (as ++ bs) = filled filling as ++ filled filling bs :=
  List.flatMap_append

@[simp] theorem filled_letters (cs : List Char) : filled filling (letters cs) = cs := by
  rw [filled, letters, List.flatMap_map]
  exact List.flatMap_singleton' cs

@[simp] theorem filled_hole (name : String) (first : Clue) (each : List Clue) (parts : List Part) :
    filled filling (.hole name first each :: parts) = filling name ++ filled filling parts := rfl

theorem getLast?_filled_hole (filling : String → List Char) (name : String) (hne : filling name ≠ []) (first : Clue)
    (each : List Clue) : (filled filling (parts ++ [.hole name first each])).getLast? = (filling name).getLast? := by
  rw [filled_append, filled_hole, filled_nil, List.append_nil, List.getLast?_append_of_ne_nil _ hne]

theorem begins_clues (h : ∀ part ∈ parts, part.Suits filling) : Begins (clues parts) (filled filling parts) := by
  induction parts with
  | nil => trivial
  | cons part parts ih =>
      rw [List.forall_mem_cons] at h
      cases part with
      | letter c => exact ⟨beq_self_eq_true c, ih h.2⟩
      | hole name first each =>
          obtain ⟨⟨c, hc, hfirst⟩, -⟩ := h.1
          obtain ⟨rest, hrest⟩ := List.head?_eq_some_iff.1 hc
          rw [filled, List.flatMap_cons, Part.text, hrest]
          exact ⟨hfirst, trivial⟩

/-! ## The preferred way -/

/-- How far a way leads through a template, and the groups on it. -/
structure Walk where
  taken : List Part
  rest : List Part
  groups : List (String × List Part)
  deriving DecidableEq, Repr

/-- One letter of a set. -/
def letter? (set : CharSet) : List Part → Option Walk
  | .letter c :: parts => if set.contains c then some ⟨[.letter c], parts, []⟩ else none
  | _ => none

/-- The longest beginning of a template within a set, unless it ends in the middle of a hole. -/
def run? (set : CharSet) : List Part → Option Walk
  | [] => some ⟨[], [], []⟩
  | part :: parts =>
    if part.within set then (run? set parts).map fun w => ⟨part :: w.taken, w.rest, []⟩
    else if part.apart set then some ⟨[], part :: parts, []⟩
    else none

/-- Greedy rounds of a set. Other rounds are not followed. -/
def rounds? : Bool → Pattern → List Part → Option Walk
  | true, .chars set, parts => run? set parts
  | _, _, _ => none

/-- No way leads through the pattern from the beginning of a filled template. -/
def blocked (pattern : Pattern) : List Part → Bool
  | [] => pattern.takes fun _ => true
  | part :: parts => pattern.remainders? (clues (part :: parts)) == some []

def walk? : Pattern → List Part → Option Walk
  | .empty, parts => some ⟨[], parts, []⟩
  | .chars set, parts => letter? set parts
  | .boundary, _ => none
  | .finish, _ => none
  | .seq a b, parts => do
    let first ← a.walk? parts
    let second ← b.walk? first.rest
    return ⟨first.taken ++ second.taken, second.rest, second.groups ++ first.groups⟩
  | .alt a b, parts =>
    (a.walk? parts).or (if a.blocked parts then b.walk? parts else none)
  | .many greedy a, parts => rounds? greedy a parts
  | .oneOrMore greedy a, parts => (rounds? greedy a parts).filter (·.taken ≠ [])
  | .times _ _, _ => none
  | .group name a, parts => (a.walk? parts).map fun w => ⟨w.taken, w.rest, (name, w.taken) :: w.groups⟩

/-! ## Soundness -/

/-- The groups of a walk in a filled template. -/
def filledGroups (filling : String → List Char) (groups : List (String × List Part)) : List (String × List Char) :=
  groups.map fun (name, parts) => (name, filled filling parts)

/-- The template is what was taken and what is left, and in the filled template the pattern prefers to take it. -/
def Walk.SoundFor (w : Walk) (filling : String → List Char) (pattern : Pattern) (parts : List Part) : Prop :=
  parts = w.taken ++ w.rest ∧
    pattern.Consumes (filled filling w.taken) (filled filling w.rest) (filledGroups filling w.groups)

variable {set : CharSet} {w : Walk}

theorem soundFor_of_letter? (h : letter? set parts = some w) : w.SoundFor filling (.chars set) parts := by
  unfold letter? at h
  split at h
  · split at h
    · rename_i c rest hc
      obtain rfl := Option.some.inj h
      exact ⟨rfl, .one hc _⟩
    · cases h
  · cases h

/-- A run takes characters of the set up to one that is not. -/
theorem run?_spec (hsuits : ∀ part ∈ parts, part.Suits filling) (h : run? set parts = some w) :
    parts = w.taken ++ w.rest ∧ w.groups = [] ∧ (∀ c ∈ filled filling w.taken, set.contains c = true) ∧
      (∀ c ∈ (filled filling w.rest).head?, set.contains c = false) := by
  induction parts generalizing w with
  | nil =>
      obtain rfl := Option.some.inj h
      exact ⟨rfl, rfl, fun _ hc => absurd hc List.not_mem_nil, fun _ hc => nomatch hc⟩
  | cons part parts ih =>
      rw [List.forall_mem_cons] at hsuits
      unfold run? at h
      split at h
      · rename_i hwithin
        obtain ⟨more, hmore, rfl⟩ := Option.map_eq_some_iff.1 h
        obtain ⟨hsplit, -, hin, hout⟩ := ih hsuits.2 hmore
        refine ⟨congrArg (part :: ·) hsplit, rfl, fun c hc => ?_, hout⟩
        rcases List.mem_append.1 hc with hc | hc
        · exact hsuits.1.contains_of_within hwithin c hc
        · exact hin c hc
      · split at h
        · rename_i hapart
          obtain rfl := Option.some.inj h
          refine ⟨rfl, rfl, fun _ hc => absurd hc List.not_mem_nil, fun c hc => ?_⟩
          obtain ⟨d, more, htext⟩ := hsuits.1.exists_text
          have hhead : c ∈ (part.text filling).head? := by
            rw [filled, List.flatMap_cons, htext] at hc
            rwa [htext]
          exact hsuits.1.not_contains_of_apart hapart c hhead
        · cases h

theorem rounds?_spec {greedy : Bool} {a : Pattern} (h : rounds? greedy a parts = some w) :
    greedy = true ∧ ∃ set, a = .chars set ∧ run? set parts = some w := by
  unfold rounds? at h
  split at h
  · exact ⟨rfl, _, rfl, h⟩
  · cases h

theorem filled_ne_nil (hsuits : ∀ part ∈ parts, part.Suits filling) (hne : parts ≠ []) :
    filled filling parts ≠ [] := by
  obtain ⟨part, others, rfl⟩ := List.exists_cons_of_ne_nil hne
  obtain ⟨c, rest, htext⟩ := (hsuits part List.mem_cons_self).exists_text
  rw [filled, List.flatMap_cons, htext]
  exact List.cons_ne_nil _ _

theorem stuck_of_blocked {pattern : Pattern} (hsuits : ∀ part ∈ parts, part.Suits filling)
    (h : pattern.blocked parts = true) : pattern.Stuck (filled filling parts) := by
  cases parts with
  | nil => exact stuck_at_end h
  | cons part parts => exact stuck_of_begins (beq_iff_eq.1 h) (begins_clues hsuits)

/-- A pattern consumes what it takes of a template, whatever is filled in. -/
theorem soundFor_of_walk? {pattern : Pattern} (hsuits : ∀ part ∈ parts, part.Suits filling)
    (h : pattern.walk? parts = some w) : w.SoundFor filling pattern parts := by
  induction pattern generalizing parts w with
  | empty =>
      obtain rfl := Option.some.inj h
      exact ⟨rfl, .empty _⟩
  | chars set => exact soundFor_of_letter? h
  | boundary => cases h
  | finish => cases h
  | seq a b iha ihb =>
      obtain ⟨first, hfirst, h⟩ := Option.bind_eq_some_iff.1 h
      obtain ⟨second, hsecond, h⟩ := Option.bind_eq_some_iff.1 h
      obtain rfl := Option.some.inj h
      obtain ⟨hsplit, ha⟩ := iha hsuits hfirst
      have hrest : ∀ part ∈ first.rest, part.Suits filling := fun part hpart =>
        hsuits part (hsplit ▸ List.mem_append_right _ hpart)
      obtain ⟨hsplit', hb⟩ := ihb hrest hsecond
      refine ⟨by rw [hsplit, List.append_assoc, ← hsplit'], ?_⟩
      rw [hsplit', filled_append] at ha
      rw [filled_append, filledGroups, List.map_append]
      exact ha.seq hb
  | alt a b iha ihb =>
      rcases Option.or_eq_some_iff.1 h with ha | ⟨-, hb⟩
      · obtain ⟨hsplit, ha⟩ := iha hsuits ha
        exact ⟨hsplit, ha.alt_left⟩
      · split at hb
        · rename_i hblocked
          obtain ⟨hsplit, hb⟩ := ihb hsuits hb
          refine ⟨hsplit, .alt_right ?_ hb⟩
          rw [← filled_append, ← hsplit]
          exact stuck_of_blocked hsuits hblocked
        · cases hb
  | many greedy a ih =>
      obtain ⟨rfl, set, rfl, hrun⟩ := rounds?_spec h
      obtain ⟨hsplit, hgroups, hin, hout⟩ := run?_spec hsuits hrun
      refine ⟨hsplit, ?_⟩
      rw [hgroups]
      exact .manyRun hin hout
  | oneOrMore greedy a ih =>
      obtain ⟨hrounds, hne⟩ := Option.filter_eq_some_iff.1 h
      obtain ⟨rfl, set, rfl, hrun⟩ := rounds?_spec hrounds
      obtain ⟨hsplit, hgroups, hin, hout⟩ := run?_spec hsuits hrun
      have htaken : ∀ part ∈ w.taken, part.Suits filling := fun part hpart =>
        hsuits part (hsplit ▸ List.mem_append_left _ hpart)
      refine ⟨hsplit, ?_⟩
      rw [hgroups]
      exact .run (filled_ne_nil htaken (of_decide_eq_true hne)) hin hout
  | times n a ih => cases h
  | group name a ih =>
      obtain ⟨inner, hinner, rfl⟩ := Option.map_eq_some_iff.1 h
      obtain ⟨hsplit, ha⟩ := ih hsuits hinner
      exact ⟨hsplit, ha.group name⟩

/-! ## Holes -/

/-- The holes of a template as groups, in their order. -/
def holes : List Part → List (String × List Part)
  | [] => []
  | .letter _ :: parts => holes parts
  | .hole name first each :: parts => (name, [.hole name first each]) :: holes parts

def holeNames (parts : List Part) : List String :=
  (holes parts).map (·.1)

@[simp] theorem holeNames_nil : holeNames [] = [] := rfl

@[simp] theorem holeNames_hole (name : String) (first : Clue) (each : List Clue) (parts : List Part) :
    holeNames (.hole name first each :: parts) = name :: holeNames parts := rfl

@[simp] theorem holeNames_letters (cs : List Char) (parts : List Part) :
    holeNames (letters cs ++ parts) = holeNames parts := by
  induction cs with
  | nil => rfl
  | cons c cs ih => exact ih

/-- A way leads through the template, with each hole as the group of its name, and no other groups. -/
def capturesHoles (pattern : Pattern) (parts : List Part) : Bool :=
  (pattern.walk? parts).any fun w => w.groups == (holes parts).reverse

theorem filledGroups_holes (filling : String → List Char) (parts : List Part) :
    filledGroups filling (holes parts) = (holeNames parts).map fun name => (name, filling name) := by
  induction parts with
  | nil => rfl
  | cons part parts ih =>
      cases part with
      | letter c => exact ih
      | hole name first each =>
          have hfilled : filled filling [.hole name first each] = filling name := List.append_nil (filling name)
          exact congr (congrArg (fun text => List.cons (name, text)) hfilled) ih

/-- What is filled into the holes is found. -/
theorem find?_of_capturesHoles {pattern : Pattern} (hsuits : ∀ part ∈ parts, part.Suits filling)
    (h : pattern.capturesHoles parts = true) : ∃ m, pattern.find? (filled filling parts) = some m ∧
      ∀ name, m.group? name = if name ∈ holeNames parts then some (filling name) else none := by
  obtain ⟨w, hw, hgroups⟩ := (Option.any_eq_true ..).1 h
  obtain ⟨hsplit, hconsumes⟩ := soundFor_of_walk? hsuits hw
  obtain ⟨m, hm, hfound⟩ := hconsumes.find?
  rw [← filled_append, ← hsplit] at hm
  refine ⟨m, hm, fun name => ?_⟩
  rw [Match.group?, hfound, beq_iff_eq.1 hgroups, filledGroups, List.map_reverse, ← filledGroups, filledGroups_holes,
    ← List.map_reverse]
  split
  · rename_i hmem
    exact lookup_map filling (List.mem_reverse.2 hmem)
  · rename_i hmem
    refine List.lookup_eq_none_iff.2 ?_
    intro entry hentry
    obtain ⟨other, hother, rfl⟩ := List.mem_map.1 hentry
    exact bne_iff_ne.2 fun heq => hmem (heq ▸ List.mem_reverse.1 hother)

/-! ## Searches -/

/-- No way begins at a place in a filled template. -/
def silent (pattern : Pattern) : List Part → Bool
  | [] => pattern.blocked []
  | .letter c :: parts => pattern.blocked (.letter c :: parts) && pattern.silent parts
  | .hole _ _ each :: parts =>
    (each.all fun clue => pattern.remainders? [clue] == some []) && pattern.silent parts

theorem findFrom?_of_silent {pattern : Pattern} (hsuits : ∀ part ∈ parts, part.Suits filling)
    (h : pattern.silent parts = true) (before : List Char) (offset : Nat) :
    pattern.findFrom? before offset (filled filling parts) = none := by
  induction parts generalizing before offset with
  | nil => exact matchAt?_eq_none fun q => stuck_of_blocked hsuits h _ q rfl
  | cons part parts ih =>
      have hmore := (List.forall_mem_cons.1 hsuits).2
      cases part with
      | letter c =>
          obtain ⟨hhere, hlater⟩ := Bool.and_eq_true_iff.1 h
          have hstuck := stuck_of_blocked hsuits hhere
          exact (findFrom?_cons hstuck before offset).trans (ih hmore hlater (c :: before) (offset + 1))
      | hole name first each =>
          obtain ⟨hhere, hlater⟩ := Bool.and_eq_true_iff.1 h
          have hrun : ∀ c ∈ filling name, ∃ clue, pattern.remainders? [clue] = some [] ∧ clue.holds c = true := by
            intro c hc
            obtain ⟨clue, hclue, hholds⟩ := (hsuits _ List.mem_cons_self).2 c hc
            exact ⟨clue, beq_iff_eq.1 (List.all_eq_true.1 hhere clue hclue), hholds⟩
          rw [filled, List.flatMap_cons, Part.text, findFrom?_of_clues hrun]
          exact ih hmore hlater _ _

end SimControl.Pattern
