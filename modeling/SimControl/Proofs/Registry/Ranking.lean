import Mathlib.Data.List.Sigma
import SimControl.Catalog.Ui
import SimControl.Proofs.Single
import SimControl.Registry.Ranking

/-!
# The ranking of a text

Whatever the points of the phrases are, a text ranks all definitions that match it: the most points first, and
definitions with as many points in the order of the registry. An answer is the beginning of that ranking. Its scores
are parts of the best points of the whole ranking, since the first of the ranking is the first of every answer; so
they do not depend on the limit: `rank_stable_top`.
-/

namespace SimControl

/-! ## Relative scores -/

section

open Binary64

variable {points less top : UInt32}

theorem relativeScore_eq_zero (h : points = 0 ∨ top = 0) : relativeScore points top = zero false := by
  rw [relativeScore, singleRatio?, if_pos, Option.getD_some]
  exact h.imp (congrArg UInt32.toNat) (congrArg UInt32.toNat)

theorem relativeScore_spec (hpos : 0 < points) (h : points ≤ top) :
    ∃ e, InSteps (single points.toNat * 2 ^ e) (single top.toNat) ∧ (relativeScore points top).value =
      (roundHalfEven (single points.toNat * 2 ^ e) (single top.toNat) : ℚ) / 2 ^ e := by
  obtain ⟨x, e, hx, hsteps, hvalue⟩ := singleRatio?_spec (UInt32.lt_iff_toNat_lt.1 hpos) (UInt32.le_iff_toNat_le.1 h)
    top.toNat_lt
  exact ⟨e, hsteps, by rw [relativeScore, hx, Option.getD_some, hvalue]⟩

theorem relativeScore_nonneg (h : points ≤ top) : 0 ≤ (relativeScore points top).value := by
  rcases eq_or_ne points 0 with hzero | hne
  · rw [relativeScore_eq_zero (.inl hzero), value_zero]
  · obtain ⟨e, -, hvalue⟩ := relativeScore_spec (UInt32.pos_iff_ne_zero.2 hne) h
    rw [hvalue]
    positivity

theorem relativeScore_mono (h : less ≤ points) (htop : points ≤ top) :
    (relativeScore less top).value ≤ (relativeScore points top).value := by
  rcases eq_or_ne less 0 with hzero | hne
  · rw [relativeScore_eq_zero (.inl hzero), value_zero]
    exact relativeScore_nonneg htop
  · have hpos := UInt32.pos_iff_ne_zero.2 hne
    obtain ⟨e, hsteps, hvalue⟩ := relativeScore_spec hpos (UInt32.le_trans h htop)
    obtain ⟨e', hsteps', hvalue'⟩ := relativeScore_spec (UInt32.lt_of_lt_of_le hpos h) htop
    rw [hvalue, hvalue', div_le_div_iff₀ (by positivity) (by positivity)]
    exact_mod_cast hsteps.rounded_le_rounded (single_mono (UInt32.le_iff_toNat_le.1 h)) hsteps'

theorem relativeScore_self (hpos : 0 < top) : (relativeScore top top).value = 1 := by
  obtain ⟨e, -, hvalue⟩ := relativeScore_spec hpos (UInt32.le_refl top)
  have hsingle := single_pos (UInt32.lt_iff_toNat_lt.1 hpos)
  rw [hvalue, Nat.mul_comm, roundHalfEven_mul _ hsingle, Nat.cast_pow, Nat.cast_two, div_self (by positivity)]

theorem relativeScore_le_one (h : points ≤ top) : (relativeScore points top).value ≤ 1 := by
  rcases eq_or_ne top 0 with hzero | hne
  · rw [relativeScore_eq_zero (.inr hzero), value_zero]
    exact zero_le_one
  · exact relativeScore_self (UInt32.pos_iff_ne_zero.2 hne) ▸ relativeScore_mono h (UInt32.le_refl top)

end

/-! ## The order of a stable sort -/

/-- Sorting keeps the order of the elements that count as equal. -/
theorem pairwise_mergeSort_stable {α : Type} {le : α → α → Bool} {R : α → α → Prop} {l : List α}
    (trans : ∀ a b c, le a b → le b c → le a c) (total : ∀ a b, le a b || le b a) (h : l.Pairwise R) :
    (l.mergeSort le).Pairwise fun a b => le a b ∧ (le b a → R a b) := by
  rw [← List.mergeSort_zipIdx, List.pairwise_map]
  have hperm := List.mergeSort_perm l.zipIdx (List.zipIdxLE le)
  have hindex : ∀ {a}, a ∈ l.zipIdx.mergeSort (List.zipIdxLE le) → l[a.2]? = some a.1 := fun ha =>
    List.mem_zipIdx_iff_getElem?.1 (hperm.mem_iff.1 ha)
  have hnodup : ((l.zipIdx.mergeSort (List.zipIdxLE le)).map Prod.snd).Nodup :=
    (hperm.map _).nodup_iff.2 (List.nodup_zipIdx_map_snd l)
  have hsorted := List.pairwise_mergeSort (List.zipIdxLE_trans trans) (List.zipIdxLE_total total) l.zipIdx
  refine (hsorted.and (List.pairwise_map.1 hnodup)).imp_of_mem fun {a b} ha hb hab => ?_
  obtain ⟨hle, hne⟩ := hab
  unfold List.zipIdxLE at hle
  split at hle
  · rename_i hforth
    refine ⟨hforth, fun hback => ?_⟩
    rw [if_pos hback, decide_eq_true_iff] at hle
    obtain ⟨hi, hia⟩ := List.getElem?_eq_some_iff.1 (hindex ha)
    obtain ⟨hj, hjb⟩ := List.getElem?_eq_some_iff.1 (hindex hb)
    have hR := List.pairwise_iff_getElem.1 h _ _ hi hj (by omega)
    rwa [hia, hjb] at hR
  · cases hle

/-! ## The ranking -/

/-- A definition in a ranking: its place in the registry and its points. -/
structure Standing where
  place : Nat
  definition : Definition
  points : UInt32

namespace Standing

/-- More points go first, and among equal points the earlier place. -/
def Precedes (a b : Standing) : Prop :=
  b.points < a.points ∨ a.points = b.points ∧ a.place < b.place

theorem Precedes.points_le {a b : Standing} (h : a.Precedes b) : b.points ≤ a.points := by
  rcases h with hlt | ⟨heq, -⟩
  · exact UInt32.le_of_lt hlt
  · exact UInt32.le_of_eq heq.symm

theorem Precedes.place_lt {a b : Standing} (h : a.Precedes b) (heq : a.points = b.points) : a.place < b.place := by
  rcases h with hlt | ⟨-, hplace⟩
  · exact absurd heq.symm (UInt32.ne_of_lt hlt)
  · exact hplace

theorem Precedes.asymm {a b : Standing} (hab : a.Precedes b) (hba : b.Precedes a) : False := by
  have heq : a.points = b.points := UInt32.le_antisymm hba.points_le hab.points_le
  exact Nat.lt_asymm (hab.place_lt heq) (hba.place_lt heq.symm)

/-- The command in an answer whose best points are `top`. -/
def shown (top : UInt32) (s : Standing) : RankedCommand :=
  ⟨s.definition.name, s.definition.tool, relativeScore s.points top⟩

end Standing

/-- The points of a definition are those of its best phrase. -/
structure Definition.IsBest (d : Definition) (score? : String → Option UInt32) (points : UInt32) : Prop where
  reached : ∃ phrase ∈ d.phrases, score? phrase = some points
  greatest : ∀ phrase ∈ d.phrases, ∀ other, score? phrase = some other → other ≤ points

instance lawfulOrderMax : Std.LawfulOrderMax UInt32 where
  max_eq_or a b := by
    rw [UInt32.max_def]
    split <;> simp
  max_le_iff a b c := by
    rw [UInt32.max_def]
    split <;> grind

theorem Definition.bestScore?_eq_some_iff {d : Definition} {score? : String → Option UInt32} {points : UInt32} :
    d.bestScore? score? = some points ↔ d.IsBest score? points := by
  rw [bestScore?, List.max?_eq_some_iff]
  simp only [List.mem_filterMap]
  constructor
  · rintro ⟨hreached, hgreatest⟩
    exact ⟨hreached, fun phrase hphrase other hother => hgreatest other ⟨phrase, hphrase, hother⟩⟩
  · rintro ⟨hreached, hgreatest⟩
    exact ⟨hreached, fun other ⟨phrase, hphrase, hother⟩ => hgreatest phrase hphrase other hother⟩

namespace Registry

section

variable {r : Registry} {score? : String → Option UInt32}

/-- All definitions that match, each once and in order. -/
structure IsRanking (r : Registry) (score? : String → Option UInt32) (ranking : List Standing) : Prop where
  mem_iff : ∀ s, s ∈ ranking ↔ r.definitions[s.place]? = some s.definition ∧ s.definition.IsBest score? s.points
  nodup : (ranking.map (·.place)).Nodup
  sorted : ranking.Pairwise Standing.Precedes

/-- The matching definitions in the order of the registry. -/
def standings (r : Registry) (score? : String → Option UInt32) : List Standing :=
  r.definitions.zipIdx.filterMap fun (d, place) =>
    (d.bestScore? score?).map fun points => ⟨place, d, points⟩

def ranking (r : Registry) (score? : String → Option UInt32) : List Standing :=
  (r.standings score?).mergeSort fun a b => decide (b.points ≤ a.points)

theorem mem_standings {s : Standing} :
    s ∈ r.standings score? ↔ r.definitions[s.place]? = some s.definition ∧ s.definition.IsBest score? s.points := by
  simp only [standings, List.mem_filterMap, Option.map_eq_some_iff]
  constructor
  · rintro ⟨⟨d, place⟩, hmem, points, hpoints, rfl⟩
    exact ⟨List.mem_zipIdx_iff_getElem?.1 hmem, Definition.bestScore?_eq_some_iff.1 hpoints⟩
  · rintro ⟨hplace, hbest⟩
    exact ⟨(s.definition, s.place), List.mem_zipIdx_iff_getElem?.2 hplace, s.points,
      Definition.bestScore?_eq_some_iff.2 hbest, rfl⟩

theorem standings_pairwise : (r.standings score?).Pairwise fun a b => a.place < b.place := by
  have hindex : r.definitions.zipIdx.Pairwise fun a b => a.2 < b.2 := by
    rw [← List.pairwise_map (f := Prod.snd) (R := (· < ·)), List.zipIdx_map_snd]
    exact List.pairwise_lt_range'
  refine hindex.filterMap _ fun a b hab s hs t ht => ?_
  obtain ⟨_, _, rfl⟩ := Option.map_eq_some_iff.1 hs
  obtain ⟨_, _, rfl⟩ := Option.map_eq_some_iff.1 ht
  exact hab

theorem mem_ranking {s : Standing} : s ∈ r.ranking score? ↔ s ∈ r.standings score? :=
  (List.mergeSort_perm _ _).mem_iff

theorem isRanking_ranking (r : Registry) (score? : String → Option UInt32) :
    r.IsRanking score? (r.ranking score?) where
  mem_iff _ := mem_ranking.trans mem_standings
  nodup := by
    refine ((List.mergeSort_perm _ _).map _).nodup_iff.2 (List.pairwise_map.2 ?_)
    exact standings_pairwise.imp Nat.ne_of_lt
  sorted := by
    refine (pairwise_mergeSort_stable ?_ ?_ standings_pairwise).imp fun {a b} hab => ?_
    · intro a b c hab hbc
      rw [decide_eq_true_iff] at *
      exact UInt32.le_trans hbc hab
    · intro a b
      rw [Bool.or_eq_true, decide_eq_true_iff, decide_eq_true_iff]
      exact UInt32.le_total ..
    · simp only [decide_eq_true_eq] at hab
      rcases UInt32.lt_or_eq_of_le hab.1 with hlt | heq
      · exact .inl hlt
      · exact .inr ⟨heq.symm, hab.2 (UInt32.le_of_eq heq.symm)⟩

theorem isRanking_iff {ranking : List Standing} : r.IsRanking score? ranking ↔ ranking = r.ranking score? := by
  refine ⟨fun h => ?_, fun h => h ▸ isRanking_ranking r score?⟩
  have hranking := isRanking_ranking r score?
  refine List.Perm.eq_of_pairwise (fun a b _ _ hab hba => ?_) h.sorted hranking.sorted ?_
  · exact (hab.asymm hba).elim
  · refine (List.perm_ext_iff_of_nodup (.of_map _ h.nodup) (.of_map _ hranking.nodup)).2 fun s => ?_
    rw [h.mem_iff, hranking.mem_iff]

theorem map_standings :
    (r.standings score?).map (fun s => (s.definition, s.points)) =
      r.definitions.filterMap fun d => (d.bestScore? score?).map fun points => (d, points) := by
  conv_rhs => rw [← List.zipIdx_map_fst 0 r.definitions, List.filterMap_map]
  rw [standings, List.map_filterMap]
  refine List.filterMap_congr fun x _ => ?_
  rw [Option.map_map]
  rfl

theorem scored_eq : r.scored score? = (r.ranking score?).map fun s => (s.definition, s.points) := by
  rw [scored, ← map_standings]
  exact (List.map_mergeSort (f := fun s : Standing => (s.definition, s.points)) fun _ _ _ _ => rfl).symm

/-! ## The answer -/

def topPoints (ranking : List Standing) : UInt32 :=
  (ranking.head?.map (·.points)).getD 0

/-- An answer shows the beginning of the ranking, whatever its limit is, with scores relative to the first of the
ranking. -/
theorem rank_eq (r : Registry) (text : String) (limit : Nat) (scoring : Scoring) :
    r.rank text limit scoring =
      ((r.ranking (scoring text)).take limit).map (Standing.shown (topPoints (r.ranking (scoring text)))) := by
  rw [rank, scored_eq, ← List.map_take]
  rcases Nat.eq_zero_or_pos limit with rfl | hlimit
  · simp only [List.take_zero, List.map_nil]
  · have htop : ((((r.ranking (scoring text)).take limit).map fun s => (s.definition, s.points)).head?.map
        (·.2)).getD 0 = topPoints (r.ranking (scoring text)) := by
      rw [List.head?_map, List.head?_take, if_neg (Nat.ne_of_gt hlimit), Option.map_map, topPoints]
      rfl
    simp only [htop, List.map_map]
    rfl

theorem points_le_topPoints {s : Standing} (hs : s ∈ r.ranking score?) : s.points ≤ topPoints (r.ranking score?) := by
  have hsorted := (isRanking_ranking r score?).sorted
  revert hs hsorted
  cases r.ranking score? with
  | nil => simp
  | cons first rest =>
      intro hs hsorted
      rcases List.mem_cons.1 hs with rfl | hrest
      · exact UInt32.le_refl _
      · exact ((List.pairwise_cons.1 hsorted).1 s hrest).points_le

/-- An answer that shows a ranking up to a limit. -/
structure Shows (ranking : List Standing) (limit : Nat) (answer : List RankedCommand) : Prop where
  commands : answer.map (fun c => (c.name, c.tool)) =
    (ranking.take limit).map fun s => (s.definition.name, s.definition.tool)
  descending : answer.Pairwise fun a b => b.score.value ≤ a.score.value
  bounded : ∀ c ∈ answer, 0 ≤ c.score.value ∧ c.score.value ≤ 1
  best : ∀ s ∈ ranking.head?, 0 < s.points → ∀ c ∈ answer.head?, c.score.value = 1
  worthless : ∀ s ∈ ranking.head?, s.points = 0 → ∀ c ∈ answer, c.score.value = 0

theorem rank_shows (r : Registry) (text : String) (limit : Nat) (scoring : Scoring) :
    Shows (r.ranking (scoring text)) limit (r.rank text limit scoring) := by
  have hsorted := (isRanking_ranking r (scoring text)).sorted
  have htop : ∀ s ∈ (r.ranking (scoring text)).take limit, s.points ≤ topPoints (r.ranking (scoring text)) :=
    fun s hs => points_le_topPoints (List.mem_of_mem_take hs)
  have hhead : ∀ s ∈ (r.ranking (scoring text)).head?, topPoints (r.ranking (scoring text)) = s.points :=
    fun s hs => by rw [topPoints, Option.mem_def.1 hs, Option.map_some, Option.getD_some]
  rw [rank_eq]
  generalize r.ranking (scoring text) = ranking at *
  refine ⟨by rw [List.map_map]; rfl, ?_, ?_, ?_, ?_⟩
  · refine List.pairwise_map.2 ((hsorted.sublist (List.take_sublist limit ranking)).imp_of_mem ?_)
    intro a b ha _ hab
    exact relativeScore_mono hab.points_le (htop a ha)
  · intro c hc
    obtain ⟨s, hs, rfl⟩ := List.mem_map.1 hc
    exact ⟨relativeScore_nonneg (htop s hs), relativeScore_le_one (htop s hs)⟩
  · intro first hfirst hpos c hc
    rw [List.head?_map, List.head?_take] at hc
    obtain ⟨s, hs, rfl⟩ := Option.mem_map.1 hc
    obtain rfl : first = s := by
      split at hs
      · cases hs
      · exact Option.mem_unique hfirst hs
    rw [hhead first hfirst]
    exact relativeScore_self hpos
  · intro first hfirst hzero c hc
    obtain ⟨s, -, rfl⟩ := List.mem_map.1 hc
    rw [Standing.shown, hhead first hfirst, relativeScore_eq_zero (.inr hzero), Binary64.value_zero]

end

/-- A text has one ranking. Every answer shows its beginning, and with a smaller limit the beginning of that
answer. -/
theorem rank_stable_top (r : Registry) (scoring : Scoring) (text : String) :
    ∃ ranking, (∀ other, r.IsRanking (scoring text) other ↔ other = ranking) ∧
      (∀ limit, Shows ranking limit (r.rank text limit scoring)) ∧
      ∀ less more, less ≤ more → r.rank text less scoring = (r.rank text more scoring).take less := by
  refine ⟨r.ranking (scoring text), fun _ => isRanking_iff, fun limit => rank_shows r text limit scoring, ?_⟩
  intro less more h
  rw [rank_eq, rank_eq, ← List.map_take, List.take_take, Nat.min_eq_left h]

/-- Two definitions with as many points stay in the order of the registry. -/
theorem rank_stable_top_tied :
    let r := empty.addGroup ⟨"ui", [⟨Catalog.Ui.pressKeySequence, []⟩, ⟨Catalog.Ui.pressKey, []⟩]⟩
    (r.rank "key" 1).map (·.name) = ["press key sequence"] ∧ (∀ c ∈ (r.rank "key" 1).head?, c.score.value = 1) ∧
      r.rank "key" 1 = (r.rank "key" 2).take 1 := by
  intro r
  obtain ⟨ranking, hranking, hshows, htake⟩ := rank_stable_top r Ranking.fuzzy "key"
  have hbest : ∀ d ∈ r.definitions, d.bestScore? (Ranking.fuzzy "key") = some 88 := by decide
  have hmem := ((hranking ranking).2 rfl).mem_iff
  have hpoints : ∀ s ∈ ranking, s.points = 88 := fun s hs => by
    obtain ⟨hplace, hs⟩ := (hmem s).1 hs
    have hknown := hbest _ (List.mem_of_getElem? hplace)
    exact Option.some.inj ((Definition.bestScore?_eq_some_iff.2 hs).symm.trans hknown)
  have hfirst : ⟨0, ⟨Catalog.Ui.pressKeySequence, []⟩, 88⟩ ∈ ranking :=
    (hmem _).2 ⟨rfl, Definition.bestScore?_eq_some_iff.1 (hbest _ (List.mem_of_getElem? (i := 0) rfl))⟩
  have hhead : ∃ rest, ranking = ⟨0, ⟨Catalog.Ui.pressKeySequence, []⟩, 88⟩ :: rest := by
    have hsorted := ((hranking ranking).2 rfl).sorted
    obtain ⟨before, rest, rfl⟩ := List.append_of_mem hfirst
    cases before with
    | nil => exact ⟨rest, rfl⟩
    | cons s before =>
        have hprecedes := (List.pairwise_cons.1 hsorted).1 _ (List.mem_append_right before List.mem_cons_self)
        exact absurd (hprecedes.place_lt (hpoints s List.mem_cons_self)) (Nat.not_lt_zero _)
  obtain ⟨rest, rfl⟩ := hhead
  refine ⟨?_, (hshows 1).best _ rfl (by decide), htake 1 2 (by decide)⟩
  have hnames := congrArg (List.map Prod.fst) (hshows 1).commands
  rwa [List.map_map, List.map_map] at hnames

end Registry

end SimControl
