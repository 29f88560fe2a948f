import SimControl.Device.DryRun
import SimControl.Proofs.Dictionary
import SimControl.Proofs.Runner.Leaf

/-!
# Sequences in sequences

A sequence that stands in another one with the same policy on errors may be replaced by its children.
The runs differ only in what is recorded under the identifier of the inner sequence: `run_flatten`. What
comes after the inner sequence must not look at that entry. `run_agrees` says that a command which does
not look at an entry runs in the same way whatever the entry is, by induction over the command.
-/

namespace SimControl

/-! ## Entries that are not looked at -/

/-- Two contexts that differ at most in one entry. -/
structure Context.AgreesExcept (id : String) (c d : Context) : Prop where
  session : c.sessionId = d.sessionId
  vars : c.vars = d.vars
  results : ∀ other, other ≠ id → c.result? other = d.result? other

namespace Context.AgreesExcept

variable {id : String} {c d : Context}

theorem refl (id : String) (c : Context) : AgreesExcept id c c :=
  ⟨rfl, rfl, fun _ _ => rfl⟩

theorem record (h : AgreesExcept id c d) (other : String) (result : CommandResult) :
    AgreesExcept id (c.record other result) (d.record other result) where
  session := h.session
  vars := h.vars
  results := by
    intro key hkey
    simp only [result?, Context.record, Dictionary.get?_insert]
    split
    · rfl
    · exact h.results key hkey

theorem record_left (id : String) (c : Context) (result : CommandResult) :
    AgreesExcept id (c.record id result) c where
  session := rfl
  vars := rfl
  results := by
    intro key hkey
    simp only [result?, Context.record, Dictionary.get?_insert, if_neg hkey]

end Context.AgreesExcept

/-- No hook of a leaf depends on the entry under an identifier. -/
structure Leaf.Ignores (id : String) (leaf : Leaf) : Prop where
  validate : ∀ c d, c.AgreesExcept id d → leaf.isValid c = leaf.isValid d
  transform : ∀ c d, c.AgreesExcept id d → leaf.effectiveParams c = leaf.effectiveParams d
  onError : ∀ c d, c.AgreesExcept id d → ∀ e, leaf.failureResult c e = leaf.failureResult d e

namespace Command

mutual

/-- No hook and no condition in a command depends on the entry under an identifier. -/
def Ignores (id : String) : Command → Prop
  | .leaf l => l.Ignores id
  | .sequence _ _ _ children => IgnoresAll id children
  | .conditional _ _ condition ifTrue ifFalse =>
    (∀ c d : Context, c.AgreesExcept id d → condition c = condition d) ∧ Ignores id ifTrue ∧
      IgnoresBranch id ifFalse

def IgnoresAll (id : String) : List Command → Prop
  | [] => True
  | c :: rest => Ignores id c ∧ IgnoresAll id rest

def IgnoresBranch (id : String) : Option Command → Prop
  | none => True
  | some branch => Ignores id branch

end

theorem ignoresAll_iff (id : String) (commands : List Command) :
    IgnoresAll id commands ↔ ∀ c ∈ commands, c.Ignores id := by
  induction commands with
  | nil => simp [IgnoresAll]
  | cons c rest ih => rw [IgnoresAll, ih, List.forall_mem_cons]

end Command

namespace Runner

variable {σ : Type} (r : Runner σ) {id : String}

/-- The same result and the same world, and contexts that differ at most in one entry. -/
structure SameOutcome (id : String) (x y : CommandResult × Context × World σ) : Prop where
  result : x.1 = y.1
  context : x.2.1.AgreesExcept id y.2.1
  world : x.2.2 = y.2.2

theorem runLeaf_agrees {leaf : Leaf} (h : leaf.Ignores id) {c d : Context} (hcd : c.AgreesExcept id d)
    (w : World σ) : r.runLeaf leaf c w = r.runLeaf leaf d w := by
  have hsession : ∀ params, r.sessionFor params c = r.sessionFor params d := by
    intro params
    rw [sessionFor, sessionFor, hcd.session]
  have hcall : r.callOf leaf c = r.callOf leaf d := by
    rw [callOf, callOf, h.validate c d hcd, h.transform c d hcd, hsession]
  have hreport : ∀ outcome, leaf.report c outcome = leaf.report d outcome := by
    intro outcome
    cases outcome with
    | ok data => rfl
    | error e => exact h.onError c d hcd e
  rw [runLeaf_eq, runLeaf_eq, carryOut_eq, carryOut_eq, hcall, hreport]

mutual

/-- A command that does not look at an entry runs in the same way whatever the entry is. -/
theorem run_agrees : ∀ (command : Command), command.Ignores id → ∀ {c d : Context}, c.AgreesExcept id d →
    ∀ w : World σ, SameOutcome id (r.run command c w) (r.run command d w)
  | .leaf leaf, h, c, d, hcd, w => by
      rw [run, run, r.runLeaf_agrees h hcd]
      exact ⟨rfl, hcd, rfl⟩
  | .sequence _ _ stopOnError children, h, c, d, hcd, w => by
      rw [run, run]
      exact runAll_agrees stopOnError children h .noop hcd w
  | .conditional _ _ condition ifTrue ifFalse, h, c, d, hcd, w => by
      rw [run, run, h.1 c d hcd]
      split
      · exact run_agrees ifTrue h.2.1 hcd w
      · exact runBranch_agrees ifFalse h.2.2 hcd w

theorem runAll_agrees (stopOnError : Bool) : ∀ (commands : List Command), Command.IgnoresAll id commands →
    ∀ (last : CommandResult) {c d : Context}, c.AgreesExcept id d → ∀ w : World σ,
      SameOutcome id (r.runAll stopOnError commands last c w) (r.runAll stopOnError commands last d w)
  | [], _, last, c, d, hcd, w => ⟨rfl, hcd, rfl⟩
  | child :: rest, h, last, c, d, hcd, w => by
      obtain ⟨hresult, hcontext, hworld⟩ := run_agrees child h.1 hcd w
      rw [runAll, runAll]
      generalize r.run child c w = x at *
      generalize r.run child d w = y at *
      obtain ⟨result, c', w'⟩ := x
      obtain ⟨result', d', w''⟩ := y
      subst hresult hworld
      have hrecorded := hcontext.record child.id result
      simp only
      split
      · exact ⟨rfl, hrecorded, rfl⟩
      · exact runAll_agrees stopOnError rest h.2 result hrecorded w'

theorem runBranch_agrees : ∀ (branch : Option Command), Command.IgnoresBranch id branch →
    ∀ {c d : Context}, c.AgreesExcept id d → ∀ w : World σ,
      SameOutcome id (r.runBranch branch c w) (r.runBranch branch d w)
  | none, _, c, d, hcd, w => ⟨rfl, hcd, rfl⟩
  | some branch, h, c, d, hcd, w => by
      rw [runBranch, runBranch]
      exact run_agrees branch h hcd w

end

/-! ## Parts of a sequence -/

/-- Whether a sequence goes no further after a result. -/
def stopsAt (stopOnError : Bool) (result : CommandResult) : Bool :=
  stopOnError && !result.success

theorem runAll_cons (stopOnError : Bool) (child : Command) (rest : List Command) (last : CommandResult)
    (c : Context) (w : World σ) :
    r.runAll stopOnError (child :: rest) last c w =
      if stopsAt stopOnError (r.run child c w).1 then
        ((r.run child c w).1, (r.run child c w).2.1.record child.id (r.run child c w).1, (r.run child c w).2.2)
      else
        r.runAll stopOnError rest (r.run child c w).1
          ((r.run child c w).2.1.record child.id (r.run child c w).1) (r.run child c w).2.2 := by
  rw [runAll]
  rfl

/-- What the result so far is does not matter to commands of which one is run. -/
theorem runAll_last {commands : List Command} (hne : commands ≠ []) (stopOnError : Bool)
    (last last' : CommandResult) (c : Context) (w : World σ) :
    r.runAll stopOnError commands last c w = r.runAll stopOnError commands last' c w := by
  cases commands with
  | nil => exact absurd rfl hne
  | cons child rest => rw [runAll_cons, runAll_cons]

/-- The second part of a sequence is run after the first one, unless that stops. -/
theorem runAll_append (stopOnError : Bool) (ys : List Command) : ∀ (xs : List Command) (last : CommandResult)
    (c : Context) (w : World σ), stopsAt stopOnError last = false →
    r.runAll stopOnError (xs ++ ys) last c w =
      if stopsAt stopOnError (r.runAll stopOnError xs last c w).1 then r.runAll stopOnError xs last c w
      else
        r.runAll stopOnError ys (r.runAll stopOnError xs last c w).1 (r.runAll stopOnError xs last c w).2.1
          (r.runAll stopOnError xs last c w).2.2
  | [], last, c, w, hlast => by
      simp [runAll, hlast]
  | child :: rest, last, c, w, hlast => by
      rw [List.cons_append, runAll_cons, runAll_cons]
      by_cases hstop : stopsAt stopOnError (r.run child c w).1 = true
      · simp only [if_pos hstop]
      · simp only [if_neg hstop]
        exact runAll_append stopOnError ys rest _ _ _ (Bool.eq_false_iff.2 hstop)

/-- A sequence in a sequence with the same policy on errors may be replaced by its children, if it has
any. The calls, the state of the backend, the time and the result are the same, and the contexts differ
at most in the entry of the inner sequence. -/
theorem run_flatten {before inner after : List Command} (hinner : inner ≠ [])
    (hafter : ∀ c ∈ after, c.Ignores id) (stopOnError : Bool) (outer outer' : String)
    (text text' text'' : Option String) (context : Context) (w : World σ) :
    let nested := r.run (.sequence outer text stopOnError
      (before ++ [.sequence id text'' stopOnError inner] ++ after)) context w
    let flat := r.run (.sequence outer' text' stopOnError (before ++ inner ++ after)) context w
    nested.1 = flat.1 ∧ nested.2.2 = flat.2.2 ∧ nested.2.2.calls = flat.2.2.calls ∧
      nested.2.1.AgreesExcept id flat.2.1 := by
  intro nested flat
  suffices h : SameOutcome id nested flat from ⟨h.result, h.world, congrArg World.calls h.world, h.context⟩
  have hnoop : stopsAt stopOnError .noop = false := by simp [stopsAt, CommandResult.noop, CommandResult.ok]
  simp only [nested, flat, run, List.append_assoc, List.singleton_append]
  rw [r.runAll_append stopOnError _ before .noop context w hnoop,
    r.runAll_append stopOnError (inner ++ after) before .noop context w hnoop]
  generalize r.runAll stopOnError before .noop context w = x
  by_cases hbefore : stopsAt stopOnError x.1 = true
  · rw [if_pos hbefore, if_pos hbefore]
    exact ⟨rfl, .refl id _, rfl⟩
  · rw [if_neg hbefore, if_neg hbefore, runAll_cons, Command.id, run,
      r.runAll_append stopOnError after inner x.1 _ _ (Bool.eq_false_iff.2 hbefore),
      r.runAll_last hinner stopOnError x.1 .noop]
    generalize r.runAll stopOnError inner .noop x.2.1 x.2.2 = y
    have hrecorded := Context.AgreesExcept.record_left id y.2.1 y.1
    by_cases hstop : stopsAt stopOnError y.1 = true
    · rw [if_pos hstop, if_pos hstop]
      exact ⟨rfl, hrecorded, rfl⟩
    · rw [if_neg hstop, if_neg hstop]
      exact r.runAll_agrees stopOnError after ((Command.ignoresAll_iff id after).2 hafter) y.1 hrecorded y.2.2

/-- A sequence of one leaf between a leaf and a choice that looks at the first leaf. Only the nested run
records the inner sequence. -/
theorem run_flatten_before_choice :
    let r : Runner DryRun.Journal := { backend := DryRun.backend, registry := .empty }
    let press (id : String) : Command := .leaf { id, kind := .focusSimulator, params := .empty }
    let choice : Command := .conditional "choice" none (fun c => c.succeeded "first") (press "third") none
    let nested := r.run (.sequence "outer" none true
      ([press "first"] ++ [.sequence "inner" none true [press "second"]] ++ [choice])) {} ⟨[], 0, []⟩
    let flat := r.run (.sequence "outer" none true
      ([press "first"] ++ [press "second"] ++ [choice])) {} ⟨[], 0, []⟩
    [press "second"] ≠ [] ∧ (∀ c ∈ [choice], c.Ignores "inner") ∧ nested.1 = flat.1 ∧
      nested.2.2.calls = flat.2.2.calls ∧ flat.2.2.calls.length = 3 ∧ nested.2.1.AgreesExcept "inner" flat.2.1 ∧
      nested.2.1.succeeded "inner" = true ∧ flat.2.1.succeeded "inner" = false := by
  intro r press choice nested flat
  have hchoice : ∀ c ∈ [choice], c.Ignores "inner" := by
    refine List.forall_mem_singleton.2 ⟨fun c d h => ?_, ?_, trivial⟩
    · show c.succeeded "first" = d.succeeded "first"
      rw [Context.succeeded, Context.succeeded, h.results "first" (by decide)]
    · exact ⟨fun _ _ _ => rfl, fun _ _ _ => rfl, fun _ _ _ _ => rfl⟩
  have hne : [press "second"] ≠ [] := List.cons_ne_nil _ _
  obtain ⟨hresult, -, hcalls, hcontext⟩ := @run_flatten _ r "inner" [press "first"] _ _ hne hchoice true
    "outer" "outer" none none none {} ⟨[], 0, []⟩
  exact ⟨hne, hchoice, hresult, hcalls, by decide +kernel, hcontext, by decide +kernel, by decide +kernel⟩

end Runner

end SimControl
