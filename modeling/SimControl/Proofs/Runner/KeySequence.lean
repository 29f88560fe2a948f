import SimControl.Proofs.Registry.KeySequence
import SimControl.Proofs.Runner.Rejection

/-!
# Key sequences, typed and called

The key codes of a sequence may be written behind the words of an instruction or given to its tool. The instruction
reads them as integers of 63 bits when it is recognized, the tool as integers of 64 bits when it is carried out, and
both have to be of 32 bits in the end. So `runInstruction_keySequence`: the two press the same keys, or neither does.
-/

namespace SimControl

theorem Registry.exists_toolDefinition? {entry : Entry} (h : entry ∈ catalog) :
    ∃ d, builtin.toolDefinition? (slugify entry.name) = some d ∧ d.entry = entry := by
  obtain ⟨d, hd, rfl⟩ := exists_definition? h
  obtain ⟨hmem, -⟩ := (builtin_inStep.definition?_eq_some_iff _ _).1 hd
  exact ⟨d, builtin_inStep.toolDefinition?_eq_some hmem, rfl⟩

namespace Runner

variable {σ : Type}

/-! ## Leaves -/

/-- Leaves of one kind that ask for the same come to the same. -/
theorem runLeaf_congr {r : Runner σ} {kind : CommandKind} {params other : Params} {context : Context}
    (h : r.callOf (bareLeaf kind params) context = r.callOf (bareLeaf kind other) context) (w : World σ) :
    r.runLeaf (bareLeaf kind params) context w = r.runLeaf (bareLeaf kind other) context w := by
  rw [runLeaf_eq, runLeaf_eq, carryOut_eq, carryOut_eq, h]
  rfl

theorem callOf_keySequence {r : Runner σ} {params : Params} {codes : List UInt32}
    (h : params.keyCodes "keyCodes" = .ok codes) (context : Context) :
    r.callOf (bareLeaf .pressKeySequence params) context =
      .ok ⟨.pressKeys codes, r.sessionFor params context⟩ := by
  have hread : Operation.ofParams .pressKeySequence params = .ok (.pressKeys codes) := bind_eq_ok.2 ⟨codes, h, rfl⟩
  rw [callOf_bareLeaf, hread]

theorem exists_runLeaf_keySequence {r : Runner σ} {params : Params} {fault : ParameterFault}
    (h : params.keyCodes "keyCodes" = .error ⟨"keyCodes", fault⟩) (context : Context) (w : World σ) :
    ∃ result, r.runLeaf (bareLeaf .pressKeySequence params) context w = (result, w) ∧
      result.Fails "invalid_parameter" ("Invalid parameter 'keyCodes': " ++ fault.message) := by
  have hread : Operation.ofParams .pressKeySequence params = .error ⟨"keyCodes", fault⟩ := by
    rw [Operation.ofParams, h]
    rfl
  have hcall : r.callOf (bareLeaf .pressKeySequence params) context =
      .error (.invalidParameter "keyCodes" fault.message) := by
    rw [callOf_bareLeaf, hread]
  exact exists_runLeaf_fails hcall rfl w

/-! ## Instructions and tools -/

def keySequence (s : String) : Params :=
  .ofList [("keyCodes", .string s)]

theorem exists_keySequence (r : Runner σ) (hr : r.registry = Registry.builtin) (params : Params) :
    ∃ leaf, r.commandForTool "press-key-sequence" params = .ok leaf ∧
      ∀ context w, r.callOf leaf context = r.callOf (bareLeaf .pressKeySequence params) context ∧
        r.runLeaf leaf context w = r.runLeaf (bareLeaf .pressKeySequence params) context w := by
  have hmem : Catalog.Ui.pressKeySequence ∈ Registry.catalog := by decide
  have htool : slugify Catalog.Ui.pressKeySequence.name = "press-key-sequence" := by decide
  obtain ⟨d, hd, hentry⟩ := Registry.exists_toolDefinition? hmem
  have hkind : d.kind = .pressKeySequence := by rw [Definition.kind, hentry]; rfl
  rw [htool, ← hr] at hd
  rw [commandForTool, hd]
  refine ⟨_, rfl, fun context w => ?_⟩
  rw [hkind]
  exact ⟨rfl, rfl⟩

/-- Behind the words `press key sequence` and as the parameter of the tool, a text of digits, white space and commas
means the same. If it lists key codes, the backend is asked to press these keys and the result is the same.
Otherwise both fail because of the key codes, and the backend does not learn of it. -/
theorem runInstruction_keySequence (r : Runner σ) (hr : r.registry = Registry.builtin) {s : String}
    (hs : ∀ c ∈ s.toList, Text.isListChar c = true) (hsome : ∃ c ∈ s.toList, Text.isBlank c = false)
    (context : Context) (w : World σ) :
    ∃ leaf, r.commandForTool "press-key-sequence" (keySequence s) = .ok leaf ∧
      ((∃ codes session, ListsCodes s.toList codes ∧
          r.callOf leaf context = .ok ⟨.pressKeys codes, session⟩ ∧
          (∃ count, (r.run (.leaf leaf) context w).2.2.calls =
            w.calls ++ List.replicate (count + 1) ⟨.pressKeys codes, session⟩) ∧
          r.runInstruction ("press key sequence " ++ s) context w =
            (.ok (r.run (.leaf leaf) context w).1, (r.run (.leaf leaf) context w).2.2)) ∨
        (∀ codes, ¬ ListsCodes s.toList codes) ∧ ∃ called typed reason reason',
          r.run (.leaf leaf) context w = (called, context, w) ∧
          called.Fails "invalid_parameter" ("Invalid parameter 'keyCodes': " ++ reason) ∧
          r.runInstruction ("press key sequence " ++ s) context w = (.ok typed, w) ∧
          typed.Fails "invalid_parameter" ("Invalid parameter 'keyCodes': " ++ reason')) := by
  obtain ⟨leaf, hleaf, hbare⟩ := exists_keySequence r hr (keySequence s)
  obtain ⟨hcall, hrun⟩ := hbare context w
  obtain ⟨params, hresolve, hcodes, hsession⟩ := Registry.resolve_keySequence hs hsome
  have htyped := runInstruction_of_resolve (hr.symm ▸ hresolve) context w
  have hgiven : (keySequence s).get? "keyCodes" = some (.string s) := Dictionary.get?_ofList_singleton _ _
  have hunsaid : (keySequence s).get? "sessionId" = none := by
    rw [keySequence, Dictionary.get?_ofList_of_not_mem (by simp)]
  have hleafRun : r.run (.leaf leaf) context w =
      ((r.runLeaf (bareLeaf .pressKeySequence (keySequence s)) context w).1, context,
        (r.runLeaf (bareLeaf .pressKeySequence (keySequence s)) context w).2) := by
    rw [run, hrun]
  refine ⟨leaf, hleaf, ?_⟩
  rcases (Params.reads_keyCodes "keyCodes").eq_ok_or (keySequence s) with ⟨codes, hread⟩ | ⟨fault, hread⟩
  · have hlists := (Params.keyCodes_of_text hs rfl hgiven).1 hread
    have hsame : r.callOf (bareLeaf .pressKeySequence params) context =
        r.callOf (bareLeaf .pressKeySequence (keySequence s)) context := by
      rw [callOf_keySequence ((Params.keyCodes_of_numbers hs hcodes).2 hlists), callOf_keySequence hread,
        sessionFor_eq, sessionFor_eq, hsession, hunsaid]
    refine .inl ⟨codes, _, hlists, hcall.trans (callOf_keySequence hread context), ?_, ?_⟩
    · obtain ⟨count, -, hcalls⟩ := runLeaf_calls_of_call (callOf_keySequence hread context) w
      exact ⟨count, by rw [hleafRun, hcalls]⟩
    · rw [htyped, hleafRun, runLeaf_congr hsame]
  · have hnone : ∀ codes, ¬ ListsCodes s.toList codes := by
      intro codes hlists
      have hok := (Params.keyCodes_of_text hs rfl hgiven).2 hlists
      rw [hread] at hok
      cases hok
    obtain ⟨fault', hread'⟩ := ((Params.reads_keyCodes "keyCodes").eq_ok_or params).resolve_left (by
      rintro ⟨codes, hok⟩
      exact hnone codes ((Params.keyCodes_of_numbers hs hcodes).1 hok))
    obtain ⟨called, hcalled, hcalledFails⟩ := exists_runLeaf_keySequence (r := r) hread context w
    obtain ⟨typed, htyped', htypedFails⟩ := exists_runLeaf_keySequence (r := r) hread' context w
    exact .inr ⟨hnone, called, typed, _, _, by rw [hleafRun, hcalled], hcalledFails, by rw [htyped, htyped'],
      htypedFails⟩

/-- Separators of all kinds and zeros in front do not matter, but what has more than 32 bits is no key code. -/
theorem runInstruction_keySequence_mixed :
    (∃ leaf session, dryRunner.commandForTool "press-key-sequence" (keySequence " ,4\t007, 4294967295") = .ok leaf ∧
      dryRunner.callOf leaf {} = .ok ⟨.pressKeys [4, 7, 4294967295], session⟩ ∧
      (∃ count, (dryRunner.run (.leaf leaf) {} ⟨[], 0, []⟩).2.2.calls =
        List.replicate (count + 1) ⟨.pressKeys [4, 7, 4294967295], session⟩) ∧
      dryRunner.runInstruction ("press key sequence " ++ " ,4\t007, 4294967295") {} ⟨[], 0, []⟩ =
        (.ok (dryRunner.run (.leaf leaf) {} ⟨[], 0, []⟩).1, (dryRunner.run (.leaf leaf) {} ⟨[], 0, []⟩).2.2)) ∧
    ∃ leaf called typed, dryRunner.commandForTool "press-key-sequence" (keySequence "4 4294967296") = .ok leaf ∧
      dryRunner.run (.leaf leaf) {} ⟨[], 0, []⟩ = (called, {}, ⟨[], 0, []⟩) ∧
      called.success = false ∧ called.code = some "invalid_parameter" ∧
      dryRunner.runInstruction ("press key sequence " ++ "4 4294967296") {} ⟨[], 0, []⟩ = (.ok typed, ⟨[], 0, []⟩) ∧
      typed.success = false ∧ typed.code = some "invalid_parameter" := by
  have hmixed : ListsCodes " ,4\t007, 4294967295".toList [4, 7, 4294967295] := by decide
  have hbig : ∀ codes, ¬ ListsCodes "4 4294967296".toList codes := by
    have hpieces : Text.pieces Text.isListSeparator "4 4294967296".toList = [['4'], "4294967296".toList] := by
      decide
    have hvalue : valueFrom 0 "4294967296".toList = 2 ^ 32 := by decide
    rintro codes ⟨-, h⟩
    rw [hpieces] at h
    obtain _ | ⟨-, _ | @⟨_, code, _, _, hcode, -⟩⟩ := h
    exact absurd (hvalue.symm.trans hcode.value_eq) (Nat.ne_of_gt code.toNat_lt)
  constructor
  · obtain ⟨leaf, hleaf, hrun⟩ := runInstruction_keySequence dryRunner dryRunner_registry
      (s := " ,4\t007, 4294967295") (List.all_eq_true.1 (by decide)) ⟨'4', by decide, by decide⟩
      {} ⟨[], 0, []⟩
    rcases hrun with ⟨codes, session, hcodes, hcall, hcalls, htyped⟩ | ⟨hnone, -⟩
    · obtain rfl := hcodes.unique hmixed
      exact ⟨leaf, session, hleaf, hcall, hcalls, htyped⟩
    · exact absurd hmixed (hnone _)
  · obtain ⟨leaf, hleaf, hrun⟩ := runInstruction_keySequence dryRunner dryRunner_registry (s := "4 4294967296")
      (List.all_eq_true.1 (by decide)) ⟨'4', by decide, by decide⟩ {} ⟨[], 0, []⟩
    rcases hrun with ⟨codes, -, hcodes, -⟩ |
      ⟨-, called, typed, reason, reason', hcalled, hcalledFails, htyped, htypedFails⟩
    · exact absurd hcodes (hbig codes)
    · exact ⟨leaf, called, typed, hleaf, hcalled, hcalledFails.success, hcalledFails.code, htyped,
        htypedFails.success, htypedFails.code⟩

end Runner

end SimControl
