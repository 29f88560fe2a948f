import SimControl.Proofs.Device.Argument
import SimControl.Proofs.Registry.Button
import SimControl.Proofs.Runner.Rejection

/-!
# Pressing buttons by instructions

An instruction to press a button presses the button once, if the backend can do that at all. The only exception is
`LOCK` with a Kelvin sign: it is recognized, but it is no button, and the backend does not learn of it.
-/

namespace SimControl

open Pattern

variable {σ : Type}

/-- A reply ends the attempts: the call is made once, and if it is in time its answer is the result. -/
theorem attempts_of_reply {backend : Backend σ} (kind : CommandKind) {call : Call} {w : World σ} {reply : Json}
    (hreply : (backend call w.device).ending = .replied reply) (pauseMs : Nat) (b : TimeBound) (retries : Nat) :
    (attempts backend kind call pauseMs b retries w).2.calls = w.calls ++ [call] ∧
      (b.limitMs = none → (attempts backend kind call pauseMs b retries w).1 = .ok (call.answer reply)) := by
  have hfinal : (backend call w.device).ending.isTransient = false := by
    rw [hreply]
    rfl
  cases hlimit : b.exceeded? (w.now + (backend call w.device).durationMs) with
  | none =>
      rw [attempts_last hlimit (.inl hfinal), hreply]
      exact ⟨rfl, fun _ => rfl⟩
  | some limit =>
      rw [attempts_cut hlimit]
      refine ⟨rfl, fun hnone => ?_⟩
      obtain ⟨start, limitMs⟩ := b
      obtain rfl : limitMs = none := hnone
      cases hlimit

namespace Registry

/-- What an instruction to press a button gives is the label of a button, or `LOCK` with a Kelvin sign that stands
in the text. -/
theorem recognized_button {text : String} {recognition : Recognition} (h : builtin.resolve text = .ok recognition)
    (hkind : recognition.kind = .pressDeviceButton) :
    (∃ b : DeviceButton, recognition.params = .ofList [("button", b.toJson)]) ∨
      DeviceButton.kelvinSign ∈ text.toList ∧
        recognition.params = .ofList [("button", .string (String.ofList DeviceButton.kelvinLabel))] := by
  obtain ⟨d, m, hfirst, -, rfl⟩ := firstMatch?_of_resolve h
  obtain ⟨cs, hwithin, ⟨b, hspells⟩, hparams⟩ := extract_button hfirst hkind
  rw [hparams]
  rcases DeviceButton.upper_of_spells hspells with hlabel | ⟨hkelvin, hlabel⟩
  · refine .inl ⟨b, ?_⟩
    rw [hlabel, String.ofList_toList]
    rfl
  · exact .inr ⟨Text.mem_of_mem_trim (hwithin.subset hkelvin), by rw [hlabel]⟩

end Registry

namespace DeviceButton

/-- The label is what the catalog declares for the parameter, and it is read as the button again. -/
structure Fits (b : DeviceButton) : Prop where
  declared : (Catalog.Ui.pressDeviceButton.typeOf "button").accepts b.toJson = true
  read : ofText? b.label = some b

theorem fits (b : DeviceButton) : b.Fits := by
  cases b <;> exact ⟨by decide, by decide⟩

end DeviceButton

/-- `LOCK` with a Kelvin sign is neither declared nor read as a button. -/
theorem kelvinLabel_unfit :
    (Catalog.Ui.pressDeviceButton.typeOf "button").accepts (.string (String.ofList DeviceButton.kelvinLabel)) =
      false ∧ DeviceButton.ofText? (String.ofList DeviceButton.kelvinLabel) = none := by
  constructor <;> decide

theorem Operation.ofParams_button (b : DeviceButton) :
    ofParams .pressDeviceButton (.ofList [("button", b.toJson)]) = .ok (.pressButton b none) := by
  have habsent : (Dictionary.ofList [("button", b.toJson)]).get? "duration" = none :=
    Dictionary.get?_ofList_of_not_mem (by simp)
  exact bind_eq_ok.2 ⟨b, Params.button_of_label (Dictionary.get?_ofList_singleton _ _), bind_eq_ok.2
    ⟨none, Params.optionalNatural_of_absent (Params.present?_of_none habsent), rfl⟩⟩

theorem Operation.ofParams_kelvinLabel :
    ofParams .pressDeviceButton (.ofList [("button", .string (String.ofList DeviceButton.kelvinLabel))]) =
      .error ⟨"button", .notButton (String.ofList DeviceButton.kelvinLabel)⟩ := by
  have htrimmed : Params.IsTrimmed (String.ofList DeviceButton.kelvinLabel) :=
    ⟨by decide, by decide⟩
  have htext := Params.text_of_string htrimmed (Dictionary.get?_ofList_singleton "button" _)
  simp only [ofParams, Params.button, htext, bind, Except.bind, kelvinLabel_unfit.2, Params.require]

namespace Runner

/-- An instruction to press a button gives the label of a button, which the catalog declares and which is read as that
button. On a backend that presses this button, it is pressed once, and without a limit that is a success. Otherwise
the instruction writes the `K` of `LOCK` as a Kelvin sign, and fails before the backend is called. -/
theorem runInstruction_of_button (r : Runner σ) (hr : r.registry = Registry.builtin) {text : String}
    {recognition : Registry.Recognition} (hresolve : Registry.builtin.resolve text = .ok recognition)
    (hkind : recognition.kind = .pressDeviceButton) :
    (∃ b : DeviceButton, recognition.params = .ofList [("button", b.toJson)] ∧ b.Fits ∧
      ((∀ session device, ∃ reply, (r.backend ⟨.pressButton b none, session⟩ device).ending = .replied reply) →
        ∀ context w, ∃ session result w', r.runInstruction text context w = (.ok result, w') ∧
          w'.calls = w.calls ++ [⟨.pressButton b none, session⟩] ∧
          (r.settings.defaultTimeoutMs = none → result.success = true))) ∨
    (DeviceButton.kelvinSign ∈ text.toList ∧
      recognition.params = .ofList [("button", .string (String.ofList DeviceButton.kelvinLabel))] ∧
      (Catalog.Ui.pressDeviceButton.typeOf "button").accepts (.string (String.ofList DeviceButton.kelvinLabel)) =
        false ∧
      DeviceButton.ofText? (String.ofList DeviceButton.kelvinLabel) = none ∧
      ∀ context w, ∃ result reason, r.runInstruction text context w = (.ok result, w) ∧
        result = (CommandError.invalidParameter "button" reason).toResult ∧
        result.Fails "invalid_parameter" ("Invalid parameter 'button': " ++ reason)) := by
  have hrun := runInstruction_of_resolve (hr.symm ▸ hresolve)
  rw [hkind] at hrun
  rcases Registry.recognized_button hresolve hkind with ⟨b, hparams⟩ | ⟨hkelvin, hparams⟩
  · refine .inl ⟨b, hparams, b.fits, fun hsupports context w => ?_⟩
    obtain ⟨reply, hreply⟩ := hsupports (r.sessionFor recognition.params context) w.device
    have hcall : r.callOf (bareLeaf .pressDeviceButton recognition.params) context =
        .ok ⟨.pressButton b none, r.sessionFor recognition.params context⟩ := by
      rw [callOf_bareLeaf, hparams, Operation.ofParams_button]
    refine ⟨r.sessionFor recognition.params context, _, _, hrun context w, ?_⟩
    rw [runLeaf_eq, carryOut_eq, hcall]
    obtain ⟨hcalls, hanswer⟩ := attempts_of_reply (bareLeaf .pressDeviceButton recognition.params).kind hreply
      r.settings.retryDelayMs.toNat (r.boundFor (bareLeaf .pressDeviceButton recognition.params) w)
      (r.retriesFor (bareLeaf .pressDeviceButton recognition.params))
    refine ⟨hcalls, fun hlimit => ?_⟩
    simp only []
    rw [hanswer (by rw [boundFor, hlimit]; rfl)]
    rfl
  · refine .inr ⟨hkelvin, hparams, kelvinLabel_unfit.1, kelvinLabel_unfit.2, fun context w => ?_⟩
    have hcall : r.callOf (bareLeaf .pressDeviceButton recognition.params) context =
        .error (.invalidParameter "button"
          (ParameterFault.notButton (String.ofList DeviceButton.kelvinLabel)).message) := by
      rw [callOf_bareLeaf, hparams, Operation.ofParams_kelvinLabel]
    exact ⟨_, _, (hrun context w).trans (by rw [runLeaf_of_error hcall]; rfl), rfl, CommandError.fails_toResult _⟩

/-- The characters of `push the device button ſiri`, with a long s. -/
def longSiri : List Char :=
  ['p', 'u', 's', 'h', ' ', 't', 'h', 'e', ' ', 'd', 'e', 'v', 'i', 'c', 'e', ' ', 'b', 'u', 't', 't', 'o', 'n', ' ',
    'ſ', 'i', 'r', 'i']

/-- The characters of `press device button LOCK`, with a Kelvin sign. -/
def kelvinLock : List Char :=
  ['p', 'r', 'e', 's', 's', ' ', 'd', 'e', 'v', 'i', 'c', 'e', ' ', 'b', 'u', 't', 't', 'o', 'n', ' ', 'L', 'O', 'C',
    DeviceButton.kelvinSign]

set_option maxRecDepth 4000 in
theorem writtenRules_silent : ∀ written ∈ Registry.writtenRules.take 89, ∃ pattern,
    Pattern.ofText? written.2 = some pattern ∧
      ([longSiri, kelvinLock].all fun text => (pattern.find? text).isNone) = true := by
  repeat' first
    | exact Registry.exists_of_ofChars? (by decide +kernel)
    | exact List.forall_mem_nil _
    | refine List.forall_mem_cons.2 ⟨?_, ?_⟩

theorem silent_of_mem {text : List Char} (htext : text ∈ [longSiri, kelvinLock]) :
    ∀ written ∈ Registry.writtenRules.take 89, ∃ pattern,
      Pattern.ofText? written.2 = some pattern ∧ pattern.find? text = none := by
  intro written hwritten
  obtain ⟨pattern, hpattern, hsilent⟩ := writtenRules_silent written hwritten
  exact ⟨pattern, hpattern, Option.isNone_iff_eq_none.1 (List.all_eq_true.1 hsilent text htext)⟩

theorem firstMatch?_longSiri : ∃ d m, d.entry = Catalog.Ui.pressDeviceButton ∧
    m.groups = [("button", ['ſ', 'i', 'r', 'i'])] ∧ Registry.builtin.firstMatch? longSiri = some (d, m) :=
  Registry.exists_firstMatch? (n := 89) rfl (silent_of_mem (by simp)) (by decide)

theorem firstMatch?_kelvinLock : ∃ d m, d.entry = Catalog.Ui.pressDeviceButton ∧
    m.groups = [("button", DeviceButton.kelvinLabel)] ∧ Registry.builtin.firstMatch? kelvinLock = some (d, m) :=
  Registry.exists_firstMatch? (n := 89) rfl (silent_of_mem (by simp)) (by decide)

/-- A long s is the letter S of `SIRI`, which is pressed. `LOCK` with a Kelvin sign is not pressed. -/
theorem runInstruction_of_button_longSiri :
    (∃ b session, (dryRunner.runInstruction (String.ofList longSiri) {} ⟨[], 0, []⟩).2.calls =
      [⟨.pressButton b none, session⟩]) ∧
    ∃ result reason, dryRunner.runInstruction (String.ofList kelvinLock) {} ⟨[], 0, []⟩ = (.ok result, ⟨[], 0, []⟩) ∧
      result = (CommandError.invalidParameter "button" reason).toResult ∧
      result.success = false ∧ result.code = some "invalid_parameter" := by
  constructor
  · obtain ⟨d, m, hentry, -, hfirst⟩ := firstMatch?_longSiri
    obtain ⟨-, hresolve⟩ := Registry.resolve_ofList (by decide) rfl hfirst
    have hkind : d.kind = .pressDeviceButton := by
      rw [Definition.kind, hentry]
      rfl
    rcases runInstruction_of_button dryRunner dryRunner_registry hresolve hkind with ⟨b, -, -, hpress⟩ | ⟨hkelvin, -⟩
    · obtain ⟨session, result, w', hrun, hcalls, -⟩ := hpress (fun _ _ => ⟨_, rfl⟩) {} ⟨[], 0, []⟩
      exact ⟨b, session, by rw [hrun]; exact hcalls⟩
    · rw [String.toList_ofList] at hkelvin
      exact absurd hkelvin (by decide)
  · obtain ⟨d, m, hentry, hgroups, hfirst⟩ := firstMatch?_kelvinLock
    obtain ⟨-, hresolve⟩ := Registry.resolve_ofList (by decide) rfl hfirst
    have hkind : d.kind = .pressDeviceButton := by
      rw [Definition.kind, hentry]
      rfl
    rcases runInstruction_of_button dryRunner dryRunner_registry hresolve hkind with
      ⟨b, hparams, -⟩ | ⟨-, -, -, -, hrun⟩
    · have hgroup : m.group? "button" = some DeviceButton.kelvinLabel := by
        rw [Match.group?, hgroups, List.lookup_cons_self]
      have hupper : Text.upper (Text.trim DeviceButton.kelvinLabel) = DeviceButton.kelvinLabel := by decide
      have hextractor : Catalog.Ui.pressDeviceButton.extractorOf "button" = some .uppercase := by decide
      have hgiven : (d.extract m).get? "button" = some (.string (String.ofList DeviceButton.kelvinLabel)) := by
        rw [Definition.get?_extract, hentry, if_pos (by decide), Definition.parameterValue?_eq, hentry,
          hextractor]
        simp only [Extractor.apply]
        rw [Extractor.captured?_of_group? hgroup (by decide), Option.map_some, hupper]
        rfl
      have hlabel : (d.extract m).get? "button" = some b.toJson :=
        (congrArg (fun params : Params => params.get? "button") hparams).trans
          (Dictionary.get?_ofList_singleton _ _)
      have hsame : Json.string (String.ofList DeviceButton.kelvinLabel) = b.toJson :=
        Option.some.inj (hgiven.symm.trans hlabel)
      have hfits := b.fits.declared
      rw [← hsame, kelvinLabel_unfit.1] at hfits
      cases hfits
    · obtain ⟨result, reason, hrefused, hresult, hfails⟩ := hrun {} ⟨[], 0, []⟩
      exact ⟨result, reason, hrefused, hresult, hfails.success, hfails.code⟩

end Runner

end SimControl
