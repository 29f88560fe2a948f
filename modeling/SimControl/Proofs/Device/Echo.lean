import SimControl.Device.DryRun
import SimControl.Proofs.Device.Argument
import SimControl.Proofs.Device.Dispatch

/-!
# Echoes

A command that only acts is answered with the arguments it acted on. `Operation.ReadsBack` says that these
are arguments of the same operation again. Only a negative zero does not come back as it was: among the
coordinates of a tap or a swipe it is written as an integer, and `Operation.unsigned` is what is read then.
-/

namespace SimControl

/-- The kinds whose operation has nothing to report. -/
def CommandKind.acting : List CommandKind :=
  [.launchApp, .terminateApp, .uninstallApp, .stopDebug, .terminateSimulatorSession, .bootSimulator,
    .shutdownSimulator, .focusSimulator, .tap, .swipe, .pressDeviceButton, .inputText, .pressKey,
    .pressKeySequence, .installDylib, .openUrl, .clearKeychain, .setLocation, .addMedia,
    .approvePermissions, .updateContacts]

/-! ## Equal values -/

def Point.SameValues (p q : Point) : Prop :=
  p.x.sameValue q.x = true ∧ p.y.sameValue q.y = true

def Point.unsigned (p : Point) : Point :=
  ⟨p.x.unsignZero, p.y.unsignZero⟩

theorem Point.sameValues_unsigned (p : Point) : p.unsigned.SameValues p :=
  ⟨Binary64.sameValue_unsignZero p.x, Binary64.sameValue_unsignZero p.y⟩

namespace Operation

/-- The same operation with equal arguments, coordinates on the screen compared as numbers. -/
def SameValues : Operation → Operation → Prop
  | .tap p, .tap q => p.SameValues q
  | .swipe p p' d, .swipe q q' e => p.SameValues q ∧ p'.SameValues q' ∧ d = e
  | a, b => a = b

/-- The operation with the coordinates as an echo gives them. -/
def unsigned : Operation → Operation
  | .tap point => .tap point.unsigned
  | .swipe start stop duration => .swipe start.unsigned stop.unsigned duration
  | a => a

theorem sameValues_unsigned (a : Operation) : a.unsigned.SameValues a := by
  cases a with
  | tap point => exact point.sameValues_unsigned
  | swipe start stop duration => exact ⟨start.sameValues_unsigned, stop.sameValues_unsigned, rfl⟩
  | _ => rfl

end Operation

theorem Call.echo?_unsigned (a : Operation) (session : String) :
    Call.echo? ⟨a.unsigned, session⟩ = Call.echo? ⟨a, session⟩ := by
  cases a with
  | tap point =>
      simp only [echo?, Operation.unsigned, Point.unsigned, Json.ofCoordinate_unsignZero]
  | swipe start stop duration =>
      simp only [echo?, Operation.unsigned, Point.unsigned, Json.ofCoordinate_unsignZero]
  | _ => rfl

theorem Call.answer_of_echo {c : Call} {echo : Json} (h : c.echo? = some echo) (reply : Json) :
    c.answer reply = echo := by
  rw [answer, h]

/-! ## Reading an echo -/

/-- A call of this kind that has an echo, from which the operation is read again. -/
def Operation.ReadsBack (kind : CommandKind) (session : String) (a : Operation) : Prop :=
  ∃ echo : Params, Call.echo? ⟨a, session⟩ = some (.ofParams echo) ∧
    Operation.ofParams kind echo = .ok a.unsigned

namespace Operation

open Dictionary

variable {kind : CommandKind} {params : Params} {session : String} {a : Operation}

theorem readsBack_of_text (name : String) (f : String → Operation)
    (hread : ∀ p, Operation.ofParams kind p = (do return f (← Params.text p name)))
    (hecho : ∀ s, Call.echo? ⟨f s, session⟩ = some (.record [(name, .string s)]))
    (hunsigned : ∀ s, (f s).unsigned = f s)
    (h : Operation.ofParams kind params = .ok a) : a.ReadsBack kind session := by
  rw [hread] at h
  obtain ⟨s, hs, h⟩ := bind_eq_ok.1 h
  obtain rfl := Except.ok.inj h
  refine ⟨_, hecho s, ?_⟩
  rw [hread, hunsigned, Params.text_of_string (Params.isTrimmed_of_text hs) (get?_ofList_singleton name _)]
  rfl

theorem readsBack_of_session (b : Operation) (hread : ∀ p, Operation.ofParams kind p = .ok b)
    (hecho : Call.echo? ⟨b, session⟩ = some (.record [("sessionId", .string session)]))
    (hunsigned : b.unsigned = b)
    (h : Operation.ofParams kind params = .ok a) : a.ReadsBack kind session := by
  rw [hread] at h
  obtain rfl := Except.ok.inj h
  exact ⟨_, hecho, (hread _).trans (congrArg _ hunsigned.symm)⟩

/-- The echo of a shutdown by session names no device, so it is read as one by session. -/
theorem readsBack_shutdown (h : Operation.ofParams .shutdownSimulator params = .ok a) :
    a.ReadsBack .shutdownSimulator session := by
  rw [Operation.ofParams] at h
  cases hudid : params.optionalText "udid" with
  | some udid =>
      rw [hudid] at h
      obtain rfl := Except.ok.inj h
      refine ⟨_, rfl, ?_⟩
      rw [Operation.ofParams, Params.optionalText_of_string (Params.isTrimmed_of_optionalText hudid)
        (get?_ofList_singleton "udid" _)]
      rfl
  | none =>
      rw [hudid] at h
      obtain rfl := Except.ok.inj h
      exact ⟨_, rfl, rfl⟩

theorem readsBack_tap (h : Operation.ofParams .tap params = .ok a) : a.ReadsBack .tap session := by
  obtain ⟨point, -, h⟩ := bind_eq_ok.1 h
  obtain rfl := Except.ok.inj h
  refine ⟨_, rfl, bind_eq_ok.2 ⟨point.unsigned, ?_, rfl⟩⟩
  exact Params.point_of_coordinates (get?_ofList_of_mem (by simp) (by simp))
    (get?_ofList_of_mem (by simp) (by simp))

theorem readsBack_swipe (h : Operation.ofParams .swipe params = .ok a) : a.ReadsBack .swipe session := by
  obtain ⟨start, -, h⟩ := bind_eq_ok.1 h
  obtain ⟨stop, -, h⟩ := bind_eq_ok.1 h
  obtain ⟨duration, hduration, h⟩ := bind_eq_ok.1 h
  obtain rfl := Except.ok.inj h
  refine ⟨_, rfl, bind_eq_ok.2 ⟨start.unsigned, ?_, bind_eq_ok.2 ⟨stop.unsigned, ?_,
    bind_eq_ok.2 ⟨duration, Params.optionalNatural_readBack hduration (.inl ?_), rfl⟩⟩⟩⟩
  · cases duration <;>
      exact Params.point_of_coordinates (get?_ofList_of_mem (by simp) (by simp))
        (get?_ofList_of_mem (by simp) (by simp))
  · cases duration <;>
      exact Params.point_of_coordinates (get?_ofList_of_mem (by simp) (by simp))
        (get?_ofList_of_mem (by simp) (by simp))
  · cases duration with
    | none => exact get?_ofList_of_not_mem (by simp)
    | some ms => exact get?_ofList_of_mem (by simp) (by simp)

theorem readsBack_pressButton (h : Operation.ofParams .pressDeviceButton params = .ok a) :
    a.ReadsBack .pressDeviceButton session := by
  obtain ⟨button, -, h⟩ := bind_eq_ok.1 h
  obtain ⟨duration, hduration, h⟩ := bind_eq_ok.1 h
  obtain rfl := Except.ok.inj h
  refine ⟨_, rfl, bind_eq_ok.2 ⟨button, ?_, bind_eq_ok.2 ⟨duration, ?_, rfl⟩⟩⟩
  · exact Params.button_of_label (get?_ofList_of_mem (by simp) (by simp))
  · exact Params.optionalNatural_readBack hduration (.inr (get?_ofList_of_mem (by simp) (by simp)))

theorem readsBack_pressKey (h : Operation.ofParams .pressKey params = .ok a) :
    a.ReadsBack .pressKey session := by
  obtain ⟨code, hcode, h⟩ := bind_eq_ok.1 h
  obtain ⟨duration, hduration, h⟩ := bind_eq_ok.1 h
  obtain rfl := Except.ok.inj h
  refine ⟨_, rfl, bind_eq_ok.2 ⟨code, ?_, bind_eq_ok.2 ⟨duration, ?_, rfl⟩⟩⟩
  · exact Params.keyCode_readBack hcode (get?_ofList_of_mem (by simp) (by simp))
  · exact Params.optionalNatural_readBack hduration (.inr (get?_ofList_of_mem (by simp) (by simp)))

theorem readsBack_pressKeys (h : Operation.ofParams .pressKeySequence params = .ok a) :
    a.ReadsBack .pressKeySequence session := by
  obtain ⟨codes, hcodes, h⟩ := bind_eq_ok.1 h
  obtain rfl := Except.ok.inj h
  refine ⟨_, rfl, bind_eq_ok.2 ⟨codes, ?_, rfl⟩⟩
  exact Params.keyCodes_of_array (Params.ne_nil_of_keyCodes hcodes) (get?_ofList_singleton _ _)

theorem readsBack_setLocation (h : Operation.ofParams .setLocation params = .ok a) :
    a.ReadsBack .setLocation session := by
  obtain ⟨latitude, -, h⟩ := bind_eq_ok.1 h
  obtain ⟨longitude, -, h⟩ := bind_eq_ok.1 h
  obtain rfl := Except.ok.inj h
  refine ⟨_, rfl, bind_eq_ok.2 ⟨latitude, ?_, bind_eq_ok.2 ⟨longitude, ?_, rfl⟩⟩⟩
  · exact Params.number_of_double (get?_ofList_of_mem (by simp) (by simp))
  · exact Params.number_of_double (get?_ofList_of_mem (by simp) (by simp))

theorem readsBack_addMedia (h : Operation.ofParams .addMedia params = .ok a) :
    a.ReadsBack .addMedia session := by
  obtain ⟨paths, hpaths, h⟩ := bind_eq_ok.1 h
  obtain rfl := Except.ok.inj h
  refine ⟨_, rfl, bind_eq_ok.2 ⟨paths, ?_, rfl⟩⟩
  exact Params.strings_of_array (Params.ne_nil_of_strings hpaths) (get?_ofList_singleton _ _)

theorem readsBack_approvePermissions (h : Operation.ofParams .approvePermissions params = .ok a) :
    a.ReadsBack .approvePermissions session := by
  obtain ⟨bundleId, hbundleId, h⟩ := bind_eq_ok.1 h
  obtain ⟨permissions, hpermissions, h⟩ := bind_eq_ok.1 h
  obtain rfl := Except.ok.inj h
  refine ⟨_, rfl, bind_eq_ok.2 ⟨bundleId, ?_,
    bind_eq_ok.2 ⟨permissions, ?_, rfl⟩⟩⟩
  · exact Params.text_of_string (Params.isTrimmed_of_text hbundleId)
      (get?_ofList_of_mem (by simp) (by simp))
  · exact Params.strings_of_array (Params.ne_nil_of_strings hpermissions)
      (get?_ofList_of_mem (by simp) (by simp))

/-- Whatever parameters an acting command is given, its operation is read back from the echo. -/
theorem readsBack_of_ofParams (hkind : kind ∈ CommandKind.acting)
    (h : Operation.ofParams kind params = .ok a) : a.ReadsBack kind session := by
  cases kind with
  | launchApp =>
      exact readsBack_of_text "bundleId" .launchApp (fun _ => rfl) (fun _ => rfl) (fun _ => rfl) h
  | terminateApp =>
      exact readsBack_of_text "bundleId" .terminateApp (fun _ => rfl) (fun _ => rfl) (fun _ => rfl) h
  | uninstallApp =>
      exact readsBack_of_text "bundleId" .uninstallApp (fun _ => rfl) (fun _ => rfl) (fun _ => rfl) h
  | bootSimulator =>
      exact readsBack_of_text "udid" .boot (fun _ => rfl) (fun _ => rfl) (fun _ => rfl) h
  | inputText =>
      exact readsBack_of_text "text" .inputText (fun _ => rfl) (fun _ => rfl) (fun _ => rfl) h
  | installDylib =>
      exact readsBack_of_text "dylibPath" .installDylib (fun _ => rfl) (fun _ => rfl) (fun _ => rfl) h
  | openUrl =>
      exact readsBack_of_text "url" .openUrl (fun _ => rfl) (fun _ => rfl) (fun _ => rfl) h
  | updateContacts =>
      exact readsBack_of_text "dbPath" .updateContacts (fun _ => rfl) (fun _ => rfl) (fun _ => rfl) h
  | stopDebug => exact readsBack_of_session .stopDebug (fun _ => rfl) rfl rfl h
  | terminateSimulatorSession => exact readsBack_of_session .terminateSession (fun _ => rfl) rfl rfl h
  | focusSimulator => exact readsBack_of_session .focus (fun _ => rfl) rfl rfl h
  | clearKeychain => exact readsBack_of_session .clearKeychain (fun _ => rfl) rfl rfl h
  | shutdownSimulator => exact readsBack_shutdown h
  | tap => exact readsBack_tap h
  | swipe => exact readsBack_swipe h
  | pressDeviceButton => exact readsBack_pressButton h
  | pressKey => exact readsBack_pressKey h
  | pressKeySequence => exact readsBack_pressKeys h
  | setLocation => exact readsBack_setLocation h
  | addMedia => exact readsBack_addMedia h
  | approvePermissions => exact readsBack_approvePermissions h
  | _ => simp [CommandKind.acting] at hkind

end Operation

/-- The echo of a dispatch is a normal form of its parameters: dispatched again, to whatever backend, it
makes the same call, and if that is carried out, it is the answer once more. -/
theorem dispatch_echo {σ : Type} {backend : Backend σ} {kind : CommandKind}
    (hkind : kind ∈ CommandKind.acting) {params : Params} {session : String} {w w' : World σ} {answer : Json}
    (h : dispatch backend kind params session w = (.ok answer, w')) :
    ∃ (echo : Params) (operation again : Operation), answer = .ofParams echo ∧
      w'.calls = w.calls ++ [⟨operation, session⟩] ∧ again.SameValues operation ∧
      ∀ {τ : Type} (other : Backend τ) (u : World τ),
        (dispatch other kind echo session u).2.calls = u.calls ++ [⟨again, session⟩] ∧
        ((∃ reply, (other ⟨again, session⟩ u.device).ending = .replied reply) →
          (dispatch other kind echo session u).1 = .ok answer) := by
  obtain ⟨operation, reply, hread, -, hanswer, hafter⟩ := dispatch_eq_ok_iff.1 h
  obtain ⟨echo, hecho, hback⟩ := Operation.readsBack_of_ofParams hkind hread
  rw [Call.answer_of_echo hecho] at hanswer
  refine ⟨echo, operation, operation.unsigned, hanswer.symm, ?_, operation.sameValues_unsigned, ?_⟩
  · rw [← hafter]
    rfl
  · intro τ other u
    rw [dispatch_of_ok hback]
    refine ⟨rfl, ?_⟩
    rintro ⟨reply', hreply⟩
    have hagain := Call.answer_of_echo ((Call.echo?_unsigned operation session).trans hecho) reply'
    simp only [hreply, AttemptEnd.outcome, hagain, hanswer]

theorem Json.ofParams_injective {params other : Params} (h : ofParams params = ofParams other) : params = other := by
  obtain ⟨entries, hsorted⟩ := params
  obtain ⟨others, hothers⟩ := other
  obtain rfl : entries = others := Json.object.inj h
  rfl

/-- A negative zero with a comma in a text, and a duration that is cut off at the largest integer. -/
def looseSwipe : Params :=
  .ofList [("startX", .string " -0,0 "), ("startY", .ofUInt64 12), ("endX", .string "1e3"),
    ("endY", .string "7,5"), ("duration", .string "18446744073709551616"), ("note", .null)]

def twelve : Binary64 :=
  ⟨false, 12 * 2 ^ 49, 1025, by decide, by decide, by decide⟩

def thousand : Binary64 :=
  ⟨false, 1000 * 2 ^ 43, 1031, by decide, by decide, by decide⟩

def sevenAndHalf : Binary64 :=
  ⟨false, 15 * 2 ^ 49, 1024, by decide, by decide, by decide⟩

def looseEcho : Params :=
  .ofList [("startX", .ofUInt64 0), ("startY", .ofUInt64 12), ("endX", .ofUInt64 1000),
    ("endY", .ofDouble sevenAndHalf), ("duration", .ofUInt64 18446744073709551615)]

/-- The echo of the swipe asks for the same swipe, from a zero without a sign. -/
theorem dispatch_echo_looseSwipe :
    let first := dispatch DryRun.backend .swipe looseSwipe "sim-1" ⟨[], 0, []⟩
    let second := dispatch DryRun.backend .swipe looseEcho "sim-1" ⟨[], 0, []⟩
    CommandKind.swipe ∈ CommandKind.acting ∧ first.1 = .ok (.ofParams looseEcho) ∧
      first.2.calls = [⟨.swipe ⟨.zero true, twelve⟩ ⟨thousand, sevenAndHalf⟩ (some 18446744073709551615), "sim-1"⟩] ∧
      second.2.calls = [⟨.swipe ⟨.zero false, twelve⟩ ⟨thousand, sevenAndHalf⟩ (some 18446744073709551615), "sim-1"⟩] ∧
      second.1 = .ok (.ofParams looseEcho) := by
  intro first second
  have hkind : CommandKind.swipe ∈ CommandKind.acting := by decide
  have hread : Operation.ofParams .swipe looseSwipe =
      .ok (.swipe ⟨.zero true, twelve⟩ ⟨thousand, sevenAndHalf⟩ (some 18446744073709551615)) :=
    toOption_eq_some_iff.1 (by decide +kernel)
  have hzero : Json.ofCoordinate (.zero true) = .ofUInt64 0 := congrArg Json.number (by decide +kernel)
  have htwelve : Json.ofCoordinate twelve = .ofUInt64 12 := congrArg Json.number (by decide +kernel)
  have hthousand : Json.ofCoordinate thousand = .ofUInt64 1000 := congrArg Json.number (by decide +kernel)
  have hhalf : Json.ofCoordinate sevenAndHalf = .ofDouble sevenAndHalf := congrArg Json.number (by decide +kernel)
  have hanswer : first.1 = .ok (.ofParams looseEcho) := by
    simp only [first, dispatch_of_ok hread, DryRun.backend, AttemptEnd.outcome, Call.answer, Call.echo?, hzero,
      htwelve, hthousand, hhalf]
    rfl
  obtain ⟨echo, operation, again, hecho, -, -, hagain⟩ :=
    dispatch_echo hkind (show first = (_, first.2) by rw [← hanswer])
  obtain rfl : looseEcho = echo := Json.ofParams_injective hecho
  refine ⟨hkind, hanswer, ?_, by decide +kernel, (hagain DryRun.backend ⟨[], 0, []⟩).2 ⟨_, rfl⟩⟩
  simp only [first, dispatch_of_ok hread]
  rfl

end SimControl
