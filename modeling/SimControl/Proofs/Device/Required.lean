import SimControl.Proofs.Device.Argument

/-!
# The parameters that a command reads

A command reads its arguments before anything else, one after the other. `Reads needs uses` says of a reading that
it knows no parameters but these: without one that it needs it fails, and one that it uses may be missing. The
readings of single parameters are put together by `Reads.bind`, and `reads_ofParams` says it of every command. So a
number that a text did not give is never made up on the way to the device (`ofParams_fails`).
-/

namespace SimControl

section

variable {α β : Type}

/-! ## Errors about a parameter -/

/-- What cannot be read is the parameter with that name. -/
def Argument.About (name : String) (a : Argument α) : Prop :=
  ∀ e, a = .error e → e.name = name

namespace Argument.About

variable {name : String}

theorem ok (a : α) : About name (.ok a) := by
  intro e h
  cases h

theorem error (fault : ParameterFault) : About name (.error ⟨name, fault⟩ : Argument α) := by
  intro e h
  exact Except.error.inj h ▸ rfl

theorem bind {x : Argument α} {f : α → Argument β} (hx : About name x) (hf : ∀ a, About name (f a)) :
    About name (x >>= f) := by
  cases x with
  | ok a => exact hf a
  | error e =>
      intro e' h
      exact hx e' (congrArg Except.error (Except.error.inj h))

theorem map {x : Argument α} (hx : About name x) (f : α → β) : About name (x.map f) := by
  cases x with
  | ok a => exact ok (f a)
  | error e =>
      intro e' h
      exact hx e' (congrArg Except.error (Except.error.inj h))

theorem require (fault : ParameterFault) (a : Option α) : About name (Params.require name fault a) := by
  cases a with
  | some a => exact ok a
  | none => exact error fault

theorem mapM {f : α → Argument β} (hf : ∀ a, About name (f a)) (as : List α) : About name (as.mapM f) := by
  induction as with
  | nil => exact ok []
  | cons a as ih =>
      rw [List.mapM_cons]
      exact (hf a).bind fun b => ih.bind fun bs => ok (b :: bs)

end Argument.About

/-! ## Readings of several parameters -/

/-- A reading of parameters that needs some of them and uses others if they are there. -/
structure Reads (needs uses : List String) (read : Params → Argument α) : Prop where
  /-- What cannot be read is needed, or it is there and used. -/
  names : ∀ {params : Params} {e}, read params = .error e →
    e.name ∈ needs ∨ e.name ∈ uses ∧ params.present? e.name ≠ none
  /-- A parameter that is needed and missing is noticed before any that is only used. -/
  fails : ∀ {params : Params} {name}, name ∈ needs → params.present? name = none →
    ∃ e, read params = .error e ∧ e.name ∈ needs
  /-- No other parameter matters. -/
  congr : ∀ {p q : Params}, (∀ name ∈ needs ++ uses, p.present? name = q.present? name) → read p = read q

namespace Reads

variable {needs uses needs' uses' : List String} {name : String}

theorem needed {read : Params → Argument α} (habout : ∀ params, (read params).About name)
    (hfails : ∀ params : Params, params.present? name = none → ∃ e, read params = .error e)
    (hcongr : ∀ p q : Params, p.present? name = q.present? name → read p = read q) : Reads [name] [] read where
  names h := .inl (habout _ _ h ▸ List.mem_singleton_self name)
  fails hname habsent := by
    obtain rfl := List.mem_singleton.1 hname
    obtain ⟨e, he⟩ := hfails _ habsent
    exact ⟨e, he, habout _ _ he ▸ List.mem_singleton_self _⟩
  congr h := hcongr _ _ (h name List.mem_cons_self)

/-- If a single parameter is needed, nothing but itself is at fault. -/
theorem eq_ok_or {read : Params → Argument α} (h : Reads [name] [] read) (params : Params) :
    (∃ a, read params = .ok a) ∨ ∃ fault, read params = .error ⟨name, fault⟩ := by
  cases hread : read params with
  | ok a => exact .inl ⟨a, rfl⟩
  | error e =>
      rcases h.names hread with hname | ⟨hname, -⟩
      · exact .inr ⟨e.fault, by rw [← List.mem_singleton.1 hname]⟩
      · cases hname

theorem used {read : Params → Argument α} (habout : ∀ params, (read params).About name)
    (habsent : ∀ params : Params, params.present? name = none → ∃ a, read params = .ok a)
    (hcongr : ∀ p q : Params, p.present? name = q.present? name → read p = read q) : Reads [] [name] read where
  names {params e} h := by
    have hname := habout _ _ h
    refine .inr ⟨hname ▸ List.mem_singleton_self name, fun hnone => ?_⟩
    obtain ⟨a, ha⟩ := habsent params (hname ▸ hnone)
    rw [ha] at h
    cases h
  fails hname := absurd hname List.not_mem_nil
  congr h := hcongr _ _ (h name List.mem_cons_self)

theorem always {f : Params → α} (hcongr : ∀ p q : Params, (∀ name ∈ uses, p.present? name = q.present? name) →
    f p = f q) : Reads [] uses fun params => .ok (f params) where
  names h := by cases h
  fails hname := absurd hname List.not_mem_nil
  congr h := congrArg Except.ok (hcongr _ _ h)

theorem constant (a : α) : Reads [] [] fun _ => .ok a :=
  always fun _ _ _ => rfl

/-- More may be named as used than is used. -/
theorem widen {read : Params → Argument α} (hread : Reads needs uses read) (h : uses ⊆ uses') :
    Reads needs uses' read where
  names he := (hread.names he).imp_right fun hused => ⟨h hused.1, hused.2⟩
  fails := hread.fails
  congr hsame := hread.congr fun name hname => hsame name <| by
    simp only [List.mem_append] at hname ⊢
    exact hname.imp_right fun hused => h hused

/-- One reading after the other. What is needed is read before what is only used. -/
theorem bind {read : Params → Argument α} {f : α → Params → Argument β} (hread : Reads needs uses read)
    (hf : ∀ a, Reads needs' uses' (f a)) (horder : uses = [] ∨ needs' = []) :
    Reads (needs ++ needs') (uses ++ uses') fun params => read params >>= fun a => f a params where
  names {params e} h := by
    cases hfirst : read params with
    | error first =>
        rw [hfirst] at h
        obtain rfl : first = e := Except.error.inj h
        exact (hread.names hfirst).imp (List.mem_append_left _) fun hused =>
          ⟨List.mem_append_left _ hused.1, hused.2⟩
    | ok a =>
        rw [hfirst] at h
        exact ((hf a).names h).imp (List.mem_append_right _) fun hused =>
          ⟨List.mem_append_right _ hused.1, hused.2⟩
  fails {params name} hname habsent := by
    cases hfirst : read params with
    | error first =>
        refine ⟨first, rfl, ?_⟩
        rcases hread.names hfirst with hneeded | ⟨hused, -⟩
        · exact List.mem_append_left _ hneeded
        · rcases horder with rfl | rfl
          · cases hused
          · obtain ⟨e, he, hneeded⟩ := hread.fails (by simpa using hname) habsent
            obtain rfl := Except.error.inj (hfirst.symm.trans he)
            exact List.mem_append_left _ hneeded
    | ok a =>
        rcases List.mem_append.1 hname with hname | hname
        · obtain ⟨e, he, -⟩ := hread.fails hname habsent
          rw [he] at hfirst
          cases hfirst
        · obtain ⟨e, he, hneeded⟩ := (hf a).fails hname habsent
          exact ⟨e, he, List.mem_append_right _ hneeded⟩
  congr {p q} h := by
    have hfirst : read p = read q := hread.congr fun name hname => h name <| by
      simp only [List.mem_append] at hname ⊢
      exact hname.imp .inl .inl
    have hrest : ∀ a, f a p = f a q := fun a => (hf a).congr fun name hname => h name <| by
      simp only [List.mem_append] at hname ⊢
      exact hname.imp .inr .inr
    simp only [hfirst, hrest]

end Reads

end

/-! ## Readings of one parameter -/

namespace Params

variable {params p q : Params} {name : String}

theorem optionalText_congr (h : p.present? name = q.present? name) :
    p.optionalText name = q.optionalText name := by
  rw [optionalText, optionalText, h]

theorem optionalNumber_congr (h : p.present? name = q.present? name) :
    p.optionalNumber name = q.optionalNumber name := by
  rw [optionalNumber, optionalNumber, h]

theorem optionalNatural_congr (h : p.present? name = q.present? name) :
    p.optionalNatural name = q.optionalNatural name := by
  rw [optionalNatural, optionalNatural, optionalNumber_congr h]

theorem list_congr (h : p.present? name = q.present? name) : p.list name = q.list name := by
  rw [list, list, h]

theorem optionalFlag_congr (h : p.present? name = q.present? name) :
    p.optionalFlag name = q.optionalFlag name := by
  rw [optionalFlag, optionalFlag, h]

open Argument

theorem optionalNumber_about (params : Params) (name : String) : (params.optionalNumber name).About name := by
  unfold optionalNumber
  split
  · exact .ok none
  · exact (About.require _ _).map _

theorem optionalNatural_about (params : Params) (name : String) : (params.optionalNatural name).About name := by
  refine (optionalNumber_about params name).bind fun x? => ?_
  cases x? with
  | none => exact .ok none
  | some x => exact (About.require _ _).map _

theorem narrow_about (name : String) (n : UInt64) : (narrow name n).About name :=
  .require _ _

theorem list_about (params : Params) (name : String) : (params.list name).About name := by
  unfold list
  split
  · exact .error _
  · exact .ok _
  · exact .ok _
  · exact .error _

theorem optionalFlag_about (params : Params) (name : String) : (params.optionalFlag name).About name := by
  unfold optionalFlag
  split
  · exact .ok none
  · exact (About.require _ _).map _

theorem reads_text (name : String) : Reads [name] [] fun params => params.text name :=
  .needed (fun _ => .require _ _) (fun params h => ⟨_, by rw [text, optionalText, h]; rfl⟩)
    fun p q h => by rw [text, text, optionalText_congr h]

theorem reads_button (name : String) : Reads [name] [] fun params => params.button name :=
  .needed (fun _ => About.bind (.require _ _) fun _ => .require _ _)
    (fun params h => ⟨_, by rw [button, text, optionalText, h]; rfl⟩)
    fun p q h => by rw [button, button, text, text, optionalText_congr h]

theorem reads_number (name : String) : Reads [name] [] fun params => params.number name :=
  .needed (fun params => (optionalNumber_about params name).bind fun _ => .require _ _)
    (fun params h => ⟨_, by rw [number, optionalNumber_of_absent h]; rfl⟩)
    fun p q h => by rw [number, number, optionalNumber_congr h]

theorem reads_keyCode (name : String) : Reads [name] [] fun params => params.keyCode name :=
  .needed (fun params => (optionalNatural_about params name).bind fun _ =>
      (About.require _ _).bind fun n => narrow_about name n)
    (fun params h => ⟨_, by rw [keyCode, optionalNatural_of_absent h]; rfl⟩)
    fun p q h => by rw [keyCode, keyCode, optionalNatural_congr h]

theorem reads_keyCodes (name : String) : Reads [name] [] fun params => params.keyCodes name := by
  refine .needed (fun params => (list_about params name).bind fun items => ?_)
    (fun params h => ⟨_, by rw [keyCodes, list, h]; rfl⟩)
    fun p q h => by rw [keyCodes, keyCodes, list_congr h]
  split
  · exact .error _
  · exact .mapM (fun j => (About.require _ _).bind fun n => narrow_about name n) items

theorem reads_strings (name : String) : Reads [name] [] fun params => params.strings name := by
  refine .needed (fun params => (list_about params name).bind fun items =>
      (About.mapM (fun j => .require _ _) items).bind fun entries => ?_)
    (fun params h => ⟨_, by rw [strings, list, h]; rfl⟩)
    fun p q h => by rw [strings, strings, list_congr h]
  split
  · exact .error _
  · exact .ok _

theorem reads_optionalNatural (name : String) : Reads [] [name] fun params => params.optionalNatural name :=
  .used (fun params => optionalNatural_about params name) (fun _ h => ⟨_, optionalNatural_of_absent h⟩)
    fun _ _ => optionalNatural_congr

theorem reads_flag (name : String) : Reads [] [name] fun params => params.flag name :=
  .used (fun params => (optionalFlag_about params name).bind fun _ => .ok _)
    (fun params h => ⟨_, by rw [flag, optionalFlag, h]; rfl⟩)
    fun p q h => by rw [flag, flag, optionalFlag_congr h]

theorem reads_point (x y : String) : Reads [x, y] [] fun params => params.point x y :=
  (reads_number x).bind (fun _ => (reads_number y).bind (fun _ => .constant _) (.inl rfl)) (.inl rfl)

end Params

/-! ## Readings of commands -/

namespace CommandKind

/-- The parameters without which a command is no operation. -/
def needs : CommandKind → List String
  | .describePoint | .tap => ["x", "y"]
  | .swipe => ["startX", "startY", "endX", "endY"]
  | .setLocation => ["latitude", "longitude"]
  | .pressKey => ["keyCode"]
  | .pressKeySequence => ["keyCodes"]
  | .pressDeviceButton => ["button"]
  | .inputText => ["text"]
  | .installApp => ["appPath"]
  | .launchApp | .terminateApp | .uninstallApp | .isAppInstalled | .getAppLogs | .startDebug => ["bundleId"]
  | .recordVideo => ["outputPath"]
  | .showCrashLog => ["crashName"]
  | .bootSimulator => ["udid"]
  | .installDylib => ["dylibPath"]
  | .openUrl => ["url"]
  | .addMedia => ["mediaPaths"]
  | .approvePermissions => ["bundleId", "permissions"]
  | .updateContacts => ["dbPath"]
  | _ => []

/-- The parameters that a command reads if they are there. -/
def uses : CommandKind → List String
  | .takeScreenshot => ["outputPath"]
  | .stopRecording => ["recordingId"]
  | .getSystemLogs => ["bundleId", "timeout"]
  | .getAppLogs => ["timeout"]
  | .listCrashLogs => ["bundleId"]
  | .deleteCrashLogs => ["all", "bundleId"]
  | .createSimulatorSession => ["autoboot", "deviceName", "platformVersion"]
  | .shutdownSimulator => ["udid"]
  | .swipe | .pressDeviceButton | .pressKey => ["duration"]
  | _ => []

end CommandKind

namespace Operation

open Params

theorem reads_of_text (name : String) (f : String → Operation) :
    Reads [name] [] fun params => (do return f (← Params.text params name) : Argument Operation) :=
  (reads_text name).bind (fun _ => .constant _) (.inl rfl)

theorem ofParams_shutdown (params : Params) : ofParams .shutdownSimulator params =
    .ok ((params.optionalText "udid").elim .shutdown .shutdownDevice) := by
  rw [ofParams]
  cases params.optionalText "udid" <;> rfl

/-- A command reads what it needs, and then what it uses. -/
theorem reads_ofParams (kind : CommandKind) : Reads kind.needs kind.uses (ofParams kind) := by
  cases kind with
  | describePoint => exact (reads_point "x" "y").bind (fun _ => .constant _) (.inl rfl)
  | tap => exact (reads_point "x" "y").bind (fun _ => .constant _) (.inl rfl)
  | swipe =>
      exact (reads_point "startX" "startY").bind (fun _ => (reads_point "endX" "endY").bind
        (fun _ => (reads_optionalNatural "duration").bind (fun _ => .constant _) (.inr rfl)) (.inl rfl)) (.inl rfl)
  | pressDeviceButton =>
      exact (reads_button "button").bind
        (fun _ => (reads_optionalNatural "duration").bind (fun _ => .constant _) (.inr rfl)) (.inl rfl)
  | pressKey =>
      exact (reads_keyCode "keyCode").bind
        (fun _ => (reads_optionalNatural "duration").bind (fun _ => .constant _) (.inr rfl)) (.inl rfl)
  | pressKeySequence => exact (reads_keyCodes "keyCodes").bind (fun _ => .constant _) (.inl rfl)
  | setLocation =>
      exact (reads_number "latitude").bind
        (fun _ => (reads_number "longitude").bind (fun _ => .constant _) (.inl rfl)) (.inl rfl)
  | addMedia => exact (reads_strings "mediaPaths").bind (fun _ => .constant _) (.inl rfl)
  | approvePermissions =>
      exact (reads_text "bundleId").bind
        (fun _ => (reads_strings "permissions").bind (fun _ => .constant _) (.inl rfl)) (.inl rfl)
  | getAppLogs =>
      refine (reads_text "bundleId").bind (fun _ => .always fun p q h => ?_) (.inl rfl)
      rw [optionalText_congr (h "timeout" List.mem_cons_self)]
  | deleteCrashLogs =>
      refine (reads_flag "all").bind (fun _ => .always fun p q h => ?_) (.inr rfl)
      rw [optionalText_congr (h "bundleId" List.mem_cons_self)]
  | createSimulatorSession =>
      refine (reads_flag "autoboot").bind (fun _ => .always fun p q h => ?_) (.inr rfl)
      have hversion := h "platformVersion" (List.mem_cons_of_mem _ List.mem_cons_self)
      rw [optionalText_congr (h "deviceName" List.mem_cons_self), optionalText_congr hversion]
  | takeScreenshot =>
      refine .always fun p q h => ?_
      rw [optionalText_congr (h "outputPath" List.mem_cons_self)]
  | stopRecording =>
      refine .always fun p q h => ?_
      rw [optionalText_congr (h "recordingId" List.mem_cons_self)]
  | listCrashLogs =>
      refine .always fun p q h => ?_
      rw [optionalText_congr (h "bundleId" List.mem_cons_self)]
  | getSystemLogs =>
      refine .always fun p q h => ?_
      have htimeout := h "timeout" (List.mem_cons_of_mem _ List.mem_cons_self)
      rw [optionalText_congr (h "bundleId" List.mem_cons_self), optionalText_congr htimeout]
  | shutdownSimulator =>
      rw [funext ofParams_shutdown]
      refine .always fun p q h => ?_
      rw [optionalText_congr (h "udid" List.mem_cons_self)]
  | installApp => exact reads_of_text "appPath" .installApp
  | launchApp => exact reads_of_text "bundleId" .launchApp
  | terminateApp => exact reads_of_text "bundleId" .terminateApp
  | uninstallApp => exact reads_of_text "bundleId" .uninstallApp
  | isAppInstalled => exact reads_of_text "bundleId" .isAppInstalled
  | startDebug => exact reads_of_text "bundleId" .startDebug
  | recordVideo => exact reads_of_text "outputPath" .startRecording
  | showCrashLog => exact reads_of_text "crashName" .showCrashLog
  | bootSimulator => exact reads_of_text "udid" .boot
  | inputText => exact reads_of_text "text" .inputText
  | installDylib => exact reads_of_text "dylibPath" .installDylib
  | openUrl => exact reads_of_text "url" .openUrl
  | updateContacts => exact reads_of_text "dbPath" .updateContacts
  | describeElements => exact .constant Operation.describeElements
  | listApps => exact .constant Operation.listApps
  | stopDebug => exact .constant Operation.stopDebug
  | debugStatus => exact .constant Operation.debugStatus
  | terminateSimulatorSession => exact .constant Operation.terminateSession
  | listAvailableSimulators => exact .constant Operation.listAvailable
  | listBootedSimulators => exact .constant Operation.listBooted
  | focusSimulator => exact .constant Operation.focus
  | isSimulatorBooted => exact .constant Operation.isBooted
  | clearKeychain => exact .constant Operation.clearKeychain

/-- Without one of the parameters that it needs, a command is no operation. -/
theorem ofParams_fails {kind : CommandKind} {params : Params} {name : String} (hneeds : name ∈ kind.needs)
    (habsent : params.present? name = none) : ∃ e, ofParams kind params = .error e := by
  obtain ⟨e, he, -⟩ := (reads_ofParams kind).fails hneeds habsent
  exact ⟨e, he⟩

end Operation

end SimControl
