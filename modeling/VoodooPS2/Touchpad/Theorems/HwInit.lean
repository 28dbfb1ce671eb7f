import VoodooPS2.Touchpad.HwInit

namespace Touchpad

open Controller Dialogue

section Requests

variable {request : List PS2Command} {m : CommandMode} {nibble addr : UInt32} {value : UInt8}

-- The requests that are shorter than the one for the status bytes.
def Exchange.Short (x : Exchange) : Prop :=
  x.request.length ≤ 2

theorem Exchange.Short.ne {x : Exchange} (h : x.Short) : x.request ≠ mouseInformation := by
  intro he
  rw [Short, he] at h
  exact absurd h (by decide)

theorem submit_yields :
    (submitRequestAndBlock request).Yields fun x xs => x.request = request ∧ xs = [x] :=
  fun _ => ⟨rfl, rfl⟩

theorem submitted_yields : (submitted request).Yields fun ok xs =>
    ∃ x : Exchange, x.request = request ∧ xs = [x] ∧ ok = x.Complete :=
  submit_yields.bind fun x xs ⟨hr, hx⟩ => .pure ⟨x, hr, by simp [hx], by simp⟩

theorem submitted_detects : (submitted request).Detects fun x => ¬x.Complete :=
  submitted_yields.mono fun ok xs ⟨x, _, hx, ho⟩ => by simp [hx, ← ho]

theorem submitted_logs {P : Exchange → Prop} (h : ∀ x, x.request = request → P x) :
    (submitted request).Logs P :=
  submitted_yields.mono fun ok xs ⟨x, hr, hx, _⟩ => by simpa [hx] using h x hr

theorem fits_nibble : (m.nibbleCommands.getD nibble.toNat (noData 0)).Fits := by
  rw [List.getD_eq_getElem?_getD]
  cases h : m.nibbleCommands[nibble.toNat]?
  case none   => decide
  case some c => exact m.fits c (List.mem_of_getElem? h)

theorem NibbleCommand.Fits.length_le {c : NibbleCommand} (h : c.Fits) : c.request.length ≤ 2 := by
  simp only [Fits, not_or, not_lt] at h
  simp only [request, List.length_append, List.length_cons, List.length_replicate]
  split <;> simp <;> omega

theorem sendNibble_eq : alpsCommandModeSendNibble m nibble =
    submitted (m.nibbleCommands.getD nibble.toNat (noData 0)).request :=
  if_neg fits_nibble

theorem sendNibble_detects : (alpsCommandModeSendNibble m nibble).Detects fun x => ¬x.Complete :=
  sendNibble_eq ▸ submitted_detects

theorem sendNibble_logs : (alpsCommandModeSendNibble m nibble).Logs Exchange.Short :=
  sendNibble_eq ▸ submitted_logs fun _ hx => (congrArg List.length hx).trans_le fits_nibble.length_le

theorem setAddr_detects : (alpsCommandModeSetAddr m addr).Detects fun x => ¬x.Complete := by
  refine submitted_detects.andThen (.all fun p hp => ?_)
  have ⟨_, _, he⟩ := List.mem_map.mp hp
  exact he ▸ sendNibble_detects

theorem setAddr_logs : (alpsCommandModeSetAddr m addr).Logs Exchange.Short := by
  refine .andThen (submitted_logs fun _ hx => (congrArg List.length hx).trans_le (Nat.le_succ 1))
    (.all fun p hp => ?_)
  have ⟨_, _, he⟩ := List.mem_map.mp hp
  exact he ▸ sendNibble_logs

theorem writeReg_detects : (alpsCommandModeWriteReg m value).Detects fun x => ¬x.Complete :=
  sendNibble_detects.andThen sendNibble_detects

theorem writeRegAt_detects : (alpsCommandModeWriteRegAt m addr value).Detects fun x => ¬x.Complete :=
  setAddr_detects.andThen writeReg_detects

end Requests

-- An access fails if one of its requests stops early, or if the device has read another register.
def Access.Fails : Access → List Exchange → Prop
  | .read addr, xs => ∃ x ∈ xs, ¬x.Complete ∨ x.request = mouseInformation ∧ addr ≠ x.address
  | .write, xs     => ∃ x ∈ xs, ¬x.Complete

theorem readReg_yields {m : CommandMode} {addr : UInt32} :
    (alpsCommandModeReadReg m addr).Yields fun v xs => v = none ↔ (Access.read addr).Fails xs := by
  refine (setAddr_detects.and setAddr_logs).bind fun ok xs ⟨hd, hs⟩ => ?_
  cases ok
  case false =>
    have ⟨x, hx, hf⟩ := hd.mp rfl
    exact .pure (by simpa using ⟨x, by simpa using hx, .inl hf⟩)
  case true =>
    have hn : ∀ x ∈ xs, ¬(¬x.Complete ∨ x.request = mouseInformation ∧ addr ≠ x.address) :=
      fun x hx hf => hf.elim (fun hc => Bool.noConfusion (hd.mpr ⟨x, hx, hc⟩))
        fun he => (hs x hx).ne he.left
    refine submit_yields.bind fun x xs' ⟨hr, hx⟩ => ?_
    -- nothing before this request has failed
    have hf : (Access.read addr).Fails (xs ++ xs') ↔ ¬(x.Complete ∧ addr = x.address) := by
      have : ¬∃ y ∈ xs, ¬y.Complete ∨ y.request = mouseInformation ∧ addr ≠ y.address :=
        fun ⟨y, hy, hf⟩ => hn y hy hf
      simp only [Access.Fails, hx, List.mem_append, List.mem_singleton, or_and_right, exists_or,
        exists_eq_left, or_iff_right this, hr, true_and, not_and_or, ne_eq]
    split
    case isTrue h  => exact .pure (by simpa [hf] using h)
    case isFalse h => exact .pure (by simpa [hf] using h)

namespace InitEvent

-- A failed access to a register that belongs to the given part.
def FailsFor (owner : Owner) : InitEvent → Prop
  | access o a xs => o = owner ∧ a.Fails xs
  | _             => False

def IsAccess : InitEvent → Prop
  | access .. => True
  | _         => False

-- The accesses that do not belong to the set-up of the trackstick.
def Counts : InitEvent → Prop
  | access owner _ _ => owner ≠ .trackstick
  | _                => False

variable {e : InitEvent} {owner : Owner}

theorem FailsFor.counts (h : e.FailsFor owner) (ho : owner ≠ .trackstick) : e.Counts := by
  cases e
  case access => exact h.left ▸ ho
  all_goals exact h.elim

theorem not_counts_of_not_isAccess (h : ¬e.IsAccess) : ¬e.Counts := by
  cases e
  case access => exact absurd trivial h
  all_goals exact not_false

end InitEvent

section Steps

variable {m : CommandMode} {addr regBase flags : UInt32} {value : UInt8} {f : UInt8 → UInt8}
variable {owner : Owner}

theorem writeReg_fails : (writeReg m owner value).Detects (InitEvent.FailsFor owner) :=
  .report <| writeReg_detects.mono fun _ _ h => by simpa [InitEvent.FailsFor, Access.Fails] using h

theorem writeRegAt_fails : (writeRegAt m owner addr value).Detects (InitEvent.FailsFor owner) :=
  .report <| writeRegAt_detects.mono fun _ _ h => by simpa [InitEvent.FailsFor, Access.Fails] using h

theorem readReg_fails :
    (readReg m owner addr).Yields fun v l => v = none ↔ ∃ e ∈ l, InitEvent.FailsFor owner e :=
  .report <| readReg_yields.mono fun _ _ h => by simpa [InitEvent.FailsFor] using h

theorem checkReg_fails : (checkReg m owner addr).Detects (InitEvent.FailsFor owner) :=
  readReg_fails.bind fun v l h => .pure (by simpa using h)

theorem modifyReg_fails : (modifyReg m owner addr f).Detects (InitEvent.FailsFor owner) := by
  refine readReg_fails.bind fun v l h => ?_
  cases v
  case none      => exact .pure (by simpa using h.mp rfl)
  case some regVal =>
    have hn : ¬∃ e ∈ l, InitEvent.FailsFor owner e := fun hf => Option.some_ne_none _ (h.mpr hf)
    refine writeReg_fails.mono fun ok l' h' => h'.trans ?_
    simp only [List.mem_append, or_and_right, exists_or, or_iff_right hn]

end Steps

section Logs

variable {m : CommandMode} {addr regBase flags : UInt32} {value : UInt8} {f : UInt8 → UInt8}
variable {owner : Owner} {P : InitEvent → Prop} {enable : Bool}

theorem submit_logs {α : Type} {p : Talk α} (h : ∀ x, P (.submit x)) : (Talk.submit p).Logs P :=
  fun _ => by simpa [Talk.submit, Dialogue.report] using fun x _ => h x

theorem enterCommandMode_logs (h : ∀ x, P (.submit x)) : enterCommandMode.Logs P :=
  submit_logs h

theorem exitCommandMode_logs (h : P .exitCommandMode) : exitCommandMode.Logs P :=
  fun _ => by simpa [exitCommandMode, Dialogue.report] using h

theorem readReg_logs (h : ∀ a xs, P (.access owner a xs)) : (readReg m owner addr).Logs P :=
  fun _ => by simpa [readReg, Dialogue.report] using h _ _

theorem writeReg_logs (h : ∀ a xs, P (.access owner a xs)) : (writeReg m owner value).Logs P :=
  fun _ => by simpa [writeReg, Dialogue.report] using h _ _

theorem writeRegAt_logs (h : ∀ a xs, P (.access owner a xs)) : (writeRegAt m owner addr value).Logs P :=
  fun _ => by simpa [writeRegAt, Dialogue.report] using h _ _

theorem checkReg_logs (h : ∀ a xs, P (.access owner a xs)) : (checkReg m owner addr).Logs P :=
  .bind (readReg_logs h) fun _ => .pure

theorem modifyReg_logs (h : ∀ a xs, P (.access owner a xs)) : (modifyReg m owner addr f).Logs P := by
  refine .bind (readReg_logs h) fun v => ?_
  cases v
  case none => exact .pure
  case some => exact writeReg_logs h

theorem resolution_logs (h : ∀ a xs, P (.access .resolution a xs)) :
    (alpsGetV3V7Resolution m addr).Logs P := by
  refine .bind (readReg_logs h) fun v => ?_
  cases v
  case none => exact .pure
  case some => exact .bind (readReg_logs h) fun _ => .pure

-- What is logged during the set-up of the trackstick.
structure Tolerates (P : InitEvent → Prop) : Prop where
  submit : ∀ x, P (.submit x)
  exit   : P .exitCommandMode
  access : ∀ a xs, P (.access .trackstick a xs)

theorem passthroughModeV3_logs (h : Tolerates P) : (alpsPassthroughModeV3 m regBase enable).Logs P := by
  refine .bind (enterCommandMode_logs h.submit) fun ok => ?_
  cases ok
  case false => exact .pure
  case true  =>
    exact .bind (modifyReg_logs h.access) fun _ => .bind (exitCommandMode_logs h.exit) fun _ => .pure

theorem setTrackstickFormat_logs (h : Tolerates P) : (setTrackstickFormat m regBase).Logs P := by
  refine .bind (submit_logs h.submit) fun ok => ?_
  cases ok
  case false => exact .pure
  case true  =>
    refine .bind (submit_logs h.submit) fun ok => ?_
    cases ok
    case false => exact .pure
    case true  =>
      refine .bind (.andThen (.andThen (enterCommandMode_logs h.submit) (writeRegAt_logs h.access))
        (exitCommandMode_logs h.exit)) fun ok => ?_
      cases ok <;> exact .pure

theorem setupReported_logs {complete : Bool} (h : Tolerates P) :
    (setupReported m regBase complete).Logs P := by
  cases complete
  case false => exact .pure
  case true  => exact setTrackstickFormat_logs h

theorem setupTrackstickV3_logs (h : Tolerates P) : (alpsSetupTrackstickV3 m regBase).Logs P := by
  refine .bind (passthroughModeV3_logs h) fun ok => ?_
  cases ok
  case false => exact .pure
  case true  =>
    refine .bind (submit_logs h.submit) fun _ => .bind (setupReported_logs h) fun _ =>
      .bind (passthroughModeV3_logs h) fun ok => ?_
    cases ok <;> exact .pure

theorem setupTrackstick_logs (h : Tolerates P) : (setupTrackstick m regBase flags).Logs P := by
  simp only [setupTrackstick]
  split
  case isTrue  => exact .bind (setupTrackstickV3_logs h) fun _ => .pure
  case isFalse => exact .pure

end Logs

-- What a part of an initialisation says about the failures in its log. The failures for which no access
-- is responsible are found before there is one.
structure Detected (ok : Bool) (log : List InitEvent) : Prop where
  sound    : ok = true → ∀ e ∈ log, ¬e.FailsFor .routine
  complete : ok = false → (∃ e ∈ log, e.FailsFor .routine) ∨ ∀ e ∈ log, ¬e.Counts

section Detected

variable {p q : Init Bool}

theorem detected_of_detects (h : p.Detects (InitEvent.FailsFor .routine)) : p.Yields Detected :=
  h.mono fun _ _ h => {
    sound    := fun ho e he hf => by simpa [ho] using h.mpr ⟨e, he, hf⟩
    complete := fun ho => .inl (h.mp ho) }

-- A step that is not about the registers comes first.
theorem detected_andThen (hp : p.Logs fun e => ¬e.Counts) (hq : q.Yields Detected) :
    (p.andThen q).Yields Detected := by
  refine Yields.bind hp fun ok l hl => ?_
  have hl' : ∀ e ∈ l, ¬e.FailsFor .routine := fun e he hf => hl e he (hf.counts (by decide))
  cases ok
  case false =>
    exact .pure ⟨fun ho => Bool.noConfusion ho, fun _ => .inr (by simpa using hl)⟩
  case true =>
    refine hq.mono fun ok l' h => ⟨fun ho => ?_, fun ho => (h.complete ho).imp ?_ ?_⟩
    · exact List.forall_mem_append.mpr ⟨hl', h.sound ho⟩
    · exact fun ⟨e, he, hf⟩ => ⟨e, List.mem_append_right _ he, hf⟩
    · exact fun hc => List.forall_mem_append.mpr ⟨hl, hc⟩

end Detected

section Routines

variable {ok : Bool} {log : List InitEvent}

theorem tolerates_not_counts : Tolerates fun e => ¬e.Counts where
  submit _   := not_false
  exit       := not_false
  access _ _ := fun h => h rfl

theorem resolution_fails {m : CommandMode} {addr : UInt32} :
    (alpsGetV3V7Resolution m addr).Detects (InitEvent.FailsFor .routine) := by
  refine .of_logs ?_ (resolution_logs fun _ _ h => Owner.noConfusion h.left)
  refine Yields.bind (@readReg_fails m addr .resolution) fun v l _ => ?_
  cases v
  case none => exact .pure rfl
  case some => exact .bind readReg_fails fun _ _ _ => .pure rfl

theorem InitRoutine.steps_detected (r : InitRoutine) :
    ∃ steps enable, r.hwInit = finishInit steps enable ∧ (Dialogue.all steps).Yields Detected := by
  have henter : enterCommandMode.Logs fun e => ¬e.Counts := enterCommandMode_logs tolerates_not_counts.submit
  cases r
  case v3 flags =>
    refine ⟨_, _, rfl, detected_andThen (setupTrackstick_logs tolerates_not_counts)
      (detected_andThen henter (detected_of_detects (.all ?_)))⟩
    simp [alpsAbsoluteModeV3, checkReg_fails, modifyReg_fails, writeRegAt_fails]
  case rushmoreV3 flags =>
    refine ⟨_, _, rfl, detected_andThen (setupTrackstick_logs tolerates_not_counts)
      (detected_andThen henter (detected_of_detects (.all ?_)))⟩
    simp [checkReg_fails, modifyReg_fails, writeRegAt_fails]
  case v4 =>
    refine ⟨_, _, rfl, detected_andThen henter (detected_of_detects (.all ?_))⟩
    simp [alpsAbsoluteModeV4, modifyReg_fails, writeRegAt_fails]
  case v7 =>
    refine ⟨_, _, rfl, detected_andThen henter (detected_of_detects (.all ?_))⟩
    simp [checkReg_fails, resolution_fails, modifyReg_fails, writeRegAt_fails]

theorem Detected.append {post : List InitEvent} (h : Detected ok log) (hp : ∀ e ∈ post, ¬e.Counts) :
    Detected ok (log ++ post) where
  sound ho    := List.forall_mem_append.mpr ⟨h.sound ho, fun e he hf => hp e he (hf.counts (by decide))⟩
  complete ho := (h.complete ho).imp (fun ⟨e, he, hf⟩ => ⟨e, List.mem_append_left _ he, hf⟩)
    fun hl => List.forall_mem_append.mpr ⟨hl, hp⟩

-- The last access to a register is followed by an exit from command mode.
def LeavesCommandMode (log : List InitEvent) : Prop :=
  ∃ pre post, log = pre ++ .exitCommandMode :: post ∧ ∀ e ∈ post, ¬e.IsAccess

-- On both paths the exit from command mode comes after all accesses.
theorem finishInit_yields {steps : List (Init Bool)} {enable : List (Talk Bool)}
    (h : (Dialogue.all steps).Yields Detected) :
    (finishInit steps enable).Yields fun ok log => Detected ok log ∧ LeavesCommandMode log := by
  have hx : exitCommandMode.Yields fun _ log => log = [.exitCommandMode] := fun _ => rfl
  refine h.bind fun ok pre hd => ?_
  have leave {post : List InitEvent} (hp : ∀ e ∈ post, ¬e.IsAccess) :
      Detected ok (pre ++ .exitCommandMode :: post) ∧
        LeavesCommandMode (pre ++ .exitCommandMode :: post) := by
    refine ⟨hd.append fun e he => InitEvent.not_counts_of_not_isAccess ?_, pre, post, rfl, hp⟩
    rcases List.mem_cons.mp he with rfl | he
    · exact not_false
    · exact hp e he
  cases ok
  case false =>
    refine hx.bind fun _ l hl => .pure ?_
    simpa [hl] using @leave [] (by simp)
  case true =>
    refine hx.bind fun _ l hl => ?_
    have he : (Dialogue.each (enable.map Talk.submit)).Logs fun e => ¬e.IsAccess := by
      refine .each fun p hp => ?_
      have ⟨_, _, he⟩ := List.mem_map.mp hp
      exact he ▸ submit_logs fun _ => not_false
    refine Dialogue.Yields.bind he fun _ post hp => .pure ?_
    simpa [hl] using leave hp

theorem finishInit_logs {P : InitEvent → Prop} {steps : List (Init Bool)} {enable : List (Talk Bool)}
    (h : Tolerates P) (hs : ∀ p ∈ steps, p.Logs P) : (finishInit steps enable).Logs P := by
  refine .bind (.all hs) fun ok => ?_
  cases ok
  case false => exact .bind (exitCommandMode_logs h.exit) fun _ => .pure
  case true  =>
    refine .bind (exitCommandMode_logs h.exit) fun _ => .bind (.each fun p hp => ?_) fun _ => .pure
    have ⟨_, _, he⟩ := List.mem_map.mp hp
    exact he ▸ submit_logs h.submit

-- A failed access makes the routine fail.
def ReportsFailures (o : Dialogue.Outcome Response InitEvent Bool) : Prop :=
  (∃ e ∈ o.log, e.FailsFor .routine ∨ e.FailsFor .resolution) → o.val = false

-- Only one of the routines asks for the resolution.
theorem InitRoutine.hwInit_logs {P : InitEvent → Prop} {r : InitRoutine} (hr : r ≠ .v7) (h : Tolerates P)
    (ha : ∀ a xs, P (.access .routine a xs)) : r.hwInit.Logs P := by
  have henter : enterCommandMode.Logs P := enterCommandMode_logs h.submit
  cases r
  case v3 flags =>
    apply finishInit_logs h
    simp [setupTrackstick_logs h, henter, alpsAbsoluteModeV3, modifyReg_logs ha, checkReg_logs ha,
      writeRegAt_logs ha]
  case rushmoreV3 flags =>
    apply finishInit_logs h
    simp [setupTrackstick_logs h, henter, modifyReg_logs ha, checkReg_logs ha, writeRegAt_logs ha]
  case v4 =>
    apply finishInit_logs h
    simp [henter, alpsAbsoluteModeV4, modifyReg_logs ha, writeRegAt_logs ha]
  case v7 => exact absurd rfl hr

instance : (access : Access) → (xs : List Exchange) → Decidable (access.Fails xs)
  | .read _, xs => inferInstanceAs (Decidable (∃ x ∈ xs, _))
  | .write, xs  => inferInstanceAs (Decidable (∃ x ∈ xs, _))

end Routines

-- The exact condition: an access for the resolution does not fail without another access that fails.
theorem hwInit_reports_iff (r : InitRoutine) (answers : Nat → Response) :
    ReportsFailures (r.hwInit answers) ∧ LeavesCommandMode (r.hwInit answers).log ↔
      ((∃ e ∈ (r.hwInit answers).log, e.FailsFor .resolution) →
        ∃ e ∈ (r.hwInit answers).log, e.FailsFor .routine) := by
  have ⟨steps, enable, hr, hd⟩ := r.steps_detected
  have ⟨hd, hl⟩ : Detected (r.hwInit answers).val (r.hwInit answers).log ∧ LeavesCommandMode _ :=
    hr ▸ finishInit_yields hd answers
  constructor
  case mp =>
    intro ⟨h, _⟩ ⟨e, he, hf⟩
    have hv := h ⟨e, he, .inr hf⟩
    exact (hd.complete hv).resolve_right fun hn => hn e he (hf.counts (by decide))
  case mpr =>
    refine fun h => ⟨fun ⟨e, he, hf⟩ => ?_, hl⟩
    have ⟨e, he, hf⟩ : ∃ e ∈ (r.hwInit answers).log, e.FailsFor .routine :=
      hf.elim (fun hf => ⟨e, he, hf⟩) fun hf => h ⟨e, he, hf⟩
    by_contra hv
    exact hd.sound (Bool.eq_true_of_not_eq_false hv) e he hf

-- The register of the pitch cannot be read, and all other accesses succeed.
def pitchFailure : Nat → Response
  | 6  => { bytes := [0, 0xc2, 0xd9] }
  | 7  => { stoppedAt := some 0 }
  | 20 => { bytes := [0, 0xc2, 0xc4] }
  | _  => {}

theorem not_hwInit_reports :
    ¬ ∀ (r : InitRoutine) (answers : Nat → Response),
      ReportsFailures (r.hwInit answers) ∧ LeavesCommandMode (r.hwInit answers).log := by
  intro h
  have hv : (InitRoutine.v7.hwInit pitchFailure).val = false := by
    refine (h .v7 pitchFailure).left ⟨_, List.mem_of_getElem? (i := 2) rfl, .inr ⟨rfl, ?_⟩⟩
    decide +kernel
  exact absurd hv (by decide +kernel)

-- The other routines have no such condition.
theorem hwInit_reports {r : InitRoutine} (hr : r ≠ .v7) (answers : Nat → Response) :
    ReportsFailures (r.hwInit answers) := by
  have ⟨steps, enable, he, hd⟩ := r.steps_detected
  have ⟨hd, _⟩ : Detected (r.hwInit answers).val (r.hwInit answers).log ∧ _ :=
    he ▸ finishInit_yields hd answers
  have hn : r.hwInit.Logs fun e => ¬e.FailsFor .resolution := by
    refine InitRoutine.hwInit_logs hr ⟨fun _ => not_false, not_false, ?_⟩ ?_
    all_goals exact fun _ _ h => Owner.noConfusion h.left
  intro ⟨e, hm, hf⟩
  by_contra hv
  exact hf.elim (hd.sound (Bool.eq_true_of_not_eq_false hv) e hm) (hn answers e hm)

end Touchpad
