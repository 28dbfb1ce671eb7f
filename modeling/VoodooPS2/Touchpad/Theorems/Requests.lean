import VoodooPS2.Touchpad.Device
import VoodooPS2.Touchpad.Power

namespace Touchpad

open Controller Dialogue

abbrev Exchange.ToMouse (x : Exchange) : Prop :=
  PS2Request.ToMouse x.request

variable {request : List PS2Command} {bytes : List UInt8} {m : CommandMode} {nibble addr regBase flags : UInt32}
  {value command arg fwVer : UInt8} {enable hasInit : Bool} {α : Type} {v : Protocol} {dev : AlpsDevice}

-- All that a request needs is to begin with a byte for the mouse.
theorem toMouse_cons (hl : request.length < 255)
    (hr : ∀ c ∈ request, c.command = .sendMouseCommandAndCompareAck ∨ c.command = .readDataPort) :
    PS2Request.ToMouse (sendMouse value :: request) where
  counted   := Nat.succ_lt_succ hl
  known     := List.forall_mem_cons.mpr ⟨.inl rfl, hr⟩
  addressed := by simp [sendMouse]

section Talk

theorem submitRequestAndBlock_toMouse (h : PS2Request.ToMouse request) :
    (submitRequestAndBlock request).Logs Exchange.ToMouse :=
  .bind (.ask fun _ => h) fun _ => .pure

theorem submitted_toMouse (h : PS2Request.ToMouse request) : (submitted request).Logs Exchange.ToMouse :=
  .bind (submitRequestAndBlock_toMouse h) fun _ => .pure

theorem ps2Command_toMouse : (ps2Command value command).Logs Exchange.ToMouse :=
  submitted_toMouse <| toMouse_cons (by simp) (by simp [sendMouse])

theorem ps2CommandShort_toMouse : (ps2CommandShort command).Logs Exchange.ToMouse :=
  submitted_toMouse <| toMouse_cons (by simp) (by simp)

theorem mouseInformation_toMouse : PS2Request.ToMouse mouseInformation :=
  toMouse_cons (by simp) (by simp [readByte])

theorem NibbleCommand.Fits.toMouse {c : NibbleCommand} (h : c.Fits) : PS2Request.ToMouse c.request := by
  refine toMouse_cons ?_ ?_
  · exact Nat.lt_of_lt_of_le (Nat.lt_of_succ_le h.length_le) (by decide)
  · intro c' hc
    rcases List.mem_append.mp hc with hc | hc
    · split at hc
      · exact .inl (by simp_all [sendMouse])
      · simp at hc
    · exact .inr (by simp_all [readByte])

theorem sendNibble_toMouse : (alpsCommandModeSendNibble m nibble).Logs Exchange.ToMouse :=
  sendNibble_eq ▸ submitted_toMouse fits_nibble.toMouse

theorem setAddr_toMouse : (alpsCommandModeSetAddr m addr).Logs Exchange.ToMouse := by
  refine .andThen (submitted_toMouse (toMouse_cons (by simp) (by simp))) (.all fun p hp => ?_)
  obtain ⟨i, -, rfl⟩ := List.mem_map.mp hp
  exact sendNibble_toMouse

theorem readReg_toMouse : (alpsCommandModeReadReg m addr).Logs Exchange.ToMouse := by
  refine .bind setAddr_toMouse fun ok => ?_
  cases ok
  case false => exact .pure
  case true  =>
    refine .bind (submitRequestAndBlock_toMouse mouseInformation_toMouse) fun x => ?_
    split <;> exact .pure

theorem writeReg_toMouse : (alpsCommandModeWriteReg m value).Logs Exchange.ToMouse :=
  .andThen sendNibble_toMouse sendNibble_toMouse

theorem alpsWriteRegAt_toMouse : (alpsCommandModeWriteRegAt m addr value).Logs Exchange.ToMouse :=
  .andThen setAddr_toMouse writeReg_toMouse

theorem rptCmd_toMouse : (alpsRptCmd hasInit arg command).Logs Exchange.ToMouse := by
  refine .bind (submitRequestAndBlock_toMouse ?_) fun _ => .pure
  cases hasInit
  all_goals exact toMouse_cons (by simp [mouseInformation]) (by simp [mouseInformation, sendMouse, readByte])

theorem alpsEnterCommandMode_toMouse : alpsEnterCommandMode.Logs Exchange.ToMouse :=
  .bind rptCmd_toMouse fun _ => .pure

theorem alpsExitCommandMode_toMouse : alpsExitCommandMode.Logs Exchange.ToMouse :=
  .bind ps2CommandShort_toMouse fun _ => .pure

theorem resetMouse_toMouse : resetMouse.Logs Exchange.ToMouse :=
  .bind (submitRequestAndBlock_toMouse (toMouse_cons (by simp) (by simp [readByte]))) fun _ => .pure

theorem hwInitV1V2_toMouse : (alpsHwInitV1V2 flags).Logs Exchange.ToMouse := by
  have hp (enable : Bool) : (if flags &&& alpsPass ≠ 0 then alpsPassthroughModeV2 enable else pure true).Logs
      Exchange.ToMouse := by
    split
    case isTrue  => exact submitted_toMouse (toMouse_cons (by simp) (by simp [sendMouse]))
    case isFalse => exact .pure
  have ht : (alpsTapMode true).Logs Exchange.ToMouse := by
    refine .bind (submitted_toMouse (toMouse_cons (by simp) (by simp [sendMouse, readByte]))) fun ok => ?_
    cases ok
    case false => exact .pure
    case true  => exact .bind rptCmd_toMouse fun _ => .pure
  have ha : alpsAbsoluteModeV1V2.Logs Exchange.ToMouse := by
    refine .bind (.each ?_) fun _ => .pure
    simp only [List.forall_mem_cons, ps2CommandShort_toMouse, true_and]
    exact List.forall_mem_nil _
  refine .bind (.all ?_) fun ok => ?_
  · simp only [List.forall_mem_cons]
    exact ⟨hp true, ht, ha, hp false, List.forall_mem_nil _⟩
  · cases ok
    case false => exact .pure
    case true  => exact .bind ps2CommandShort_toMouse fun _ => .pure

theorem hwInitDolphinV1_toMouse : alpsHwInitDolphinV1.Logs Exchange.ToMouse := by
  refine .bind (.each ?_) fun _ => .pure
  simp only [List.forall_mem_cons, ps2CommandShort_toMouse, ps2Command_toMouse, true_and]
  exact List.forall_mem_nil _

theorem probeTrackstick_toMouse : (alpsProbeTrackstickV3V7 m regBase).Logs Exchange.ToMouse := by
  refine .bind alpsEnterCommandMode_toMouse fun ok => ?_
  cases ok
  case false => exact .bind alpsExitCommandMode_toMouse fun _ => .pure
  case true  => exact .bind readReg_toMouse fun _ => .bind alpsExitCommandMode_toMouse fun _ => .pure

theorem deviceArea_toMouse : alpsDolphinGetDeviceArea.Logs Exchange.ToMouse :=
  .bind alpsEnterCommandMode_toMouse fun _ => .bind ps2CommandShort_toMouse fun _ =>
    .bind ps2CommandShort_toMouse fun _ => .bind ps2CommandShort_toMouse fun _ =>
    .bind ps2Command_toMouse fun _ => .bind ps2Command_toMouse fun _ =>
    .bind (submitRequestAndBlock_toMouse mouseInformation_toMouse) fun _ =>
    .bind alpsExitCommandMode_toMouse fun _ => .pure

theorem otpValues_toMouse : (alpsGetOtpValuesSS4V2 command).Logs Exchange.ToMouse :=
  .bind ps2CommandShort_toMouse fun _ => .bind ps2CommandShort_toMouse fun _ =>
    .bind (submitRequestAndBlock_toMouse mouseInformation_toMouse) fun _ => .pure

theorem querySetProtocol_toMouse : (querySetProtocol v fwVer).Logs Exchange.ToMouse := by
  cases v
  case v3 | v3Rushmore | v7 => exact .bind probeTrackstick_toMouse fun _ => .pure
  case v5                   => exact .bind deviceArea_toMouse fun _ => .pure
  case v8                   => exact .bind (.bind otpValues_toMouse fun _ => otpValues_toMouse) fun _ => .pure
  case v1 | v2 | v4         => exact .pure

theorem installReported_toMouse {e7 ec : Report} : (installReported e7 ec).Logs Exchange.ToMouse := by
  unfold installReported
  split
  case h_1 => exact .bind (.bind querySetProtocol_toMouse fun _ => .pure) fun _ => .pure
  case h_2 =>
    split
    case h_1 => exact .bind querySetProtocol_toMouse fun _ => .pure
    case h_2 => exact .pure

theorem identify_toMouse : identify.Logs Exchange.ToMouse := by
  refine .bind rptCmd_toMouse fun _ => .bind rptCmd_toMouse fun e7 => ?_
  split
  case isFalse => exact .pure
  case isTrue  =>
    refine .bind rptCmd_toMouse fun ec => ?_
    split
    case isFalse => exact .pure
    case isTrue  => exact .bind alpsExitCommandMode_toMouse fun _ => installReported_toMouse

end Talk

section Init

abbrev InitEvent.ToMouse (e : InitEvent) : Prop :=
  ∀ x ∈ e.exchanges, x.ToMouse

theorem talkSubmit_toMouse {p : Talk α} (h : p.Logs Exchange.ToMouse) : (Talk.submit p).Logs InitEvent.ToMouse := by
  intro as e he
  obtain ⟨x, hx, rfl⟩ := List.mem_map.mp he
  exact List.forall_mem_singleton.mpr (h as x hx)

-- What is exchanged for an access is logged as one event.
theorem access_toMouse {p : Talk α} {owner : Owner} {a : Access} (h : p.Logs Exchange.ToMouse) :
    (p.report fun xs => [.access owner a xs]).Logs InitEvent.ToMouse :=
  fun as => List.forall_mem_singleton.mpr (h as)

variable {owner : Owner} {f : UInt8 → UInt8}

theorem exitCommandMode_toMouse : exitCommandMode.Logs InitEvent.ToMouse :=
  fun _ => List.forall_mem_singleton.mpr <| List.forall_mem_singleton.mpr <| toMouse_cons (by simp) (by simp)

theorem enterCommandMode_toMouse : enterCommandMode.Logs InitEvent.ToMouse :=
  talkSubmit_toMouse alpsEnterCommandMode_toMouse

theorem writeRegAt_toMouse : (writeRegAt m owner addr value).Logs InitEvent.ToMouse :=
  access_toMouse alpsWriteRegAt_toMouse

theorem checkReg_toMouse : (checkReg m owner addr).Logs InitEvent.ToMouse :=
  .bind (access_toMouse readReg_toMouse) fun _ => .pure

theorem modifyReg_toMouse : (modifyReg m owner addr f).Logs InitEvent.ToMouse := by
  refine .bind (access_toMouse readReg_toMouse) fun regVal => ?_
  cases regVal
  case none => exact .pure
  case some => exact access_toMouse writeReg_toMouse

theorem resolution_toMouse : (alpsGetV3V7Resolution m addr).Logs InitEvent.ToMouse := by
  refine .bind (access_toMouse readReg_toMouse) fun regVal => ?_
  cases regVal
  case none => exact .pure
  case some => exact .bind (access_toMouse readReg_toMouse) fun _ => .pure

theorem passthroughModeV3_toMouse : (alpsPassthroughModeV3 m regBase enable).Logs InitEvent.ToMouse := by
  refine .bind enterCommandMode_toMouse fun ok => ?_
  cases ok
  case false => exact .pure
  case true  => exact .bind modifyReg_toMouse fun _ => .bind exitCommandMode_toMouse fun _ => .pure

theorem trackstickFormat_toMouse : (setTrackstickFormat m regBase).Logs InitEvent.ToMouse := by
  have hs : (submitted (List.replicate 3 (sendMouse kDP_SetMouseScaling1To1))).Logs Exchange.ToMouse :=
    submitted_toMouse (toMouse_cons (by simp) (by simp [sendMouse]))
  refine .bind (talkSubmit_toMouse hs) fun ok => ?_
  cases ok
  case false => exact .pure
  case true  =>
    refine .bind (talkSubmit_toMouse (.andThen sendNibble_toMouse sendNibble_toMouse)) fun ok => ?_
    cases ok
    case false => exact .pure
    case true  =>
      refine .bind (.andThen (.andThen enterCommandMode_toMouse writeRegAt_toMouse) exitCommandMode_toMouse)
        fun ok => ?_
      cases ok <;> exact .pure

theorem setupTrackstick_toMouse : (setupTrackstick m regBase flags).Logs InitEvent.ToMouse := by
  simp only [setupTrackstick]
  split
  case isFalse => exact .pure
  case isTrue  =>
    refine .bind (.bind passthroughModeV3_toMouse fun ok => ?_) fun _ => .pure
    cases ok
    case false => exact .pure
    case true  =>
      refine .bind (talkSubmit_toMouse rptCmd_toMouse) fun report => .bind ?_ fun _ =>
        .bind passthroughModeV3_toMouse fun ok => ?_
      · unfold setupReported
        split
        case isTrue  => exact trackstickFormat_toMouse
        case isFalse => exact .pure
      · cases ok <;> exact .pure

theorem finishInit_toMouse {steps : List (Init Bool)} {enable : List (Talk Bool)}
    (hs : ∀ p ∈ steps, p.Logs InitEvent.ToMouse) (he : ∀ p ∈ enable, p.Logs Exchange.ToMouse) :
    (finishInit steps enable).Logs InitEvent.ToMouse := by
  refine .bind (.all hs) fun ok => ?_
  cases ok
  case false => exact .bind exitCommandMode_toMouse fun _ => .pure
  case true  =>
    refine .bind exitCommandMode_toMouse fun _ => .bind (.each fun p hp => ?_) fun _ => .pure
    obtain ⟨q, hq, rfl⟩ := List.mem_map.mp hp
    exact talkSubmit_toMouse (he q hq)

theorem hwInitSS4V2_toMouse : alpsHwInitSS4V2.Logs InitEvent.ToMouse := by
  refine .bind (.each ?_) fun _ => .pure
  simp only [List.forall_mem_cons, talkSubmit_toMouse, ps2CommandShort_toMouse, ps2Command_toMouse,
    exitCommandMode_toMouse, enterCommandMode_toMouse, writeRegAt_toMouse, true_and]
  exact List.forall_mem_nil _

theorem Protocol.hwInit_toMouse : (v.hwInit flags).Logs InitEvent.ToMouse := by
  cases v
  case v1 | v2 => exact talkSubmit_toMouse hwInitV1V2_toMouse
  case v5      => exact talkSubmit_toMouse hwInitDolphinV1_toMouse
  case v8      => exact hwInitSS4V2_toMouse
  all_goals
    refine finishInit_toMouse ?_ ?_
    · simp only [List.forall_mem_cons, setupTrackstick_toMouse, enterCommandMode_toMouse, modifyReg_toMouse,
        checkReg_toMouse, writeRegAt_toMouse, resolution_toMouse, alpsAbsoluteModeV3, alpsAbsoluteModeV4, true_and]
      exact List.forall_mem_nil _
    · simp only [List.forall_mem_cons, ps2CommandShort_toMouse, ps2Command_toMouse, true_and]
      exact List.forall_mem_nil _

theorem deviceSpecificInit_toMouse : dev.deviceSpecificInit.Logs InitEvent.ToMouse := by
  have hi : dev.hwInit.Logs InitEvent.ToMouse := by
    unfold AlpsDevice.hwInit
    split
    · exact Protocol.hwInit_toMouse
    · exact .pure
  refine .bind hi fun ok => ?_
  cases ok
  case false => exact .bind (talkSubmit_toMouse resetMouse_toMouse) fun _ => .pure
  case true  => exact .pure

theorem session_toMouse {cmds : List PowerCommand} : (session cmds).Logs InitEvent.ToMouse := by
  have hs : start.Logs InitEvent.ToMouse := by
    refine .bind (talkSubmit_toMouse (.bind resetMouse_toMouse fun _ => identify_toMouse)) fun dev => ?_
    cases dev
    case none => exact .pure
    case some => exact .bind deviceSpecificInit_toMouse fun _ => .pure
  refine .bind hs fun dev => ?_
  cases dev
  case none     => exact .pure
  case some dev =>
    refine .bind (.each fun p hp => ?_) fun _ => .pure
    obtain ⟨cmd, -, rfl⟩ := List.mem_map.mp hp
    cases cmd
    case disableDevice => exact talkSubmit_toMouse resetMouse_toMouse
    case enableDevice  => exact deviceSpecificInit_toMouse

end Init
end Touchpad
