import VoodooPS2.Touchpad.Theorems.Device

namespace Touchpad

open Controller Dialogue Device

variable {fw : Firmware} {d : Device} {s : Registers} {regs : Nat → UInt8} {as : List DeviceCommand}
  {m : CommandMode} {bytes : List UInt8} {request : List PS2Command} {owner : Owner} {addr : UInt32} {value : UInt8}

namespace Device

-- The registers are known, whichever of them is selected.
def Holds (d : Device) (regs : Nat → UInt8) : Prop :=
  ∃ nibbles, d.Ready ⟨regs, nibbles⟩

theorem Ready.holds (h : d.Ready s) : d.Holds s.regs :=
  ⟨s.nibbles, h⟩

-- No register is selected, and none is going to be.
def Idle (d : Device) (regs : Nat → UInt8) : Prop :=
  d.Ready ⟨regs, none⟩

theorem Idle.holds (h : d.Idle regs) : d.Holds regs :=
  ⟨none, h⟩

end Device

-- The bytes do not introduce an address.
def CommandMode.Passive (m : CommandMode) (bytes : List UInt8) : Prop :=
  let r := (wordDecoder DeviceCommand.all (DeviceCommand.code m)).run [] bytes
  r.1 = [] ∧ ∀ a ∈ r.2, a ≠ .address ∧ a ≠ .reset
  deriving Decidable

theorem execute_idle (h : ∀ a ∈ as, a ≠ .address ∧ a ≠ .reset) :
    as.foldl (Registers.execute · fw) ⟨regs, none⟩ = ⟨regs, none⟩ := by
  induction as
  case nil          => rfl
  case cons a as hi =>
    rw [List.forall_mem_cons] at h
    have ha : Registers.execute ⟨regs, none⟩ fw a = ⟨regs, none⟩ := by
      cases a
      case address => exact absurd rfl h.left.left
      case reset   => exact absurd rfl h.left.right
      all_goals rfl
    rw [List.foldl_cons, ha, hi h.right]

theorem Device.Idle.after (h : d.Idle regs) (hb : fw.mode.Passive bytes) : (d.after fw bytes).Idle regs := by
  have hr := Ready.after h (Prod.ext hb.left rfl : fw.mode.Decodes bytes _)
  rwa [execute_idle hb.right] at hr

section Talk

theorem submitted_idle (h : d.Idle regs) (hb : fw.mode.Passive (mouseBytes request)) :
    Achieves (answer fw) d (submitted request) fun ok d' => ok = true ∧ d'.Idle regs := by
  have hr := submitted_achieves h (Prod.ext hb.left rfl : fw.mode.Decodes (mouseBytes request) _)
  rwa [execute_idle hb.right] at hr

theorem after_recent {b : UInt8} : (d.after fw (bytes ++ [b, b, b])).recent = [b, b, b] := by
  rw [after, List.foldl_append]
  rfl

theorem rpt_achieves {b : UInt8} (hasInit : Bool) (arg : UInt8) (h : d.Ready s)
    (hd : fw.mode.Decodes ((if hasInit then [kDP_SetMouseResolution, arg] else []) ++ [b, b, b]) as) :
    let s' := as.foldl (Registers.execute · fw) s
    Achieves (answer fw) d (alpsRptCmd hasInit arg b) fun r d' =>
      r = .acknowledged (s'.selected?.getD (fw.about [b, b, b])) ∧ d'.Ready s' := by
  intro s'
  set pre := if hasInit then [kDP_SetMouseResolution, arg] else [] with hpre
  have h₁ := h.after hd
  have h₂ : ((d.after fw (pre ++ [b, b, b])).after fw [kDP_GetMouseInformation]).Ready _ :=
    h₁.after (decodes_word (show .information ∈ DeviceCommand.all by decide))
  have hr : reportRequest hasInit arg b = (pre ++ [b, b, b]).map sendMouse ++ mouseInformation := by
    cases hasInit <;> rfl
  have hm : mouseBytes (reportRequest hasInit arg b) = pre ++ [b, b, b] ++ [kDP_GetMouseInformation] := by
    cases hasInit <;> rfl
  have hi : (d.after fw (pre ++ [b, b, b])).information fw = s'.selected?.getD (fw.about [b, b, b]) := by
    rw [information, h₁.registers, after_recent]
  have hq := respond_query h₁.pending
  rw [← hr, hi] at hq
  refine ⟨_, _, submit_drives.bind .pure, ?value, ?ready⟩
  case ready =>
    rw [hm, after, List.foldl_append]
    exact h₂
  case value =>
    rw [hq]
    cases hasInit <;> rfl

-- The touchpads of version 4 take no notice of these bytes.
theorem alpsEnterCommandMode_achieves (h : d.Holds regs) :
    Achieves (answer fw) d alpsEnterCommandMode fun ok d' => ok = true ∧ d'.Holds regs := by
  obtain ⟨nibbles, h⟩ := h
  suffices hs : ∃ as nibbles', fw.mode.Decodes [kDP_MouseResetWrap, kDP_MouseResetWrap, kDP_MouseResetWrap] as ∧
      as.foldl (Registers.execute · fw) ⟨regs, nibbles⟩ = ⟨regs, nibbles'⟩ by
    obtain ⟨as, nibbles', hd, hs⟩ := hs
    refine (rpt_achieves false 0 h hd).bind fun r d' ⟨hr, h'⟩ => ?_
    exact .pure ⟨by rw [hr]; rfl, nibbles', hs ▸ h'⟩
  rcases fw.mode_cases with hm | hm
  · exact ⟨[.address, .address, .address], some [], hm ▸ by decide, rfl⟩
  · exact ⟨[], nibbles, hm ▸ by decide, rfl⟩

end Talk

section Events

variable {α : Type} {p : Talk α} {P : α → Device → Prop}

theorem access_achieves {access : Access} (hp : Achieves (answer fw) d p P) :
    Achieves (answerInit fw) d (p.report fun xs => [.access owner access xs]) P := by
  refine hp.report fun l => ?_
  rw [List.foldlM_cons]
  exact bind_pure _

theorem talkSubmit_achieves (hp : Achieves (answer fw) d p P) : Achieves (answerInit fw) d (Talk.submit p) P := by
  refine hp.report fun l => ?_
  rw [List.foldlM_map]
  congr 1
  funext d x
  exact bind_pure _

theorem exitCommandMode_achieves (h : d.Holds regs) :
    Achieves (answerInit fw) d exitCommandMode fun ok d' => ok = true ∧ d'.Idle regs := by
  obtain ⟨nibbles, h⟩ := h
  have hd : fw.mode.Decodes [kDP_SetMouseStreamMode] [.streamMode] :=
    decodes_word (show .streamMode ∈ DeviceCommand.all by decide)
  have hs : answerInit fw d .exitCommandMode = some (d.after fw [kDP_SetMouseStreamMode]) := rfl
  have hl : [InitEvent.exitCommandMode].foldlM (answerInit fw) d = some (d.after fw [kDP_SetMouseStreamMode]) := by
    rw [List.foldlM_cons, hs]
    rfl
  refine ⟨true, d.after fw [kDP_SetMouseStreamMode], ⟨fun as => ?_, fun as e he => ?_⟩, rfl, h.after hd⟩
  · exact ⟨fun n => n.casesOn {} as, _, rfl, hl⟩
  · exact ⟨rfl, Option.some.inj (he.symm.trans hl)⟩

end Events

section Access

theorem enterCommandMode_achieves (h : d.Holds regs) :
    Achieves (answerInit fw) d enterCommandMode fun ok d' => ok = true ∧ d'.Holds regs :=
  talkSubmit_achieves (alpsEnterCommandMode_achieves h)

theorem readReg_holds (h : d.Holds regs) (ha : addr.toNat < 2 ^ 16) :
    Achieves (answerInit fw) d (readReg fw.mode owner addr) fun regVal d' =>
      regVal = some (regs addr.toNat) ∧ d'.Ready (Registers.select ⟨regs, none⟩ addr) := by
  obtain ⟨nibbles, h⟩ := h
  exact access_achieves (readReg_achieves h ha)

theorem checkReg_holds (h : d.Holds regs) (ha : addr.toNat < 2 ^ 16) :
    Achieves (answerInit fw) d (checkReg fw.mode owner addr) fun ok d' => ok = true ∧ d'.Holds regs :=
  (readReg_holds h ha).bind fun _ _ ⟨hv, hr⟩ => .pure ⟨hv ▸ rfl, hr.holds⟩

theorem writeRegAt_holds (h : d.Holds regs) (ha : addr.toNat < 2 ^ 16) :
    Achieves (answerInit fw) d (writeRegAt fw.mode owner addr value) fun ok d' =>
      ok = true ∧ d'.Holds (Change.apply regs (addr.toNat, fun _ => value)) := by
  obtain ⟨nibbles, h⟩ := h
  exact (access_achieves (writeRegAt_achieves h ha)).mono fun _ _ ⟨ho, hr⟩ => ⟨ho, hr.holds⟩

theorem modifyReg_holds {f : UInt8 → UInt8} (h : d.Holds regs) (ha : addr.toNat < 2 ^ 16) :
    Achieves (answerInit fw) d (modifyReg fw.mode owner addr f) fun ok d' =>
      ok = true ∧ d'.Holds (Change.apply regs (addr.toNat, f)) := by
  refine (readReg_holds h ha).bind ?_
  rintro _ d' ⟨rfl, h'⟩
  exact (access_achieves (writeReg_achieves h' ha)).mono fun _ _ ⟨ho, hr⟩ => ⟨ho, hr.holds⟩

end Access

section Trackstick

variable {regBase : UInt32} {flags : UInt32} {enable : Bool}

theorem alpsPassthroughModeV3_achieves (h : d.Holds regs) (ha : (regBase + 0x0008).toNat < 2 ^ 16) :
    Achieves (answerInit fw) d (alpsPassthroughModeV3 fw.mode regBase enable) fun ok d' => ok = true ∧
      d'.Idle (Change.apply regs ((regBase + 0x0008).toNat, fun regVal =>
        if enable then regVal ||| 0x01 else regVal &&& ~~~0x01)) := by
  refine (enterCommandMode_achieves h).bind ?_
  rintro _ d₁ ⟨rfl, h₁⟩
  refine (modifyReg_holds h₁ ha).bind ?_
  rintro _ d₂ ⟨rfl, h₂⟩
  exact (exitCommandMode_achieves h₂).bind fun _ _ ⟨_, h₃⟩ => .pure ⟨rfl, h₃⟩

theorem setTrackstickFormat_achieves (h : d.Idle regs) (ha : (regBase + 0x0008).toNat < 2 ^ 16) :
    Achieves (answerInit fw) d (setTrackstickFormat fw.mode regBase) fun ret d' => ret = .success ∧
      d'.Idle (Change.apply regs ((regBase + 0x0008).toNat, fun _ => 0x82)) := by
  have hb : fw.mode.Passive (mouseBytes (List.replicate 3 (sendMouse kDP_SetMouseScaling1To1))) := by
    rcases fw.mode_cases with hm | hm <;> rw [hm] <;> decide
  refine (talkSubmit_achieves (submitted_idle h hb)).bind ?_
  rintro _ d₁ ⟨rfl, h₁⟩
  refine (talkSubmit_achieves ((sendNibble_achieves h₁ (show UInt32.toNat 9 < 16 by decide)).andThen fun _ h₂ =>
    sendNibble_achieves h₂ (show UInt32.toNat 4 < 16 by decide))).bind ?_
  rintro _ d₂ ⟨rfl, h₂⟩
  have hw : Achieves (answerInit fw) d₂ ((enterCommandMode.andThen
      (writeRegAt fw.mode .trackstick (regBase + 0x0008) 0x82)).andThen exitCommandMode) fun ok d' => ok = true ∧
        d'.Idle (Change.apply regs ((regBase + 0x0008).toNat, fun _ => 0x82)) :=
    ((enterCommandMode_achieves ⟨_, h₂⟩).andThen fun _ h => writeRegAt_holds h ha).andThen fun _ h =>
      exitCommandMode_achieves h
  refine hw.bind ?_
  rintro _ d₃ ⟨rfl, h₃⟩
  exact .pure ⟨rfl, h₃⟩

-- The pass-through mode is off at the end.
theorem alpsSetupTrackstickV3_achieves (h : d.Holds regs) (ha : (regBase + 0x0008).toNat < 2 ^ 16) :
    Achieves (answerInit fw) d (alpsSetupTrackstickV3 fw.mode regBase) fun ret d' => ret = .success ∧
      d'.Idle (Change.apply regs ((regBase + 0x0008).toNat, fun _ => 0x82)) := by
  refine (alpsPassthroughModeV3_achieves h ha).bind ?_
  rintro _ d₁ ⟨rfl, h₁⟩
  have hd : fw.mode.Decodes [kDP_SetMouseScaling2To1, kDP_SetMouseScaling2To1, kDP_SetMouseScaling2To1]
      [.nibble 2, .nibble 2, .nibble 2] := by
    rcases fw.mode_cases with hm | hm <;> rw [hm] <;> decide
  refine (talkSubmit_achieves (rpt_achieves false 0 h₁ hd)).bind ?_
  rintro _ d₂ ⟨rfl, h₂⟩
  refine (setTrackstickFormat_achieves h₂ ha).bind ?_
  rintro _ d₃ ⟨rfl, h₃⟩
  refine (alpsPassthroughModeV3_achieves h₃.holds ha).bind ?_
  rintro _ d₄ ⟨rfl, h₄⟩
  refine .pure ⟨rfl, ?_⟩
  simpa [Change.apply, show (0x82 : UInt8) &&& ~~~0x01 = 0x82 from rfl] using h₄

theorem setupTrackstick_holds (h : d.Holds regs) (ha : regBase.toNat + 8 < 2 ^ 16) :
    Achieves (answerInit fw) d (setupTrackstick fw.mode regBase flags) fun ok d' => ok = true ∧
      d'.Holds ((trackstickChanges regBase.toNat flags).foldl Change.apply regs) := by
  have hb : (regBase + 0x0008).toNat = regBase.toNat + 8 := by
    rw [UInt32.toNat_add]
    exact Nat.mod_eq_of_lt (ha.trans (by decide))
  unfold setupTrackstick trackstickChanges
  split
  case isTrue =>
    refine (alpsSetupTrackstickV3_achieves h (hb ▸ ha)).bind ?_
    rintro _ d' ⟨rfl, h'⟩
    exact .pure ⟨rfl, hb ▸ h'.holds⟩
  case isFalse => exact .pure ⟨rfl, h⟩

end Trackstick

section HwInit

variable {flags regBase : UInt32} {f : UInt8 → UInt8} {ps : List (Init Bool)} {cs : List (List Change)}
  {requests : List (List PS2Command)}

-- The step succeeds, and it makes these changes.
def Performs (fw : Firmware) (p : Init Bool) (cs : List Change) : Prop :=
  ∀ d regs, Device.Holds d regs → Achieves (answerInit fw) d p fun ok d' =>
    ok = true ∧ d'.Holds (cs.foldl Change.apply regs)

namespace Performs

theorem enter : Performs fw enterCommandMode [] :=
  fun _ _ h => enterCommandMode_achieves h

theorem check (hm : fw.mode = m) (ha : addr.toNat < 2 ^ 16) : Performs fw (checkReg m owner addr) [] :=
  fun _ _ h => hm ▸ checkReg_holds h ha

theorem write (hm : fw.mode = m) (ha : addr.toNat < 2 ^ 16) :
    Performs fw (writeRegAt m owner addr value) [(addr.toNat, fun _ => value)] :=
  fun _ _ h => hm ▸ writeRegAt_holds h ha

theorem modify (hm : fw.mode = m) (ha : addr.toNat < 2 ^ 16) :
    Performs fw (modifyReg m owner addr f) [(addr.toNat, f)] :=
  fun _ _ h => hm ▸ modifyReg_holds h ha

theorem trackstick (hm : fw.mode = m) (ha : regBase.toNat + 8 < 2 ^ 16) :
    Performs fw (setupTrackstick m regBase flags) (trackstickChanges regBase.toNat flags) :=
  fun _ _ h => hm ▸ setupTrackstick_holds h ha

theorem resolution (hm : fw.mode = m) (ha : addr.toNat < 2 ^ 16) (ha' : (addr + 1).toNat < 2 ^ 16) :
    Performs fw (alpsGetV3V7Resolution m addr) [] := by
  intro d regs h
  subst hm
  refine (readReg_holds h ha).bind ?_
  rintro _ d₁ ⟨rfl, h₁⟩
  exact (readReg_holds h₁.holds ha').bind fun _ _ ⟨_, h₂⟩ => .pure ⟨rfl, h₂.holds⟩

end Performs

theorem each_submitted_idle (fw : Firmware) (requests : List (List PS2Command)) (h : d.Idle regs)
    (he : ∀ r ∈ requests, fw.mode.Passive (mouseBytes r)) :
    Achieves (answer fw) d (Dialogue.each (requests.map submitted)) fun _ d' => d'.Idle regs :=
  Achieves.each (fun r hr _ h => (submitted_idle h (he r hr)).mono fun _ _ => And.right) h

theorem submit_idle {request : List PS2Command} (h : d.Idle regs) (hb : fw.mode.Passive (mouseBytes request)) :
    Achieves (answerInit fw) d (Talk.submit (submitted request)) fun _ d' => d'.Idle regs :=
  (talkSubmit_achieves (submitted_idle h hb)).mono fun _ _ => And.right

theorem finishInit_achieves (requests : List (List PS2Command)) (h : d.Holds regs)
    (hs : List.Forall₂ (Performs fw) ps cs) (he : ∀ r ∈ requests, fw.mode.Passive (mouseBytes r)) :
    Achieves (answerInit fw) d (finishInit ps (requests.map submitted)) fun ok d' =>
      ok = true ∧ d'.Idle (cs.flatten.foldl Change.apply regs) := by
  rw [List.foldl_flatten]
  refine (Achieves.all (R := Device.Holds) (t := fun regs (cs : List Change) => cs.foldl Change.apply regs)
    hs h).bind ?_
  rintro _ d₁ ⟨rfl, h₁⟩
  refine (exitCommandMode_achieves h₁).bind fun _ d₂ ⟨_, h₂⟩ => ?_
  rw [List.map_map]
  exact (Achieves.each (fun r hr _ h => submit_idle h (he r hr)) h₂).bind fun _ _ h₃ => .pure ⟨rfl, h₃⟩

theorem alpsHwInitV3_achieves (hm : fw.mode = .v3) (h : d.Holds regs) :
    Achieves (answerInit fw) d (alpsHwInitV3 flags) fun ok d' =>
      ok = true ∧ d'.Idle (Protocol.v3.configured flags regs) := by
  refine (finishInit_achieves [[sendMouse kDP_SetMouseSampleRate, sendMouse 0x28], [sendMouse kDP_Enable]] h
    (.cons (.trackstick hm (by decide)) <| .cons .enter <| .cons (.modify hm (by decide)) <|
      .cons (.modify hm (by decide)) <| .cons (.modify hm (by decide)) <| .cons (.modify hm (by decide)) <|
      .cons (.modify hm (by decide)) <| .cons (.check hm (by decide)) <| .cons (.write hm (by decide)) <|
      .cons (.check hm (by decide)) <| .cons (.write hm (by decide)) .nil) (hm ▸ by decide)).mono
    fun _ _ ⟨ho, hr⟩ => ⟨ho, ?_⟩
  simpa [Protocol.configured, Protocol.changes] using hr

theorem alpsHwInitRushmoreV3_achieves (hm : fw.mode = .v3) (h : d.Holds regs) :
    Achieves (answerInit fw) d (alpsHwInitRushmoreV3 flags) fun ok d' =>
      ok = true ∧ d'.Idle (Protocol.v3Rushmore.configured flags regs) := by
  refine (finishInit_achieves [[sendMouse kDP_Enable]] h
    (.cons (.trackstick hm (by decide)) <| .cons .enter <| .cons (.check hm (by decide)) <|
      .cons (.write hm (by decide)) <| .cons (.modify hm (by decide)) <| .cons (.write hm (by decide)) <|
      .cons (.modify hm (by decide)) .nil) (hm ▸ by decide)).mono fun _ _ ⟨ho, hr⟩ => ⟨ho, ?_⟩
  simpa [Protocol.configured, Protocol.changes, show alpsRegBaseRushmore.toNat = 0xc2c0 from rfl] using hr

theorem alpsHwInitV4_achieves (hm : fw.mode = .v4) (h : d.Holds regs) :
    Achieves (answerInit fw) d alpsHwInitV4 fun ok d' =>
      ok = true ∧ d'.Idle (Protocol.v4.configured flags regs) := by
  refine (finishInit_achieves [[sendMouse kDP_SetMouseSampleRate, sendMouse 0xc8],
    [sendMouse kDP_SetMouseSampleRate, sendMouse 0x64], [sendMouse kDP_SetMouseSampleRate, sendMouse 0x50],
    [sendMouse kDP_GetId], [sendMouse kDP_SetMouseSampleRate, sendMouse 0x64], [sendMouse kDP_Enable]] h
    (.cons .enter <| .cons (.modify hm (by decide)) <| .cons (.write hm (by decide)) <|
      .cons (.write hm (by decide)) <| .cons (.write hm (by decide)) <| .cons (.write hm (by decide)) <|
      .cons (.write hm (by decide)) <| .cons (.write hm (by decide)) <| .cons (.write hm (by decide)) <|
      .cons (.write hm (by decide)) .nil) (hm ▸ by decide)).mono fun _ _ ⟨ho, hr⟩ => ⟨ho, ?_⟩
  simpa [Protocol.configured, Protocol.changes] using hr

theorem alpsHwInitV7_achieves (hm : fw.mode = .v3) (h : d.Holds regs) :
    Achieves (answerInit fw) d alpsHwInitV7 fun ok d' =>
      ok = true ∧ d'.Idle (Protocol.v7.configured flags regs) := by
  refine (finishInit_achieves [[sendMouse kDP_SetMouseSampleRate, sendMouse 0x28], [sendMouse kDP_Enable]] h
    (.cons .enter <| .cons (.check hm (by decide)) <| .cons (.resolution hm (by decide) (by decide)) <|
      .cons (.write hm (by decide)) <| .cons (.modify hm (by decide)) .nil) (hm ▸ by decide)).mono
    fun _ _ ⟨ho, hr⟩ => ⟨ho, ?_⟩
  simpa [Protocol.configured, Protocol.changes] using hr

theorem alpsHwInitSS4V2_achieves (hm : fw.mode = .v3) (h : d.Idle regs) :
    Achieves (answerInit fw) d alpsHwInitSS4V2 fun ok d' =>
      ok = true ∧ d'.Idle (Protocol.v8.configured flags regs) := by
  refine Achieves.bind ?_ fun _ _ h => .pure ⟨rfl, h⟩
  refine (submit_idle h (hm ▸ by decide)).bind fun _ _ h => ?_
  refine (submit_idle h (hm ▸ by decide)).bind fun _ _ h => ?_
  refine (submit_idle h (hm ▸ by decide)).bind fun _ _ h => ?_
  refine (submit_idle h (hm ▸ by decide)).bind fun _ _ h => ?_
  refine (exitCommandMode_achieves h.holds).bind fun _ _ ⟨_, h⟩ => ?_
  refine (enterCommandMode_achieves h.holds).bind fun _ _ ⟨_, h⟩ => ?_
  refine (Performs.write hm (by decide) _ _ h).bind fun _ _ ⟨_, h⟩ => ?_
  refine (exitCommandMode_achieves h).bind fun _ _ ⟨_, h⟩ => ?_
  exact (submit_idle h (hm ▸ by decide)).bind fun _ _ h => .pure h

theorem alpsHwInitDolphinV1_achieves (hm : fw.mode = .v3) (h : d.Idle regs) :
    Achieves (answer fw) d alpsHwInitDolphinV1 fun ok d' => ok = true ∧ d'.Idle regs := by
  have hr := each_submitted_idle fw [[sendMouse kDP_SetMouseStreamMode],
    [sendMouse kDP_SetMouseSampleRate, sendMouse 0x64], [sendMouse kDP_SetMouseSampleRate, sendMouse 0x28],
    [sendMouse kDP_Enable]] h (hm ▸ by decide)
  exact hr.bind fun _ _ h => .pure ⟨rfl, h⟩

theorem alpsPassthroughModeV2_achieves {enable : Bool} (hm : fw.mode = .v3) (h : d.Idle regs) :
    Achieves (answer fw) d (alpsPassthroughModeV2 enable) fun ok d' => ok = true ∧ d'.Idle regs := by
  cases enable
  all_goals exact submitted_idle h (hm ▸ by decide)

theorem alpsTapMode_achieves {enable : Bool} (hm : fw.mode = .v3) (h : d.Idle regs) :
    Achieves (answer fw) d (alpsTapMode enable) fun ok d' => ok = true ∧ d'.Idle regs := by
  have ht : Achieves (answer fw) d (submitted (mouseInformation ++ [sendMouse kDP_SetDefaultsAndDisable,
      sendMouse kDP_SetDefaultsAndDisable,
      sendMouse (if enable then kDP_SetMouseSampleRate else kDP_SetMouseResolution),
      sendMouse (if enable then 0x0a else 0x00)])) fun ok d' => ok = true ∧ d'.Idle regs := by
    cases enable
    all_goals exact submitted_idle h (hm ▸ by decide)
  refine ht.bind ?_
  rintro _ d₁ ⟨rfl, h₁⟩
  have hd : fw.mode.Decodes [kDP_SetDefaultsAndDisable, kDP_SetDefaultsAndDisable, kDP_SetDefaultsAndDisable] [] :=
    hm ▸ by decide
  exact (rpt_achieves false 0 h₁ hd).bind fun r _ ⟨hr, h₂⟩ => .pure ⟨by rw [hr]; rfl, h₂⟩

theorem alpsAbsoluteModeV1V2_achieves (hm : fw.mode = .v3) (h : d.Idle regs) :
    Achieves (answer fw) d alpsAbsoluteModeV1V2 fun ok d' => ok = true ∧ d'.Idle regs := by
  have hr := each_submitted_idle fw [[sendMouse kDP_SetDefaultsAndDisable], [sendMouse kDP_SetDefaultsAndDisable],
    [sendMouse kDP_SetDefaultsAndDisable], [sendMouse kDP_SetDefaultsAndDisable], [sendMouse kDP_Enable],
    [sendMouse kDP_MouseSetPoll]] h (hm ▸ by decide)
  exact hr.bind fun _ _ h => .pure ⟨rfl, h⟩

theorem alpsHwInitV1V2_achieves (hm : fw.mode = .v3) (h : d.Idle regs) :
    Achieves (answer fw) d (alpsHwInitV1V2 flags) fun ok d' => ok = true ∧ d'.Idle regs := by
  have hp (enable d) (h : Device.Idle d regs) : Achieves (answer fw) d
      (if flags &&& alpsPass ≠ 0 then alpsPassthroughModeV2 enable else pure true) fun ok d' =>
        ok = true ∧ d'.Idle regs := by
    split
    · exact alpsPassthroughModeV2_achieves hm h
    · exact .pure ⟨rfl, h⟩
  have ha : Achieves (answer fw) d (Dialogue.all [_, alpsTapMode true, alpsAbsoluteModeV1V2, _]) fun ok d' =>
      ok = true ∧ d'.Idle regs :=
    (hp true d h).andThen fun _ h => (alpsTapMode_achieves hm h).andThen fun _ h =>
      (alpsAbsoluteModeV1V2_achieves hm h).andThen fun _ h => (hp false _ h).andThen fun _ h => .pure ⟨rfl, h⟩
  refine ha.bind ?_
  rintro _ d₁ ⟨rfl, h₁⟩
  exact (submitted_idle h₁ (hm ▸ by decide)).bind fun _ _ ⟨_, h₂⟩ => .pure ⟨rfl, h₂⟩

-- Each of the routines sets the registers that its touchpads need, and leaves all others alone.
theorem hwInit_achieves {v : Protocol} (hm : fw.mode = v.mode) (h : d.Idle regs) :
    Achieves (answerInit fw) d (v.hwInit flags) fun ok d' =>
      ok = true ∧ d'.Idle (v.configured flags regs) := by
  cases v
  case v1         => exact talkSubmit_achieves (alpsHwInitV1V2_achieves hm h)
  case v2         => exact talkSubmit_achieves (alpsHwInitV1V2_achieves hm h)
  case v3         => exact alpsHwInitV3_achieves hm h.holds
  case v3Rushmore => exact alpsHwInitRushmoreV3_achieves hm h.holds
  case v4         => exact alpsHwInitV4_achieves hm h.holds
  case v5         => exact talkSubmit_achieves (alpsHwInitDolphinV1_achieves hm h)
  case v7         => exact alpsHwInitV7_achieves hm h.holds
  case v8         => exact alpsHwInitSS4V2_achieves hm h

end HwInit

section Identify

theorem resetMouse_achieves (h : d.pending = []) :
    Achieves (answer fw) d resetMouse fun ok d' => ok = true ∧ d'.Idle fw.defaults := by
  have hd : fw.mode.Decodes [kDP_Reset] [.reset] := decodes_word (show .reset ∈ DeviceCommand.all by decide)
  have hr : ((respond (receive fw)).run (d, []) [sendMouse kDP_Reset, readByte, readByte]).2 =
      [0, kSC_Reset, kSC_ID] := by
    simp only [Mealy.run, respond, sendMouse, readByte, receive_reset h]
    rfl
  refine ⟨_, _, submit_drives.bind .pure, ?value, ?ready⟩
  case value =>
    rw [hr]
    rfl
  case ready => exact Ready.after ⟨h, rfl⟩ hd

theorem alpsExitCommandMode_achieves (h : d.Holds regs) :
    Achieves (answer fw) d alpsExitCommandMode fun _ d' => d'.Idle regs := by
  obtain ⟨nibbles, h⟩ := h
  have hd : fw.mode.Decodes (mouseBytes [sendMouse kDP_SetMouseStreamMode]) [.streamMode] :=
    decodes_word (show .streamMode ∈ DeviceCommand.all by decide)
  exact (submitted_achieves h hd).bind fun _ _ ⟨_, h'⟩ => .pure h'

theorem alpsProbeTrackstickV3V7_achieves {regBase : UInt32} (hm : fw.mode = m) (h : d.Holds regs)
    (ha : regBase.toNat + 8 < 2 ^ 16) : Achieves (answer fw) d (alpsProbeTrackstickV3V7 m regBase) fun ok d' =>
      ok = decide (regs (regBase.toNat + 8) &&& 0x80 = 0) ∧ d'.Idle regs := by
  subst hm
  have hb : (regBase + 0x08).toNat = regBase.toNat + 8 := by
    rw [UInt32.toNat_add]
    exact Nat.mod_eq_of_lt (ha.trans (by decide))
  refine (alpsEnterCommandMode_achieves h).bind ?_
  rintro _ d₁ ⟨rfl, nibbles, h₁⟩
  refine (readReg_achieves h₁ (hb ▸ ha)).bind ?_
  rintro _ d₂ ⟨rfl, h₂⟩
  refine (alpsExitCommandMode_achieves h₂.holds).bind fun _ d₃ h₃ => .pure ⟨?_, h₃⟩
  rw [hb]
  rfl

-- The bytes of the query are the address of a register.
theorem alpsDolphinGetDeviceArea_achieves (hm : fw.mode = .v3) (h : d.Holds regs) :
    Achieves (answer fw) d alpsDolphinGetDeviceArea fun status d' => status = regs 0x0033 ∧ d'.Idle regs := by
  refine (alpsEnterCommandMode_achieves h).bind fun _ _ ⟨_, _, h⟩ => ?_
  refine (submitted_achieves h (hm ▸ by decide : fw.mode.Decodes _ [.address])).bind fun _ _ ⟨_, h⟩ => ?_
  refine (submitted_achieves h (hm ▸ by decide : fw.mode.Decodes _ [.nibble 0])).bind fun _ _ ⟨_, h⟩ => ?_
  refine (submitted_achieves h (hm ▸ by decide : fw.mode.Decodes _ [.nibble 0])).bind fun _ _ ⟨_, h⟩ => ?_
  refine (submitted_achieves h (hm ▸ by decide : fw.mode.Decodes _ [.nibble 3])).bind fun _ _ ⟨_, h⟩ => ?_
  refine (submitted_achieves h (hm ▸ by decide : fw.mode.Decodes _ [.nibble 3])).bind fun _ d' ⟨_, h⟩ => ?_
  have h : d'.Ready (Registers.select ⟨regs, none⟩ 0x0033) := h
  refine (information_achieves h (by decide)).bind fun x _ ⟨_, _, hx, h⟩ => ?_
  exact (alpsExitCommandMode_achieves h.holds).bind fun _ _ h => .pure ⟨hx, h⟩

theorem alpsGetOtpValuesSS4V2_achieves {command : UInt8} (hb : fw.mode.Passive [command]) (h : d.Idle regs) :
    Achieves (answer fw) d (alpsGetOtpValuesSS4V2 command) fun _ d' => d'.Idle regs := by
  have hi : fw.mode.Passive (mouseBytes mouseInformation) := by
    rcases fw.mode_cases with hm | hm <;> rw [hm] <;> decide
  refine (submitted_idle h hb).bind fun _ _ ⟨_, h⟩ => ?_
  refine (submitted_idle h hb).bind fun _ _ ⟨_, h⟩ => ?_
  exact (submit_achieves (P := fun _ d' => d'.Idle regs) (h.after hi)).bind fun _ _ h => .pure h

theorem querySetProtocol_achieves {v : Protocol} {fwVer : UInt8} (hm : fw.mode = v.mode) (h : d.Idle regs) :
    Achieves (answer fw) d (querySetProtocol v fwVer) fun dev d' => dev = v.described fwVer regs ∧ d'.Idle regs := by
  cases v
  case v3 =>
    exact (alpsProbeTrackstickV3V7_achieves hm h.holds (by decide)).bind fun _ _ ⟨ho, h⟩ =>
      .pure ⟨by rw [ho]; rfl, h⟩
  case v3Rushmore =>
    exact (alpsProbeTrackstickV3V7_achieves hm h.holds (by decide)).bind fun _ _ ⟨ho, h⟩ =>
      .pure ⟨by rw [ho]; rfl, h⟩
  case v5 =>
    exact (alpsDolphinGetDeviceArea_achieves hm h.holds).bind fun _ _ ⟨ho, h⟩ => .pure ⟨by rw [ho]; rfl, h⟩
  case v7 =>
    exact (alpsProbeTrackstickV3V7_achieves hm h.holds (by decide)).bind fun _ _ ⟨ho, h⟩ =>
      .pure ⟨by rw [ho]; rfl, h⟩
  case v8 =>
    have ho : Achieves (answer fw) d alpsSetDefaultsSS4V2 fun _ d' => d'.Idle regs :=
      (alpsGetOtpValuesSS4V2_achieves (hm ▸ by decide) h).bind fun _ _ h =>
        alpsGetOtpValuesSS4V2_achieves (hm ▸ by decide) h
    exact ho.bind fun _ _ h => .pure ⟨rfl, h⟩
  all_goals exact .pure ⟨rfl, h⟩

theorem mode_of_matchTable {model : AlpsModelInfo}
    (h : matchTable (fw.report kDP_SetMouseScaling2To1) (fw.report kDP_MouseResetWrap) = some model) :
    fw.mode = model.protoVersion.mode := by
  simp [Firmware.mode, Firmware.protocol?, h]

theorem mode_of_matchReports {v : Protocol}
    (h : matchTable (fw.report kDP_SetMouseScaling2To1) (fw.report kDP_MouseResetWrap) = none)
    (h' : matchReports (fw.report kDP_SetMouseScaling2To1) (fw.report kDP_MouseResetWrap) = some v) :
    fw.mode = v.mode := by
  simp [Firmware.mode, Firmware.protocol?, h, h']

theorem installReported_achieves (h : d.Idle regs) : Achieves (answer fw) d
    (installReported (fw.report kDP_SetMouseScaling2To1) (fw.report kDP_MouseResetWrap)) fun dev d' =>
      dev = fw.identified? regs ∧ d'.Idle regs := by
  unfold installReported Firmware.identified?
  split
  case h_1 model hm =>
    have hi : Achieves (answer fw) d model.install fun dev d' =>
        dev = model.override (model.protoVersion.described 0 regs) ∧ d'.Idle regs :=
      (querySetProtocol_achieves (mode_of_matchTable hm) h).bind fun _ _ ⟨ho, h⟩ => .pure ⟨by rw [ho], h⟩
    simp only [hm]
    exact hi.bind fun _ _ ⟨ho, h⟩ => .pure ⟨by rw [ho], h⟩
  case h_2 hm =>
    simp only [hm]
    split
    case h_1 v hv =>
      exact (querySetProtocol_achieves (mode_of_matchReports hm hv) h).bind fun _ _ ⟨ho, h⟩ =>
        .pure ⟨by rw [ho, hv]; rfl, h⟩
    case h_2 hv => exact .pure ⟨by rw [hv]; rfl, h⟩

theorem identify_achieves (h : d.Idle regs) :
    Achieves (answer fw) d identify fun dev d' => dev = fw.identified? regs ∧ d'.Idle regs := by
  have hb (b : UInt8) (n : Nat) (hn : b = kDP_SetMouseScaling1To1 ∧ n = 15 ∨ b = kDP_SetMouseScaling2To1 ∧ n = 2) :
      fw.mode.Decodes [kDP_SetMouseResolution, 0, b, b, b] [.nibble 11, .nibble n, .nibble n, .nibble n] := by
    rcases fw.mode_cases with hm | hm <;> rcases hn with ⟨rfl, rfl⟩ | ⟨rfl, rfl⟩ <;> rw [hm] <;> decide
  refine (rpt_achieves true 0 h (hb _ _ (.inl ⟨rfl, rfl⟩))).bind fun _ _ ⟨_, h⟩ => ?_
  refine (rpt_achieves true 0 h (hb _ _ (.inr ⟨rfl, rfl⟩))).bind ?_
  rintro _ d₂ ⟨rfl, h⟩
  have he : Achieves (answer fw) d₂ (alpsRptCmd true 0 kDP_MouseResetWrap) fun r d' =>
      r = fw.report kDP_MouseResetWrap ∧ d'.Holds regs := by
    rcases fw.mode_cases with hm | hm
    · exact (rpt_achieves true 0 h (hm ▸ by decide :
        fw.mode.Decodes _ [.nibble 11, .address, .address, .address])).mono fun _ _ ⟨hr, h⟩ => ⟨hr, _, h⟩
    · exact (rpt_achieves true 0 h (hm ▸ by decide : fw.mode.Decodes _ [.nibble 11])).mono
        fun _ _ ⟨hr, h⟩ => ⟨hr, _, h⟩
  refine he.bind ?_
  rintro _ d₃ ⟨rfl, h⟩
  exact (alpsExitCommandMode_achieves h).bind fun _ _ h => installReported_achieves h

end Identify

section Session

variable {v : Protocol} {dev : AlpsDevice}

theorem find?_version : Protocol.all.find? (·.version = v.version) = some v := by
  cases v <;> decide

theorem described_protoVersion {fwVer : UInt8} : (v.described fwVer regs).protoVersion = v.version := by
  cases v
  case v7 =>
    simp only [Protocol.described, setProtocol, AlpsDevice.clearDualpoint]
    split <;> split <;> rfl
  case v3 | v3Rushmore | v8 =>
    simp only [Protocol.described, setProtocol, AlpsDevice.clearDualpoint]
    split <;> rfl
  all_goals rfl

-- The touchpad is of a version in whose way its registers are accessed.
def Firmware.Runs (fw : Firmware) (dev : AlpsDevice) : Prop :=
  ∃ v, dev.protoVersion = Protocol.version v ∧ fw.mode = v.mode

theorem identified?_runs (h : fw.identified? regs = some dev) : fw.Runs dev := by
  unfold Firmware.identified? at h
  dsimp only at h
  split at h
  case h_1 model hm =>
    obtain rfl := Option.some.inj h
    exact ⟨model.protoVersion, described_protoVersion, mode_of_matchTable hm⟩
  case h_2 hm =>
    obtain ⟨v, hv, rfl⟩ := Option.map_eq_some_iff.mp h
    exact ⟨v, described_protoVersion, mode_of_matchReports hm hv⟩

theorem deviceSpecificInit_achieves (hr : fw.Runs dev) (h : d.Idle regs) :
    Achieves (answerInit fw) d dev.deviceSpecificInit fun ok d' => ok = true ∧ d'.Idle (dev.configured regs) := by
  obtain ⟨v, hv, hm⟩ := hr
  have hi : Achieves (answerInit fw) d dev.hwInit fun ok d' => ok = true ∧ d'.Idle (dev.configured regs) := by
    rw [AlpsDevice.hwInit, AlpsDevice.configured, hv, find?_version]
    exact hwInit_achieves hm h
  refine hi.bind ?_
  rintro _ d' ⟨rfl, h'⟩
  exact .pure ⟨rfl, h'⟩

section Changes

variable {cs : List Change} {a : Nat} {c : Change}

theorem foldl_apply_of_notMem (h : a ∉ cs.map Prod.fst) : cs.foldl Change.apply regs a = regs a := by
  induction cs generalizing regs
  case nil           => rfl
  case cons c' cs hi =>
    rw [List.map_cons, List.mem_cons, not_or] at h
    rw [List.foldl_cons, hi h.right, Change.apply, Function.update_of_ne h.left]

-- No register is changed twice.
theorem foldl_apply_of_mem (hn : (cs.map Prod.fst).Nodup) (h : c ∈ cs) :
    cs.foldl Change.apply regs c.1 = c.2 (regs c.1) := by
  induction cs generalizing regs
  case nil           => simp at h
  case cons c' cs hi =>
    rw [List.map_cons, List.nodup_cons] at hn
    rw [List.foldl_cons]
    rcases List.mem_cons.mp h with rfl | hc
    · rw [foldl_apply_of_notMem hn.left, Change.apply, Function.update_self]
    · have hne : c.1 ≠ c'.1 := fun he => hn.left (he ▸ List.mem_map_of_mem hc)
      rw [hi hn.right hc, Change.apply, Function.update_of_ne hne]

-- It makes no difference whether the changes are made once or again.
theorem foldl_apply_idem (hn : (cs.map Prod.fst).Nodup) (hf : ∀ c ∈ cs, ∀ x, c.2 (c.2 x) = c.2 x) :
    cs.foldl Change.apply (cs.foldl Change.apply regs) = cs.foldl Change.apply regs := by
  funext a
  by_cases ha : a ∈ cs.map Prod.fst
  case neg => rw [foldl_apply_of_notMem ha]
  case pos =>
    obtain ⟨c, hc, rfl⟩ := List.mem_map.mp ha
    rw [foldl_apply_of_mem hn hc, foldl_apply_of_mem hn hc, hf c hc]

theorem changes_nodup {flags : UInt32} : ((v.changes flags).map Prod.fst).Nodup := by
  cases v
  case v3 | v3Rushmore =>
    simp only [Protocol.changes, trackstickChanges]
    split <;> decide
  all_goals
    simp only [Protocol.changes]
    decide

theorem changes_idem {flags : UInt32} (h : c ∈ v.changes flags) (x : UInt8) : c.2 (c.2 x) = c.2 x := by
  revert c
  cases v
  case v3 | v3Rushmore =>
    simp only [Protocol.changes, trackstickChanges]
    split <;> simp [UInt8.or_assoc, UInt8.and_assoc]
  all_goals simp [Protocol.changes, UInt8.or_assoc]

theorem AlpsDevice.configured_idem : dev.configured (dev.configured regs) = dev.configured regs := by
  unfold AlpsDevice.configured
  cases Protocol.all.find? (·.version = dev.protoVersion)
  case none   => rfl
  case some v => exact foldl_apply_idem changes_nodup fun c hc => changes_idem hc

end Changes

theorem start_achieves (h : d.pending = []) : Achieves (answerInit fw) d start fun dev d' =>
    dev = fw.identified? fw.defaults ∧ d'.Idle (dev.elim fw.defaults (·.configured fw.defaults)) := by
  have hp : Achieves (answerInit fw) d (Talk.submit AlpsDevice.probe) fun dev d' =>
      dev = fw.identified? fw.defaults ∧ d'.Idle fw.defaults :=
    talkSubmit_achieves ((resetMouse_achieves h).bind fun _ _ ⟨_, h⟩ => identify_achieves h)
  refine hp.bind ?_
  rintro dev d₁ ⟨hd, h₁⟩
  cases dev
  case none     => exact .pure ⟨hd, h₁⟩
  case some dev =>
    refine (deviceSpecificInit_achieves (identified?_runs hd.symm) h₁).bind ?_
    rintro _ d₂ ⟨rfl, h₂⟩
    exact .pure ⟨hd, h₂⟩

-- The registers of the touchpad between the power commands.
def AlpsDevice.powered (dev : AlpsDevice) (defaults : Nat → UInt8) (cmds : List PowerCommand) : Nat → UInt8 :=
  if cmds.getLast? = some .disableDevice then defaults else dev.configured defaults

theorem setDevicePowerState_achieves {cmds : List PowerCommand} {cmd : PowerCommand} (hr : fw.Runs dev)
    (h : d.Idle (dev.powered fw.defaults cmds)) : Achieves (answerInit fw) d (dev.setDevicePowerState cmd)
      fun _ d' => d'.Idle (dev.powered fw.defaults (cmds ++ [cmd])) := by
  simp only [AlpsDevice.powered, List.getLast?_concat]
  cases cmd
  case disableDevice => exact (talkSubmit_achieves (resetMouse_achieves h.pending)).mono fun _ _ => And.right
  case enableDevice  =>
    refine (deviceSpecificInit_achieves hr h).mono fun _ d' ⟨_, h'⟩ => ?_
    have hc : dev.configured (dev.powered fw.defaults cmds) = dev.configured fw.defaults := by
      unfold AlpsDevice.powered
      split
      · rfl
      · exact dev.configured_idem
    rwa [hc] at h'

theorem each_setDevicePowerState {cmds' : List PowerCommand} (cmds : List PowerCommand) (hr : fw.Runs dev)
    (h : d.Idle (dev.powered fw.defaults cmds)) :
    Achieves (answerInit fw) d (Dialogue.each (cmds'.map dev.setDevicePowerState)) fun _ d' =>
      d'.Idle (dev.powered fw.defaults (cmds ++ cmds')) := by
  induction cmds' generalizing cmds d
  case nil             => exact .pure (by simpa using h)
  case cons cmd cmds' hi =>
    refine (setDevicePowerState_achieves hr h).bind fun _ d' h' => ?_
    simpa using hi (cmds ++ [cmd]) h'

-- Afterwards nothing is half received.
theorem session_idle {cmds : List PowerCommand} (h : d.pending = []) :
    Achieves (answerInit fw) d (session cmds) fun dev d' => dev = fw.identified? fw.defaults ∧
      d'.Idle (dev.elim fw.defaults (·.powered fw.defaults cmds)) := by
  refine (start_achieves h).bind ?_
  rintro dev d₁ ⟨hd, h₁⟩
  cases dev
  case none     => exact .pure ⟨hd, h₁⟩
  case some dev =>
    refine (each_setDevicePowerState [] (identified?_runs hd.symm) h₁).bind fun _ d₂ h₂ => ?_
    exact .pure ⟨hd, h₂⟩

-- Whatever state the device is in, the driver recognises it by its reports and sets the registers that it
-- needs, all of them and no others. Sleep resets them, and every wake-up sets them again.
theorem session_configures (fw : Firmware) (d : Device) (cmds : List PowerCommand) (h : d.pending = []) :
    Achieves (answerInit fw) d (session cmds) fun dev d' => dev = fw.identified? fw.defaults ∧
      d'.regs = dev.elim fw.defaults (·.powered fw.defaults cmds) :=
  (session_idle h).mono fun _ _ ⟨hd, h⟩ => ⟨hd, congrArg Registers.regs h.registers⟩

def rushmore : Firmware where
  e7       := (0x73, 0x03, 0x0a)
  ec       := (0x88, 0x08, 0x1d)
  status   := (0, 0, 0x64)
  id       := 0
  defaults := fun _ => 0

-- It has no trackstick.
theorem session_configures_rushmore :
    Achieves (answerInit rushmore) { regs := fun _ => 0xff } (session [.disableDevice, .enableDevice])
      fun dev d' => dev = rushmore.identified? rushmore.defaults ∧
        d'.regs = dev.elim rushmore.defaults (·.powered rushmore.defaults [.disableDevice, .enableDevice]) :=
  session_configures rushmore { regs := fun _ => 0xff } [.disableDevice, .enableDevice] rfl

end Session

end Touchpad
