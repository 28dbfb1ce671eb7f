import VoodooPS2.Touchpad.Identify
import VoodooPS2.Touchpad.Theorems.Bitmap
import VoodooPS2.Touchpad.Theorems.Delivery
import VoodooPS2.Touchpad.Theorems.Scale

namespace Touchpad

section Area

variable {dev dev' : AlpsDevice} {c : Settings} {v : Protocol} {fwVer status : UInt8} {noTrackstick : Bool}

-- The extent of a device and its electrodes, which all of the divisors are made of.
structure AlpsDevice.SameArea (dev dev' : AlpsDevice) : Prop where
  xMax  : dev.xMax = dev'.xMax
  yMax  : dev.yMax = dev'.yMax
  xBits : dev.xBits = dev'.xBits
  yBits : dev.yBits = dev'.yBits

namespace AlpsDevice.SameArea

theorem refl : dev.SameArea dev :=
  ⟨rfl, rfl, rfl, rfl⟩

theorem singleElectrode (h : dev.SameArea dev') : dev.SingleElectrode ↔ dev'.SingleElectrode := by
  rw [SingleElectrode, SingleElectrode, h.xBits, h.yBits]

theorem axisMean (h : dev.SameArea dev') : dev.axisMean = dev'.axisMean := by
  rw [AlpsDevice.axisMean, AlpsDevice.axisMean, h.xMax, h.yMax]

end AlpsDevice.SameArea

@[simp]
theorem AlpsDevice.clearDualpoint_singleElectrode {absent : Bool} :
    (dev.clearDualpoint absent).SingleElectrode ↔ dev.SingleElectrode := by
  cases absent <;> exact Iff.rfl

theorem AlpsDevice.setDeviceArea_singleElectrode :
    (dev.setDeviceArea status).SingleElectrode ↔ status.shiftRight 4 &&& 0x0f = 0 := by
  have h : status.shiftRight 4 &&& 0x0f = 0 ↔ (status.shiftRight 4 &&& 0x0f).toNat = 0 :=
    UInt8.toNat_inj.symm
  rw [h]
  simp only [SingleElectrode, setDeviceArea]
  omega

-- Only a Dolphin touchpad can have a single electrode: its number comes from the device.
theorem setProtocol_singleElectrode_iff : (setProtocol v fwVer noTrackstick status).SingleElectrode ↔
    v = .v5 ∧ status.shiftRight 4 &&& 0x0f = 0 := by
  cases v
  case v5 => simpa [setProtocol] using AlpsDevice.setDeviceArea_singleElectrode
  all_goals
    simp only [setProtocol, AlpsDevice.clearDualpoint_singleElectrode, reduceCtorEq, false_and, iff_false]
    try split
    all_goals decide

end Area

section Decoder

variable {dev : AlpsDevice} {s : Decoder} {p : List UInt8}

theorem alpsProcessBitmap_isSome {secondTouch : Int} {f : AlpsFields} (h : ¬dev.SingleElectrode) :
    (alpsProcessBitmap dev secondTouch f).isSome :=
  Option.isSome_iff_ne_none.mpr fun hn => h (alpsProcessBitmap_eq_none.mp hn).right

theorem touchpadV3V5_isSome {d : DecodeFields} (h : ¬dev.SingleElectrode) :
    (alpsProcessTouchpadPacketV3V5 dev s p d).isSome := by
  simp only [alpsProcessTouchpadPacketV3V5, Option.isSome_map, touchesV3V5]
  split_ifs
  case pos => simpa [mergeV3V5] using alpsProcessBitmap_isSome h
  all_goals rfl

theorem processPacket_isSome (h : ¬dev.SingleElectrode) : (processPacket dev s p).isSome := by
  simp only [processPacket]
  split
  case h_2 d =>
    simp only [alpsProcessPacketV3]
    split
    case isTrue  => rfl
    case isFalse => exact touchpadV3V5_isSome h
  case h_3   =>
    simp only [alpsProcessPacketV4]
    split_ifs
    case pos => rfl
    case pos => simpa using alpsProcessBitmap_isSome h
    case neg => rfl
  case h_4 d => exact touchpadV3V5_isSome h
  all_goals rfl

end Decoder

section Identified

-- The reports that identify a Dolphin touchpad.
def IsDolphin (e7 ec : Report) : Prop :=
  e7.byte₀ = 0x73 ∧ e7.byte₁ = 0x03 ∧ e7.byte₂ = 0x50 ∧
    ec.byte₀ = 0x73 ∧ (ec.byte₁ = 0x01 ∨ ec.byte₁ = 0x02)
  deriving Decidable

-- What the device answers to the requests of `identify`, the first of which is not looked at.
variable (answers : Nat → Response)

def reportE7 : Report :=
  (alpsRptCmd true 0 kDP_SetMouseScaling2To1 fun _ => answers 1).val

def reportEC : Report :=
  (alpsRptCmd true 0 kDP_MouseResetWrap fun _ => answers 2).val

-- The byte that the area of a Dolphin touchpad is made of, which stays 0 if it is not read.
def areaStatus : UInt8 :=
  (Exchange.mk mouseInformation (answers 10)).inOrOut 3

def IdentifiesDolphin : Prop :=
  (reportE7 answers).complete ∧ (reportEC answers).complete ∧
    IsDolphin (reportE7 answers) (reportEC answers)
  deriving Decidable

variable {answers} {e7 ec : Report} {dev : AlpsDevice} {v : Protocol} {fwVer : UInt8}

-- The query for the area comes after the requests to enter the command mode, for the wrap mode, for the
-- poll mode, twice, and for the sample rate, twice.
theorem querySetProtocol_val : ∃ noTrackstick, (querySetProtocol v fwVer answers).val =
    setProtocol v fwVer noTrackstick ((Exchange.mk mouseInformation (answers 6)).inOrOut 3) := by
  cases v
  case v3 | v3Rushmore | v7 => exact ⟨_, rfl⟩
  all_goals exact ⟨false, rfl⟩

theorem matchTable_ne_v5 {model : AlpsModelInfo} (h : matchTable e7 ec = some model) :
    model.protoVersion ≠ .v5 :=
  have hv : ∀ model ∈ alpsModelData, model.protoVersion ≠ .v5 := by decide
  hv model (List.mem_of_find?_eq_some h)

theorem matchTable_of_dolphin (h : IsDolphin e7 ec) : matchTable e7 ec = none := by
  have hs : ∀ model ∈ alpsModelData, (0x73, 0x03, 0x50) ≠ model.signature := by decide
  have ⟨h₀, h₁, h₂, _⟩ := h
  refine List.find?_eq_none.mpr fun model hm => ?_
  simp [h₀, h₁, h₂, hs model hm]

theorem matchReports_v5_iff : matchReports e7 ec = some .v5 ↔ IsDolphin e7 ec := by
  unfold matchReports
  split_ifs <;> simp_all [IsDolphin]

theorem identify_val : (identify answers).val =
    if (reportE7 answers).complete ∧ (reportEC answers).complete then
      (installReported (reportE7 answers) (reportEC answers) fun n => answers (n + 4)).val
    else
      none := by
  have h₁ : (alpsRptCmd true 0 kDP_SetMouseScaling2To1 fun n => answers (n + 1)).val = reportE7 answers :=
    rfl
  have h₂ : (alpsRptCmd true 0 kDP_MouseResetWrap fun n => answers (n + 2)).val = reportEC answers :=
    rfl
  have hr : ∀ (hasInit : Bool) initArg repeated as,
      (alpsRptCmd hasInit initArg repeated as).rest = fun n => as (n + 1) :=
    fun _ _ _ _ => rfl
  simp only [identify, Dialogue.bind_val, hr, h₁]
  by_cases hc : (reportE7 answers).complete
  case neg => simp [hc]
  case pos =>
    simp only [hc, if_true, true_and, Dialogue.bind_val, hr, h₂]
    split
    case isTrue  => rfl
    case isFalse => rfl

theorem installReported_area (h : (installReported e7 ec answers).val = some dev) :
    ∃ v fwVer noTrackstick, dev.SameArea (setProtocol v fwVer noTrackstick
      ((Exchange.mk mouseInformation (answers 6)).inOrOut 3)) ∧ (v = .v5 → IsDolphin e7 ec) := by
  cases hm : matchTable e7 ec
  case some model =>
    simp only [installReported, hm] at h
    have ⟨noTrackstick, hd⟩ := @querySetProtocol_val answers model.protoVersion 0
    refine ⟨model.protoVersion, 0, noTrackstick, ?_, fun hv => absurd hv (matchTable_ne_v5 hm)⟩
    rw [← hd]
    cases h
    exact ⟨rfl, rfl, rfl, rfl⟩
  case none =>
    cases hv : matchReports e7 ec
    case none => simp [installReported, hm, hv] at h
    case some v =>
      simp only [installReported, hm, hv] at h
      have ⟨noTrackstick, hd⟩ := @querySetProtocol_val answers v ec.byte₁
      refine ⟨v, ec.byte₁, noTrackstick, ?_, fun h₅ => matchReports_v5_iff.mp (h₅ ▸ hv)⟩
      rw [← hd]
      cases h
      exact .refl

theorem installReported_dolphin (h : IsDolphin e7 ec) : (installReported e7 ec answers).val =
    some (setProtocol .v5 0 false ((Exchange.mk mouseInformation (answers 6)).inOrOut 3)) := by
  simp only [installReported, matchTable_of_dolphin h, matchReports_v5_iff.mpr h]
  rfl

theorem identify_area (h : (identify answers).val = some dev) :
    ∃ v fwVer noTrackstick, dev.SameArea (setProtocol v fwVer noTrackstick (areaStatus answers)) ∧
      (v = .v5 → IdentifiesDolphin answers) := by
  rw [identify_val] at h
  split at h
  case isFalse    => cases h
  case isTrue hc  =>
    have ⟨v, fwVer, noTrackstick, ha, hd⟩ := installReported_area h
    exact ⟨v, fwVer, noTrackstick, ha, fun hv => ⟨hc.left, hc.right, hd hv⟩⟩

theorem identify_dolphin (h : IdentifiesDolphin answers) :
    (identify answers).val = some (setProtocol .v5 0 false (areaStatus answers)) := by
  rw [identify_val, if_pos ⟨h.left, h.right.left⟩]
  exact installReported_dolphin h.right.right

end Identified

section Division

variable (c : Settings) (dev : AlpsDevice) (s : Framer) (d : Decoder)

-- The decoder after the packets that the framer hands over, or none if one of them has halted it.
def decoded (events : List Event) : Option Decoder :=
  (decoder dev).state (some d) (((framer dev.toAlpsData).out s events).filterMap Effect.handed?)

-- Neither the bitmaps nor the scale of the coordinates ever have a divisor that is zero.
structure NeverDividesByZero : Prop where
  decode : ∀ events, (decoded dev s d events).isSome
  scale  : ∀ x y, (scale c dev x y).isSome

-- Two packets that make up a multi-packet, whose bitmaps are not empty.
def multiPacketEvents : List Event :=
  [0xca, 0x00, 0x00, 0x00, 0x00, 0x28].map .byte ++ .packetReady ::
    [0xe8, 0x03, 0x00, 0x00, 0x00, 0x00].map .byte ++ [.packetReady]

variable {c dev s d} {events : List Event} {answers : Nat → Response} {status : UInt8}

theorem decoded_isSome (h : ¬dev.SingleElectrode) : (decoded dev s d events).isSome :=
  Mealy.halting_state_isSome fun _ _ => processPacket_isSome h

theorem decoded_dolphin (h : status.shiftRight 4 &&& 0x0f = 0) :
    decoded (setProtocol .v5 0 false status) .zero {} multiPacketEvents = none := by
  have hn : ∀ n : Fin 256, (UInt8.ofNat n).shiftRight 4 &&& 0x0f = 0 →
      decoded (setProtocol .v5 0 false (.ofNat n)) .zero {} multiPacketEvents = none := by
    decide +kernel
  have hs := hn ⟨status.toNat, status.toNat_lt⟩
  rw [UInt8.ofNat_toNat] at hs
  exact hs h

-- The decoder may be in any state, as it is kept when the device is identified once more.
theorem identify_neverDividesByZero (hx : 0 < c.xupmm) (hy : 0 < c.yupmm)
    (h : IdentifiesDolphin answers → (areaStatus answers).shiftRight 4 &&& 0x0f ≠ 0) :
    ∀ dev ∈ (identify answers).val, NeverDividesByZero c dev s d := by
  intro dev hi
  have ⟨v, fwVer, noTrackstick, ha, hd⟩ := identify_area hi
  have he : ¬dev.SingleElectrode := by
    rw [ha.singleElectrode, setProtocol_singleElectrode_iff]
    exact fun ⟨hv, hs⟩ => h (hd hv) hs
  have hm : dev.axisMean ≠ 0 := by
    rw [ha.axisMean]
    exact Int.ne_of_gt setProtocol_axisMean_pos
  exact ⟨fun _ => decoded_isSome he, fun _ _ => (scale_isSome_iff hx hy).mpr hm⟩

end Division

-- What is identified never makes the driver divide by zero, unless it is a Dolphin touchpad whose answer
-- to the query for the area is missing or gives it a single electrode along the y axis.
theorem identify_neverDividesByZero_iff (c : Settings) (answers : Nat → Response) (hx : 0 < c.xupmm)
    (hy : 0 < c.yupmm) : (∀ dev ∈ (identify answers).val, NeverDividesByZero c dev .zero {}) ↔
      (IdentifiesDolphin answers → (areaStatus answers).shiftRight 4 &&& 0x0f ≠ 0) := by
  constructor
  case mp =>
    intro h hd hs
    have hn := (h _ (identify_dolphin hd)).decode multiPacketEvents
    rw [decoded_dolphin hs] at hn
    cases hn
  case mpr => exact identify_neverDividesByZero hx hy

-- The answers of a Dolphin touchpad to the requests for the two reports and for its area.
def dolphinAnswers (area : Response) (n : Nat) : Response :=
  if n = 1 then { bytes := [0, 0, 0, 0, 0, 0, 0x73, 0x03, 0x50] }
  else if n = 2 then { bytes := [0, 0, 0, 0, 0, 0, 0x73, 0x01, 0x0a] }
  else if n = 10 then area
  else {}

theorem identify_neverDividesByZero_dolphin :
    (identify (dolphinAnswers { bytes := [0, 0, 0, 0x47] })).val.isSome ∧
      ∀ dev ∈ (identify (dolphinAnswers { bytes := [0, 0, 0, 0x47] })).val,
        NeverDividesByZero {} dev .zero {} :=
  ⟨by decide, (identify_neverDividesByZero_iff {} (dolphinAnswers { bytes := [0, 0, 0, 0x47] })
    (by decide) (by decide)).mpr fun _ => by decide⟩

-- The query for the area fails at its first command.
theorem not_identify_neverDividesByZero : ¬ ∀ (c : Settings) (answers : Nat → Response),
    0 < c.xupmm → 0 < c.yupmm →
      ∀ dev ∈ (identify answers).val, NeverDividesByZero c dev .zero {} := by
  intro h
  have hd : IdentifiesDolphin (dolphinAnswers { stoppedAt := some 0 }) := by decide
  have hn := (h {} _ (by decide) (by decide) _ (identify_dolphin hd)).decode multiPacketEvents
  rw [decoded_dolphin (by decide)] at hn
  cases hn

end Touchpad
