import VoodooPS2.Touchpad.Packets
import VoodooPS2.Touchpad.Theorems.Bitmap

namespace Touchpad

theorem getD_copy {p : List UInt8} {k : Nat} (h : k < 6) :
    (MultiData.copy p).bytes.getD k 0 = p.getD k 0 := by
  simp [MultiData.copy, List.getD_eq_getElem?_getD, h]

theorem byte_copy {p : List UInt8} {k : Nat} (h : k < 6) : byte (MultiData.copy p).bytes k = byte p k := by
  simp only [byte, getD_copy h]

section Decode

variable {dev : AlpsDevice} {p : List UInt8} {d : DecodeFields} {f : AlpsFields}

theorem decodeFields_copy : decodeFields dev (MultiData.copy p).bytes d f = decodeFields dev p d f := by
  have hb : ∀ {k}, k < 6 → byte (MultiData.copy p).bytes k = byte p k := byte_copy
  have hg : ∀ {k}, k < 6 → (MultiData.copy p).bytes.getD k 0 = p.getD k 0 := getD_copy
  cases d
  case pinnacle => simp (disch := omega) only [decodeFields, alpsDecodePinnacle, alpsDecodeButtonsV3, hb]
  case rushmore => simp (disch := omega) only [decodeFields, alpsDecodeRushmore, alpsDecodeButtonsV3, hb]
  case dolphin  =>
    simp (disch := omega) only [decodeFields, alpsDecodeDolphin, alpsDecodeButtonsV3, palmData, hb, hg]

-- The fields of a position packet, decoded over those of another packet: all that is left of these is
-- what is only known from a bitmap packet.
def AlpsFields.over (f g : AlpsFields) : AlpsFields :=
  { f with
    xMap := g.xMap, yMap := g.yMap, fingers := g.fingers,
    mt₀ := g.mt₀, mt₁ := g.mt₁, mt₂ := g.mt₂, mt₃ := g.mt₃ }

@[simp]
theorem AlpsFields.over_isMp {g : AlpsFields} : (f.over g).isMp = f.isMp :=
  rfl

@[simp]
theorem AlpsFields.over_hasBitmaps {g : AlpsFields} : (f.over g).HasBitmaps ↔ g.HasBitmaps :=
  Iff.rfl

theorem decodeFields_of_position (h : (decodeFields dev p d {}).isMp = false) :
    decodeFields dev p d f = (decodeFields dev p d {}).over f := by
  cases d <;> simp only [decodeFields, alpsDecodePinnacle, alpsDecodeRushmore, alpsDecodeDolphin,
    alpsDecodeButtonsV3] at h ⊢ <;> split at h
  case pinnacle.isTrue hp  => simp [hp] at h
  case rushmore.isTrue hp  => simp [hp] at h
  case dolphin.isTrue hp   => simp [hp] at h
  all_goals
    rename_i hp
    simp only [hp, if_false, Bool.false_eq_true]
    rfl

end Decode

section SS4V2

variable {p m : List UInt8} {f g : AlpsFields} {flags : UInt32}

theorem alpsGetPktIDSS4V2_copy : alpsGetPktIDSS4V2 (MultiData.copy p).bytes = alpsGetPktIDSS4V2 p := by
  simp (disch := omega) only [alpsGetPktIDSS4V2, byte_copy]

theorem ss4MultiFinger_copy {i : Nat} (h : i < 2) :
    ss4MultiFinger (MultiData.copy p).bytes flags i = ss4MultiFinger p flags i := by
  simp (disch := omega) only [ss4MultiFinger, ss4BtlMultiFingerX, ss4BtlMultiFingerY,
    ss4StdMultiFingerX, ss4StdMultiFingerY, byte_copy]

theorem ss4Continues_copy : ss4Continues (MultiData.copy p).bytes = ss4Continues p := by
  rw [ss4Continues, byte_copy (by omega)]
  rfl

theorem ss4DecodeOne_copy : ss4DecodeOne f (MultiData.copy p).bytes = ss4DecodeOne f p := by
  have hx : ss4OneFingerX (MultiData.copy p).bytes = ss4OneFingerX p := by
    simp (disch := omega) only [ss4OneFingerX, byte_copy]
  have hy : ss4OneFingerY (MultiData.copy p).bytes = ss4OneFingerY p := by
    simp (disch := omega) only [ss4OneFingerY, byte_copy]
  have hz : ss4OneFingerZ (MultiData.copy p).bytes = ss4OneFingerZ p := by
    simp (disch := omega) only [ss4OneFingerZ, byte_copy]
  rw [ss4DecodeOne, hx, hy, hz]
  rfl

theorem ss4DecodeTwo_copy : ss4DecodeTwo f (MultiData.copy p).bytes flags = ss4DecodeTwo f p flags := by
  have hz : ss4MultiFingerZ (MultiData.copy p).bytes 0 = ss4MultiFingerZ p 0 := by
    simp (disch := omega) only [ss4MultiFingerZ, byte_copy]
  rw [ss4DecodeTwo, ss4MultiFinger_copy (by omega), ss4MultiFinger_copy (by omega), hz,
    ss4Continues_copy]
  rfl

theorem ss4DecodeMulti_copy :
    ss4DecodeMulti f (MultiData.copy p).bytes flags = ss4DecodeMulti f p flags := by
  rw [ss4DecodeMulti, ss4MultiFinger_copy (by omega), ss4MultiFinger_copy (by omega),
    ss4Continues_copy]
  rfl

theorem ss4DecodeTouches_copy :
    ss4DecodeTouches f (MultiData.copy p).bytes flags = ss4DecodeTouches f p flags := by
  simp only [ss4DecodeTouches, alpsGetPktIDSS4V2_copy, ss4DecodeOne_copy, ss4DecodeTwo_copy,
    ss4DecodeMulti_copy]

theorem alpsDecodeSS4V2_copy :
    alpsDecodeSS4V2 f (MultiData.copy p).bytes flags = alpsDecodeSS4V2 f p flags := by
  have hb : ss4Btn (MultiData.copy p).bytes = ss4Btn p := by
    simp (disch := omega) only [ss4Btn, byte_copy]
  rw [alpsDecodeSS4V2, ss4DecodeTouches_copy, alpsDecodeSS4V2Buttons, hb, alpsGetPktIDSS4V2_copy]
  rfl

-- The buttons are decoded next to everything else.
@[simp]
theorem alpsDecodeSS4V2Buttons_isMp : (alpsDecodeSS4V2Buttons f p flags).isMp = f.isMp := by
  unfold alpsDecodeSS4V2Buttons
  dsimp only
  split <;> rfl

@[simp]
theorem alpsDecodeSS4V2Buttons_firstMp : (alpsDecodeSS4V2Buttons f p flags).firstMp = f.firstMp := by
  unfold alpsDecodeSS4V2Buttons
  dsimp only
  split <;> rfl

@[simp]
theorem alpsDecodeSS4V2Buttons_mt₀ : (alpsDecodeSS4V2Buttons f p flags).mt₀ = f.mt₀ := by
  unfold alpsDecodeSS4V2Buttons
  dsimp only
  split <;> rfl

@[simp]
theorem alpsDecodeSS4V2Buttons_pressure : (alpsDecodeSS4V2Buttons f p flags).pressure = f.pressure := by
  unfold alpsDecodeSS4V2Buttons
  dsimp only
  split <;> rfl

@[simp]
theorem alpsDecodeSS4V2Buttons_fingers : (alpsDecodeSS4V2Buttons f p flags).fingers = f.fingers := by
  unfold alpsDecodeSS4V2Buttons
  dsimp only
  split <;> rfl

theorem alpsDecodeSS4V2_isMp : (alpsDecodeSS4V2 f p flags).isMp = true ↔ alpsGetPktIDSS4V2 p = .multi := by
  unfold alpsDecodeSS4V2 ss4DecodeTouches
  cases alpsGetPktIDSS4V2 p <;> simp [ss4DecodeOne, ss4DecodeTwo, ss4DecodeMulti, ss4DecodeStick]

theorem alpsDecodeSS4V2_firstMp :
    (alpsDecodeSS4V2 f p flags).firstMp = true ↔ alpsGetPktIDSS4V2 p = .two ∧ ss4Continues p := by
  unfold alpsDecodeSS4V2 ss4DecodeTouches
  cases alpsGetPktIDSS4V2 p <;> simp [ss4DecodeOne, ss4DecodeTwo, ss4DecodeMulti, ss4DecodeStick]

theorem ss4DecodeTouches_of_multi (h : alpsGetPktIDSS4V2 p = .multi) :
    ss4DecodeTouches f p flags = ss4DecodeMulti f p flags := by
  simp only [ss4DecodeTouches, h]

theorem ss4DecodeTouches_of_two (h : alpsGetPktIDSS4V2 p = .two) :
    ss4DecodeTouches f p flags = ss4DecodeTwo f p flags := by
  simp only [ss4DecodeTouches, h]

-- When the first packet is decoded into the fields of the second one, the number of fingers is all that
-- is left of these.
structure Merged (f g h : AlpsFields) : Prop where
  mt₀      : h.mt₀ = f.mt₀
  pressure : h.pressure = f.pressure
  fingers  : h.fingers = g.fingers
  buttons  : h.buttons = f.buttons
  isMp     : h.isMp = false

theorem alpsDecodeSS4V2_merged (hf : alpsGetPktIDSS4V2 p = .two) (hc : ss4Continues p)
    (hm : alpsGetPktIDSS4V2 m = .multi) :
    Merged (alpsDecodeSS4V2 {} p flags) (alpsDecodeSS4V2 {} m flags)
      (alpsDecodeSS4V2 (alpsDecodeSS4V2 {} m flags) p flags) where
  mt₀      := by simp [alpsDecodeSS4V2, ss4DecodeTouches_of_two hf, ss4DecodeTwo]
  pressure := by simp [alpsDecodeSS4V2, ss4DecodeTouches_of_two hf, ss4DecodeTwo]
  fingers  := by simp [alpsDecodeSS4V2, ss4DecodeTouches_of_two hf, ss4DecodeTwo, hc]
  isMp     := by simp [alpsDecodeSS4V2, ss4DecodeTouches_of_two hf, ss4DecodeTwo]
  buttons  := by
    simp only [alpsDecodeSS4V2, ss4DecodeTouches_of_two hf, ss4DecodeTouches_of_multi hm, ss4DecodeTwo,
      ss4DecodeMulti, alpsDecodeSS4V2Buttons, hf, hm, AlpsFields.buttons, reduceCtorEq, if_false]
    by_cases hb : flags &&& alpsButtonpad ≠ 0
    case pos => simp [hb]
    case neg => simp [hb]

end SS4V2

end Touchpad
