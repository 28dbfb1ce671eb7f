import VoodooPS2.Touchpad.Protocol
import VoodooPS2.Touchpad.Theorems.Wires

namespace Touchpad

open Wiring Wire Slot

structure BitmapPacket where
  xMap    : UInt32
  yMap    : UInt32
  fingers : UInt32
  deriving DecidableEq

structure PositionPacket where
  x        : UInt32
  y        : UInt32
  pressure : Int
  firstMp  : Bool
  left     : Bool
  right    : Bool
  middle   : Bool
  tsLeft   : Bool
  tsRight  : Bool
  tsMiddle : Bool
  deriving DecidableEq

def PositionPacket.buttonBits (t : PositionPacket) : List Bool :=
  [t.left, t.right, t.middle, t.tsLeft, t.tsRight, t.tsMiddle]

-- The fields that belong to either kind of packet.
def AlpsFields.bitmapPacket? (f : AlpsFields) : Option BitmapPacket :=
  if f.isMp then some ⟨f.xMap, f.yMap, f.fingers⟩ else none

def AlpsFields.positionPacket? (f : AlpsFields) : Option PositionPacket :=
  if f.isMp then none
  else
    some ⟨f.st.x, f.st.y, f.pressure, f.firstMp, f.left, f.right, f.middle, f.tsLeft, f.tsRight, f.tsMiddle⟩

namespace Layout

variable {l : Layout} {f : AlpsFields}

def bitmapSlots (l : Layout) (t : BitmapPacket) : List Slot := [
  ⟨[l.isMp], 1⟩,
  ⟨l.yMap, t.yMap.toNat⟩,
  ⟨l.xMap, t.xMap.toNat⟩,
  ⟨l.fingers, t.fingers.toNat - l.fewest⟩,
  ⟨l.spareMp, 0⟩]

def positionSlots (l : Layout) (t : PositionPacket) : List Slot := [
  ⟨[l.isMp], 0⟩,
  ⟨[l.firstMp], t.firstMp.toNat⟩,
  ⟨l.x, t.x.toNat⟩,
  ⟨l.y, t.y.toNat⟩,
  ⟨l.pressure, t.pressure.toNat⟩,
  ⟨l.buttons, .ofBits fun i : Fin t.buttonBits.length => t.buttonBits[i]⟩,
  ⟨l.spare, 0⟩]

-- The packets of six bytes that are decoded to the given fields.
def encodeBitmap (l : Layout) (t : BitmapPacket) : List UInt8 :=
  scatter 6 (l.bitmapSlots t)

def encodePosition (l : Layout) (t : PositionPacket) : List UInt8 :=
  scatter 6 (l.positionSlots t)

structure FitsBitmap (l : Layout) (t : BitmapPacket) : Prop where
  xMap    : t.xMap.toNat < 2 ^ l.xMap.length
  yMap    : t.yMap.toNat < 2 ^ l.yMap.length
  fewest  : l.fewest ≤ t.fingers.toNat
  fingers : t.fingers.toNat < l.fewest + 2 ^ l.fingers.length

structure FitsPosition (l : Layout) (t : PositionPacket) : Prop where
  x        : t.x.toNat < 2 ^ l.x.length
  y        : t.y.toNat < 2 ^ l.y.length
  nonneg   : 0 ≤ t.pressure
  pressure : t.pressure < 2 ^ l.pressure.length
  buttons  : l.buttons.length = t.buttonBits.length

variable {t : BitmapPacket} {u : PositionPacket} {s : Slot}

theorem gather_encodeBitmap (hs : s ∈ l.bitmapSlots t) (h : s.Fits) :
    gather (l.encodeBitmap t) s.wires = s.value := by
  have hw : (l.bitmapSlots t).flatMap wires = l.isMp :: l.yMap ++ l.xMap ++ l.fingers ++ l.spareMp := by
    simp [bitmapSlots]
  exact gather_scatter (hw ▸ l.bitmap_within) (hw ▸ l.bitmap_nodup) hs h

theorem gather_encodePosition (hs : s ∈ l.positionSlots u) (h : s.Fits) :
    gather (l.encodePosition u) s.wires = s.value := by
  have hw : (l.positionSlots u).flatMap wires =
      l.isMp :: l.firstMp :: l.x ++ l.y ++ l.pressure ++ l.buttons ++ l.spare := by
    simp [positionSlots]
  exact gather_scatter (hw ▸ l.position_within) (hw ▸ l.position_nodup) hs h

theorem FitsBitmap.decoded (h : l.FitsBitmap t) (hi : f.isMp = true)
    (hr : ReadsBitmap l (l.encodeBitmap t) f) : f.bitmapPacket? = some t := by
  have hx : gather (l.encodeBitmap t) l.xMap = t.xMap.toNat :=
    gather_encodeBitmap (s := ⟨l.xMap, t.xMap.toNat⟩) (by simp [bitmapSlots]) h.xMap
  have hy : gather (l.encodeBitmap t) l.yMap = t.yMap.toNat :=
    gather_encodeBitmap (s := ⟨l.yMap, t.yMap.toNat⟩) (by simp [bitmapSlots]) h.yMap
  have hf : gather (l.encodeBitmap t) l.fingers = t.fingers.toNat - l.fewest :=
    gather_encodeBitmap (s := ⟨l.fingers, t.fingers.toNat - l.fewest⟩) (by simp [bitmapSlots]) <|
      Nat.sub_lt_left_of_lt_add h.fewest h.fingers
  have hs : gather (l.encodeBitmap t) l.spareMp = 0 :=
    gather_encodeBitmap (s := ⟨l.spareMp, 0⟩) (by simp [bitmapSlots]) (Nat.two_pow_pos _)
  have hx : f.xMap = t.xMap := UInt32.toNat_inj.mp (hr.xMap.trans hx)
  have hy : f.yMap = t.yMap := UInt32.toNat_inj.mp (hr.yMap.trans hy)
  have hf : f.fingers = t.fingers := by
    apply UInt32.toNat_inj.mp
    rw [hr.fingers hs, hf, Nat.sub_add_cancel h.fewest]
  simp [AlpsFields.bitmapPacket?, hi, hx, hy, hf]

theorem FitsPosition.decoded (h : l.FitsPosition u) (hi : f.isMp = false)
    (hr : ReadsPosition l (l.encodePosition u) f) : f.positionPacket? = some u := by
  have hm : gather (l.encodePosition u) [l.firstMp] = u.firstMp.toNat :=
    gather_encodePosition (s := ⟨[l.firstMp], u.firstMp.toNat⟩) (by simp [positionSlots]) (Bool.toNat_lt _)
  have hx : gather (l.encodePosition u) l.x = u.x.toNat :=
    gather_encodePosition (s := ⟨l.x, u.x.toNat⟩) (by simp [positionSlots]) h.x
  have hy : gather (l.encodePosition u) l.y = u.y.toNat :=
    gather_encodePosition (s := ⟨l.y, u.y.toNat⟩) (by simp [positionSlots]) h.y
  have hz : gather (l.encodePosition u) l.pressure = u.pressure.toNat :=
    gather_encodePosition (s := ⟨l.pressure, u.pressure.toNat⟩) (by simp [positionSlots]) <|
      (Int.toNat_lt h.nonneg).mpr (by simpa using h.pressure)
  have hb : gather (l.encodePosition u) l.buttons = .ofBits fun i : Fin u.buttonBits.length => u.buttonBits[i] :=
    gather_encodePosition (s := ⟨l.buttons, .ofBits fun i : Fin u.buttonBits.length => u.buttonBits[i]⟩)
      (by simp [positionSlots]) <| lt_of_lt_of_eq (Nat.ofBits_lt_two_pow _) (congrArg (2 ^ ·) h.buttons.symm)
  have hs : gather (l.encodePosition u) l.spare = 0 :=
    gather_encodePosition (s := ⟨l.spare, 0⟩) (by simp [positionSlots]) (Nat.two_pow_pos _)
  have hx : f.st.x = u.x := UInt32.toNat_inj.mp (hr.x.trans hx)
  have hy : f.st.y = u.y := UInt32.toNat_inj.mp (hr.y.trans hy)
  have hz : f.pressure = u.pressure := by
    rw [hr.pressure hs, hz]
    exact Int.toNat_of_nonneg h.nonneg
  have hm : f.firstMp = u.firstMp := hr.firstMp.trans (probe_of_gather hm)
  have hb : f.buttonBits = u.buttonBits := hr.buttons.trans (map_probe h.buttons hb)
  simp only [AlpsFields.buttonBits, PositionPacket.buttonBits, List.cons.injEq, and_true] at hb
  simp [AlpsFields.positionPacket?, hi, hx, hy, hz, hm, hb]

end Layout

variable {dev : AlpsDevice} {d : DecodeFields} {p : List UInt8} {f : AlpsFields}

theorem decodeFields_bitmap (hd : d = .dolphin → 0 ≤ dev.xBits ∧ dev.xBits ≤ 32 ∧ 0 ≤ dev.yBits ∧ dev.yBits ≤ 32)
    (h : probe p (layout dev d).isMp = true) :
    (decodeFields dev p d f).isMp = true ∧ ReadsBitmap (layout dev d) p (decodeFields dev p d f) := by
  cases d
  case pinnacle => exact pinnacle_bitmap h
  case rushmore => exact rushmore_bitmap h
  case dolphin  =>
    have ⟨hx, hx', hy, hy'⟩ := hd rfl
    have ⟨xBits, hx⟩ := Int.eq_ofNat_of_zero_le hx
    have ⟨yBits, hy⟩ := Int.eq_ofNat_of_zero_le hy
    simp only [decodeFields, layout, hx, hy]
    exact dolphin_bitmap (by omega) (by omega) h

theorem decodeFields_position (h : probe p (layout dev d).isMp = false) :
    (decodeFields dev p d f).isMp = false ∧ ReadsPosition (layout dev d) p (decodeFields dev p d f) := by
  cases d
  case pinnacle => exact pinnacle_position h
  case rushmore => exact rushmore_position h
  case dolphin  => exact dolphin_position h

-- The number of electrodes that the query for the area may yield, if the profile has room for them.
def AlpsDevice.FitsProfile (dev : AlpsDevice) : Prop :=
  8 ≤ dev.xBits ∧ dev.xBits ≤ 23 ∧ 1 ≤ dev.yBits ∧ dev.yBits ≤ 16 ∧ dev.xBits + dev.yBits ≤ 35
  deriving Decidable

def BitmapPacket.InRange (dev : AlpsDevice) (d : DecodeFields) (t : BitmapPacket) : Prop :=
  match d with
  | .pinnacle =>
    t.xMap.toNat < 2 ^ 15 ∧ t.yMap.toNat < 2 ^ 11 ∧ 1 ≤ t.fingers.toNat ∧ t.fingers.toNat ≤ 4
  | .rushmore =>
    t.xMap.toNat < 2 ^ 16 ∧ t.yMap.toNat < 2 ^ 12 ∧ 1 ≤ t.fingers.toNat ∧ t.fingers.toNat ≤ 4
  | .dolphin  =>
    t.xMap.toNat < 2 ^ dev.xBits.toNat ∧ t.yMap.toNat < 2 ^ dev.yBits.toNat ∧ t.fingers.toNat ≤ 7

def PositionPacket.InRange (d : DecodeFields) (t : PositionPacket) : Prop :=
  t.x.toNat < 2 ^ 11 ∧ t.y.toNat < 2 ^ 11 ∧ 0 ≤ t.pressure ∧
    t.pressure < if d = .rushmore then 64 else 128

theorem BitmapPacket.InRange.fits {t : BitmapPacket} (hd : d = .dolphin → dev.FitsProfile)
    (h : t.InRange dev d) : (layout dev d).FitsBitmap t := by
  cases d
  case pinnacle =>
    have ⟨hx, hy, hf, hf'⟩ := h
    exact ⟨hx, hy, hf, Nat.lt_succ_of_le hf'⟩
  case rushmore =>
    have ⟨hx, hy, hf, hf'⟩ := h
    exact ⟨hx, hy, hf, Nat.lt_succ_of_le hf'⟩
  case dolphin =>
    have ⟨hx, hy, hf⟩ := h
    have ⟨_, _, _, _, _⟩ := hd rfl
    have hp : profile.length = 35 := by decide
    have hx' : (layout dev .dolphin).xMap.length = dev.xBits.toNat := by
      simp only [layout, Layout.dolphin, List.length_take, List.length_drop, hp]
      omega
    have hy' : (layout dev .dolphin).yMap.length = dev.yBits.toNat := by
      simp only [layout, Layout.dolphin, List.length_take, hp]
      omega
    exact ⟨hx'.symm ▸ hx, hy'.symm ▸ hy, Nat.zero_le _, Nat.lt_succ_of_le hf⟩

theorem PositionPacket.InRange.fits {t : PositionPacket} (h : t.InRange d) :
    (layout dev d).FitsPosition t := by
  have ⟨hx, hy, hn, hp⟩ := h
  cases d <;> exact ⟨hx, hy, hn, hp, rfl⟩

-- There is a packet for all the fields that are in range, from which the decoder reads them again.
theorem decodeFields_inverts (dev : AlpsDevice) (d : DecodeFields) (hd : d = .dolphin → dev.FitsProfile) :
    (∃ encode : BitmapPacket → List UInt8, ∀ t, t.InRange dev d →
      (encode t).length = 6 ∧ ∀ f, (decodeFields dev (encode t) d f).bitmapPacket? = some t) ∧
    (∃ encode : PositionPacket → List UInt8, ∀ t, t.InRange d →
      (encode t).length = 6 ∧ ∀ f, (decodeFields dev (encode t) d f).positionPacket? = some t) := by
  constructor
  case left =>
    refine ⟨(layout dev d).encodeBitmap, fun t ht => ⟨Slot.length_scatter, fun f => ?_⟩⟩
    have hm : probe ((layout dev d).encodeBitmap t) (layout dev d).isMp = true :=
      probe_of_gather <| Layout.gather_encodeBitmap (s := ⟨[(layout dev d).isMp], 1⟩)
        (by simp [Layout.bitmapSlots]) (by simp [Slot.Fits])
    have hd' : d = .dolphin → 0 ≤ dev.xBits ∧ dev.xBits ≤ 32 ∧ 0 ≤ dev.yBits ∧ dev.yBits ≤ 32 := fun h => by
      have ⟨_, _, _, _, _⟩ := hd h
      omega
    have hr := @decodeFields_bitmap dev d _ f hd' hm
    exact (ht.fits hd).decoded hr.left hr.right
  case right =>
    refine ⟨(layout dev d).encodePosition, fun t ht => ⟨Slot.length_scatter, fun f => ?_⟩⟩
    have hm : probe ((layout dev d).encodePosition t) (layout dev d).isMp = false :=
      probe_of_gather <| Layout.gather_encodePosition (s := ⟨[(layout dev d).isMp], 0⟩)
        (by simp [Layout.positionSlots]) (by simp [Slot.Fits])
    have hr := @decodeFields_position dev d _ f hm
    exact ht.fits.decoded hr.left hr.right

-- The profile of the Dolphin touchpad is used up by its 23 and 12 electrodes.
theorem decodeFields_inverts_dolphin :
    ∃ p, p.length = 6 ∧ (decodeFields (setProtocol .v5 0 true 0xbf) p .dolphin {}).bitmapPacket? =
      some ⟨0x600001, 0x801, 5⟩ :=
  have ⟨encode, h⟩ := (decodeFields_inverts (setProtocol .v5 0 true 0xbf) .dolphin fun _ => by decide).left
  have h := h ⟨0x600001, 0x801, 5⟩ ⟨by decide, by decide, by decide⟩
  ⟨encode ⟨0x600001, 0x801, 5⟩, h.left, h.right {}⟩

end Touchpad
