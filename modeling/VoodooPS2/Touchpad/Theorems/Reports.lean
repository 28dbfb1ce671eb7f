import VoodooPS2.Touchpad.Theorems.Bare
import VoodooPS2.Touchpad.Theorems.Codec
import VoodooPS2.Touchpad.Theorems.Pairing
import VoodooPS2.Wiring.Mark

open Wiring Wire

namespace Touchpad

-- What a touchpad says: where the finger is, in a single packet, or also which electrodes are touched and
-- by how many fingers, in a second one.
inductive PadReport
  | single (t : PositionPacket)
  | multi (t : PositionPacket) (m : BitmapPacket)

-- The versions whose packets have these fields.
def Protocol.decodeFields? : Protocol → Option DecodeFields
  | v3         => some .pinnacle
  | v3Rushmore => some .rushmore
  | v5         => some .dolphin
  | _          => none

section

variable (dev : AlpsDevice) (d : DecodeFields)

-- The packets on the wire, which are known by their first byte.
def markedPosition (t : PositionPacket) : List UInt8 :=
  mark dev.byte0 ((layout dev d).encodePosition t)

def markedBitmap (m : BitmapPacket) : List UInt8 :=
  mark dev.byte0 ((layout dev d).encodeBitmap m)

def PadReport.packets : PadReport → List (List UInt8)
  | single t  => [markedPosition dev d { t with firstMp := false }]
  | multi t m => [markedPosition dev d { t with firstMp := true }, markedBitmap dev d m]

-- The buttons of the stick count with those of the pad if they are merged.
def PositionPacket.mask (merged : Bool) (t : PositionPacket) : UInt32 :=
  (if t.left || merged && t.tsLeft then 0x01 else 0) ||| (if t.right || merged && t.tsRight then 0x02 else 0) |||
    (if t.middle || merged && t.tsMiddle then 0x04 else 0)

-- The event that is due. Less than two fingers are counted by the pressure.
def PositionPacket.event (merged : Bool) (fingers : Nat) (t : PositionPacket) : EventInfo where
  x       := t.x.toNat
  y       := dev.yMax - t.y.toNat
  z       := t.pressure
  fingers := if fingers < 2 then if t.pressure > 0 then 1 else 0 else fingers
  buttons := t.mask merged

-- The bitmaps only count if there is something in both of them.
def BitmapPacket.Touched (m : BitmapPacket) : Prop :=
  m.xMap ≠ 0 ∧ m.yMap ≠ 0
  deriving Decidable

-- A pressure of 63 is taken for the mark of a packet of the stick.
def PositionPacket.Lost (t : PositionPacket) : Prop :=
  dev.processPacket = .v3 d ∧ t.pressure = 63
  deriving Decidable

def PadReport.event? (merged : Bool) : PadReport → Option EventInfo
  | single t  => if t.Lost dev d then none else some (t.event dev merged 0)
  | multi t m =>
    if t.Lost dev d then none
    else some (t.event dev merged (if m.Touched then m.fingers.toNat else 0))

-- The bitmaps can not be processed with a single electrode on an axis.
def PadReport.Fits : PadReport → Prop
  | single t  => t.InRange d
  | multi t m => t.InRange d ∧ m.InRange dev d ∧ (m.Touched → ¬dev.SingleElectrode)

instance {t : PositionPacket} : Decidable (t.InRange d) :=
  inferInstanceAs (Decidable (_ ∧ _))

instance {m : BitmapPacket} : (d : DecodeFields) → Decidable (m.InRange dev d)
  | .pinnacle => inferInstanceAs (Decidable (_ ∧ _))
  | .rushmore => inferInstanceAs (Decidable (_ ∧ _))
  | .dolphin  => inferInstanceAs (Decidable (_ ∧ _))

instance : (r : PadReport) → Decidable (r.Fits dev d)
  | .single _  => inferInstanceAs (Decidable (PositionPacket.InRange _ _))
  | .multi _ _ => inferInstanceAs (Decidable (_ ∧ _))

end

-- Whether the buttons of the stick count with those of the pad: not once it has shown that it reports them.
def mergesStick (dev : AlpsDevice) (quirks : UInt8) : Bool :=
  dev.flags &&& alpsDualpoint ≠ 0 ∧ quirks &&& alpsQuirkTrackstickButtons = 0

section Event

variable {dev : AlpsDevice} {d : DecodeFields} {q : UInt8} {f : AlpsFields} {t : PositionPacket}

theorem toNat_ofInt {n : Int} (h : 0 ≤ n ∧ n < 2 ^ 31) : ((UInt32.ofInt n).toNat : Int) = n := by
  rw [UInt32.ofInt, UInt32.toNat_ofNat', Int.emod_eq_of_lt h.left (by omega)]
  omega

theorem reverseY_eq {y : UInt32} (h : 0 ≤ dev.yMax ∧ dev.yMax < 2 ^ 31) (hy : y.toNat < 2 ^ 31) :
    reverseY dev y = dev.yMax - y.toNat := by
  have hn := toNat_ofInt h
  have hs : reverseY dev y = (toInt (.ofInt dev.yMax) - toInt y).bmod (2 ^ 32) :=
    Int32.toInt_sub (UInt32.ofInt dev.yMax).toInt32 y.toInt32
  rw [hs, toInt_eq (by omega), toInt_eq hy, hn]
  exact Int.bmod_eq_of_le_mul_two (by omega) (by omega)

theorem isMp_of_positionPacket? (h : f.positionPacket? = some t) : f.isMp = false ∧ f.firstMp = t.firstMp := by
  simp only [AlpsFields.positionPacket?, Option.ite_none_left_eq_some, Option.some.injEq] at h
  obtain ⟨hi, rfl⟩ := h
  exact ⟨eq_false_of_ne_true hi, rfl⟩

theorem ite_or_eq {a b : Bool} {n : UInt32} :
    (if a || b then n else 0) = (if a then n else 0) ||| (if b then n else 0) := by
  cases a <;> cases b <;> simp

theorem mask_of_positionPacket? (h : f.positionPacket? = some t) :
    buttonsV3V5 dev q f = t.mask (mergesStick dev q) := by
  simp only [AlpsFields.positionPacket?, Option.ite_none_left_eq_some, Option.some.injEq] at h
  obtain ⟨hi, rfl⟩ := h
  by_cases hm : dev.flags &&& alpsDualpoint ≠ 0 ∧ q &&& alpsQuirkTrackstickButtons = 0
  case pos =>
    rw [buttonsV3V5, if_pos hm, mergesStick, decide_eq_true hm]
    simp only [PositionPacket.mask, Bool.true_and, AlpsFields.buttons, AlpsFields.tsButtons, ite_or_eq]
    ac_rfl
  case neg =>
    rw [buttonsV3V5, if_neg hm, mergesStick, decide_eq_false hm]
    simp only [PositionPacket.mask, Bool.false_and, Bool.or_false, AlpsFields.buttons]

theorem event_of_positionPacket? (h : f.positionPacket? = some t) (ht : t.InRange d)
    (hy : 0 ≤ dev.yMax ∧ dev.yMax < 2 ^ 31) {n : Nat} :
    eventV3V5 dev q f n = t.event dev (mergesStick dev q) n := by
  have hm := @mask_of_positionPacket? dev q f t h
  simp only [AlpsFields.positionPacket?, Option.ite_none_left_eq_some, Option.some.injEq] at h
  obtain ⟨hi, rfl⟩ := h
  have hx' : f.st.x.toNat < 2 ^ 11 := ht.left
  have hy' : f.st.y.toNat < 2 ^ 11 := ht.right.left
  have hn : (n : Int) < 2 ↔ n < 2 := by omega
  simp only [eventV3V5, PositionPacket.event, hm, hn]
  rw [toInt_eq (by omega), reverseY_eq hy (by omega)]

theorem fields_of_bitmapPacket? {m : BitmapPacket} (h : f.bitmapPacket? = some m)
    (hm : m.fingers.toNat < 2 ^ 31) :
    f.isMp = true ∧ (f.HasBitmaps ↔ m.Touched) ∧ toInt f.fingers = m.fingers.toNat := by
  simp only [AlpsFields.bitmapPacket?, Option.ite_none_right_eq_some, Option.some.injEq] at h
  obtain ⟨hi, rfl⟩ := h
  exact ⟨hi, Iff.rfl, toInt_eq hm⟩

theorem BitmapPacket.InRange.fingers_lt {m : BitmapPacket} (h : m.InRange dev d) : m.fingers.toNat < 2 ^ 31 := by
  cases d
  all_goals
    simp only [BitmapPacket.InRange] at h
    omega

end Event

namespace Layout

variable {l : Layout} {b : UInt8} {p : List UInt8} {f : AlpsFields}

def positionWires (l : Layout) : List Wire :=
  l.isMp :: l.firstMp :: l.x ++ l.y ++ l.pressure ++ l.buttons ++ l.spare

def bitmapWires (l : Layout) : List Wire :=
  l.isMp :: l.yMap ++ l.xMap ++ l.fingers ++ l.spareMp

theorem flatMap_positionSlots {t : PositionPacket} :
    (l.positionSlots t).flatMap Slot.wires = l.positionWires := by
  simp [positionSlots, positionWires]

theorem flatMap_bitmapSlots {t : BitmapPacket} : (l.bitmapSlots t).flatMap Slot.wires = l.bitmapWires := by
  simp [bitmapSlots, bitmapWires]

end Layout

section Mark

variable {l : Layout} {b : UInt8} {p : List UInt8} {f : AlpsFields}

theorem ReadsPosition.of_mark (h : ReadsPosition l (mark b p) f) (hu : ∀ w ∈ l.positionWires, w.Unmarked b) :
    ReadsPosition l p f where
  firstMp     := h.firstMp.trans (probe_mark (hu _ (by simp [Layout.positionWires])))
  x           := h.x.trans (gather_mark fun w hw => hu w (by simp [Layout.positionWires, hw]))
  y           := h.y.trans (gather_mark fun w hw => hu w (by simp [Layout.positionWires, hw]))
  pressure hs := by
    rw [h.pressure (by rwa [gather_mark fun w hw => hu w (by simp [Layout.positionWires, hw])]),
      gather_mark fun w hw => hu w (by simp [Layout.positionWires, hw])]
  buttons     := h.buttons.trans (map_probe_mark fun w hw => hu w (by simp [Layout.positionWires, hw]))

theorem ReadsBitmap.of_mark (h : ReadsBitmap l (mark b p) f) (hu : ∀ w ∈ l.bitmapWires, w.Unmarked b) :
    ReadsBitmap l p f where
  xMap       := h.xMap.trans (gather_mark fun w hw => hu w (by simp [Layout.bitmapWires, hw]))
  yMap       := h.yMap.trans (gather_mark fun w hw => hu w (by simp [Layout.bitmapWires, hw]))
  fingers hs := by
    rw [h.fingers (by rwa [gather_mark fun w hw => hu w (by simp [Layout.bitmapWires, hw])]),
      gather_mark fun w hw => hu w (by simp [Layout.bitmapWires, hw])]

end Mark

-- What the packets of a device have in common: no field is found in the bits of the mark, nor in the highest
-- bits of the bytes if these are checked.
structure Marked (dev : AlpsDevice) (d : DecodeFields) : Prop where
  routine       : dev.processPacket = .v3 d ∧ d ≠ .dolphin ∧ dev.byte0 = 0x8f ∨ dev.processPacket = .touchpadV3V5 d
  fitsProfile   : d = .dolphin → dev.FitsProfile
  pktsize       : dev.pktsize = 6
  mask0         : dev.mask0 = dev.byte0
  position      : ∀ w ∈ (layout dev d).positionWires, w.Unmarked dev.byte0
  bitmap        : ∀ w ∈ (layout dev d).bitmapWires, w.Unmarked dev.byte0
  highBits      : dev.protoVersion < alpsProtoV5 →
    ∀ w ∈ (layout dev d).positionWires ++ (layout dev d).bitmapWires, w.2 ≠ 7
  v7            : dev.protoVersion ≠ alpsProtoV7
  distinct      : Distinguishable dev.toAlpsData
  yMax          : 0 ≤ dev.yMax ∧ dev.yMax < 2 ^ 31

section Devices

variable {fwVer status : UInt8} {noTrackstick : Bool}

theorem not_bare_8f {b : UInt8} (h : b &&& 0x8f = 0x8f) : b &&& 0xc8 ≠ 0x08 := by
  intro hb
  have he : b &&& 0x8f &&& 0x80 = b &&& 0xc8 &&& 0x80 := by
    rw [UInt8.and_assoc, UInt8.and_assoc]
    rfl
  rw [hb, h] at he
  exact absurd he (by decide)

theorem not_bare_c8 {b : UInt8} (h : b &&& 0xc8 = 0xc8) : b &&& 0xc8 ≠ 0x08 := by
  rw [h]
  decide

theorem clearDualpoint_interleaved {dev : AlpsDevice} {absent : Bool}
    (h : dev.flags &&& alpsPS2Interleaved = 0) :
    (dev.clearDualpoint absent).flags &&& alpsPS2Interleaved = 0 := by
  cases absent
  case false => exact h
  case true  =>
    show dev.flags &&& ~~~alpsDualpoint &&& alpsPS2Interleaved = 0
    rw [UInt32.and_assoc, UInt32.and_comm (~~~_), ← UInt32.and_assoc, h, UInt32.zero_and]

theorem pinnacle_wires : ∀ w ∈ Layout.pinnacle.positionWires ++ Layout.pinnacle.bitmapWires,
    Unmarked 0x8f w ∧ w.2 ≠ 7 := by
  decide +kernel

theorem rushmore_wires : ∀ w ∈ Layout.rushmore.positionWires ++ Layout.rushmore.bitmapWires,
    Unmarked 0x8f w ∧ w.2 ≠ 7 := by
  decide +kernel

theorem marked_v3 : Marked (setProtocol .v3 fwVer noTrackstick status) .pinnacle := by
  have hi : (0x02 : UInt32) &&& alpsPS2Interleaved = 0 := by decide
  cases noTrackstick
  all_goals exact {
    routine         := .inl ⟨rfl, DecodeFields.noConfusion, rfl⟩
    fitsProfile     := DecodeFields.noConfusion
    pktsize         := rfl
    mask0           := rfl
    position w hw   := (pinnacle_wires w (List.mem_append_left _ hw)).left
    bitmap w hw     := (pinnacle_wires w (List.mem_append_right _ hw)).left
    highBits _ w hw := (pinnacle_wires w hw).right
    v7              := show (0x300 : UInt16) ≠ 0x700 by decide
    distinct        := ⟨show (0x300 : UInt16) ≠ 0x800 by decide, clearDualpoint_interleaved hi, fun _ => not_bare_8f⟩
    yMax            := show (0 : Int) ≤ 1400 ∧ (1400 : Int) < 2 ^ 31 by decide }

theorem marked_v3Rushmore : Marked (setProtocol .v3Rushmore fwVer noTrackstick status) .rushmore := by
  have hi : (0x02 : UInt32) &&& alpsPS2Interleaved = 0 := by decide
  cases noTrackstick
  all_goals exact {
    routine         := .inl ⟨rfl, DecodeFields.noConfusion, rfl⟩
    fitsProfile     := DecodeFields.noConfusion
    pktsize         := rfl
    mask0           := rfl
    position w hw   := (rushmore_wires w (List.mem_append_left _ hw)).left
    bitmap w hw     := (rushmore_wires w (List.mem_append_right _ hw)).left
    highBits _ w hw := (rushmore_wires w hw).right
    v7              := show (0x310 : UInt16) ≠ 0x700 by decide
    distinct        := ⟨show (0x310 : UInt16) ≠ 0x800 by decide, clearDualpoint_interleaved hi, fun _ => not_bare_8f⟩
    yMax            := show (0 : Int) ≤ 1400 ∧ (1400 : Int) < 2 ^ 31 by decide }

-- The position packets do not depend on the number of electrodes.
theorem dolphin_positionWires : ∀ w ∈ (Layout.dolphin 0 0).positionWires, Unmarked 0xc8 w := by
  decide +kernel

theorem dolphin_bitmapWires {xBits yBits : Int} :
    ∀ w ∈ (Layout.dolphin xBits yBits).bitmapWires, Unmarked 0xc8 w := by
  have hp : ∀ w ∈ (0, 5) :: profile ++ [(0, 1), (0, 2), (0, 4)], Unmarked 0xc8 w := by decide +kernel
  intro w hw
  refine hp w ((Layout.dolphin_sublist xBits.toNat yBits.toNat _).subset ?_)
  rwa [Layout.bitmapWires, show (Layout.dolphin xBits yBits).spareMp = [] from rfl, List.append_nil] at hw

theorem marked_v5 (h : (setProtocol .v5 fwVer noTrackstick status).FitsProfile) :
    Marked (setProtocol .v5 fwVer noTrackstick status) .dolphin where
  routine       := .inr rfl
  fitsProfile _ := h
  pktsize       := rfl
  mask0         := rfl
  position      := dolphin_positionWires
  bitmap        := dolphin_bitmapWires
  highBits h    := absurd h (show ¬(0x500 : UInt16) < 0x500 by decide)
  v7            := show (0x500 : UInt16) ≠ 0x700 by decide
  distinct      := {
    protoVersion  := show (0x500 : UInt16) ≠ 0x800 by decide
    interleaved   := show (0 : UInt32) &&& 0x80 = 0 by decide
    firstByte _   := not_bare_c8 }
  yMax          := by
    have ⟨_, _, hn, hx, _⟩ := h
    show 0 ≤ ((setProtocol .v5 fwVer noTrackstick status).yBits - 1) * 64 ∧
      ((setProtocol .v5 fwVer noTrackstick status).yBits - 1) * 64 < 2 ^ 31
    omega

theorem marked_of_decodeFields? {v : Protocol} {d : DecodeFields} (h : v.decodeFields? = some d)
    (hf : d = .dolphin → (setProtocol v fwVer noTrackstick status).FitsProfile) :
    Marked (setProtocol v fwVer noTrackstick status) d := by
  cases v
  case v3         => exact Option.some_inj.mp h ▸ marked_v3
  case v3Rushmore => exact Option.some_inj.mp h ▸ marked_v3Rushmore
  case v5 =>
    obtain rfl := Option.some_inj.mp h
    exact marked_v5 (hf rfl)
  all_goals simp [Protocol.decodeFields?] at h

end Devices

namespace Marked

variable {dev : AlpsDevice} {d : DecodeFields} {t : PositionPacket} {m : BitmapPacket} {f : AlpsFields}

theorem isMp_position (h : Marked dev d) : probe (markedPosition dev d t) (layout dev d).isMp = false := by
  rw [markedPosition, probe_mark (h.position _ (by simp [Layout.positionWires]))]
  exact probe_of_gather <| Layout.gather_encodePosition (s := ⟨[(layout dev d).isMp], 0⟩)
    (by simp [Layout.positionSlots]) (by simp [Slot.Fits])

theorem isMp_bitmap (h : Marked dev d) : probe (markedBitmap dev d m) (layout dev d).isMp = true := by
  rw [markedBitmap, probe_mark (h.bitmap _ (by simp [Layout.bitmapWires]))]
  exact probe_of_gather <| Layout.gather_encodeBitmap (s := ⟨[(layout dev d).isMp], 1⟩)
    (by simp [Layout.bitmapSlots]) (by simp [Slot.Fits])

-- The fields are decoded as if there was no mark.
theorem positionPacket (h : Marked dev d) (ht : t.InRange d) :
    (decodeFields dev (markedPosition dev d t) d f).positionPacket? = some t := by
  have ⟨hi, hr⟩ := @decodeFields_position dev d _ f (h.isMp_position (t := t))
  exact ht.fits.decoded hi (hr.of_mark h.position)

theorem bitmapPacket (h : Marked dev d) (hm : m.InRange dev d) :
    (decodeFields dev (markedBitmap dev d m) d f).bitmapPacket? = some m := by
  have hd : d = .dolphin → 0 ≤ dev.xBits ∧ dev.xBits ≤ 32 ∧ 0 ≤ dev.yBits ∧ dev.yBits ≤ 32 := fun hd => by
    have ⟨_, _, _, _, _⟩ := h.fitsProfile hd
    omega
  have ⟨hi, hr⟩ := @decodeFields_bitmap dev d _ f hd (h.isMp_bitmap (m := m))
  exact (hm.fits h.fitsProfile).decoded hi (hr.of_mark h.bitmap)

-- A packet whose fields are found in some wires is accepted if the mark and the highest bits are not there.
theorem validPacket (h : Marked dev d) {slots : List Slot} {ws : List Wire} (hs : slots.flatMap Slot.wires = ws)
    (hu : ∀ w ∈ ws, w.Unmarked dev.byte0) (hb : dev.protoVersion < alpsProtoV5 → ∀ w ∈ ws, w.2 ≠ 7) :
    ValidPacket dev.toAlpsData (mark dev.byte0 (Slot.scatter 6 slots)) where
  length    := by rw [length_mark, Slot.length_scatter, h.pktsize]
  firstByte := by
    rw [packetOf, h.mask0]
    refine getD_mark_and UInt8.and_self (List.ne_nil_of_length_eq_add_one Slot.length_scatter) fun i hi => ?_
    refine Slot.probe_scatter_of_not_mem ⟨show 0 < 6 by decide, lt_eight_of_testBit hi⟩ fun hw => ?_
    simp [hu _ (hs ▸ hw) rfl] at hi
  highBit hv k h₁ hk := by
    rw [h.pktsize] at hk
    refine getD_and_eq_zero (i := 7) rfl ?_
    rw [probe_mark fun hz => absurd hz (by dsimp only; omega)]
    exact Slot.probe_scatter_of_not_mem ⟨hk, show 7 < 8 by decide⟩ fun hw => hb hv _ (hs ▸ hw) rfl
  v7 hv     := absurd hv h.v7
  ss4v2 hv  := absurd hv h.distinct.protoVersion

theorem validPacket_position (h : Marked dev d) : ValidPacket dev.toAlpsData (markedPosition dev d t) :=
  h.validPacket Layout.flatMap_positionSlots h.position fun hv w hw =>
    h.highBits hv w (List.mem_append_left _ hw)

theorem validPacket_bitmap (h : Marked dev d) : ValidPacket dev.toAlpsData (markedBitmap dev d m) :=
  h.validPacket Layout.flatMap_bitmapSlots h.bitmap fun hv w hw =>
    h.highBits hv w (List.mem_append_right _ hw)

section Stick

-- The packets that are taken for one of the stick have this byte.
theorem byte_eq_stick {p : List UInt8} : byte p 5 = 0x3f ↔ ∀ i, probe p (5, i) = Nat.testBit 63 i := by
  rw [← UInt32.toNat_inj, byte_toNat]
  exact Nat.eq_iff_testBit_eq

theorem byte_eq_stick_iff {p : List UInt8} {n : Nat} (hn : n = 7 ∨ n = 6 ∧ probe p (5, 6) = false)
    (h₇ : probe p (5, 7) = false) : byte p 5 = 0x3f ↔ gather p (span 5 0 n) = 63 := by
  have hg : ∀ i < n, (gather p (span 5 0 n)).testBit i = probe p (5, i) := fun i hi => by
    rw [testBit_gather]
    simp [span, hi]
  rw [byte_eq_stick, Nat.eq_iff_testBit_eq]
  refine forall_congr' fun i => ?_
  by_cases hi : i < n
  case pos => rw [hg i hi]
  case neg =>
    have h63 : Nat.testBit 63 i = false :=
      Nat.testBit_lt_two_pow (lt_of_lt_of_le (by decide : 63 < 2 ^ 6) (Nat.pow_le_pow_right (by decide) (by omega)))
    have hl : (gather p (span 5 0 n)).testBit i = false := by
      rw [testBit_gather]
      simp [span, hi]
    have hp : probe p (5, i) = false := by
      by_cases h₈ : 8 ≤ i
      case pos =>
        exact Nat.testBit_lt_two_pow (lt_of_lt_of_le (UInt8.toNat_lt _) (Nat.pow_le_pow_right (by decide) h₈))
      case neg =>
        obtain rfl | ⟨rfl, h₆⟩ : i = 7 ∨ i = 6 ∧ n = 6 := by omega
        case inl => exact h₇
        case inr => simpa [h₆] using hn
    simp [hp, hl, h63]

theorem gather_pressure (h : Marked dev d) (ht : t.InRange d) :
    gather (markedPosition dev d t) (layout dev d).pressure = t.pressure.toNat := by
  rw [markedPosition, gather_mark fun w hw => h.position w (by simp [Layout.positionWires, hw])]
  have hf : (layout dev d).FitsPosition t := ht.fits
  refine Layout.gather_encodePosition (s := ⟨(layout dev d).pressure, t.pressure.toNat⟩)
    (by simp [Layout.positionSlots]) ?_
  exact (Int.toNat_lt hf.nonneg).mpr (by simpa using hf.pressure)

theorem byte_position (h : Marked dev d) (hd : d ≠ .dolphin) (ht : t.InRange d) :
    byte (markedPosition dev d t) 5 = 0x3f ↔ t.pressure = 63 := by
  have ⟨_, _, h₀, _⟩ := ht
  have hp : t.pressure.toNat = 63 ↔ t.pressure = 63 := by omega
  have hg := h.gather_pressure ht
  have h₇ : probe (markedPosition dev d t) (5, 7) = false := by
    refine (probe_mark fun h => absurd h (show 5 ≠ 0 by decide)).trans ?_
    refine Slot.probe_scatter_of_not_mem ⟨show 5 < 6 by decide, show 7 < 8 by decide⟩ ?_
    rw [Layout.flatMap_positionSlots]
    cases d
    case pinnacle => exact fun hw => (pinnacle_wires _ (List.mem_append_left _ hw)).right rfl
    case rushmore => exact fun hw => (rushmore_wires _ (List.mem_append_left _ hw)).right rfl
    case dolphin  => exact absurd rfl hd
  rw [← hp, ← hg]
  cases d
  case pinnacle => exact byte_eq_stick_iff (.inl rfl) h₇
  case rushmore => exact byte_eq_stick_iff (.inr ⟨rfl, h.isMp_position⟩) h₇
  case dolphin  => exact absurd rfl hd

-- So nothing is done about it.
theorem trackstick_position (h : Marked dev d) (hd : d ≠ .dolphin) (hb : dev.byte0 = 0x8f) {s : Decoder} :
    alpsProcessTrackstickPacketV3 dev s (markedPosition dev d t) = (s, []) := by
  have h₆ : probe (markedPosition dev d t) (0, 6) = false := by
    cases d
    case pinnacle => exact h.isMp_position
    case rushmore =>
      refine (probe_mark fun _ => by rw [hb]; rfl).trans ?_
      refine Slot.probe_scatter_of_not_mem ⟨show 0 < 6 by decide, show 6 < 8 by decide⟩ ?_
      rw [Layout.flatMap_positionSlots]
      exact (show (0, 6) ∉ Layout.rushmore.positionWires by decide +kernel)
    case dolphin => exact absurd rfl hd
  have hz : byte (markedPosition dev d t) 0 &&& 0x40 = 0 := by
    have hz := @and_ne_zero_eq_probe (markedPosition dev d t) 0x40 0 6 rfl
    rw [h₆] at hz
    simpa using hz
  simp only [alpsProcessTrackstickPacketV3, hz, true_or, or_true, if_true]

theorem byte_bitmap (h : Marked dev d) (hd : d ≠ .dolphin) : byte (markedBitmap dev d m) 5 ≠ 0x3f := by
  intro hs
  have hs := byte_eq_stick.mp hs
  cases d
  case rushmore =>
    have h₆ : probe (markedBitmap dev .rushmore m) (5, 6) = true := h.isMp_bitmap
    rw [hs 6] at h₆
    exact absurd h₆ (by decide)
  case pinnacle =>
    have h₂ : probe (markedBitmap dev .pinnacle m) (5, 2) = false := by
      refine (probe_mark fun h => absurd h (show 5 ≠ 0 by decide)).trans ?_
      refine Slot.probe_scatter_of_not_mem ⟨show 5 < 6 by decide, show 2 < 8 by decide⟩ ?_
      rw [Layout.flatMap_bitmapSlots]
      exact (show (5, 2) ∉ Layout.pinnacle.bitmapWires by decide +kernel)
    rw [hs 2] at h₂
    exact absurd h₂ (by decide)
  case dolphin => exact absurd rfl hd

end Stick

section Report

variable {s : Decoder} {q : UInt8}

theorem processPacket_position (h : Marked dev d) (ht : t.InRange d) :
    processPacket dev s (markedPosition dev d t) =
      if t.Lost dev d then some (s, [])
      else (PairingRoutine.touchpadV3V5 d).process dev s (markedPosition dev d t) := by
  rcases h.routine with ⟨hv, hd, hb⟩ | hv
  case inl =>
    simp only [processPacket, hv, alpsProcessPacketV3, h.byte_position hd ht, h.trackstick_position hd hb,
      PositionPacket.Lost, true_and, PairingRoutine.process]
  case inr =>
    simp only [processPacket, hv, PositionPacket.Lost, reduceCtorEq, false_and, if_false, PairingRoutine.process]

theorem processPacket_bitmap (h : Marked dev d) :
    processPacket dev s (markedBitmap dev d m) =
      (PairingRoutine.touchpadV3V5 d).process dev s (markedBitmap dev d m) := by
  rcases h.routine with ⟨hv, hd, _⟩ | hv
  case inl =>
    simp only [processPacket, hv, alpsProcessPacketV3, h.byte_bitmap hd, if_false, PairingRoutine.process]
  case inr => simp only [processPacket, hv, PairingRoutine.process]

theorem part_position (h : Marked dev d) (ht : t.InRange d) :
    (PairingRoutine.touchpadV3V5 d).part dev (markedPosition dev d t) = if t.firstMp then .first else .whole := by
  have ⟨hi, hf⟩ := isMp_of_positionPacket? (h.positionPacket ht (f := {}))
  simp [PairingRoutine.part, PairingRoutine.decode, hi, hf]

theorem part_bitmap (h : Marked dev d) (hm : m.InRange dev d) :
    (PairingRoutine.touchpadV3V5 d).part dev (markedBitmap dev d m) = .second :=
  part_eq_second.mpr (fields_of_bitmapPacket? (h.bitmapPacket hm) hm.fingers_lt).left

theorem single_position (h : Marked dev d) (ht : t.InRange d) :
    (PairingRoutine.touchpadV3V5 d).single dev q (markedPosition dev d t) = [t.event dev (mergesStick dev q) 0] :=
  congrArg ([·]) (event_of_positionPacket? (h.positionPacket ht) ht h.yMax (n := 0))

theorem pair_bitmap (h : Marked dev d) (ht : t.InRange d) (hm : m.InRange dev d) :
    (PairingRoutine.touchpadV3V5 d).pair dev q (markedPosition dev d t) (markedBitmap dev d m) =
      [t.event dev (mergesStick dev q) (if m.Touched then m.fingers.toNat else 0)] := by
  have ⟨_, hb, hf⟩ := fields_of_bitmapPacket? (h.bitmapPacket hm (f := {})) hm.fingers_lt
  simp only [PairingRoutine.pair, PairingRoutine.decode, hb, hf]
  have hn : (if m.Touched then (m.fingers.toNat : Int) else 0) =
      (if m.Touched then m.fingers.toNat else 0 : Nat) := by
    split <;> rfl
  rw [hn, event_of_positionPacket? (h.positionPacket ht) ht h.yMax]

theorem decoder_step {p : List UInt8} {r : Decoder × List Call} (h : processPacket dev s p = some r) :
    (decoder dev).step (some s) p = (some r.1, r.2) :=
  Mealy.halting_step_some h

theorem run_single (h : Marked dev d) (ht : t.InRange d) (hf : t.firstMp = false) (hs : s.multiPacket = 0) :
    ∃ s', s'.multiPacket = 0 ∧ s'.quirks = s.quirks ∧
      (decoder dev).run (some s) [markedPosition dev d t] =
        (some s', if t.Lost dev d then []
          else [.dispatchEventsWithInfo (t.event dev (mergesStick dev s.quirks) 0)]) := by
  have hp := h.processPacket_position (s := s) ht
  by_cases hl : t.Lost dev d
  case pos =>
    rw [if_pos hl] at hp ⊢
    exact ⟨s, hs, rfl, by simp only [Mealy.run, decoder_step hp, List.append_nil]⟩
  case neg =>
    have hw := h.part_position ht
    rw [hf, if_neg Bool.false_ne_true] at hw
    obtain ⟨s', he, hm, hq⟩ := process_of_whole (s := s) hw
    rw [if_neg hl, he, h.single_position ht] at hp
    rw [if_neg hl]
    exact ⟨s', hm, hq, by simp only [Mealy.run, decoder_step hp, List.append_nil, List.map]⟩

-- If the first packet is lost, the second one is ignored.
theorem run_multi (h : Marked dev d) (ht : t.InRange d) (hf : t.firstMp = true) (hm : m.InRange dev d)
    (hd : m.Touched → ¬dev.SingleElectrode) (hs : s.multiPacket = 0) :
    ∃ s', s'.multiPacket = 0 ∧ s'.quirks = s.quirks ∧
      (decoder dev).run (some s) [markedPosition dev d t, markedBitmap dev d m] =
        (some s', if t.Lost dev d then []
          else [.dispatchEventsWithInfo
            (t.event dev (mergesStick dev s.quirks) (if m.Touched then m.fingers.toNat else 0))]) := by
  have hp := h.processPacket_position (s := s) ht
  have hsecond := h.part_bitmap hm
  by_cases hl : t.Lost dev d
  case pos =>
    have hb := h.processPacket_bitmap (s := s) (m := m)
    rw [process_of_second hsecond hs] at hb
    rw [if_pos hl] at hp ⊢
    exact ⟨s, hs, rfl, by simp only [Mealy.run, decoder_step hp, decoder_step hb, List.append_nil]⟩
  case neg =>
    have hfirst := h.part_position ht
    rw [hf, if_pos rfl] at hfirst
    have hb := h.processPacket_bitmap (s := s.save (markedPosition dev d t)) (m := m)
    have hok : ¬(PairingRoutine.touchpadV3V5 d).Fails dev (markedBitmap dev d m) := fun hx =>
      hd ((fields_of_bitmapPacket? (h.bitmapPacket hm) hm.fingers_lt).right.left.mp hx.left) hx.right
    obtain ⟨s', he, hm', hq⟩ := process_of_pair hsecond hfirst
      (s := s.save (markedPosition dev d t)) rfl rfl hok
    rw [if_neg hl, process_of_first hfirst] at hp
    rw [he, h.pair_bitmap ht hm] at hb
    rw [if_neg hl]
    exact ⟨s', hm', hq, by
      simp only [Mealy.run, decoder_step hp, decoder_step hb, List.append_nil, List.nil_append, List.map]
      rfl⟩

-- What a report leads to, however the decoder has got here.
theorem run_report (h : Marked dev d) {r : PadReport} (hr : r.Fits dev d) (hs : s.multiPacket = 0) :
    ∃ s', s'.multiPacket = 0 ∧ s'.quirks = s.quirks ∧
      (decoder dev).run (some s) (r.packets dev d) =
        (some s', ((r.event? dev d (mergesStick dev s.quirks)).map .dispatchEventsWithInfo).toList) := by
  cases r
  case single t =>
    have hr' : ({ t with firstMp := false } : PositionPacket).InRange d := hr
    obtain ⟨s', hm, hq, he⟩ := h.run_single hr' rfl hs
    refine ⟨s', hm, hq, he.trans (congrArg (some s', ·) ?_)⟩
    rw [PadReport.event?]
    by_cases hl : t.Lost dev d
    case pos => rw [if_pos hl]; exact if_pos hl
    case neg => rw [if_neg hl]; exact if_neg hl
  case multi t m =>
    have ⟨ht, hm, hd⟩ := hr
    have ht : ({ t with firstMp := true } : PositionPacket).InRange d := ht
    obtain ⟨s', hm, hq, he⟩ := h.run_multi ht rfl hm hd hs
    refine ⟨s', hm, hq, he.trans (congrArg (some s', ·) ?_)⟩
    rw [PadReport.event?]
    by_cases hl : t.Lost dev d
    case pos => rw [if_pos hl]; exact if_pos hl
    case neg => rw [if_neg hl]; exact if_neg hl

theorem decoder_reports (h : Marked dev d) {rs : List PadReport} (hr : ∀ r ∈ rs, r.Fits dev d)
    (hs : s.multiPacket = 0) :
    events ((decoder dev).out (some s) (rs.flatMap (PadReport.packets dev d))) =
      rs.filterMap (PadReport.event? dev d (mergesStick dev s.quirks)) := by
  induction rs generalizing s
  case nil          => rfl
  case cons r rs hi =>
    obtain ⟨s', hm, hq, he⟩ := h.run_report (hr r List.mem_cons_self) hs
    have hi := hi (fun r hm => hr r (List.mem_cons_of_mem _ hm)) hm
    rw [List.flatMap_cons, Mealy.out_append, Mealy.state, Mealy.out, he, events_append, hi, hq]
    cases hv : r.event? dev d (mergesStick dev s.quirks)
    case none   => rw [List.filterMap_cons_none hv]; rfl
    case some e => rw [List.filterMap_cons_some hv]; rfl

theorem packets_valid (h : Marked dev d) {rs : List PadReport} :
    ∀ p ∈ rs.flatMap (PadReport.packets dev d), ValidPacket dev.toAlpsData p := by
  intro p hp
  have ⟨r, _, hp⟩ := List.mem_flatMap.mp hp
  cases r
  case single =>
    obtain rfl := List.mem_singleton.mp hp
    exact h.validPacket_position
  case multi =>
    rcases List.mem_pair.mp hp with rfl | rfl
    · exact h.validPacket_position
    · exact h.validPacket_bitmap

end Report

end Marked

-- The bytes of packets in a row get through the framer.
theorem promptFramer_flatten {priv : AlpsData} {s : Framer} {ps : List (List UInt8)} (hd : Distinguishable priv)
    (hs : Synchronised priv s) (hp : ∀ p ∈ ps, ValidPacket priv p) :
    (promptFramer priv).out s ps.flatten = ps := by
  rw [(promptFramer_simulates priv).run_out (.of_forall fun _ _ => trivial) hs.represents]
  have h := StreamItem.out_alps_append hd hp []
  rw [List.append_nil, List.flatMap_map] at h
  have ho : (framing priv).out (.empty : Frame priv) [] = [] := rfl
  rw [ho, List.append_nil] at h
  rwa [List.flatten_eq_flatMap]

-- A finger, two fingers with the left button of the stick, and a pressure that is taken for the stick.
def padReports : List PadReport := [
  .single ⟨700, 300, 40, false, true, false, false, false, false, false⟩,
  .multi ⟨710, 310, 45, true, false, false, false, true, false, false⟩ ⟨0x0c18, 0x0183, 2⟩,
  .single ⟨720, 320, 63, false, false, false, false, false, false, false⟩]

end Touchpad
