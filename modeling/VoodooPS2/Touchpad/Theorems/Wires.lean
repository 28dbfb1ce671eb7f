import VoodooPS2.Touchpad.Theorems.Fields
import VoodooPS2.Wiring.Chunk

namespace Touchpad

open Wiring Wire

section Chunks

variable {p : List UInt8} {m s n : UInt32} {k : Nat} {ws : List Wire}

theorem byte_toNat : (byte p k).toNat = (p.getD k 0).toNat := by
  simp [byte]

theorem toNat_and : (byte p k &&& m).toNat = Chunk.value p ⟨k, m.toNat, 0, 0⟩ := by
  rw [UInt32.toNat_and, byte_toNat]
  rfl

theorem toNat_shiftRight (hs : s.toNat < 32) :
    ((byte p k &&& m).shiftRight s).toNat = Chunk.value p ⟨k, m.toNat, 0, s.toNat⟩ := by
  apply (UInt32.toNat_shiftRight (byte p k &&& m) s).trans
  rw [Nat.mod_eq_of_lt hs, UInt32.toNat_and, byte_toNat]
  rfl

-- The bits of a byte are not shifted out.
theorem and_shiftLeft_lt {b : UInt8} {m s n : Nat} (hs : s ≤ n) : (b.toNat &&& m) <<< s < 2 ^ (8 + n) := by
  rw [Nat.shiftLeft_eq, Nat.pow_add]
  have hb : b.toNat &&& m < 2 ^ 8 := lt_of_le_of_lt Nat.and_le_left b.toNat_lt
  exact Nat.mul_lt_mul_of_lt_of_le hb (Nat.pow_le_pow_right (by omega) hs) (Nat.two_pow_pos n)

theorem toNat_shiftLeft (hs : s.toNat ≤ 24) :
    ((byte p k &&& m).shiftLeft s).toNat = Chunk.value p ⟨k, m.toNat, s.toNat, 0⟩ := by
  apply (UInt32.toNat_shiftLeft (byte p k &&& m) s).trans
  rw [Nat.mod_eq_of_lt (show s.toNat < 32 by omega), UInt32.toNat_and, byte_toNat, Nat.mod_eq_of_lt (and_shiftLeft_lt hs)]
  rfl

theorem toNat_and64 {m : UInt64} :
    ((p.getD k 0).toUInt64 &&& m).toNat = Chunk.value p ⟨k, m.toNat, 0, 0⟩ := by
  rw [UInt64.toNat_and, UInt8.toNat_toUInt64]
  rfl

theorem toNat_shiftLeft64 {m s : UInt64} (hs : s.toNat ≤ 56) :
    (((p.getD k 0).toUInt64 &&& m).shiftLeft s).toNat = Chunk.value p ⟨k, m.toNat, s.toNat, 0⟩ := by
  apply (UInt64.toNat_shiftLeft ((p.getD k 0).toUInt64 &&& m) s).trans
  rw [Nat.mod_eq_of_lt (show s.toNat < 64 by omega), UInt64.toNat_and, UInt8.toNat_toUInt64,
    Nat.mod_eq_of_lt (and_shiftLeft_lt hs)]
  rfl

-- A number that is made of chunks is read off the wires that these see.
theorem toNat_eq_gather (cs : List Chunk) (hn : n.toNat = Chunk.join p cs) (h : Chunk.Reads 32 cs ws) :
    n.toNat = gather p ws :=
  hn.trans (h.join_eq (hn ▸ n.toNat_lt))

-- A flag is a bit of its own.
theorem and_ne_zero_eq_probe {j : Nat} (hm : m.toNat = 2 ^ j) : decide (byte p k &&& m ≠ 0) = probe p (k, j) := by
  have h : (byte p k &&& m).toNat = (probe p (k, j)).toNat * 2 ^ j := by
    rw [UInt32.toNat_and, byte_toNat, hm, Nat.and_two_pow]
    rfl
  have h₀ : byte p k &&& m = 0 ↔ (byte p k &&& m).toNat = 0 := UInt32.toNat_inj.symm
  cases hb : probe p (k, j)
  case false => simp [h₀, h, hb]
  case true  => simp [h₀, h, hb]

end Chunks

-- Some bits of a byte, in a row.
def span (k start len : Nat) : List Wire :=
  (List.range' start len).map (k, ·)

-- Where the fields of the packets are found. No bit belongs to two fields of the same kind of packet.
structure Layout where
  isMp     : Wire
  -- the fields of a bitmap packet
  xMap     : List Wire
  yMap     : List Wire
  fingers  : List Wire
  -- the number of fingers that is meant by 0
  fewest   : Nat
  -- the bits that have to be clear for these fields to be read
  spareMp  : List Wire := []
  -- the fields of a position packet
  firstMp  : Wire
  x        : List Wire
  y        : List Wire
  pressure : List Wire
  buttons  : List Wire := [(3, 0), (3, 1), (3, 2), (3, 4), (3, 5), (3, 6)]
  spare    : List Wire := []
  bitmap_nodup    : (isMp :: yMap ++ xMap ++ fingers ++ spareMp).Nodup
  bitmap_within   : ∀ w ∈ isMp :: yMap ++ xMap ++ fingers ++ spareMp, w.Within 6
  position_nodup  : (isMp :: firstMp :: x ++ y ++ pressure ++ buttons ++ spare).Nodup
  position_within : ∀ w ∈ isMp :: firstMp :: x ++ y ++ pressure ++ buttons ++ spare, w.Within 6

-- The bits of the two axes of a Dolphin touchpad.
def profile : List Wire :=
  span 1 0 7 ++ span 2 0 7 ++ span 4 0 7 ++ span 5 0 7 ++ span 3 0 3 ++ span 3 4 3 ++ [(0, 0)]

namespace Layout

def pinnacle : Layout where
  isMp     := (0, 6)
  xMap     := span 0 4 2 ++ span 1 0 7 ++ span 4 1 6
  yMap     := (4, 0) :: span 2 0 7 ++ span 3 4 3
  fingers  := span 5 0 2
  fewest   := 1
  firstMp  := (4, 6)
  x        := span 0 4 2 ++ span 4 4 2 ++ span 1 0 7
  y        := span 4 0 4 ++ span 2 0 7
  pressure := span 5 0 7
  bitmap_nodup    := by decide +kernel
  bitmap_within   := by decide +kernel
  position_nodup  := by decide +kernel
  position_within := by decide +kernel

def rushmore : Layout where
  isMp     := (5, 6)
  xMap     := span 0 4 2 ++ span 1 0 7 ++ span 4 1 6 ++ [(5, 4)]
  yMap     := (4, 0) :: span 2 0 7 ++ span 3 4 3 ++ [(5, 5)]
  fingers  := span 5 0 2
  fewest   := 1
  spareMp  := span 5 2 2
  firstMp  := (4, 6)
  x        := span 0 4 2 ++ span 4 4 2 ++ span 1 0 7
  y        := span 4 0 4 ++ span 2 0 7
  pressure := span 5 0 6
  bitmap_nodup    := by decide +kernel
  bitmap_within   := by decide +kernel
  position_nodup  := by decide +kernel
  position_within := by decide +kernel

-- However the profile is divided between the axes.
theorem dolphin_sublist (xBits yBits : Nat) (ws : List Wire) :
    ((0, 5) :: profile.take yBits ++ (profile.drop yBits).take xBits ++ ws).Sublist ((0, 5) :: profile ++ ws) := by
  rw [List.cons_append, List.cons_append, ← List.take_add]
  exact ((List.take_sublist _ _).cons_cons _).append_right ws

def dolphin (xBits yBits : Int) : Layout where
  isMp     := (0, 5)
  xMap     := (profile.drop yBits.toNat).take xBits.toNat
  yMap     := profile.take yBits.toNat
  fingers  := [(0, 1), (0, 2), (0, 4)]
  fewest   := 0
  firstMp  := (0, 1)
  x        := span 1 0 7 ++ span 4 0 4
  y        := span 2 0 7 ++ span 4 4 4
  pressure := span 5 0 7
  spare    := [(0, 2)]
  bitmap_nodup    := by
    rw [List.append_nil]
    exact (dolphin_sublist _ _ _).nodup (by decide +kernel)
  bitmap_within   := by
    rw [List.append_nil]
    intro w hw
    have : ∀ w ∈ (0, 5) :: profile ++ [(0, 1), (0, 2), (0, 4)], Within 6 w := by decide +kernel
    exact this w ((dolphin_sublist _ _ _).subset hw)
  position_nodup  := by decide +kernel
  position_within := by decide +kernel

end Layout

def layout (dev : AlpsDevice) : DecodeFields → Layout
  | .pinnacle => .pinnacle
  | .rushmore => .rushmore
  | .dolphin  => .dolphin dev.xBits dev.yBits

-- The fields that a decoder finds in a bitmap packet.
structure ReadsBitmap (l : Layout) (p : List UInt8) (f : AlpsFields) : Prop where
  xMap    : f.xMap.toNat = gather p l.xMap
  yMap    : f.yMap.toNat = gather p l.yMap
  fingers : gather p l.spareMp = 0 → f.fingers.toNat = gather p l.fingers + l.fewest

def AlpsFields.buttonBits (f : AlpsFields) : List Bool :=
  [f.left, f.right, f.middle, f.tsLeft, f.tsRight, f.tsMiddle]

-- Those that it finds in a position packet.
structure ReadsPosition (l : Layout) (p : List UInt8) (f : AlpsFields) : Prop where
  firstMp  : f.firstMp = probe p l.firstMp
  x        : f.st.x.toNat = gather p l.x
  y        : f.st.y.toNat = gather p l.y
  pressure : gather p l.spare = 0 → f.pressure = gather p l.pressure
  buttons  : f.buttonBits = l.buttons.map (probe p)

section Decoders

variable {dev : AlpsDevice} {p : List UInt8} {f : AlpsFields} {d : DecodeFields}

theorem toNat_add_one {n : UInt32} (h : n.toNat < 4) : (n + 1).toNat = n.toNat + 1 := by
  rw [UInt32.toNat_add]
  exact Nat.mod_eq_of_lt (by simp; omega)

theorem max_zero {n : UInt32} : max n 0 = n := by
  have : max n 0 = if n ≤ 0 then 0 else n := rfl
  rw [this]
  split
  case isTrue h => exact (UInt32.le_zero_iff.mp h).symm
  case isFalse  => rfl

theorem shiftRight_two_and {n : UInt32} : n.shiftRight 2 &&& 0x3 = (n &&& 0xc).shiftRight 2 := by
  have h₁ : (n.shiftRight 2).toNat = n.toNat >>> 2 := UInt32.toNat_shiftRight n 2
  have h₂ : ((n &&& 0xc).shiftRight 2).toNat = (n &&& 0xc).toNat >>> 2 := UInt32.toNat_shiftRight (n &&& 0xc) 2
  apply UInt32.toNat_inj.mp
  rw [UInt32.toNat_and, h₁, h₂, UInt32.toNat_and, Nat.shiftRight_and_distrib]
  rfl

-- The fields that the decoders of version 3 have in common.
theorem toNat_pressure : (byte p 5 &&& 0x7f).toNat = gather p (span 5 0 7) :=
  toNat_eq_gather [⟨5, 0x7f, 0, 0⟩] (toNat_and.trans (Nat.or_zero _).symm) (by decide)

theorem toNat_fewFingers : (byte p 5 &&& 0x3).toNat = gather p (span 5 0 2) :=
  toNat_eq_gather [⟨5, 0x3, 0, 0⟩] (toNat_and.trans (Nat.or_zero _).symm) (by decide)

theorem toNat_x : ((byte p 1 &&& 0x7f).shiftLeft 4 ||| (byte p 4 &&& 0x30).shiftRight 2 |||
    (byte p 0 &&& 0x30).shiftRight 4).toNat = gather p (span 0 4 2 ++ span 4 4 2 ++ span 1 0 7) := by
  apply toNat_eq_gather [⟨1, 0x7f, 4, 0⟩, ⟨4, 0x30, 0, 2⟩, ⟨0, 0x30, 0, 4⟩]
  · simp (disch := decide) only [UInt32.toNat_or, toNat_shiftLeft, toNat_shiftRight, Chunk.join, Nat.or_zero,
      Nat.or_assoc]
    rfl
  · decide

theorem toNat_y : ((byte p 2 &&& 0x7f).shiftLeft 4 ||| byte p 4 &&& 0x0f).toNat =
    gather p (span 4 0 4 ++ span 2 0 7) := by
  apply toNat_eq_gather [⟨2, 0x7f, 4, 0⟩, ⟨4, 0x0f, 0, 0⟩]
  · simp (disch := decide) only [UInt32.toNat_or, toNat_shiftLeft, toNat_and, Chunk.join, Nat.or_zero]
    rfl
  · decide

theorem alpsDecodeButtonsV3_buttonBits : (alpsDecodeButtonsV3 f p).buttonBits =
    [(3, 0), (3, 1), (3, 2), (3, 4), (3, 5), (3, 6)].map (probe p) := by
  simp (disch := decide) only [AlpsFields.buttonBits, alpsDecodeButtonsV3, List.map]
  rw [← @and_ne_zero_eq_probe p 0x01 3 0 rfl, ← @and_ne_zero_eq_probe p 0x02 3 1 rfl,
    ← @and_ne_zero_eq_probe p 0x04 3 2 rfl, ← @and_ne_zero_eq_probe p 0x10 3 4 rfl,
    ← @and_ne_zero_eq_probe p 0x20 3 5 rfl, ← @and_ne_zero_eq_probe p 0x40 3 6 rfl]

theorem pinnacle_bitmap (h : probe p (0, 6) = true) :
    (alpsDecodePinnacle f p).isMp = true ∧ ReadsBitmap .pinnacle p (alpsDecodePinnacle f p) := by
  have hi : decide (byte p 0 &&& 0x40 ≠ 0) = true := (and_ne_zero_eq_probe rfl).trans h
  simp only [alpsDecodePinnacle, hi, if_true, true_and]
  constructor
  case xMap =>
    apply toNat_eq_gather [⟨4, 0x7e, 8, 0⟩, ⟨1, 0x7f, 2, 0⟩, ⟨0, 0x30, 0, 4⟩]
    · simp (disch := decide) only [UInt32.toNat_or, toNat_shiftLeft, toNat_shiftRight, Chunk.join,
        Nat.or_zero, Nat.or_assoc]
      rfl
    · decide
  case yMap =>
    apply toNat_eq_gather [⟨3, 0x70, 4, 0⟩, ⟨2, 0x7f, 1, 0⟩, ⟨4, 0x01, 0, 0⟩]
    · simp (disch := decide) only [UInt32.toNat_or, toNat_shiftLeft, toNat_and, Chunk.join,
        Nat.or_zero, Nat.or_assoc]
      rfl
    · decide
  case fingers =>
    intro _
    have hlt : (byte p 5 &&& 0x3).toNat < 4 := toNat_fewFingers ▸ gather_lt
    exact (toNat_add_one hlt).trans (congrArg (· + 1) toNat_fewFingers)

theorem pinnacle_position (h : probe p (0, 6) = false) :
    (alpsDecodePinnacle f p).isMp = false ∧ ReadsPosition .pinnacle p (alpsDecodePinnacle f p) := by
  have hi : decide (byte p 0 &&& 0x40 ≠ 0) = false := (and_ne_zero_eq_probe rfl).trans h
  simp only [alpsDecodePinnacle, hi, if_false, Bool.false_eq_true]
  refine ⟨rfl, ?_⟩
  constructor
  case firstMp  => exact and_ne_zero_eq_probe rfl
  case x        => exact toNat_x
  case y        => exact toNat_y
  case pressure =>
    intro _
    have hlt : (byte p 5 &&& 0x7f).toNat < 2 ^ 7 := toNat_pressure ▸ gather_lt
    exact (toInt_eq (by omega)).trans (congrArg _ toNat_pressure)
  case buttons  => exact alpsDecodeButtonsV3_buttonBits

-- The other count of the fingers is the one that is not used by the encoder.
theorem toNat_moreFingers : ((byte p 5).shiftRight 2 &&& 0x3).toNat = gather p (span 5 2 2) := by
  rw [shiftRight_two_and]
  apply toNat_eq_gather [⟨5, 0xc, 0, 2⟩]
  · exact (toNat_shiftRight (by decide)).trans (Nat.or_zero _).symm
  · decide

theorem rushmore_bitmap (h : probe p (5, 6) = true) :
    (alpsDecodeRushmore f p).isMp = true ∧ ReadsBitmap .rushmore p (alpsDecodeRushmore f p) := by
  have hi : decide (byte p 5 &&& 0x40 ≠ 0) = true := (and_ne_zero_eq_probe rfl).trans h
  simp only [alpsDecodeRushmore, hi, if_true, true_and]
  constructor
  case xMap =>
    apply toNat_eq_gather [⟨5, 0x10, 11, 0⟩, ⟨4, 0x7e, 8, 0⟩, ⟨1, 0x7f, 2, 0⟩, ⟨0, 0x30, 0, 4⟩]
    · simp (disch := decide) only [UInt32.toNat_or, toNat_shiftLeft, toNat_shiftRight, Chunk.join,
        Nat.or_zero, Nat.or_assoc]
      rfl
    · decide
  case yMap =>
    apply toNat_eq_gather [⟨5, 0x20, 6, 0⟩, ⟨3, 0x70, 4, 0⟩, ⟨2, 0x7f, 1, 0⟩, ⟨4, 0x01, 0, 0⟩]
    · simp (disch := decide) only [UInt32.toNat_or, toNat_shiftLeft, toNat_and, Chunk.join,
        Nat.or_zero, Nat.or_assoc]
      rfl
    · decide
  case fingers =>
    intro hs
    have h₀ : (byte p 5).shiftRight 2 &&& 0x3 = 0 := UInt32.toNat_inj.mp (toNat_moreFingers.trans hs)
    have hlt : (byte p 5 &&& 0x3).toNat < 4 := toNat_fewFingers ▸ gather_lt
    simp only [h₀, max_zero]
    exact (toNat_add_one hlt).trans (congrArg (· + 1) toNat_fewFingers)

theorem rushmore_position (h : probe p (5, 6) = false) :
    (alpsDecodeRushmore f p).isMp = false ∧ ReadsPosition .rushmore p (alpsDecodeRushmore f p) := by
  have hi : decide (byte p 5 &&& 0x40 ≠ 0) = false := (and_ne_zero_eq_probe rfl).trans h
  simp only [alpsDecodeRushmore, hi, if_false, Bool.false_eq_true]
  refine ⟨rfl, ?_⟩
  constructor
  case firstMp  => exact and_ne_zero_eq_probe rfl
  case x        => exact toNat_x
  case y        => exact toNat_y
  case pressure =>
    intro _
    have hlt : (byte p 5 &&& 0x7f).toNat < 2 ^ 7 := toNat_pressure ▸ gather_lt
    have hg : gather p (span 5 0 7) = gather p (span 5 0 6) := @gather_concat_of_clear p (5, 6) (span 5 0 6) h
    exact (toInt_eq (by omega)).trans (congrArg _ (toNat_pressure.trans hg))
  case buttons  => exact alpsDecodeButtonsV3_buttonBits

theorem toNat_palmData : (palmData p).toNat = gather p profile := by
  have hj : (palmData p).toNat = Chunk.join p [⟨1, 0x7f, 0, 0⟩, ⟨2, 0x7f, 7, 0⟩, ⟨4, 0x7f, 14, 0⟩,
      ⟨5, 0x7f, 21, 0⟩, ⟨3, 0x07, 28, 0⟩, ⟨3, 0x70, 27, 0⟩, ⟨0, 0x01, 34, 0⟩] := by
    simp (disch := decide) only [palmData, UInt64.toNat_or, toNat_shiftLeft64, toNat_and64, Chunk.join,
      Nat.or_zero, Nat.or_assoc]
    rfl
  have hr : Chunk.Reads 64 [⟨1, 0x7f, 0, 0⟩, ⟨2, 0x7f, 7, 0⟩, ⟨4, 0x7f, 14, 0⟩,
      ⟨5, 0x7f, 21, 0⟩, ⟨3, 0x07, 28, 0⟩, ⟨3, 0x70, 27, 0⟩, ⟨0, 0x01, 34, 0⟩] profile := by
    decide
  exact hj.trans (hr.join_eq (hj ▸ (palmData p).toNat_lt))

theorem toNat_ofInt64 {k : Nat} (h : k < 64) : (UInt64.ofInt k).toNat = k := by
  rw [UInt64.ofInt, UInt64.toNat_ofNat']
  omega

theorem toNat_bit_sub_one {n : Nat} (h : n < 64) : (bit n - 1).toNat = 2 ^ n - 1 := by
  have hlt : 2 ^ n < 2 ^ 64 := Nat.pow_lt_pow_right (by omega) h
  have hb : (bit n).toNat = 2 ^ n := by
    rw [bit, UInt64.toNat_shiftLeft, toNat_ofInt64 h, Nat.mod_eq_of_lt h, Nat.shiftLeft_eq]
    exact (Nat.mod_eq_of_lt (by simpa using hlt)).trans (Nat.one_mul _)
  rw [UInt64.toNat_sub_of_le _ _ (UInt64.le_iff_toNat_le.mpr (hb ▸ Nat.one_le_two_pow)), hb]
  rfl

-- The bits of the profile that belong to one of the axes.
theorem toNat_profile {start n : Nat} (hs : start < 64) (hn : n ≤ 32) :
    ((palmData p).shiftRight (UInt64.ofInt start) &&& (bit n - 1)).toUInt32.toNat =
      gather p ((profile.drop start).take n) := by
  have hp : ((palmData p).shiftRight (UInt64.ofInt start)).toNat = gather p profile >>> start := by
    have h := UInt64.toNat_shiftRight (palmData p) (UInt64.ofInt start)
    rwa [toNat_ofInt64 hs, Nat.mod_eq_of_lt hs, toNat_palmData] at h
  have hlt : gather p ((profile.drop start).take n) < 2 ^ 32 :=
    lt_of_lt_of_le gather_lt (Nat.pow_le_pow_right (by omega) ((List.length_take_le _ _).trans hn))
  rw [UInt64.toNat_toUInt32, UInt64.toNat_and, hp, toNat_bit_sub_one (by omega),
    Nat.and_two_pow_sub_one_eq_mod, gather_slice, Nat.mod_eq_of_lt hlt]

theorem toNat_dolphinFingers : ((byte p 0 &&& 0x6).shiftRight 1 ||| (byte p 0 &&& 0x10).shiftRight 2).toNat =
    gather p [(0, 1), (0, 2), (0, 4)] := by
  apply toNat_eq_gather [⟨0, 0x6, 0, 1⟩, ⟨0, 0x10, 0, 2⟩]
  · simp (disch := decide) only [UInt32.toNat_or, toNat_shiftRight, Chunk.join, Nat.or_zero]
    rfl
  · decide

theorem toNat_dolphinX :
    (byte p 1 &&& 0x7f ||| (byte p 4 &&& 0x0f).shiftLeft 7).toNat = gather p (span 1 0 7 ++ span 4 0 4) := by
  apply toNat_eq_gather [⟨1, 0x7f, 0, 0⟩, ⟨4, 0x0f, 7, 0⟩]
  · simp (disch := decide) only [UInt32.toNat_or, toNat_shiftLeft, toNat_and, Chunk.join, Nat.or_zero]
    rfl
  · decide

theorem toNat_dolphinY :
    (byte p 2 &&& 0x7f ||| (byte p 4 &&& 0xf0).shiftLeft 3).toNat = gather p (span 2 0 7 ++ span 4 4 4) := by
  apply toNat_eq_gather [⟨2, 0x7f, 0, 0⟩, ⟨4, 0xf0, 3, 0⟩]
  · simp (disch := decide) only [UInt32.toNat_or, toNat_shiftLeft, toNat_and, Chunk.join, Nat.or_zero]
    rfl
  · decide

theorem dolphin_bitmap {xBits yBits : Nat} (hx : xBits ≤ 32) (hy : yBits ≤ 32) (h : probe p (0, 5) = true) :
    (alpsDecodeDolphin f p xBits yBits).isMp = true ∧
    ReadsBitmap (.dolphin xBits yBits) p (alpsDecodeDolphin f p xBits yBits) := by
  have hi : decide (byte p 0 &&& 0x20 ≠ 0) = true := (and_ne_zero_eq_probe rfl).trans h
  simp only [alpsDecodeDolphin, hi, if_true, true_and]
  constructor
  case xMap    => exact toNat_profile (by omega) hx
  case yMap    => exact toNat_profile (by omega : 0 < 64) hy
  case fingers => exact fun _ => toNat_dolphinFingers

theorem dolphin_position {xBits yBits : Int} (h : probe p (0, 5) = false) :
    (alpsDecodeDolphin f p xBits yBits).isMp = false ∧
    ReadsPosition (.dolphin xBits yBits) p (alpsDecodeDolphin f p xBits yBits) := by
  have hi : decide (byte p 0 &&& 0x20 ≠ 0) = false := (and_ne_zero_eq_probe rfl).trans h
  simp only [alpsDecodeDolphin, hi, if_false, Bool.false_eq_true]
  refine ⟨rfl, ?_⟩
  constructor
  case firstMp  => exact and_ne_zero_eq_probe rfl
  case x        => exact toNat_dolphinX
  case y        => exact toNat_dolphinY
  case pressure =>
    intro hs
    have hc : probe p (0, 2) = false := by simpa [Layout.dolphin] using hs
    have h₄ : ¬byte p 0 &&& 4 ≠ 0 := of_decide_eq_false ((and_ne_zero_eq_probe rfl).trans hc)
    have hlt : (byte p 5 &&& 0x7f).toNat < 2 ^ 7 := toNat_pressure ▸ gather_lt
    exact (if_neg h₄).trans <| (toInt_eq (by omega)).trans (congrArg _ toNat_pressure)
  case buttons  => exact alpsDecodeButtonsV3_buttonBits

end Decoders

end Touchpad
