import VoodooPS2.Touchpad.Gestures

namespace Touchpad

section Scale

variable {c : Settings} {dev : AlpsDevice} {x y : Int}

theorem scaleAxes_square (h : c.xupmm = c.yupmm) : scaleAxes c x y = some (x, y) := by
  simp [scaleAxes, h]

theorem scaleAxes_isSome (hx : 0 < c.xupmm) (hy : 0 < c.yupmm) : (scaleAxes c x y).isSome := by
  dsimp only [scaleAxes]
  split_ifs <;> first | rfl | omega

theorem scale_square (h : c.xupmm = c.yupmm) (hd : dev.axisMean ≠ 0) :
    scale c dev x y = some (x * dev.axisFactor, y * dev.axisFactor) := by
  simp [scale, scaleAxes_square h, hd]

-- The only divisor that does not come from the configuration is the mean of the axes.
theorem scale_isSome_iff (hx : 0 < c.xupmm) (hy : 0 < c.yupmm) :
    (scale c dev x y).isSome ↔ dev.axisMean ≠ 0 := by
  have ⟨p, hp⟩ := Option.isSome_iff_exists.mp (scaleAxes_isSome (x := x) (y := y) hx hy)
  by_cases hd : dev.axisMean = 0 <;> simp [scale, hp, hd]

end Scale

namespace AlpsDevice

def InArea (dev : AlpsDevice) (x y : Int) : Prop :=
  0 ≤ x ∧ x ≤ dev.xMax ∧ 0 ≤ y ∧ y ≤ dev.yMax

-- Positions that differ are still different when they are scaled, and in the same order.
def KeepsOrder (dev : AlpsDevice) (c : Settings) : Prop :=
  ∀ x y x' y', dev.InArea x y → dev.InArea x' y' →
    ∃ p p', scale c dev x y = some p ∧ scale c dev x' y' = some p' ∧
      (x < x' → p.1 < p'.1) ∧ (y < y' → p.2 < p'.2)

variable {dev : AlpsDevice} {c : Settings}

theorem keepsOrder_iff (h : c.xupmm = c.yupmm) (hd : dev.axisMean ≠ 0) (hx : 0 < dev.xMax)
    (hy : 0 ≤ dev.yMax) : dev.KeepsOrder c ↔ 0 < dev.axisFactor := by
  constructor
  case mp =>
    intro hk
    have ⟨p, p', hp, hp', hlt, _⟩ := hk 0 0 1 0 ⟨by omega, by omega, by omega, hy⟩
      ⟨by omega, by omega, by omega, hy⟩
    rw [scale_square h hd, Option.some_inj] at hp hp'
    subst hp hp'
    simpa using hlt
  case mpr =>
    intro hf x y x' y' _ _
    refine ⟨_, _, scale_square h hd, scale_square h hd, fun hlt => ?_, fun hlt => ?_⟩
    · exact Int.mul_lt_mul_of_pos_right hlt hf
    · exact Int.mul_lt_mul_of_pos_right hlt hf

theorem axisMean_bounds {a b : Int} (ha : 2 * a ≤ dev.xMax + dev.yMax)
    (hb : dev.xMax + dev.yMax ≤ 2 * b) (h : 0 ≤ a) : a ≤ dev.axisMean ∧ dev.axisMean ≤ b := by
  have : dev.axisMean = (dev.xMax + dev.yMax) / 2 := Int.tdiv_eq_ediv_of_nonneg (by omega)
  omega

theorem axisFactor_pos_iff (h : 0 < dev.axisMean) : 0 < dev.axisFactor ↔ dev.axisMean ≤ 6000 := by
  have : dev.axisFactor = 6000 / dev.axisMean := Int.tdiv_eq_ediv_of_nonneg (by decide)
  rw [this, Int.lt_iff_add_one_le, Int.le_ediv_iff_mul_le h]
  omega

@[simp]
theorem clearDualpoint_xMax {absent : Bool} : (dev.clearDualpoint absent).xMax = dev.xMax := by
  cases absent <;> rfl

@[simp]
theorem clearDualpoint_yMax {absent : Bool} : (dev.clearDualpoint absent).yMax = dev.yMax := by
  cases absent <;> rfl

-- The area of a device with 8 to 23 electrodes along the x axis and 1 to 16 along the y axis.
theorem setDeviceArea_area {status : UInt8} :
    0 < (dev.setDeviceArea status).xMax ∧ 0 ≤ (dev.setDeviceArea status).yMax ∧
      2 * 224 ≤ (dev.setDeviceArea status).xMax + (dev.setDeviceArea status).yMax ∧
      (dev.setDeviceArea status).xMax + (dev.setDeviceArea status).yMax ≤ 2 * 1184 := by
  have hx : (status &&& 0x0f).toNat ≤ 15 := by
    rw [UInt8.toNat_and]
    exact Nat.and_le_right
  have hy : (status.shiftRight 4 &&& 0x0f).toNat ≤ 15 := by
    rw [UInt8.toNat_and]
    exact Nat.and_le_right
  simp only [setDeviceArea]
  omega

end AlpsDevice

-- The bounds of the mean of the axes, by which the scale of a protocol is decided.
def Protocol.axisBounds : Protocol → Int × Int
  | .v1 | .v2               => (895, 895)
  | .v3 | .v3Rushmore | .v4 => (1700, 1700)
  | .v5                     => (224, 1184)
  | .v7                     => (3071, 3071)
  | .v8                     => (6120, 6132)

section Protocol

variable {v : Protocol} {fwVer : UInt8} {noTrackstick : Bool} {status : UInt8}

theorem setProtocol_area :
    0 < (setProtocol v fwVer noTrackstick status).xMax ∧
      0 ≤ (setProtocol v fwVer noTrackstick status).yMax ∧
      2 * v.axisBounds.1 ≤ (setProtocol v fwVer noTrackstick status).xMax +
        (setProtocol v fwVer noTrackstick status).yMax ∧
      (setProtocol v fwVer noTrackstick status).xMax + (setProtocol v fwVer noTrackstick status).yMax ≤
        2 * v.axisBounds.2 := by
  cases v
  case v5 => exact AlpsDevice.setDeviceArea_area
  all_goals
    simp only [setProtocol, AlpsDevice.clearDualpoint_xMax, AlpsDevice.clearDualpoint_yMax]
    try split
    all_goals decide

theorem setProtocol_axisMean :
    v.axisBounds.1 ≤ (setProtocol v fwVer noTrackstick status).axisMean ∧
      (setProtocol v fwVer noTrackstick status).axisMean ≤ v.axisBounds.2 :=
  have ⟨_, _, ha, hb⟩ := setProtocol_area
  AlpsDevice.axisMean_bounds ha hb (by cases v <;> decide)

theorem setProtocol_axisMean_pos : 0 < (setProtocol v fwVer noTrackstick status).axisMean := by
  have h := (@setProtocol_axisMean v fwVer noTrackstick status).left
  cases v <;> simp only [Protocol.axisBounds] at h <;> omega

theorem setProtocol_axisFactor_pos_iff :
    0 < (setProtocol v fwVer noTrackstick status).axisFactor ↔ v ≠ .v8 := by
  rw [AlpsDevice.axisFactor_pos_iff setProtocol_axisMean_pos]
  have ⟨ha, hb⟩ := @setProtocol_axisMean v fwVer noTrackstick status
  cases v <;> simp only [Protocol.axisBounds] at ha hb
  case v8 => simpa using by omega
  all_goals simpa using by omega

end Protocol

-- The two variants of version 8 have a mean above 6000, so that their factor is zero.
theorem setProtocol_keepsOrder_iff (c : Settings) (v : Protocol) (fwVer : UInt8) (noTrackstick : Bool)
    (status : UInt8) (h : c.xupmm = c.yupmm) :
    (setProtocol v fwVer noTrackstick status).KeepsOrder c ↔ v ≠ .v8 := by
  have ⟨hx, hy, _⟩ := @setProtocol_area v fwVer noTrackstick status
  rw [AlpsDevice.keepsOrder_iff h (Int.ne_of_gt setProtocol_axisMean_pos) hx hy,
    setProtocol_axisFactor_pos_iff]

theorem setProtocol_keepsOrder_dolphin : (setProtocol .v5 0 false 0x47).KeepsOrder {} :=
  (setProtocol_keepsOrder_iff {} .v5 0 false 0x47 rfl).mpr (by decide)

theorem not_setProtocol_keepsOrder :
    ¬ ∀ (c : Settings) (v : Protocol) (fwVer : UInt8) (noTrackstick : Bool) (status : UInt8),
      c.xupmm = c.yupmm → 0 < c.xupmm → (setProtocol v fwVer noTrackstick status).KeepsOrder c := by
  intro h
  have ⟨p, p', hp, hp', hlt, _⟩ := h {} .v8 0x1 false 0 rfl (by decide) 0 0 1 0
    ⟨by decide, by decide, by decide, by decide⟩ ⟨by decide, by decide, by decide, by decide⟩
  rw [show scale {} (setProtocol .v8 0x1 false 0) 0 0 = some (0, 0) from by decide, Option.some_inj] at hp
  rw [show scale {} (setProtocol .v8 0x1 false 0) 1 0 = some (0, 0) from by decide, Option.some_inj] at hp'
  subst hp hp'
  exact absurd (hlt (by decide)) (by decide)

end Touchpad
