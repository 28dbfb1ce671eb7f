import VoodooPS2.Touchpad.Theorems.BitmapRuns

namespace Touchpad

theorem toInt_eq {n : UInt32} (h : n.toNat < 2 ^ 31) : toInt n = n.toNat := by
  have he : n.toInt32 = .ofNat n.toNat := by rw [← UInt32.toInt32_ofNat', UInt32.ofNat_toNat]
  rw [toInt, he, Int32.toInt_ofNat_of_lt h]

-- A map that is not zero has a run.
theorem alpsGetBitmapPoints_fingers_pos {map : UInt32} (h : map ≠ 0) :
    0 < (alpsGetBitmapPoints map).fingers := by
  obtain ⟨runs, hr⟩ := alpsGetBitmapPoints_found map
  have hn : runs ≠ [] := fun hn => h (eq_zero_of_decomposes (hn ▸ hr.split))
  have := List.length_pos_iff.mpr hn
  rw [hr.fingers]
  show (0 : Int) < 0 + runs.length
  omega

-- The electrodes of an axis can be mapped to positions.
theorem electrodePos_eq_none {axisMax axisBits : Int} {p : AlpsBitmapPoint} :
    electrodePos axisMax axisBits p = none ↔ axisBits = 1 := by
  simp only [electrodePos, quotient, Option.map_eq_none_iff, ite_eq_left_iff, reduceCtorEq, imp_false,
    not_not]
  omega

theorem electrodePos_of_ne {axisBits : Int} (h : axisBits ≠ 1) (axisMax : Int) (p : AlpsBitmapPoint) :
    ∃ pos, electrodePos axisMax axisBits p = some pos :=
  Option.ne_none_iff_exists'.mp (h ∘ electrodePos_eq_none.mp)

-- The device reports at most one electrode for one of the axes.
def AlpsDevice.SingleElectrode (dev : AlpsDevice) : Prop :=
  dev.xBits = 1 ∨ dev.yBits = 1

instance {dev : AlpsDevice} : Decidable dev.SingleElectrode :=
  inferInstanceAs (Decidable (_ ∨ _))

def AlpsFields.HasBitmaps (f : AlpsFields) : Prop :=
  f.xMap ≠ 0 ∧ f.yMap ≠ 0

instance {f : AlpsFields} : Decidable f.HasBitmaps :=
  inferInstanceAs (Decidable (_ ∧ _))

variable {dev : AlpsDevice} {secondTouch : Int} {f : AlpsFields}

theorem corners_eq_none {x y : AlpsBitmapPoint × AlpsBitmapPoint} :
    corners dev x y = none ↔ dev.SingleElectrode := by
  by_cases hx : dev.xBits = 1
  case pos =>
    simp only [corners, electrodePos_eq_none.mpr hx, Option.bind_eq_bind, Option.bind_none, true_iff]
    exact .inl hx
  case neg =>
    have ⟨xLow, hl⟩ := electrodePos_of_ne hx dev.xMax x.1
    have ⟨xHigh, hh⟩ := electrodePos_of_ne hx dev.xMax x.2
    by_cases hy : dev.yBits = 1
    case pos =>
      simp only [corners, hl, electrodePos_eq_none.mpr hy, Option.bind_eq_bind, Option.bind_some,
        Option.bind_none, true_iff]
      exact .inr hy
    case neg =>
      have ⟨yLow, hl'⟩ := electrodePos_of_ne hy dev.yMax y.1
      have ⟨yHigh, hh'⟩ := electrodePos_of_ne hy dev.yMax y.2
      simp [corners, hl, hh, hl', hh', AlpsDevice.SingleElectrode, hx, hy]

theorem alpsProcessBitmap_of_empty (h : ¬f.HasBitmaps) :
    alpsProcessBitmap dev secondTouch f = some ⟨0, f, secondTouch⟩ := by
  have h : f.xMap = 0 ∨ f.yMap = 0 := by
    simp only [AlpsFields.HasBitmaps] at h
    tauto
  simp [alpsProcessBitmap, h]

theorem alpsProcessBitmap_eq_none :
    alpsProcessBitmap dev secondTouch f = none ↔ f.HasBitmaps ∧ dev.SingleElectrode := by
  by_cases h : f.HasBitmaps
  case neg => simp [alpsProcessBitmap_of_empty h, h]
  case pos => simp [alpsProcessBitmap, h.left, h.right, h, corners_eq_none]

-- What the bitmaps change: the touches, of which the first one is known already.
structure Bitmapped (f : AlpsFields) (b : ProcessedBitmap) : Prop where
  fields   : ∃ mt₀ mt₁, b.fields = { f with mt₀ := mt₀, mt₁ := mt₁ }
  empty    : ¬f.HasBitmaps → b.fingers = 0
  nonempty : f.HasBitmaps → 0 < b.fingers ∧ b.fields.mt₀ = b.fields.st

theorem Bitmapped.isMp {b : ProcessedBitmap} (h : Bitmapped f b) : b.fields.isMp = f.isMp := by
  have ⟨_, _, hb⟩ := h.fields
  rw [hb]

theorem alpsProcessBitmap_of_ok (secondTouch : Int) (h : ¬(f.HasBitmaps ∧ dev.SingleElectrode)) :
    ∃ b, alpsProcessBitmap dev secondTouch f = some b ∧ Bitmapped f b := by
  by_cases hf : f.HasBitmaps
  case neg =>
    exact ⟨_, alpsProcessBitmap_of_empty hf, ⟨_, _, rfl⟩, fun _ => rfl, fun h => absurd h hf⟩
  case pos =>
    have ⟨corner, hc⟩ : ∃ corner, corners dev (alpsGetBitmapPoints f.xMap).divide
        (alpsGetBitmapPoints f.yMap).divide = some corner :=
      Option.ne_none_iff_exists'.mp fun hn => h ⟨hf, corners_eq_none.mp hn⟩
    simp only [alpsProcessBitmap, hf.left, hf.right, or_self, if_false, hc, Option.map_some]
    refine ⟨_, rfl, ⟨_, _, rfl⟩, fun hn => absurd hf hn, fun _ => ⟨?_, rfl⟩⟩
    exact lt_of_lt_of_le (alpsGetBitmapPoints_fingers_pos hf.left) (le_max_left _ _)

end Touchpad
