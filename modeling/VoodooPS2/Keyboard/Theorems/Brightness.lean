import VoodooPS2.Keyboard.Dispatch
import VoodooPS2.Machine.Ladder

open Ladder

namespace Keyboard

variable {levels : List Int} {current : Int} {first index k : Nat} {up : Bool} {result : UInt32}

theorem findLevel_eq : findLevel current index levels = index + findLevel current 0 levels := by
  induction levels generalizing index
  case nil               => rfl
  case cons level levels hi =>
    simp only [findLevel]
    split
    case isTrue  => rfl
    case isFalse => rw [hi, @hi 1, Nat.add_assoc]

theorem findLevel_splits (h : levels.Pairwise (· < ·)) : Splits levels current (findLevel current 0 levels) := by
  induction levels
  case nil => exact ⟨le_rfl, nofun, nofun⟩
  case cons level levels hi =>
    have ⟨hl, hs⟩ := List.pairwise_cons.mp h
    simp only [findLevel]
    split
    case isTrue hc =>
      exact ⟨Nat.zero_le _, nofun, fun i hi' _ => hc.trans (getElem_le h hi' (Nat.zero_le i))⟩
    case isFalse hc =>
      have s := hi hs
      rw [findLevel_eq, Nat.add_comm]
      refine ⟨Nat.succ_le_succ s.le, fun i hi' hk => ?_, fun i hi' hk => ?_⟩
      · cases i
        case zero   => exact lt_of_not_ge hc
        case succ i => exact s.below i (Nat.lt_of_succ_lt_succ hi') (Nat.lt_of_succ_lt_succ hk)
      · cases i
        case zero   => exact absurd hk (Nat.not_succ_le_zero _)
        case succ i => exact s.above i (Nat.lt_of_succ_lt_succ hi') (Nat.le_of_succ_le_succ hk)

-- The level that is set is next to the current one, in the direction of the key.
def Adjacent (levels : List Int) (current : Int) (up : Bool) (level : Int) : Prop :=
  if up then IsAbove levels current level else IsBelow levels current level

-- The current level is in the table, or no level but the last one lies above it.
def NoneSkipped (levels : List Int) (current : Int) : Prop :=
  current ∈ levels ∨ ∀ level ∈ levels.dropLast, level < current

-- The index after both clamps is that of a usable entry.
theorem levelIndex_adjacent (hf : first < levels.length) (hs : (levels.drop first).Pairwise (· < ·)) :
    ∃ i, ∃ h : i < (levels.drop first).length, levelIndex first levels current up = (first + i : Nat) ∧
      (Adjacent (levels.drop first) current up (levels.drop first)[i] ↔
        (up = true → NoneSkipped (levels.drop first) current)) := by
  have s := @findLevel_splits _ current hs
  have hl : (levels.drop first).length = levels.length - first := List.length_drop
  have hk := s.le
  simp only [levelIndex, @findLevel_eq _ _ first]
  cases up
  case false =>
    refine ⟨findLevel current 0 (levels.drop first) - 1, by omega, ?_, ?_⟩
    · simp only [Bool.false_eq_true, if_false]
      split <;> split <;> omega
    · simp only [Adjacent, Bool.false_eq_true, if_false, false_imp_iff, iff_true]
      exact s.isBelow hs (by omega)
  case true =>
    refine ⟨min (findLevel current 0 (levels.drop first) + 1) ((levels.drop first).length - 1), by omega, ?_, ?_⟩
    · simp only [if_true]
      split <;> split <;> omega
    · simp only [Adjacent, if_true, true_imp_iff]
      exact s.isAbove_iff hs (by omega)

-- What a key does to the level, for the value that is reported: the index is that of a usable entry of the
-- table, and the adjacent level is set.
def Steps (first : Nat) (levels : List Int) (result : UInt32) (up : Bool) (set : Option UInt32) : Prop :=
  ∃ i level, levelIndex first levels result.toInt32.toInt up = (i : Nat) ∧ first ≤ i ∧
    levels[i]? = some level ∧ set = some (UInt32.ofInt level) ∧
    Adjacent (levels.drop first) result.toInt32.toInt up level

theorem modifyLevel_steps_iff (hf : first < levels.length) (hs : (levels.drop first).Pairwise (· < ·)) :
    Steps first levels result up (modifyLevel first levels (some result) up true) ↔
      (up = true → NoneSkipped (levels.drop first) result.toInt32.toInt) := by
  have ⟨i, hi, hx, ha⟩ := @levelIndex_adjacent levels result.toInt32.toInt first up hf hs
  have hg : levels[first + i]? = some (levels.drop first)[i] := by
    rw [← List.getElem?_drop, List.getElem?_eq_getElem hi]
  rw [← ha]
  constructor
  case mp =>
    rintro ⟨j, level, hj, -, hl, -, hadj⟩
    have he : j = first + i := by omega
    rw [he, hg] at hl
    exact Option.some_inj.mp hl ▸ hadj
  case mpr =>
    intro hadj
    have hm : modifyLevel first levels (some result) up true = some (UInt32.ofInt (levels.drop first)[i]) := by
      simp only [modifyLevel, hx, Int.toNat_natCast, hg]
      rfl
    exact ⟨first + i, _, hx, Nat.le_add_right first i, hg, hm, hadj⟩

-- Both kinds of keys set the adjacent level exactly if the up key does not skip one.
theorem modifyBrightness_steps_iff (levels : List Int) (result : UInt32) :
    (∀ adbKeyCode : UInt8, 4 ≤ levels.length → (levels.drop 2).Pairwise (· < ·) →
      (Steps 2 levels result (adbKeyCode = 0x90)
          (modifyScreenBrightness levels (some result) adbKeyCode true) ↔
        (adbKeyCode = 0x90 → NoneSkipped (levels.drop 2) result.toInt32.toInt))) ∧
    ∀ keyCode : Nat, 2 ≤ levels.length → levels.Pairwise (· < ·) →
      (Steps 0 levels result (keyCode = 0x4e) (modifyKeyboardBacklight levels (some result) keyCode true) ↔
        (keyCode = 0x4e → NoneSkipped levels result.toInt32.toInt)) := by
  constructor
  case left =>
    intro adbKeyCode hl hs
    simpa [modifyScreenBrightness] using
      @modifyLevel_steps_iff levels 2 (adbKeyCode = 0x90) result (by omega) hs
  case right =>
    intro keyCode hl hs
    simpa [modifyKeyboardBacklight] using
      @modifyLevel_steps_iff levels 0 (keyCode = 0x4e) result (by omega) hs

-- A level of the table is followed by the next one.
theorem modifyBrightness_steps_backlight :
    Steps 0 [0, 50, 100] 50 true (modifyKeyboardBacklight [0, 50, 100] (some 50) 0x4e true) :=
  ((modifyBrightness_steps_iff [0, 50, 100] 50).right 0x4e (by decide) (by decide)).mpr fun _ =>
    .inl (by decide)

-- From a level between the first two entries, the up key skips the second one.
theorem not_modifyBrightness_steps :
    ¬∀ (backlightLevels : List Int) (result : UInt32) (keyCode : Nat), 2 ≤ backlightLevels.length →
      backlightLevels.Pairwise (· < ·) →
      Steps 0 backlightLevels result (keyCode = 0x4e)
        (modifyKeyboardBacklight backlightLevels (some result) keyCode true) := by
  intro h
  have ⟨i, level, hx, _, hl, _, ha⟩ := h [0, 50, 100] 20 0x4e (by decide) (by decide)
  have hi : (i : Int) = 2 := hx.symm.trans (by decide)
  obtain rfl : i = 2 := by omega
  obtain rfl : 100 = level := by simpa using hl
  have ha : IsAbove [0, 50, 100] ((20 : UInt32).toInt32.toInt) (100 : Int) := ha
  have hc : (20 : UInt32).toInt32.toInt = 20 := by decide
  rw [hc] at ha
  rcases ha with ha | ha
  · have h₁ : (100 : Int) ≤ 50 := ha.right ⟨by decide, by decide⟩
    exact absurd h₁ (by decide)
  · exact absurd (ha.left 50 (by decide)) (by decide)

end Keyboard
