import VoodooPS2.Machine.Runs
import VoodooPS2.Touchpad.Bitmap

namespace Touchpad

namespace BitmapPoints

section Visit

variable {b : BitmapPoints} {i : Nat}

theorem visit_extend (hp : b.prevBit = true) :
    b.visit i true = { b.modifyPoint fun p => ⟨p.startBit, p.numBits + 1⟩ with prevBit := true } := by
  simp [visit, hp]

theorem visit_start (hp : b.prevBit = false) :
    b.visit i true = { b.modifyPoint fun _ => ⟨i, 1⟩ with fingers := b.fingers + 1, prevBit := true } := by
  unfold visit modifyPoint
  cases b.atHigh <;> simp [hp]

theorem visit_stop (hp : b.prevBit = true) : b.visit i false = { b with atHigh := true, prevBit := false } := by
  simp [visit, hp]

theorem visit_pass (hp : b.prevBit = false) : b.visit i false = { b with prevBit := false } := by
  simp [visit, hp]

end Visit

def ofRun (r : Nat × Nat) : AlpsBitmapPoint where
  startBit := r.1
  numBits  := r.2

-- What a loop that starts with `b₀` makes of the runs. The first one is low, and the last one of the others
-- is high.
structure Found (b₀ : BitmapPoints) (bits : Nat → Bool) (b : BitmapPoints) (runs : List (Nat × Nat)) : Prop where
  split   : Runs.Decomposes runs bits
  fingers : b.fingers = b₀.fingers + runs.length
  low     : b.low = runs.head?.elim b₀.low ofRun
  high    : b.high = runs.tail.getLast?.elim b₀.high ofRun

-- The same for the first `i` bits. Whether the last run goes on is known from the previous bit.
structure Extracts (b₀ : BitmapPoints) (bits : Nat → Bool) (i : Nat) (b : BitmapPoints)
    (runs : List (Nat × Nat)) : Prop extends Found b₀ (Runs.first bits i) b runs where
  ongoing : b.prevBit = true → ∃ rs l n, runs = rs ++ [(l, n)] ∧ l + n = i
  ended   : b.prevBit = false → ∀ r ∈ runs, r.1 + r.2 < i
  atHigh  : b.atHigh = true ↔ runs ≠ [] ∧ (b.prevBit = true → 2 ≤ runs.length)

namespace Extracts

variable {b₀ b : BitmapPoints} {bits : Nat → Bool} {i : Nat} {runs : List (Nat × Nat)}

theorem pass (h : Extracts b₀ bits i b runs) (hp : b.prevBit = false) (hb : bits i = false) :
    Extracts b₀ bits (i + 1) (b.visit i false) runs := by
  rw [visit_pass hp]
  exact {
    split   := Runs.first_skip hb ▸ h.split
    ongoing := nofun
    ended _ r hr := Nat.lt_succ_of_lt (h.ended hp r hr)
    fingers := h.fingers
    atHigh  := hp ▸ h.atHigh
    low     := h.low
    high    := h.high
  }

theorem stop (h : Extracts b₀ bits i b runs) (hp : b.prevBit = true) (hb : bits i = false) :
    Extracts b₀ bits (i + 1) (b.visit i false) runs := by
  rw [visit_stop hp]
  exact {
    split   := Runs.first_skip hb ▸ h.split
    ongoing := nofun
    ended _ r hr := Nat.lt_succ_of_le (h.split.le hr)
    fingers := h.fingers
    atHigh  := by
      obtain ⟨_, _, _, rfl, _⟩ := h.ongoing hp
      simp
    low     := h.low
    high    := h.high
  }

theorem begin (h : Extracts b₀ bits i b runs) (hp : b.prevBit = false) (hb : bits i = true) :
    Extracts b₀ bits (i + 1) (b.visit i true) (runs ++ [(i, 1)]) := by
  have hs := h.split.begin (h.ended hp) hb
  have hf : b.fingers + 1 = b₀.fingers + (runs ++ [(i, 1)]).length := by
    rw [h.fingers, List.length_append]
    simp [Int.add_assoc]
  rw [visit_start hp, modifyPoint]
  cases runs
  case nil =>
    have ha : ¬b.atHigh = true := by simp [h.atHigh]
    rw [if_neg ha]
    exact {
      split   := hs
      ongoing := fun _ => ⟨[], i, 1, rfl, rfl⟩
      ended   := fun hn => Bool.noConfusion hn
      fingers := hf
      atHigh  := by simpa using ha
      low     := rfl
      high    := h.high
    }
  case cons r rs =>
    have ha : b.atHigh = true := by simp [h.atHigh, hp]
    rw [if_pos ha]
    exact {
      split   := hs
      ongoing := fun _ => ⟨r :: rs, i, 1, rfl, rfl⟩
      ended   := fun hn => Bool.noConfusion hn
      fingers := hf
      atHigh  := by simpa using ha
      low     := h.low
      high    := by simp [ofRun]
    }

theorem extend (h : Extracts b₀ bits i b runs) (hp : b.prevBit = true) (hb : bits i = true) :
    ∃ runs', Extracts b₀ bits (i + 1) (b.visit i true) runs' := by
  obtain ⟨rs, l, n, rfl, hi⟩ := h.ongoing hp
  refine ⟨rs ++ [(l, n + 1)], ?_⟩
  have hs := h.split.extend hi hb
  have hf : b.fingers = b₀.fingers + (rs ++ [(l, n + 1)]).length := by
    simpa using h.fingers
  rw [visit_extend hp, modifyPoint]
  cases rs
  case nil =>
    have ha : ¬b.atHigh = true := by simp [h.atHigh, hp]
    rw [if_neg ha]
    exact {
      split   := hs
      ongoing := fun _ => ⟨[], l, n + 1, rfl, by omega⟩
      ended   := fun hn => Bool.noConfusion hn
      fingers := hf
      atHigh  := by simpa using ha
      low     := by simp [h.low, ofRun]
      high    := h.high
    }
  case cons r rs =>
    have ha : b.atHigh = true := by simp [h.atHigh]
    rw [if_pos ha]
    exact {
      split   := hs
      ongoing := fun _ => ⟨r :: rs, l, n + 1, rfl, by omega⟩
      ended   := fun hn => Bool.noConfusion hn
      fingers := hf
      atHigh  := by simpa using ha
      low     := h.low
      high    := by simp [h.high, ofRun]
    }

theorem visit (h : Extracts b₀ bits i b runs) :
    ∃ runs', Extracts b₀ bits (i + 1) (b.visit i (bits i)) runs' := by
  cases hb : bits i <;> cases hp : b.prevBit
  case false.false => exact ⟨runs, h.pass hp hb⟩
  case false.true  => exact ⟨runs, h.stop hp hb⟩
  case true.false  => exact ⟨_, h.begin hp hb⟩
  case true.true   => exact h.extend hp hb

end Extracts

-- The bits that are left.
theorem testBit_of_shiftRight {n i : Nat} (h : n >>> i = 0) : ∀ k, i ≤ k → n.testBit k = false := fun k hk => by
  have ht := congrArg (·.testBit (k - i)) h
  simpa [Nat.add_sub_cancel' hk] using ht

-- The bit that is looked at in a pass, and what is left for the others.
section Shift

variable {map₀ map : UInt32} {i : Nat}

theorem and_one_eq_testBit (hm : map.toNat = map₀.toNat >>> i) :
    decide (map &&& 1 = 1) = map₀.toNat.testBit i := by
  have : map₀.toNat.testBit i = map.toNat.testBit 0 := by simp [hm]
  rw [this, Nat.testBit_zero]
  apply decide_eq_decide.mpr
  rw [← UInt32.toNat_inj, UInt32.toNat_and]
  exact Eq.congr (Nat.and_one_is_mod _) rfl

theorem toNat_shiftRight_one : (map >>> 1).toNat = map.toNat / 2 := by
  simp [UInt32.toNat_shiftRight, Nat.shiftRight_eq_div_pow]

theorem toNat_shiftRight_succ (hm : map.toNat = map₀.toNat >>> i) :
    (map >>> 1).toNat = map₀.toNat >>> (i + 1) := by
  rw [Nat.shiftRight_succ, ← hm, toNat_shiftRight_one]

end Shift

section Loop

variable {b₀ b r : BitmapPoints} {map₀ map : UInt32} {i passes : Nat} {runs : List (Nat × Nat)}

theorem loop_zero {i : Int} : loop passes i 0 b = some b := by
  cases passes
  all_goals rfl

-- More passes than are needed make no difference.
theorem loop_add {i : Int} (h : loop passes i map b = some r) (more : Nat) :
    loop (passes + more) i map b = some r := by
  by_cases hz : map = 0
  case pos =>
    rw [hz, loop_zero] at h ⊢
    exact h
  case neg =>
    induction passes generalizing i map b
    case zero =>
      rw [loop, if_neg hz] at h
      cases h
    case succ passes hi =>
      rw [Nat.succ_add]
      rw [loop, if_neg hz] at h ⊢
      by_cases hz' : map >>> 1 = 0
      case pos =>
        rw [hz', loop_zero] at h ⊢
        exact h
      case neg => exact hi h hz'

theorem loop_eq_scan {i : Int} (h : loop passes i map b = some r) : scan passes i map b = r := by
  induction passes generalizing i map b
  case zero =>
    rw [loop] at h
    split at h
    case isTrue  => exact Option.some_inj.mp h
    case isFalse => cases h
  case succ passes hi =>
    rw [loop] at h
    rw [scan]
    split at h
    case isTrue hz  => rw [if_pos hz, Option.some_inj.mp h]
    case isFalse hz => rw [if_neg hz, hi h]

-- The map is empty before the passes are used up.
theorem loop_extracts (hm : map.toNat = map₀.toNat >>> i) (hp : map.toNat < 2 ^ passes)
    (h : Extracts b₀ map₀.toNat.testBit i b runs) :
    ∃ r j runs', loop passes i map b = some r ∧ Extracts b₀ map₀.toNat.testBit j r runs' ∧
      ∀ k, j ≤ k → map₀.toNat.testBit k = false := by
  induction passes generalizing i map b runs
  case zero =>
    have hz : map.toNat = 0 := by simpa using hp
    exact ⟨b, i, runs, if_pos (UInt32.toNat_inj.mp hz), h, testBit_of_shiftRight (hm.symm.trans hz)⟩
  case succ passes hi =>
    by_cases h₀ : map = 0
    case pos =>
      have hz : map₀.toNat >>> i = 0 := hm.symm.trans (by rw [h₀]; rfl)
      exact ⟨b, i, runs, if_pos h₀, h, testBit_of_shiftRight hz⟩
    case neg =>
      have hh := @toNat_shiftRight_one map
      have ⟨_, hv⟩ := h.visit
      rw [loop, if_neg h₀]
      exact hi (toNat_shiftRight_succ hm) (by omega) (and_one_eq_testBit hm ▸ hv)

theorem extracts_nil {bits : Nat → Bool} (hp : b₀.prevBit = false) (ha : b₀.atHigh = false) :
    Extracts b₀ bits 0 b₀ [] where
  split   := .nil
  ongoing := by simp [hp]
  ended   := nofun
  fingers := by simp
  atHigh  := by simp [ha]
  low     := rfl
  high    := rfl

-- The loop ends, and by then it has seen all runs.
theorem loop_finds (map : UInt32) (hp : b₀.prevBit = false) (ha : b₀.atHigh = false) :
    ∃ b runs, loop 32 0 map b₀ = some b ∧ Found b₀ map.toNat.testBit b runs := by
  have hm : map.toNat < 2 ^ 32 := map.toNat_lt
  obtain ⟨b, j, runs, hl, h, hj⟩ := loop_extracts rfl hm (extracts_nil hp ha)
  exact ⟨b, runs, hl, { h with split := Runs.first_eq hj ▸ h.split }⟩

end Loop

end BitmapPoints

open BitmapPoints

theorem alpsGetBitmapPoints_loop (map : UInt32) : loop 32 0 map {} = some (alpsGetBitmapPoints map) := by
  obtain ⟨b, _, hl, _⟩ := @loop_finds {} map rfl rfl
  rw [alpsGetBitmapPoints]
  exact hl.trans (congrArg some (loop_eq_scan hl).symm)

theorem alpsGetBitmapPoints_found (map : UInt32) :
    ∃ runs, Found {} map.toNat.testBit (alpsGetBitmapPoints map) runs := by
  obtain ⟨_, runs, hl, h⟩ := @loop_finds {} map rfl rfl
  cases hl.symm.trans (alpsGetBitmapPoints_loop map)
  exact ⟨runs, h⟩

theorem eq_zero_of_decomposes {map : UInt32} (h : Runs.Decomposes [] map.toNat.testBit) : map = 0 := by
  refine UInt32.toNat_inj.mp (Nat.eq_of_testBit_eq fun k => ?_)
  have hk := h.cover k
  simpa using hk

-- The loop ends, and it finds all runs. Only the first one and the last one of them leave a trace.
theorem alpsGetBitmapPoints_finds_runs (map : UInt32) (low high : AlpsBitmapPoint) (fingers : Int) :
    ∃ (b : BitmapPoints) (runs : List (Nat × Nat)),
      (∀ passes, 32 ≤ passes → loop passes 0 map { low := low, high := high, fingers := fingers } = some b) ∧
      (∀ l n, (l, n) ∈ runs ↔ Runs.Maximal map.toNat.testBit l n) ∧
      runs.Pairwise (fun r r' => r.1 + r.2 < r'.1) ∧
      b.fingers = fingers + runs.length ∧
      b.low = runs.head?.elim low ofRun ∧
      b.high = if runs.length < 2 then high else runs.getLast?.elim high ofRun := by
  let b₀ : BitmapPoints := { low := low, high := high, fingers := fingers }
  obtain ⟨b, runs, hl, h⟩ := @loop_finds b₀ map rfl rfl
  refine ⟨b, runs, fun passes hp => ?_, fun _ _ => h.split.mem_iff, h.split.apart, h.fingers, h.low, ?_⟩
  case refine_1 =>
    obtain ⟨more, rfl⟩ := Nat.exists_eq_add_of_le hp
    exact loop_add hl more
  case refine_2 =>
    rw [h.high]
    rcases runs with _ | ⟨r, _ | ⟨r', rs⟩⟩
    all_goals simp [b₀]

end Touchpad
