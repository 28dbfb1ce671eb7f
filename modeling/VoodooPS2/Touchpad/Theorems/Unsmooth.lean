import Mathlib.Algebra.Group.Nat.Defs
import Mathlib.Algebra.Order.Group.Abs
import Mathlib.Algebra.Order.Group.Int
import VoodooPS2.Touchpad.Theorems.Window

namespace Decay

section Exact

variable {x : Int} {data : Int32}

theorem isInt_toInt (data : Int32) : IsInt data.toInt :=
  ⟨data.le_toInt, data.toInt_lt⟩

-- Numbers that are a little larger than what an `int` holds are no problem for the wider type.
theorem bmod_of_lt (h₁ : -2 ^ 62 ≤ x) (h₂ : x < 2 ^ 62) : x.bmod (2 ^ 64) = x :=
  Int.bmod_eq_of_le (by omega) (by omega)

theorem toInt_half (data : Int32) : (data.toInt64 * 1 / 2).toInt = data.toInt.tdiv 2 := by
  rw [Int64.mul_one, Int64.toInt_div_of_ne_right _ _ (by decide), Int32.toInt_toInt64]
  rfl

theorem toInt_once (data : Int32) : (data.toInt64 * 1 / 1).toInt = data.toInt := by
  rw [Int64.mul_one, Int64.toInt_div_of_ne_right _ _ (by decide), Int32.toInt_toInt64]
  exact Int.tdiv_one _

theorem toInt_twice (data : Int32) : (data.toInt64 * 2 / 1).toInt = data.toInt * 2 := by
  have ⟨h₁, h₂⟩ := isInt_toInt data
  rw [Int64.toInt_div_of_ne_right _ _ (by decide), Int64.toInt_mul, Int32.toInt_toInt64]
  exact (Int.tdiv_one _).trans (bmod_of_lt (by change _ ≤ data.toInt * 2; omega) (by change data.toInt * 2 < _; omega))

-- Halves are rounded towards zero.
theorem half_of_nonneg (h : 0 ≤ x) : 2 * x.tdiv 2 ≤ x ∧ x ≤ 2 * x.tdiv 2 + 1 := by
  rw [Int.tdiv_eq_ediv_of_nonneg h]
  omega

theorem half_of_nonpos (h : x ≤ 0) : x ≤ 2 * x.tdiv 2 ∧ 2 * x.tdiv 2 ≤ x + 1 := by
  have := half_of_nonneg (Int.neg_nonneg.mpr h)
  rw [Int.neg_tdiv] at this
  omega

theorem half_error (x : Int) : x - 1 ≤ 2 * x.tdiv 2 ∧ 2 * x.tdiv 2 ≤ x + 1 := by
  cases Int.le_total 0 x
  case inl h =>
    have := half_of_nonneg h
    omega
  case inr h =>
    have := half_of_nonpos h
    omega

theorem IsInt.half (h : IsInt x) : -2 ^ 30 ≤ x.tdiv 2 ∧ x.tdiv 2 < 2 ^ 30 := by
  have ⟨_, _⟩ := h
  cases Int.le_total 0 x
  case inl h =>
    have := half_of_nonneg h
    omega
  case inr h =>
    have := half_of_nonpos h
    omega

-- The conversion to the narrower type is exact.
theorem toInt_toInt32 {result : Int64} (h : IsInt result.toInt) : result.toInt32.toInt = result.toInt := by
  rw [Int64.toInt_toInt32]
  exact Int.bmod_eq_of_le (by have := h.left; omega) (by have := h.right; omega)

end Exact

namespace DecayingAverage

variable {a : DecayingAverage} {data : Int32}

theorem result_eq : (a.result 1 1 2 data).toInt =
    if a.lastvalid then data.toInt.tdiv 2 + a.last.toInt.tdiv 2 else data.toInt := by
  unfold result
  split
  case isFalse => exact Int32.toInt_toInt64 data
  case isTrue  =>
    have ⟨_, _⟩ := (isInt_toInt data).half
    have ⟨_, _⟩ := (isInt_toInt a.last).half
    rw [Int64.toInt_add, toInt_half, toInt_half]
    exact bmod_of_lt (by omega) (by omega)

-- The average of two numbers never overflows.
theorem isInt_result : IsInt (a.result 1 1 2 data).toInt := by
  rw [result_eq]
  split
  case isFalse => exact isInt_toInt data
  case isTrue  =>
    have ⟨_, _⟩ := (isInt_toInt data).half
    have ⟨_, _⟩ := (isInt_toInt a.last).half
    constructor
    all_goals omega

theorem filter_eq : (a.filter 1 1 2 data).2.toInt =
    if a.lastvalid then data.toInt.tdiv 2 + a.last.toInt.tdiv 2 else data.toInt :=
  (toInt_toInt32 isInt_result).trans result_eq

end DecayingAverage

theorem UndecayAverage.result_eq {a : UndecayAverage} {data : Int32} : (a.result 1 1 2 data).toInt =
    if a.lastvalid then data.toInt * 2 - a.last.toInt else data.toInt := by
  unfold UndecayAverage.result
  split
  case isFalse => exact Int32.toInt_toInt64 data
  case isTrue  =>
    have ⟨_, _⟩ := isInt_toInt data
    have ⟨_, _⟩ := isInt_toInt a.last
    rw [Int64.toInt_sub, toInt_twice, toInt_once]
    exact bmod_of_lt (by omega) (by omega)

-- As long as its results fit, the gestures may ignore the types.
theorem UndecayAverage.represents {a : UndecayAverage} {b : Touchpad.UndecayAverage} {data : Int32}
    (hl : b.last = a.last.toInt) (hv : b.lastvalid = a.lastvalid) (hi : IsInt (a.result 1 1 2 data).toInt) :
    (a.filter 1 1 2 data).2.toInt = (b.filter data.toInt).2 := by
  refine (toInt_toInt32 hi).trans ?_
  rw [UndecayAverage.result_eq, Touchpad.UndecayAverage.filter, hl, hv]

-- The two filters of a run, where the second one gets what the first one returns.
structure InStep (s : DecayingAverage × UndecayAverage) : Prop where
  lastvalid : s.2.lastvalid = s.1.lastvalid
  last      : s.1.lastvalid = true → s.2.last = s.1.last

-- The result of the second filter fits into its type.
def NoOverflow (n₁ n₂ d : Int64) (s : DecayingAverage × UndecayAverage) : FilterAct Int32 → Prop
  | .filter data => IsInt (s.2.result n₁ n₂ d (s.1.filter n₁ n₂ d data).2).toInt
  | .reset       => True

instance (n₁ n₂ d : Int64) (s : DecayingAverage × UndecayAverage) :
    (act : FilterAct Int32) → Decidable (NoOverflow n₁ n₂ d s act)
  | .filter _ => inferInstanceAs (Decidable (IsInt _))
  | .reset    => .isTrue trivial

section Run

variable {s : DecayingAverage × UndecayAverage} {act : FilterAct Int32} {data : Int32}

theorem inStep_step {n₁ n₂ d : Int64} : InStep ((unsmoothing n₁ n₂ d).step s act).1 := by
  cases act
  case filter data => exact ⟨rfl, fun _ => rfl⟩
  case reset       => exact ⟨rfl, nofun⟩

-- Each of the two divisions costs one at most. What is left over does not stay in the filters.
theorem InStep.error (h : InStep s) (hi : NoOverflow 1 1 2 s (.filter data)) :
    let u := (s.2.filter 1 1 2 (s.1.filter 1 1 2 data).2).2
    |u.toInt - data.toInt| ≤ 2 ∧ (s.1.lastvalid = false → u = data) := by
  intro u
  have hu : u.toInt = _ := toInt_toInt32 hi
  rw [UndecayAverage.result_eq, DecayingAverage.filter_eq, h.lastvalid] at hu
  cases hv : s.1.lastvalid
  case false =>
    rw [hv] at hu
    have he : u = data := Int32.toInt_inj.mp hu
    exact ⟨by simp [he], fun _ => he⟩
  case true =>
    rw [hv, h.last hv, if_pos rfl, if_pos rfl] at hu
    have := half_error data.toInt
    have := half_error s.1.last.toInt
    refine ⟨abs_le.mpr ?_, nofun⟩
    omega

theorem unsmoothing_runs {n₁ n₂ d : Int64} {last₁ last₂ : Int32} (acts : List (FilterAct Int32)) :
    let s := (unsmoothing n₁ n₂ d).state ({ last := last₁ }, { last := last₂ }) acts
    InStep s ∧ (sinceReset acts = [] → s.1.lastvalid = false) := by
  induction acts using List.reverseRecOn
  case nil => exact ⟨⟨rfl, nofun⟩, fun _ => rfl⟩
  case append_singleton acts act _ =>
    rw [Mealy.state_append]
    refine ⟨inStep_step, ?_⟩
    cases act
    case filter data => simp
    case reset       => exact fun _ => rfl

-- What is filtered twice is what went in, up to the rounding of one step.
theorem unsmoothing_error (last₁ last₂ : Int32) (acts : List (FilterAct Int32))
    (h : (unsmoothing 1 1 2).Along (NoOverflow 1 1 2) ({ last := last₁ }, { last := last₂ }) acts) :
    ∀ pre x post, acts = pre ++ .filter x :: post →
      let s := (unsmoothing 1 1 2).state ({ last := last₁ }, { last := last₂ }) pre
      ∃ u, ((unsmoothing 1 1 2).step s (.filter x)).2 = [u] ∧ |u.toInt - x.toInt| ≤ 2 ∧
        (sinceReset pre = [] → u = x) := by
  intro pre x post he s
  have ⟨hs, hr⟩ : InStep s ∧ (sinceReset pre = [] → s.1.lastvalid = false) := unsmoothing_runs pre
  have ⟨hl, hf⟩ := hs.error (Mealy.Along.iff_split.mp h pre _ post he)
  exact ⟨_, rfl, hl, fun hp => hf (hr hp)⟩

-- The last sample comes out too large by two.
theorem unsmoothing_error_odd :
    let s := (unsmoothing 1 1 2).state ({ last := 0 }, { last := 0 }) [.filter (-3)]
    ∃ u, ((unsmoothing 1 1 2).step s (.filter (-5))).2 = [u] ∧ |u.toInt - (-5 : Int32).toInt| ≤ 2 ∧
      (sinceReset [.filter (-3 : Int32)] = [] → u = -5) :=
  unsmoothing_error 0 0 [.filter (-3), .filter (-5)] (by decide) [.filter (-3)] (-5) [] rfl

end Run

end Decay
