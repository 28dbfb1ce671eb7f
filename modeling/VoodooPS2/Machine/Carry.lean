import Mathlib.Data.Int.Order.Basic
import Mathlib.Tactic.Linarith

-- A value that is multiplied by a fraction again and again, where what is left by the division goes into
-- the next product.
structure Carry (divisor : Int) where
  value     : Int
  rest      : Int
  same_sign : 0 ≤ value ∧ 0 ≤ rest ∨ value ≤ 0 ∧ rest ≤ 0
  rest_lt   : rest.natAbs < divisor

namespace Carry

variable {divisor multiplier : Int} {s : Carry divisor}

def product (s : Carry divisor) (multiplier : Int) : Int :=
  s.value * multiplier + s.rest

theorem divisor_pos (s : Carry divisor) : 0 < divisor :=
  (Int.natCast_nonneg _).trans_lt s.rest_lt

theorem product_sign (h : 0 ≤ multiplier) :
    0 ≤ s.value ∧ 0 ≤ s.product multiplier ∨ s.value ≤ 0 ∧ s.product multiplier ≤ 0 := by
  rcases s.same_sign with ⟨hv, hr⟩ | ⟨hv, hr⟩
  case inl => exact .inl ⟨hv, Int.add_nonneg (Int.mul_nonneg hv h) hr⟩
  case inr => exact .inr ⟨hv, Int.add_nonpos (Int.mul_nonpos_of_nonpos_of_nonneg hv h) hr⟩

-- The two parts of the product do not cancel out.
theorem natAbs_product (h : 0 ≤ multiplier) :
    (s.product multiplier).natAbs = s.value.natAbs * multiplier.natAbs + s.rest.natAbs := by
  rw [product, ← Int.natAbs_mul]
  rcases s.same_sign with ⟨hv, hr⟩ | ⟨hv, hr⟩
  case inl => exact Int.natAbs_add_of_nonneg (Int.mul_nonneg hv h) hr
  case inr => exact Int.natAbs_add_of_nonpos (Int.mul_nonpos_of_nonpos_of_nonneg hv h) hr

theorem tdiv_tmod_sign {n : Int} (hd : 0 < divisor) :
    (0 ≤ n → 0 ≤ n.tdiv divisor ∧ 0 ≤ n.tmod divisor) ∧
      (n ≤ 0 → n.tdiv divisor ≤ 0 ∧ n.tmod divisor ≤ 0) := by
  constructor
  case left  => exact fun h => ⟨Int.tdiv_nonneg h hd.le, Int.tmod_nonneg divisor h⟩
  case right =>
    intro h
    have hq := Int.tdiv_nonneg (Int.neg_nonneg_of_nonpos h) hd.le
    have hr := Int.tmod_nonneg divisor (Int.neg_nonneg_of_nonpos h)
    rw [Int.neg_tdiv] at hq
    rw [Int.neg_tmod] at hr
    exact ⟨Int.nonpos_of_neg_nonneg hq, Int.nonpos_of_neg_nonneg hr⟩

def next (s : Carry divisor) (h : 0 ≤ multiplier) : Carry divisor where
  value     := (s.product multiplier).tdiv divisor
  rest      := (s.product multiplier).tmod divisor
  same_sign := (s.product_sign h).imp (fun hp => (tdiv_tmod_sign s.divisor_pos).left hp.right)
    fun hp => (tdiv_tmod_sign s.divisor_pos).right hp.right
  rest_lt   := by
    rw [Int.natAbs_tmod]
    have := s.divisor_pos
    have := Nat.mod_lt (s.product multiplier).natAbs (Int.natAbs_pos.mpr this.ne')
    omega

-- The value has the sign that it had before.
theorem next_sign (h : 0 ≤ multiplier) :
    0 ≤ s.value ∧ 0 ≤ (s.next h).value ∨ s.value ≤ 0 ∧ (s.next h).value ≤ 0 :=
  (s.product_sign h).imp (fun hp => ⟨hp.left, ((tdiv_tmod_sign s.divisor_pos).left hp.right).left⟩)
    fun hp => ⟨hp.left, ((tdiv_tmod_sign s.divisor_pos).right hp.right).left⟩

-- The value may stay the same for many steps, while the rest decreases.
def rank (s : Carry divisor) : Nat :=
  (s.product divisor).natAbs

theorem next_rank (h : 0 ≤ multiplier) : (s.next h).rank = (s.product multiplier).natAbs :=
  congrArg Int.natAbs (Int.tdiv_mul_add_tmod (s.product multiplier) divisor)

theorem natAbs_product_le (h : 0 ≤ multiplier) (hm : multiplier < divisor) :
    (s.product multiplier).natAbs ≤ s.rank := by
  rw [rank, natAbs_product h, natAbs_product s.divisor_pos.le]
  gcongr
  omega

theorem next_rank_lt (h : 0 ≤ multiplier) (hm : multiplier < divisor) (hv : s.value ≠ 0) :
    (s.next h).rank < s.rank := by
  rw [next_rank, rank, natAbs_product h, natAbs_product s.divisor_pos.le]
  have := Int.natAbs_pos.mpr hv
  gcongr
  omega

theorem natAbs_next_value_le (h : 0 ≤ multiplier) (hm : multiplier < divisor) :
    (s.next h).value.natAbs ≤ s.value.natAbs := by
  have hp : (s.product multiplier).natAbs ≤ s.rank := natAbs_product_le h hm
  have hd : 0 < divisor.natAbs := Int.natAbs_pos.mpr s.divisor_pos.ne'
  have hr := s.rest_lt
  rw [rank, natAbs_product s.divisor_pos.le] at hp
  apply Nat.le_of_lt_succ
  calc
    _ = (s.product multiplier).natAbs / divisor.natAbs := Int.natAbs_tdiv _ _
    _ < s.value.natAbs + 1                             := by
      rw [Nat.div_lt_iff_lt_mul hd, Nat.add_mul, Nat.one_mul]
      omega

theorem natAbs_next_product_le (h : 0 ≤ multiplier) (hm : multiplier < divisor) :
    ((s.next h).product multiplier).natAbs ≤ (s.product multiplier).natAbs :=
  next_rank (s := s) h ▸ natAbs_product_le h hm

-- A product that does not overflow is followed by ones that do not overflow.
theorem next_product_mem {a b : Int} (h : 0 ≤ multiplier) (hm : multiplier < divisor) (ha : a ≤ 0)
    (hb : 0 ≤ b) (hp : a ≤ s.product multiplier ∧ s.product multiplier ≤ b) :
    a ≤ (s.next h).product multiplier ∧ (s.next h).product multiplier ≤ b := by
  have hn : ((s.next h).product multiplier).natAbs ≤ (s.product multiplier).natAbs :=
    natAbs_next_product_le h hm
  rcases s.product_sign h with ⟨_, hs⟩ | ⟨_, hs⟩
  case inl =>
    have ⟨hv, hr⟩ := (tdiv_tmod_sign s.divisor_pos).left hs
    have : 0 ≤ (s.next h).product multiplier := Int.add_nonneg (Int.mul_nonneg hv h) hr
    omega
  case inr =>
    have ⟨hv, hr⟩ := (tdiv_tmod_sign s.divisor_pos).right hs
    have : (s.next h).product multiplier ≤ 0 :=
      Int.add_nonpos (Int.mul_nonpos_of_nonpos_of_nonneg hv h) hr
    omega

end Carry
