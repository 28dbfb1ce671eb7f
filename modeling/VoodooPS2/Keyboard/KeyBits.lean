import Mathlib.Logic.Function.Basic

namespace Keyboard

-- The array `_keyBitVector`, a list of bits that is kept in units of 32.
abbrev KeyBits :=
  Nat → BitVec 32

namespace KeyBits

-- The macro `KBV_KEYDOWN`.
def keyDown (v : KeyBits) (n : Nat) : KeyBits :=
  Function.update v (n >>> 5) (v (n >>> 5) ||| 1#32 <<< (n &&& 31))

-- The macro `KBV_KEYUP`.
def keyUp (v : KeyBits) (n : Nat) : KeyBits :=
  Function.update v (n >>> 5) (v (n >>> 5) &&& ~~~(1#32 <<< (n &&& 31)))

-- The macro `KBV_IS_KEYDOWN`.
def isKeyDown (v : KeyBits) (n : Nat) : Bool :=
  v (n >>> 5) &&& 1#32 <<< (n &&& 31) != 0

variable {v : KeyBits} {n m : Nat}

theorem and_one_shiftLeft {x : BitVec 32} {i : Nat} (hi : i < 32) :
    (x &&& 1#32 <<< i != 0) = x.getLsbD i := by
  rw [← BitVec.twoPow_eq, BitVec.and_twoPow]
  cases x.getLsbD i
  case false => simp
  case true  =>
    have : BitVec.twoPow 32 i ≠ 0 := fun h => by
      have := congrArg (BitVec.getLsbD · i) h
      simp [hi] at this
    simpa using this

theorem isKeyDown_eq : v.isKeyDown n = (v (n / 32)).getLsbD (n % 32) := by
  rw [isKeyDown, Nat.shiftRight_eq_div_pow, Nat.and_two_pow_sub_one_eq_mod n 5]
  exact and_one_shiftLeft (Nat.mod_lt _ (by decide))

theorem bit_eq_iff (h : n / 32 = m / 32) : m % 32 = n % 32 ↔ n = m := by
  omega

theorem ne_of_unit_ne (h : n / 32 ≠ m / 32) : n ≠ m :=
  fun he => h (he ▸ rfl)

theorem isKeyDown_update {x : BitVec 32} :
    isKeyDown (Function.update v (n / 32) x) m =
      if n / 32 = m / 32 then x.getLsbD (m % 32) else v.isKeyDown m := by
  rw [isKeyDown_eq, isKeyDown_eq, Function.update_apply]
  by_cases h : n / 32 = m / 32
  case pos => simp [h]
  case neg => simp [h, Ne.symm h]

theorem keyDown_eq : v.keyDown n =
    Function.update v (n / 32) (v (n / 32) ||| BitVec.twoPow 32 (n % 32)) := by
  rw [keyDown, Nat.shiftRight_eq_div_pow, Nat.and_two_pow_sub_one_eq_mod n 5, BitVec.twoPow_eq]

theorem keyUp_eq : v.keyUp n =
    Function.update v (n / 32) (v (n / 32) &&& ~~~BitVec.twoPow 32 (n % 32)) := by
  rw [keyUp, Nat.shiftRight_eq_div_pow, Nat.and_two_pow_sub_one_eq_mod n 5, BitVec.twoPow_eq]

@[simp]
theorem isKeyDown_keyDown : (v.keyDown n).isKeyDown m = (decide (n = m) || v.isKeyDown m) := by
  rw [keyDown_eq, isKeyDown_update, isKeyDown_eq]
  split
  case isTrue h  => simp [h, ← bit_eq_iff h, Bool.or_comm, Nat.mod_lt]
  case isFalse h => simp [ne_of_unit_ne h]

@[simp]
theorem isKeyDown_keyUp : (v.keyUp n).isKeyDown m = (decide (n ≠ m) && v.isKeyDown m) := by
  rw [keyUp_eq, isKeyDown_update, isKeyDown_eq]
  split
  case isTrue h  => simp [h, ← bit_eq_iff h, Bool.and_comm, Nat.mod_lt]
  case isFalse h => simp [ne_of_unit_ne h]

@[simp]
theorem isKeyDown_zero : isKeyDown (fun _ => 0) n = false := by
  simp [isKeyDown]

end KeyBits
end Keyboard
