import Mathlib.Data.UInt
import VoodooPS2.Wiring.Basic

-- Packets that are known by some bits of their first byte.
namespace Wiring

variable {b m : UInt8} {p : List UInt8} {n : Nat} {w : Wire} {ws : List Wire} {fs : List Slot}

-- The bits of the mark are set.
def mark (b : UInt8) : List UInt8 → List UInt8
  | []     => []
  | c :: p => (c ||| b) :: p

-- The bit is not one of the mark.
def Wire.Unmarked (b : UInt8) (w : Wire) : Prop :=
  w.1 = 0 → b.toNat.testBit w.2 = false
  deriving Decidable

open Wire

@[simp]
theorem length_mark : (mark b p).length = p.length := by
  cases p <;> rfl

theorem probe_mark (h : w.Unmarked b) : probe (mark b p) w = probe p w := by
  obtain ⟨k, i⟩ := w
  cases p
  case nil => rfl
  case cons c p =>
    cases k
    case zero   => simp [probe, mark, h rfl]
    case succ k => rfl

theorem gather_mark (h : ∀ w ∈ ws, w.Unmarked b) : gather (mark b p) ws = gather p ws := by
  apply Nat.eq_of_testBit_eq
  intro i
  rw [testBit_gather, testBit_gather]
  cases hw : ws[i]?
  case none   => rfl
  case some w =>
    rw [Option.map_some, Option.map_some, probe_mark (h w (List.mem_of_getElem? hw))]

theorem map_probe_mark (h : ∀ w ∈ ws, w.Unmarked b) : ws.map (probe (mark b p)) = ws.map (probe p) :=
  List.map_congr_left fun w hw => probe_mark (h w hw)

namespace Slot

theorem carried_of_not_mem (h : w ∉ fs.flatMap wires) : carried w fs = false := by
  induction fs
  case nil          => rfl
  case cons f fs hi =>
    rw [List.flatMap_cons, List.mem_append, not_or] at h
    rw [carried, if_neg h.left, hi h.right]

-- A bit that belongs to no slot is clear.
theorem probe_scatter_of_not_mem (hw : w.Within n) (h : w ∉ fs.flatMap wires) :
    probe (scatter n fs) w = false := by
  rw [scatter, probe_assemble hw, carried_of_not_mem h]

end Slot

theorem lt_eight_of_testBit {i : Nat} (h : m.toNat.testBit i = true) : i < 8 := by
  by_contra hi
  have hlt : m.toNat < 2 ^ i :=
    Nat.lt_of_lt_of_le m.toNat_lt (Nat.pow_le_pow_right (by decide) (not_lt.mp hi))
  simp [Nat.testBit_lt_two_pow hlt] at h

-- The mark is found if the other bits that are looked at are clear.
theorem getD_mark_and (hm : b &&& m = b) (hp : p ≠ [])
    (h : ∀ i, m.toNat.testBit i = true → probe p (0, i) = false) : (mark b p).getD 0 0 &&& m = b := by
  cases p
  case nil => exact absurd rfl hp
  case cons c p =>
    show (c ||| b) &&& m = b
    apply UInt8.toNat_inj.mp
    apply Nat.eq_of_testBit_eq
    intro i
    have hb : (b.toNat.testBit i && m.toNat.testBit i) = b.toNat.testBit i := by
      rw [← Nat.testBit_and, ← UInt8.toNat_and, hm]
    have hc : m.toNat.testBit i = true → c.toNat.testBit i = false := fun ht =>
      h i ht
    rw [UInt8.toNat_and, UInt8.toNat_or, Nat.testBit_and, Nat.testBit_or]
    cases ht : m.toNat.testBit i
    case false => simpa [ht] using hb.symm
    case true  => simp [hc ht]

-- A bit of a byte, alone.
theorem getD_and_eq_zero {k i : Nat} (hm : m.toNat = 2 ^ i) (h : probe p (k, i) = false) :
    p.getD k 0 &&& m = 0 := by
  apply UInt8.toNat_inj.mp
  apply Nat.eq_of_testBit_eq
  intro j
  rw [UInt8.toNat_and, Nat.testBit_and, hm, Nat.testBit_two_pow]
  by_cases hj : i = j
  case pos =>
    have hp : (p.getD k 0).toNat.testBit i = false := h
    rw [← hj, hp, Bool.false_and, UInt8.toNat_zero, Nat.zero_testBit]
  case neg => simp [hj]

end Wiring
