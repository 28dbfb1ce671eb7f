import VoodooPS2.Wiring.Basic

namespace Wiring

-- Some of the bits of a byte, shifted to the left and then to the right.
structure Chunk where
  index : Nat
  mask  : Nat
  left  : Nat := 0
  right : Nat := 0

namespace Chunk

open Wire

variable {p : List UInt8} {c : Chunk} {cs : List Chunk} {ws : List Wire} {i n : Nat}

def value (p : List UInt8) (c : Chunk) : Nat :=
  ((p.getD c.index 0).toNat &&& c.mask) <<< c.left >>> c.right

-- The wire that is seen as bit `i`, if there is one.
def source (c : Chunk) (i : Nat) : List Wire :=
  if c.left ≤ i + c.right ∧ c.mask.testBit (i + c.right - c.left) then
    [(c.index, i + c.right - c.left)]
  else
    []

theorem testBit_value : (c.value p).testBit i = (c.source i).any (probe p) := by
  simp only [value, source, Nat.testBit_shiftRight, Nat.testBit_shiftLeft, Nat.testBit_and,
    Nat.add_comm c.right]
  by_cases hl : c.left ≤ i + c.right
  case neg => simp [hl]
  case pos =>
    by_cases hm : c.mask.testBit (i + c.right - c.left) <;> simp [hl, hm, probe]

-- The number that is made of several chunks.
def join (p : List UInt8) : List Chunk → Nat
  | []      => 0
  | c :: cs => c.value p ||| join p cs

theorem testBit_join : (join p cs).testBit i = (cs.flatMap (source · i)).any (probe p) := by
  induction cs
  case nil          => simp [join]
  case cons c cs hi => simp [join, testBit_value, hi]

-- Each of the lowest `n` bits of what is joined is seen on one wire.
def Reads (n : Nat) (cs : List Chunk) (ws : List Wire) : Prop :=
  ws.length ≤ n ∧ ∀ i < n, cs.flatMap (source · i) = ws[i]?.toList

instance : Decidable (Reads n cs ws) :=
  inferInstanceAs (Decidable (_ ∧ _))

theorem Reads.join_eq (h : Reads n cs ws) (hlt : join p cs < 2 ^ n) : join p cs = gather p ws := by
  apply Nat.eq_of_testBit_eq
  intro i
  by_cases hi : i < n
  case pos =>
    rw [testBit_join, h.right i hi, testBit_gather]
    cases ws[i]? <;> simp
  case neg =>
    have hi := not_lt.mp hi
    rw [Nat.testBit_lt_two_pow (lt_of_lt_of_le hlt (Nat.pow_le_pow_right (by omega) hi)), testBit_gather,
      List.getElem?_eq_none (h.left.trans hi)]
    rfl

end Chunk

end Wiring
