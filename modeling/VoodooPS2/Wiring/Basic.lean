import Mathlib.Data.Nat.Bitwise
import Mathlib.Data.List.Nodup

namespace Wiring

-- A bit of a packet: the index of a byte, and the position in that byte.
abbrev Wire := Nat × Nat

namespace Wire

variable {p : List UInt8} {w : Wire} {ws : List Wire} {n i : Nat}

def probe (p : List UInt8) (w : Wire) : Bool :=
  (p.getD w.1 0).toNat.testBit w.2

-- The number that is read off some wires, the lowest bit first.
def gather (p : List UInt8) (ws : List Wire) : Nat :=
  .ofBits fun i : Fin ws.length => probe p ws[i]

theorem gather_lt : gather p ws < 2 ^ ws.length :=
  Nat.ofBits_lt_two_pow _

theorem testBit_gather : (gather p ws).testBit i = (ws[i]?.map (probe p)).getD false := by
  rw [gather, Nat.testBit_ofBits]
  split
  case isTrue h  => simp [h]
  case isFalse h => simp [List.getElem?_eq_none (not_lt.mp h)]

@[simp]
theorem gather_singleton : gather p [w] = (probe p w).toNat := by
  simp [gather, Nat.ofBits_succ]

theorem probe_of_gather {b : Bool} (h : gather p [w] = b.toNat) : probe p w = b := by
  rw [gather_singleton] at h
  cases hp : probe p w <;> cases b <;> simp [hp] at h ⊢

-- The bits are known if the number is.
theorem map_probe {bits : List Bool} (hl : ws.length = bits.length)
    (h : gather p ws = .ofBits fun i : Fin bits.length => bits[i]) : ws.map (probe p) = bits := by
  apply List.ext_getElem (by simp [hl])
  intro i hi hb
  have hi : i < ws.length := by simpa using hi
  have hg := @testBit_gather p ws i
  rw [h, Nat.testBit_ofBits_lt _ i hb] at hg
  simpa [hi] using hg.symm

-- A highest bit that is clear makes no difference.
theorem gather_concat_of_clear (h : probe p w = false) : gather p (ws ++ [w]) = gather p ws := by
  apply Nat.eq_of_testBit_eq
  intro i
  rw [testBit_gather, testBit_gather]
  rcases lt_trichotomy i ws.length with hi | hi | hi
  · rw [List.getElem?_append_left hi]
  · simp [hi, h]
  · rw [List.getElem?_eq_none (by simp; omega), List.getElem?_eq_none (by omega)]

-- Some of the bits in a row are read off some of the wires.
theorem gather_slice (start len : Nat) :
    (gather p ws >>> start) % 2 ^ len = gather p ((ws.drop start).take len) := by
  apply Nat.eq_of_testBit_eq
  intro i
  rw [Nat.testBit_mod_two_pow, Nat.testBit_shiftRight, testBit_gather, testBit_gather,
    List.getElem?_take, List.getElem?_drop]
  by_cases h : i < len <;> simp [h]

-- The packet of `n` bytes with the given bits.
def assemble (n : Nat) (bits : Wire → Bool) : List UInt8 :=
  (List.range n).map fun k => .ofNat (.ofBits fun j : Fin 8 => bits (k, j))

@[simp]
theorem length_assemble {bits : Wire → Bool} : (assemble n bits).length = n := by
  simp [assemble]

-- The wires of a packet of `n` bytes.
def Within (n : Nat) (w : Wire) : Prop :=
  w.1 < n ∧ w.2 < 8
  deriving Decidable

theorem probe_assemble {bits : Wire → Bool} (h : w.Within n) : probe (assemble n bits) w = bits w := by
  have hb := Nat.ofBits_lt_two_pow fun j : Fin 8 => bits (w.1, j)
  simp [probe, assemble, h.left, Nat.mod_eq_of_lt hb, h.right]

end Wire

-- A number and the wires that carry its bits.
structure Slot where
  wires : List Wire
  value : Nat

namespace Slot

open Wire

variable {fs : List Slot} {f : Slot} {w : Wire} {n i : Nat}

def Fits (f : Slot) : Prop :=
  f.value < 2 ^ f.wires.length

-- The bit that some slots put on a wire.
def carried (w : Wire) : List Slot → Bool
  | []      => false
  | f :: fs => if w ∈ f.wires then f.value.testBit (f.wires.idxOf w) else carried w fs

-- The slots of a packet, scattered over its bytes.
def scatter (n : Nat) (fs : List Slot) : List UInt8 :=
  assemble n fun w => carried w fs

@[simp]
theorem length_scatter : (scatter n fs).length = n :=
  length_assemble

theorem carried_getElem (hn : (fs.flatMap wires).Nodup) (hf : f ∈ fs) (h : i < f.wires.length) :
    carried f.wires[i] fs = f.value.testBit i := by
  induction fs
  case nil => simp at hf
  case cons g fs hi =>
    rw [List.flatMap_cons, List.nodup_append'] at hn
    have ⟨hg, hfs, hd⟩ := hn
    rcases List.mem_cons.mp hf with rfl | hf
    case inl => simp [carried, hg.idxOf_getElem]
    case inr =>
      have : f.wires[i] ∉ g.wires := fun hm => hd hm <| List.mem_flatMap.mpr ⟨f, hf, List.getElem_mem h⟩
      simp [carried, this, hi hfs hf]

-- What is scattered over different wires can be gathered again.
theorem gather_scatter (hw : ∀ w ∈ fs.flatMap wires, w.Within n) (hn : (fs.flatMap wires).Nodup)
    (hf : f ∈ fs) (h : f.Fits) : gather (scatter n fs) f.wires = f.value := by
  apply Nat.eq_of_testBit_eq
  intro i
  rw [testBit_gather]
  by_cases hi : i < f.wires.length
  case pos =>
    have hm := List.mem_flatMap.mpr ⟨f, hf, List.getElem_mem hi⟩
    simp [hi, scatter, probe_assemble (hw _ hm), carried_getElem hn hf hi]
  case neg =>
    have hi := not_lt.mp hi
    have := Nat.testBit_lt_two_pow (lt_of_lt_of_le h (Nat.pow_le_pow_right (by omega) hi))
    simp [List.getElem?_eq_none hi, this]

end Slot

end Wiring
