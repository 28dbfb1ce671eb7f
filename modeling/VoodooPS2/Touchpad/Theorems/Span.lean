import Mathlib.Order.Bounds.Basic
import VoodooPS2.Touchpad.Theorems.BitmapRuns

namespace Touchpad

-- The bits in `start .. start + len - 1` are set.
structure IsRun (bits : Nat → Bool) (start len : Nat) : Prop where
  pos : 0 < len
  set : ∀ k, start ≤ k → k < start + len → bits k = true

-- A single run whose number of bits is odd, but not 1.
def IsOddRun (bits : Nat → Bool) : Prop :=
  ∃ start len, 3 ≤ len ∧ len % 2 = 1 ∧ ∀ k, bits k = true ↔ start ≤ k ∧ k < start + len

-- The runs that are covered by the two points. The second one extends to the last bit, except where the
-- bits of a single run cannot be shared evenly.
structure Covers (bits : Nat → Bool) (d : AlpsBitmapPoint × AlpsBitmapPoint) (l n h m : Nat) : Prop where
  eq     : d = (⟨l, n⟩, ⟨h, m⟩)
  low    : IsRun bits l n
  high   : IsRun bits h m
  before : ∀ k < l, bits k = false
  after  : (∀ k, h + m ≤ k → bits k = false) ↔ ¬IsOddRun bits

section Covers

open BitmapPoints

variable {bits : Nat → Bool} {b : BitmapPoints} {r r' : Nat × Nat} {rs : List (Nat × Nat)} {map : UInt32}

theorem isRun_of_mem {runs : List (Nat × Nat)} (h : Runs.Decomposes runs bits) (hr : r ∈ runs) :
    IsRun bits r.1 r.2 :=
  ⟨(h.maximal hr).pos, (h.maximal hr).set⟩

-- Of several runs the first one and the last one are taken.
theorem BitmapPoints.Found.covers_several (f : Found {} bits b (r :: (rs ++ [r']))) :
    Covers bits b.divide r.1 r.2 r'.1 r'.2 := by
  have hd := f.split
  have hf : b.fingers ≠ 1 := by
    have hl := f.fingers
    simp only [List.length_cons, List.length_append, List.length_nil] at hl
    change b.fingers = 0 + _ at hl
    omega
  have hr := hd.maximal List.mem_cons_self
  have hr' := isRun_of_mem hd (List.mem_cons_of_mem r (List.mem_append_right rs List.mem_cons_self))
  have ha : r.1 + r.2 < r'.1 := (List.pairwise_cons.mp hd.apart).left r' (by simp)
  exact {
    eq     := by
      rw [divide, if_neg hf, f.low, f.high]
      simp [ofRun]
    low    := ⟨hr.pos, hr.set⟩
    high   := hr'
    before := fun _ => hd.before_head
    after  := by
      apply iff_of_true
      case ha => exact fun _ hk => @Runs.Decomposes.after_last _ _ (r :: rs) hd _ hk
      case hb =>
        -- There is a gap behind the first run.
        rintro ⟨start, len, _, _, ho⟩
        have hl := (ho r.1).mp (hr.set r.1 le_rfl (by have := hr.pos; omega))
        have hh := (ho r'.1).mp (hr'.set r'.1 le_rfl (by have := hr'.pos; omega))
        have hg := (ho (r.1 + r.2)).mpr (by omega)
        simp [hr.right] at hg
  }

theorem isOddRun_iff {l n : Nat} (hp : 0 < n) (hb : ∀ k, bits k = true ↔ l ≤ k ∧ k < l + n) :
    IsOddRun bits ↔ 3 ≤ n ∧ n % 2 = 1 := by
  constructor
  case mpr => exact fun h => ⟨l, n, h.left, h.right, hb⟩
  case mp =>
    rintro ⟨start, len, h₃, hodd, ho⟩
    have h₁ := (hb start).mp ((ho start).mpr (by omega))
    have h₂ := (hb (start + len - 1)).mp ((ho (start + len - 1)).mpr (by omega))
    have h₄ := (ho l).mp ((hb l).mpr (by omega))
    have h₅ := (ho (l + n - 1)).mp ((hb (l + n - 1)).mpr (by omega))
    omega

-- A single run is divided into two halves.
theorem BitmapPoints.Found.covers_one {l n : Nat} (f : Found {} bits b [(l, n)]) :
    Covers bits b.divide l (n - n / 2) (l + n / 2) (max (n / 2) 1) := by
  have ⟨hp, hs⟩ := isRun_of_mem f.split List.mem_cons_self
  have hb (k : Nat) : bits k = true ↔ l ≤ k ∧ k < l + n := by
    rw [f.split.cover]
    simp
  exact {
    eq     := by
      have hd : (n : Int).tdiv 2 = (n / 2 : Nat) := (Int.ofNat_tdiv n 2).symm
      have hs : (n : Int) - (n / 2 : Nat) = (n - n / 2 : Nat) := by omega
      have hm : max ((n / 2 : Nat) : Int) 1 = (max (n / 2) 1 : Nat) := by omega
      have hf : b.fingers = 1 := f.fingers
      have hl : b.low = ⟨l, n⟩ := f.low
      rw [divide, if_pos hf, hl]
      simp only [hd, hs, hm, Int.natCast_add]
    low    := ⟨by omega, fun k h₁ h₂ => hs k h₁ (by omega)⟩
    high   := ⟨by omega, fun k h₁ h₂ => hs k (by omega) (by omega)⟩
    before := fun _ => f.split.before_head
    after  := by
      rw [isOddRun_iff hp hb]
      constructor
      case mp =>
        rintro ha ⟨_, _⟩
        have ht := (hb (l + n - 1)).mpr (by omega)
        simp [ha (l + n - 1) (by omega)] at ht
      case mpr =>
        intro ho k hk
        by_contra hn
        have hk' := (hb k).mp (by simpa using hn)
        omega
  }

theorem alpsGetBitmapPoints_covers (hm : map ≠ 0) :
    ∃ l n h m, Covers map.toNat.testBit (alpsGetBitmapPoints map).divide l n h m := by
  obtain ⟨runs, f⟩ := alpsGetBitmapPoints_found map
  rcases runs with _ | ⟨r, rs⟩
  · exact absurd (eq_zero_of_decomposes f.split) hm
  rcases rs.eq_nil_or_concat' with rfl | ⟨rs, r', rfl⟩
  · exact ⟨_, _, _, _, f.covers_one⟩
  · exact ⟨_, _, _, _, f.covers_several⟩

end Covers

-- The position of a bit that is set.
def IsContact (map : UInt32) (k : Int) : Prop :=
  0 ≤ k ∧ map.toNat.testBit k.toNat = true

-- The positions in `start_bit .. start_bit + num_bits - 1`.
def AlpsBitmapPoint.Includes (p : AlpsBitmapPoint) (k : Int) : Prop :=
  p.startBit ≤ k ∧ k < p.startBit + p.numBits

-- The two points are the ends of the touched range.
structure Spans (map : UInt32) (d : AlpsBitmapPoint × AlpsBitmapPoint) : Prop where
  lowest  : IsLeast {k | IsContact map k} d.1.startBit
  highest : IsGreatest {k | IsContact map k} (d.2.startBit + d.2.numBits - 1)
  low     : ∀ k, d.1.Includes k → IsContact map k
  high    : ∀ k, d.2.Includes k → IsContact map k

section Spans

variable {map : UInt32} {d : AlpsBitmapPoint × AlpsBitmapPoint} {l n h m : Nat}

theorem IsRun.contact (r : IsRun map.toNat.testBit l n) (k : Int)
    (hk : AlpsBitmapPoint.Includes ⟨l, n⟩ k) : IsContact map k := by
  have ⟨h₁, h₂⟩ := hk
  have h₀ : 0 ≤ k := le_trans (Int.natCast_nonneg l) h₁
  exact ⟨h₀, r.set k.toNat (by simp at h₁; omega) (by simp at h₂; omega)⟩

theorem Covers.spans_iff (c : Covers map.toNat.testBit d l n h m) :
    Spans map d ↔ ¬IsOddRun map.toNat.testBit := by
  have hp := c.low.pos
  have hm := c.high.pos
  rw [← c.after, c.eq]
  constructor
  case mp =>
    intro s k hk
    by_contra hb
    have := s.highest.right ⟨Int.natCast_nonneg k, by simpa using hb⟩
    simp at this
    omega
  case mpr =>
    intro ha
    refine ⟨⟨c.low.contact l ⟨le_rfl, ?_⟩, ?_⟩, ⟨c.high.contact _ ⟨?_, ?_⟩, ?_⟩, c.low.contact, c.high.contact⟩
    · simp
      omega
    · intro k ⟨h₀, hk⟩
      by_contra hlt
      have hlt : ¬(l : Int) ≤ k := hlt
      simp [c.before k.toNat (by omega)] at hk
    · simp
      omega
    · simp
    · intro k ⟨h₀, hk⟩
      by_contra hlt
      simp [ha k.toNat (by simp at hlt; omega)] at hk

-- The contact points span the touched range, unless there is a single contact that cannot be divided into
-- two equal ones.
theorem alpsGetBitmapPoints_spans_iff (map : UInt32) (hm : map ≠ 0) :
    Spans map (alpsGetBitmapPoints map).divide ↔ ¬IsOddRun map.toNat.testBit := by
  have ⟨_, _, _, _, c⟩ := alpsGetBitmapPoints_covers hm
  exact c.spans_iff

-- Two electrodes, one for each of the points.
theorem alpsGetBitmapPoints_spans_two : Spans 0x6 (alpsGetBitmapPoints 0x6).divide := by
  apply (alpsGetBitmapPoints_spans_iff 0x6 (by decide)).mpr
  intro ⟨start, len, _, _, ho⟩
  have h₀ := mt (ho 0).mpr (by decide)
  have h₁ := (ho 1).mp (by decide)
  have h₃ := mt (ho 3).mpr (by decide)
  omega

-- The last one of three is left out.
theorem not_alpsGetBitmapPoints_spans : ¬∀ map ≠ 0, Spans map (alpsGetBitmapPoints map).divide := by
  intro h
  have : (2 : Int) ≤ 1 := (h 0x7 (by decide)).highest.right ⟨by decide, by decide⟩
  exact absurd this (by decide)

end Spans

end Touchpad
