import Mathlib.Data.List.Pairwise

-- The runs of a sequence of bits, each of them given by where it starts and how long it is.
namespace Runs

-- A run that cannot be extended.
structure Maximal (bits : Nat → Bool) (start len : Nat) : Prop where
  pos   : 0 < len
  set   : ∀ k, start ≤ k → k < start + len → bits k = true
  left  : ∀ k, k + 1 = start → bits k = false
  right : bits (start + len) = false

-- The runs cover exactly the bits that are set, in ascending order, and do not touch each other.
structure Decomposes (runs : List (Nat × Nat)) (bits : Nat → Bool) : Prop where
  pos   : ∀ r ∈ runs, 0 < r.2
  apart : runs.Pairwise fun r r' => r.1 + r.2 < r'.1
  cover : ∀ k, bits k = true ↔ ∃ r ∈ runs, r.1 ≤ k ∧ k < r.1 + r.2

-- The first `i` bits.
def first (bits : Nat → Bool) (i : Nat) : Nat → Bool :=
  fun k => decide (k < i) && bits k

section First

variable {bits : Nat → Bool} {i k : Nat}

theorem first_succ : first bits (i + 1) k = true ↔ first bits i k = true ∨ k = i ∧ bits i = true := by
  simp only [first, Bool.and_eq_true, decide_eq_true_eq, Nat.lt_succ_iff_lt_or_eq, or_and_right]
  refine or_congr_right (and_congr_right fun h => ?_)
  rw [h]

theorem first_skip (h : bits i = false) : first bits (i + 1) = first bits i := by
  funext k
  rw [Bool.eq_iff_iff, first_succ]
  simp [h]

theorem first_eq (h : ∀ k, i ≤ k → bits k = false) : first bits i = bits := by
  funext k
  by_cases hk : k < i
  case pos => simp [first, hk]
  case neg => simp [first, hk, h k (Nat.le_of_not_lt hk)]

end First

namespace Decomposes

variable {runs : List (Nat × Nat)} {bits : Nat → Bool} {i l n : Nat} {r r' : Nat × Nat}

theorem nil : Decomposes [] (first bits 0) where
  pos   := nofun
  apart := .nil
  cover k := by simp [first]

theorem le (h : Decomposes runs (first bits i)) (hr : r ∈ runs) : r.1 + r.2 ≤ i := by
  have hp := h.pos r hr
  have hb := (h.cover (r.1 + r.2 - 1)).mpr ⟨r, hr, by omega, by omega⟩
  simp only [first, Bool.and_eq_true, decide_eq_true_eq] at hb
  omega

-- A bit that is not next to the last run starts a new one.
theorem begin (h : Decomposes runs (first bits i)) (hl : ∀ r ∈ runs, r.1 + r.2 < i) (hb : bits i = true) :
    Decomposes (runs ++ [(i, 1)]) (first bits (i + 1)) where
  pos   := List.forall_mem_append.mpr ⟨h.pos, by simp⟩
  apart := List.pairwise_append.mpr ⟨h.apart, List.pairwise_singleton .., fun r hr => by simpa using hl r hr⟩
  cover k := by
    rw [first_succ, h.cover]
    simp only [List.mem_append, List.mem_singleton, or_and_right, exists_or, exists_eq_left, hb, and_true]
    exact or_congr_right (by omega)

-- A bit that is next to the last run belongs to it.
theorem extend (h : Decomposes (runs ++ [(l, n)]) (first bits i)) (hl : l + n = i) (hb : bits i = true) :
    Decomposes (runs ++ [(l, n + 1)]) (first bits (i + 1)) where
  pos   := by
    have hp := List.forall_mem_append.mp h.pos
    exact List.forall_mem_append.mpr ⟨hp.left, by simp⟩
  apart := by
    have ⟨ha, _, hr⟩ := List.pairwise_append.mp h.apart
    exact List.pairwise_append.mpr ⟨ha, List.pairwise_singleton .., fun r hm => by simpa using hr r hm⟩
  cover k := by
    rw [first_succ, h.cover]
    simp only [List.mem_append, List.mem_singleton, or_and_right, exists_or, exists_eq_left, hb, and_true, or_assoc]
    exact or_congr_right (by omega)

-- Two runs of the list are the same one, or there is a gap between them.
theorem eq_or_apart (h : Decomposes runs bits) (hr : r ∈ runs) (hr' : r' ∈ runs) :
    r = r' ∨ r.1 + r.2 < r'.1 ∨ r'.1 + r'.2 < r.1 := by
  let R (r r' : Nat × Nat) : Prop := r = r' ∨ r.1 + r.2 < r'.1 ∨ r'.1 + r'.2 < r.1
  have ha : runs.Pairwise R := h.apart.imp fun ha => .inr (.inl ha)
  have hf : runs.Pairwise (flip R) := h.apart.imp fun ha => .inr (.inr ha)
  exact ha.forall_of_forall_of_flip (fun _ _ => .inl rfl) hf hr hr'

theorem maximal (h : Decomposes runs bits) (hr : r ∈ runs) : Maximal bits r.1 r.2 where
  pos   := h.pos r hr
  set k h₁ h₂ := (h.cover k).mpr ⟨r, hr, h₁, h₂⟩
  left k hk := by
    by_contra hb
    obtain ⟨r', hr', _, _⟩ := (h.cover k).mp (by simpa using hb)
    rcases h.eq_or_apart hr hr' with rfl | _ | _
    all_goals omega
  right := by
    by_contra hb
    obtain ⟨r', hr', _, _⟩ := (h.cover (r.1 + r.2)).mp (by simpa using hb)
    rcases h.eq_or_apart hr hr' with rfl | _ | _
    all_goals omega

-- No bit is set before the first run, or after the last one.
theorem before_head {rs : List (Nat × Nat)} (h : Decomposes (r :: rs) bits) {k : Nat} (hk : k < r.1) :
    bits k = false := by
  by_contra hb
  obtain ⟨r', hr, _, _⟩ := (h.cover k).mp (by simpa using hb)
  cases hr
  case head    => omega
  case tail hr =>
    have := (List.pairwise_cons.mp h.apart).left r' hr
    omega

theorem after_last {rs : List (Nat × Nat)} (h : Decomposes (rs ++ [r]) bits) {k : Nat} (hk : r.1 + r.2 ≤ k) :
    bits k = false := by
  by_contra hb
  obtain ⟨r', hr, _, _⟩ := (h.cover k).mp (by simpa using hb)
  rcases List.mem_append.mp hr with hr | hr
  · have := (List.pairwise_append.mp h.apart).right.right r' hr r (List.mem_singleton_self r)
    omega
  · cases List.mem_singleton.mp hr
    omega

-- The runs of the list are all that are maximal.
theorem mem_iff (h : Decomposes runs bits) : (l, n) ∈ runs ↔ Maximal bits l n := by
  constructor
  case mp => exact h.maximal
  case mpr =>
    intro m
    have hp := m.pos
    obtain ⟨r, hr, h₁, h₂⟩ := (h.cover l).mp (m.set l (Nat.le_refl _) (by omega))
    have hm := h.maximal hr
    have hs : r.1 = l := by
      by_contra hn
      have := m.left (l - 1) (by omega)
      rw [hm.set (l - 1) (by omega) (by omega)] at this
      cases this
    have hl : r.2 = n := by
      rcases Nat.lt_trichotomy r.2 n with hl | hl | hl
      case inr.inl => exact hl
      case inl =>
        have := hm.right
        rw [m.set (r.1 + r.2) (by omega) (by omega)] at this
        cases this
      case inr.inr =>
        have := m.right
        rw [hm.set (l + n) (by omega) (by omega)] at this
        cases this
    exact hs ▸ hl ▸ hr

end Decomposes

end Runs
