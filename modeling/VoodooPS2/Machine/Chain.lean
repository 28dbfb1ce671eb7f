import Mathlib.Data.Fintype.EquivFin
import Mathlib.Data.Set.Finite.Basic

-- Links that lead from one key to another one, or nowhere.
namespace Chain

variable {κ ρ : Type*} (link : κ → Option κ)

-- The key at the end of `n` links.
def nth (k : κ) : Nat → Option κ
  | 0     => some k
  | n + 1 => (nth k n).bind link

-- No key comes up twice.
def NonRepeating (k : κ) : Prop :=
  ∀ i j a, nth link k i = some a → nth link k j = some a → i = j

-- The links are followed for as long as there is fuel, to a key that has none.
def follow (stop : κ → ρ) : Nat → κ → Option ρ
  | 0, _        => none
  | fuel + 1, k =>
    match link k with
    | some a => follow stop fuel a
    | none   => some (stop k)

variable {link} {stop : κ → ρ} {k a : κ} {r : ρ} {n m i j fuel : Nat}

theorem nth_add : nth link k (n + m) = (nth link k n).bind (nth link · m) := by
  induction m
  case zero      => simp [nth]
  case succ m hi =>
    rw [← Nat.add_assoc, nth, hi, Option.bind_assoc]
    rfl

theorem nth_succ' : nth link k (n + 1) = (link k).bind (nth link · n) := by
  rw [Nat.add_comm, nth_add]
  rfl

theorem nth_none_mono (h : nth link k n = none) (hl : n ≤ m) : nth link k m = none := by
  obtain ⟨d, rfl⟩ := Nat.exists_eq_add_of_le hl
  rw [nth_add, h, Option.bind_none]

-- A key that comes up again does so over and over.
theorem nth_repeats (hi : nth link k i = some a) (hj : nth link k (i + n) = some a) (m : Nat) :
    nth link k (i + n * m) = some a := by
  have hn : nth link a n = some a := by rwa [nth_add, hi, Option.bind_some] at hj
  induction m
  case zero      => simpa using hi
  case succ m ih => rw [Nat.mul_succ, ← Nat.add_assoc, nth_add, ih, Option.bind_some, hn]

theorem eq_of_ends (h : nth link k n = none) (hi : nth link k i = some a) (hj : nth link k j = some a)
    (hl : i ≤ j) : i = j := by
  obtain ⟨d, rfl⟩ := Nat.exists_eq_add_of_le hl
  by_contra hd
  have hd : 0 < d := by omega
  have hn : nth link k (i + d * n) = none :=
    nth_none_mono h (Nat.le_add_left_of_le (Nat.le_mul_of_pos_left n hd))
  rw [nth_repeats hi hj n] at hn
  nomatch hn

theorem NonRepeating.of_ends (h : nth link k n = none) : NonRepeating link k := by
  intro i j a hi hj
  rcases Nat.le_total i j with hl | hl
  · exact eq_of_ends h hi hj hl
  · exact (eq_of_ends h hj hi hl).symm

theorem last_le {b : κ} (h : nth link k n = some a) (hl : link a = none) (hm : nth link k m = some b) :
    m ≤ n := by
  by_contra hn
  have he : nth link k (n + 1) = none := by rw [nth, h, Option.bind_some, hl]
  rw [nth_none_mono he (by omega)] at hm
  nomatch hm

-- There is only one key that has no link.
theorem last_unique {b : κ} (ha : nth link k n = some a) (hla : link a = none) (hb : nth link k m = some b)
    (hlb : link b = none) : a = b := by
  obtain rfl : n = m := Nat.le_antisymm (last_le hb hlb ha) (last_le ha hla hb)
  exact Option.some_inj.mp (ha.symm.trans hb)

-- There are not enough keys to go on forever without a repetition.
theorem NonRepeating.ends (h : NonRepeating link k) (hf : {a | (link a).isSome}.Finite) :
    ∃ n, nth link k n = none := by
  by_contra hn
  have hs (n : Nat) : ∃ a, nth link k n = some a := Option.ne_none_iff_exists'.mp fun he => hn ⟨n, he⟩
  choose key hk using hs
  have hl (n : Nat) : (link (key n)).isSome := by
    have hn := hk (n + 1)
    rw [nth, hk, Option.bind_some] at hn
    simp [hn]
  have := hf.to_subtype
  refine not_injective_infinite_finite (fun n => (⟨key n, hl n⟩ : {a | (link a).isSome})) fun i j he => ?_
  have he : key i = key j := congrArg Subtype.val he
  exact h i j (key i) (hk i) (he ▸ hk j)

theorem nonRepeating_iff_ends (hf : {a | (link a).isSome}.Finite) :
    NonRepeating link k ↔ ∃ n, nth link k n = none :=
  ⟨fun h => h.ends hf, fun ⟨_, h⟩ => .of_ends h⟩

theorem follow_eq_some : follow link stop fuel k = some r ↔
    ∃ n < fuel, ∃ a, nth link k n = some a ∧ link a = none ∧ stop a = r := by
  induction fuel generalizing k
  case zero => simp [follow]
  case succ fuel hi =>
    unfold follow
    cases hl : link k
    case none =>
      constructor
      case mp  => exact fun h => ⟨0, Nat.succ_pos fuel, k, rfl, hl, Option.some_inj.mp h⟩
      case mpr =>
        rintro ⟨n, -, a, ha, -, rfl⟩
        cases n
        case zero   => rw [Option.some_inj.mp ha]
        case succ n => simp [nth_succ', hl] at ha
    case some b =>
      rw [hi]
      constructor
      case mp =>
        rintro ⟨n, hn, a, ha, h⟩
        exact ⟨n + 1, Nat.succ_lt_succ hn, a, by rwa [nth_succ', hl, Option.bind_some], h⟩
      case mpr =>
        rintro ⟨n, hn, a, ha, h, hr⟩
        cases n
        case zero =>
          rw [← Option.some_inj.mp ha, hl] at h
          nomatch h
        case succ n =>
          rw [nth_succ', hl, Option.bind_some] at ha
          exact ⟨n, Nat.lt_of_succ_lt_succ hn, a, ha, h, hr⟩

theorem follow_mono (h : follow link stop n k = some r) (hl : n ≤ m) : follow link stop m k = some r := by
  have ⟨i, hi, ha⟩ := follow_eq_some.mp h
  exact follow_eq_some.mpr ⟨i, Nat.lt_of_lt_of_le hi hl, ha⟩

-- The links are followed to the end exactly if there is one.
theorem follow_returns_iff : (∃ fuel r, follow link stop fuel k = some r) ↔ ∃ n, nth link k n = none := by
  simp only [follow_eq_some]
  constructor
  case mp =>
    rintro ⟨-, -, n, -, a, ha, h, -⟩
    exact ⟨n + 1, by rw [nth, ha, Option.bind_some, h]⟩
  case mpr =>
    intro ⟨n, hn⟩
    induction n
    case zero => nomatch hn
    case succ n hi =>
      cases ha : nth link k n
      case none   => exact hi ha
      case some a =>
        rw [nth, ha, Option.bind_some] at hn
        exact ⟨n + 1, stop a, n, Nat.lt_succ_self n, a, ha, hn, rfl⟩

end Chain
