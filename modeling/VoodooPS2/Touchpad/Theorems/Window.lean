import Mathlib.Algebra.Ring.Int.Defs
import VoodooPS2.Touchpad.Filters
import VoodooPS2.Touchpad.Theorems.Decay

namespace Decay

open Touchpad

section SinceReset

variable {T : Type} {acts : List (FilterAct T)} {data : T}

@[simp]
theorem sinceReset_filter : sinceReset (acts ++ [.filter data]) = sinceReset acts ++ [data] := by
  simp [sinceReset]

@[simp]
theorem sinceReset_reset : sinceReset (acts ++ [.reset]) = [] := by
  simp [sinceReset]

-- What has left the window does not come back.
theorem rtake_concat {l : List T} {n : Nat} : (l.rtake n ++ [data]).rtake n = (l ++ [data]).rtake n := by
  cases n
  case zero   => simp
  case succ n =>
    rw [List.rtake_concat_succ, List.rtake_concat_succ]
    simp only [List.rtake, List.length_drop, List.drop_drop]
    congr 2
    omega

end SinceReset

-- A new value enters the window, and the oldest one leaves it if it is full.
theorem rtake_append_singleton {T : Type} {l : List T} {data : T} {n : Nat} (hn : 0 < n) (hl : l.length ≤ n) :
    (l ++ [data]).rtake n = (if l.length = n then l.tail else l) ++ [data] := by
  split
  case isFalse h =>
    have hd : (l ++ [data]).length - n = 0 := by
      simp
      omega
    rw [List.rtake, hd, List.drop_zero]
  case isTrue h  =>
    cases l
    case nil      => exact absurd h hn.ne
    case cons a l => simp [List.rtake, ← h]

-- The history is a window of the values since the last reset.
structure Slides {T : Type} {n : Nat} (h : History T n) (values : List T) : Prop where
  aligned : h.Aligned
  values  : h.values = values.rtake n

namespace Slides

variable {T : Type} {n : Nat} {h : History T n} {values : List T} {data empty : T}

theorem filter (s : Slides h values) : Slides (h.filter data) (values ++ [data]) where
  aligned := History.filter_aligned s.aligned
  values  := by rw [History.filter_values, s.values, rtake_concat]

theorem reset : Slides h.reset [] where
  aligned := History.reset_empty.aligned
  values  := by rw [History.reset_empty.values, List.rtake_nil]

theorem count (s : Slides h values) : h.count = min values.length n := by
  rw [← History.values_length, s.values, List.rtake, List.length_drop]
  omega

theorem oldest (s : Slides h values) : h.oldest empty = (values.rtake n).headD empty := by
  rw [History.oldest_eq s.aligned, s.values]

theorem newest (s : Slides h values) (hn : 0 < n) : h.newest empty = values.getLastD empty := by
  rw [History.newest_eq s.aligned, s.values]
  cases values using List.reverseRecOn
  case nil => simp
  case append_singleton =>
    obtain ⟨m, rfl⟩ := Nat.exists_eq_succ_of_ne_zero hn.ne'
    rw [List.rtake_concat_succ]
    simp

end Slides

section Run

variable {T : Type} [Sample T] {n : Nat} {buffer : Vector T n} {hn : 0 < n}

theorem simpleAverage_runs (acts : List (FilterAct T)) :
    Slides ((simpleAverage T n).state (.init buffer hn) acts).toHistory (sinceReset acts) := by
  induction acts using List.reverseRecOn
  case nil =>
    have he : (SimpleAverage.init buffer hn).toHistory.Empty := ⟨rfl, rfl⟩
    exact ⟨he.aligned, by simp [sinceReset, he.values]⟩
  case append_singleton acts act hi =>
    rw [Mealy.state_append]
    cases act
    case filter data =>
      rw [sinceReset_filter]
      exact hi.filter
    case reset =>
      rw [sinceReset_reset]
      exact .reset

end Run

section Sum

variable {n : Nat} {a : SimpleAverage Int32 n} {data : Int32}

-- The sum of the window, as far as an `int` can hold it.
def Sums (a : SimpleAverage Int32 n) : Prop :=
  a.sum = .ofInt (a.values.map Int32.toInt).sum

-- The value that is overwritten in a full buffer is the oldest one of the window.
theorem values_of_full (h : a.count = n) :
    a.values = a.buffer.get ⟨a.index, a.index_lt⟩ :: a.values.tail := by
  have hi := a.index_lt
  have hv : a.values[0]? = a.buffer.toList[a.index]? := by
    rw [History.values_getElem? (by omega), h, Nat.sub_self, Nat.add_zero, Nat.mod_eq_of_lt hi]
  cases hl : a.values
  case nil =>
    have := congrArg List.length hl
    rw [History.values_length, List.length_nil] at this
    omega
  case cons b l =>
    rw [hl, List.getElem?_cons_zero, List.getElem?_eq_getElem (by simpa), Option.some_inj] at hv
    rw [hv, List.tail_cons]
    rfl

theorem Sums.add (h : Sums a) : Sums (a.add data) := by
  have hn : 0 < n := Nat.zero_lt_of_lt a.index_lt
  have hl : a.values.length ≤ n := History.values_length.trans_le a.count_le
  have hv : (a.add data).values = (if a.count = n then a.values.tail else a.values) ++ [data] := by
    rw [← History.values_length, ← rtake_append_singleton hn hl]
    exact History.filter_values
  rw [Sums, hv]
  simp only [SimpleAverage.add, Sample.toSum, id]
  split
  case isFalse hc => simp [h.symm]
  case isTrue hc  =>
    have hs := h
    rw [Sums, values_of_full hc, List.map_cons, List.sum_cons, Int32.ofInt_add, Int32.ofInt_toInt] at hs
    rw [hs, List.map_append, List.sum_append, Int32.ofInt_add, List.map_singleton, List.sum_singleton,
      Int32.ofInt_toInt]
    grind

theorem simpleAverage_sums {buffer : Vector Int32 n} {hn : 0 < n} (acts : List (FilterAct Int32)) :
    Sums ((simpleAverage Int32 n).state (.init buffer hn) acts) := by
  have hz {h : History Int32 n} (he : h.Empty) : (0 : Int32) = .ofInt (h.values.map Int32.toInt).sum := by
    simp [he.values]
  have hv : (simpleAverage Int32 n).Invariant (fun _ _ => True) Sums := by
    refine ⟨fun {a act} h _ => ?_⟩
    cases act
    case filter data => exact h.add
    case reset       => exact hz History.reset_empty
  exact hv.run (.of_forall fun _ _ => trivial) (hz ⟨rfl, rfl⟩)

-- The numbers that an `int` can hold.
def IsInt (x : Int) : Prop :=
  -2 ^ 31 ≤ x ∧ x < 2 ^ 31

instance (x : Int) : Decidable (IsInt x) :=
  inferInstanceAs (Decidable (_ ∧ _))

theorem IsInt.toInt_ofInt {x : Int} (h : IsInt x) : (Int32.ofInt x).toInt = x :=
  Int32.toInt_ofInt_of_le h.left h.right

theorem IsInt.tdiv {x : Int} (h : IsInt x) (k : Nat) : IsInt (x.tdiv k) := by
  have hx := Int.natAbs_tdiv_le_natAbs x k
  have hn (hx : x ≤ 0) : x.tdiv k ≤ 0 := by
    rw [← Int.neg_nonneg, ← Int.neg_tdiv]
    exact Int.tdiv_nonneg (Int.neg_nonneg.mpr hx) (Int.natCast_nonneg k)
  have ⟨_, _⟩ := h
  constructor
  all_goals omega

theorem Sums.exact (h : Sums a) (hi : IsInt (a.values.map Int32.toInt).sum) :
    a.sum.toInt = (a.values.map Int32.toInt).sum :=
  (congrArg Int32.toInt h).trans hi.toInt_ofInt

end Sum

-- An average that is computed with unbounded numbers, and the same with those of the machine.
structure Represents {n : Nat} (a : SimpleAverage Int32 n) (b : Touchpad.SimpleAverage n) : Prop where
  buffer : b.buffer = a.buffer.map Int32.toInt
  count  : b.count = a.count
  index  : b.index = a.index
  sum    : a.sum = .ofInt b.sum

namespace Represents

variable {n : Nat} {a : SimpleAverage Int32 n} {b : Touchpad.SimpleAverage n} {data : Int32}

theorem reset (h : Represents a b) : Represents a.reset b.reset where
  buffer := h.buffer
  count  := rfl
  index  := rfl
  sum    := rfl

theorem add (h : Represents a b) : Represents (a.add data) (b.add data.toInt) where
  buffer := by simp [SimpleAverage.add, Touchpad.SimpleAverage.add, History.filter, h.buffer, h.index]
  count  := by simp [SimpleAverage.add, Touchpad.SimpleAverage.add, History.filter, h.count]
  index  := by simp [SimpleAverage.add, Touchpad.SimpleAverage.add, History.filter, h.index]
  sum    := by
    simp only [SimpleAverage.add, Touchpad.SimpleAverage.add, Sample.toSum, id, h.count, h.sum, h.buffer, h.index]
    split
    all_goals simp [Vector.get]

-- As long as the sum fits, the gestures may ignore the types.
theorem filter (h : Represents a b) (hi : IsInt (b.filter data.toInt).1.sum) :
    (a.filter data).2.toInt = (b.filter data.toInt).2 := by
  have ha : Represents (a.add data) (b.add data.toInt) := h.add
  have hs : (a.add data).sum.toInt = (b.add data.toInt).sum := (congrArg Int32.toInt ha.sum).trans hi.toInt_ofInt
  change (Int32.ofInt ((a.add data).sum.toInt.tdiv (a.add data).count)).toInt = _
  rw [hs, ← ha.count]
  exact (hi.tdiv _).toInt_ofInt

end Represents

-- The sum of the values in the window, without any overflow.
def windowSum (n : Nat) (acts : List (FilterAct Int32)) : Int :=
  (((sinceReset acts).rtake n).map Int32.toInt).sum

section Exact

variable {n : Nat} {buffer : Vector Int32 n} {hn : 0 < n} {acts : List (FilterAct Int32)} {data : Int32}

theorem sum_exact (h : IsInt (windowSum n acts)) :
    ((simpleAverage Int32 n).state (.init buffer hn) acts).sum.toInt = windowSum n acts := by
  have hv : Slides ((simpleAverage Int32 n).state (.init buffer hn) acts).toHistory _ := simpleAverage_runs acts
  rw [windowSum, ← hv.values] at h ⊢
  exact (simpleAverage_sums acts).exact h

theorem average_exact (h : IsInt (windowSum n acts)) :
    let a := (simpleAverage Int32 n).state (.init buffer hn) acts
    a.average.toInt = (windowSum n acts).tdiv a.count := by
  intro a
  have hs : a.sum.toInt = windowSum n acts := sum_exact h
  unfold SimpleAverage.average
  split
  case isTrue hc => rw [hc, Int.natCast_zero, Int.tdiv_zero]; rfl
  case isFalse   => exact hs ▸ (h.tdiv a.count).toInt_ofInt

theorem filter_exact (h : IsInt (windowSum n (acts ++ [.filter data]))) :
    let a := (simpleAverage Int32 n).state (.init buffer hn) acts
    (a.filter data).2.toInt = (windowSum n (acts ++ [.filter data])).tdiv (a.filter data).1.count := by
  intro a
  have hs := @sum_exact n buffer hn _ h
  rw [Mealy.state_append] at hs
  exact hs ▸ (h.tdiv (a.add data).count).toInt_ofInt

end Exact

-- The average of a window is that of the values in it. Only the sum depends on the type of the values.
theorem simpleAverage_slides (n : Nat) (hn : 0 < n) :
    (∀ (T : Type) [Sample T] (buffer : Vector T n) (acts : List (FilterAct T)),
      let values := sinceReset acts
      let a := (simpleAverage T n).state (.init buffer hn) acts
      a.newest = values.getLastD (Sample.ofSum 0) ∧
      a.oldest = (values.rtake n).headD (Sample.ofSum 0) ∧
      a.count = min values.length n) ∧
    ∀ (buffer : Vector Int32 n) (acts : List (FilterAct Int32)),
      let a := (simpleAverage Int32 n).state (.init buffer hn) acts
      (IsInt (windowSum n acts) →
        a.sum.toInt = windowSum n acts ∧ a.average.toInt = (windowSum n acts).tdiv a.count) ∧
      ∀ data, IsInt (windowSum n (acts ++ [.filter data])) →
        (a.filter data).2.toInt = (windowSum n (acts ++ [.filter data])).tdiv (a.filter data).1.count := by
  constructor
  case left =>
    intro T _ buffer acts values a
    have h : Slides a.toHistory values := simpleAverage_runs acts
    exact ⟨h.newest hn, h.oldest, h.count⟩
  case right =>
    intro buffer acts a
    exact ⟨fun h => ⟨sum_exact h, average_exact h⟩, fun data h => filter_exact h⟩

-- The first value has left the window of two.
theorem simpleAverage_slides_two :
    let a := (simpleAverage Int32 2).state (.init #v[7, 7] (by decide)) [.filter 3, .filter (-4), .filter (-1)]
    (a.newest = -1 ∧ a.oldest = -4 ∧ a.count = 2) ∧ a.sum.toInt = -5 ∧ a.average.toInt = -2 := by
  have h := simpleAverage_slides 2 (by decide)
  exact ⟨h.left Int32 #v[7, 7] [.filter 3, .filter (-4), .filter (-1)],
    (h.right #v[7, 7] [.filter 3, .filter (-4), .filter (-1)]).left (by decide)⟩

end Decay
