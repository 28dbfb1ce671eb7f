import Mathlib.Algebra.Order.Ring.Abs
import VoodooPS2.Touchpad.Protocol
import VoodooPS2.Touchpad.Theorems.Bitmap
import VoodooPS2.Touchpad.Theorems.Span

namespace Touchpad

section Closest

variable {α : Type*} {d : α → Int} {l : List α} {best : Int × Int} {k : Nat}

-- One step of the search for the element that is closest.
def closer (d : α → Int) (best : Int × Int) (c : α × Nat) : Int × Int :=
  if d c.1 < best.2 then (c.2, d c.1) else best

-- The search ends with the first one of the closest elements, unless none of them is closer than what it
-- has started with.
theorem foldl_closer : (∀ a ∈ l, best.2 ≤ d a) ∧ (l.zipIdx k).foldl (closer d) best = best ∨
    ∃ pre c post, l = pre ++ c :: post ∧ (∀ a ∈ pre, d c < d a) ∧ (∀ a ∈ post, d c ≤ d a) ∧ d c < best.2 ∧
      (l.zipIdx k).foldl (closer d) best = (((k + pre.length : Nat) : Int), d c) := by
  induction l generalizing best k
  case nil => exact .inl ⟨by simp, rfl⟩
  case cons c cs hi =>
    rw [List.zipIdx_cons, List.foldl_cons]
    by_cases hc : d c < best.2
    case pos =>
      have hb : closer d best (c, k) = ((k : Int), d c) := if_pos hc
      rw [hb]
      rcases @hi ((k : Int), d c) (k + 1) with ⟨hle, hf⟩ | ⟨pre, a, post, hl, hpre, hpost, hlt, hf⟩
      · exact .inr ⟨[], c, cs, rfl, by simp, hle, hc, hf⟩
      · refine .inr ⟨c :: pre, a, post, by rw [hl]; rfl, ?_, hpost, lt_trans hlt hc, ?_⟩
        · exact List.forall_mem_cons.mpr ⟨hlt, hpre⟩
        · rw [hf, List.length_cons, Nat.add_right_comm, Nat.add_assoc]
    case neg =>
      have hb : closer d best (c, k) = best := if_neg hc
      rw [hb]
      rcases @hi best (k + 1) with ⟨hle, hf⟩ | ⟨pre, a, post, hl, hpre, hpost, hlt, hf⟩
      · exact .inl ⟨List.forall_mem_cons.mpr ⟨not_lt.mp hc, hle⟩, hf⟩
      · refine .inr ⟨c :: pre, a, post, by rw [hl]; rfl, ?_, hpost, hlt, ?_⟩
        · exact List.forall_mem_cons.mpr ⟨lt_of_lt_of_le hlt (not_lt.mp hc), hpre⟩
        · rw [hf, List.length_cons, Nat.add_right_comm, Nat.add_assoc]

end Closest

inductive Corner
  | topLeft
  | topRight
  | bottomRight
  | bottomLeft
  deriving DecidableEq

def Corner.index : Corner → Nat
  | topLeft     => 0
  | topRight    => 1
  | bottomRight => 2
  | bottomLeft  => 3

def Corner.all : List Corner :=
  [topLeft, topRight, bottomRight, bottomLeft]

theorem Corner.mem_all (c : Corner) : c ∈ all := by
  cases c <;> simp [all]

-- The corners are numbered in their order.
theorem Corner.index_eq {pre post : List Corner} {c : Corner} (h : all = pre ++ c :: post) :
    c.index = pre.length ∧ ∀ c' ∈ post, c.index < c'.index := by
  have hp : all.Pairwise fun a b => a.index < b.index := by decide
  have hi : all.map index = List.range 4 := rfl
  rw [h] at hp hi
  constructor
  case left =>
    have he : some c.index = (List.range 4)[pre.length]? := by
      rw [← hi]
      simp
    have ⟨_, he⟩ := List.getElem?_eq_some_iff.mp he.symm
    rw [← he, List.getElem_range]
  case right => exact (List.pairwise_cons.mp (List.pairwise_append.mp hp).right.left).left

def Corner.opposite : Corner → Corner
  | topLeft     => bottomRight
  | topRight    => bottomLeft
  | bottomRight => topLeft
  | bottomLeft  => topRight

-- The bounding box of the contacts.
structure Box where
  left   : UInt32
  right  : UInt32
  top    : UInt32
  bottom : UInt32

namespace Box

def corner (box : Box) : Corner → InputMtPos
  | .topLeft     => ⟨box.left, box.top⟩
  | .topRight    => ⟨box.right, box.top⟩
  | .bottomRight => ⟨box.right, box.bottom⟩
  | .bottomLeft  => ⟨box.left, box.bottom⟩

def corners (box : Box) : List InputMtPos :=
  Corner.all.map box.corner

-- A box that is on the pad.
structure OnPad (dev : AlpsDevice) (box : Box) : Prop where
  left   : (box.left.toNat : Int) ≤ dev.xMax
  right  : (box.right.toNat : Int) ≤ dev.xMax
  top    : (box.top.toNat : Int) ≤ dev.yMax
  bottom : (box.bottom.toNat : Int) ≤ dev.yMax

end Box

def squaredDistance (st pos : InputMtPos) : Int :=
  ((st.x.toNat : Int) - pos.x.toNat) ^ 2 + ((st.y.toNat : Int) - pos.y.toNat) ^ 2

-- The first one of the corners that are closest to a touch.
structure Box.Nearest (box : Box) (st : InputMtPos) (c : Corner) : Prop where
  le : ∀ c', squaredDistance st (box.corner c) ≤ squaredDistance st (box.corner c')
  lt : ∀ c', c'.index < c.index → squaredDistance st (box.corner c) < squaredDistance st (box.corner c')

variable {dev : AlpsDevice} {box : Box} {st pos : InputMtPos} {c : Corner} {secondTouch : Int} {f : AlpsFields}

theorem toInt_sub {a b : UInt32} (ha : a.toNat < 4096) (hb : b.toNat < 4096) :
    toInt (a - b) = (a.toNat : Int) - b.toNat := by
  have h : toInt (a - b) = (toInt a - toInt b).bmod (2 ^ 32) := Int32.toInt_sub a.toInt32 b.toInt32
  rw [h, toInt_eq (by omega), toInt_eq (by omega)]
  exact Int.bmod_eq_of_le_mul_two (by omega) (by omega)

-- The coordinates are small enough that nothing overflows.
theorem distance_eq (hx : st.x.toNat < 4096) (hy : st.y.toNat < 4096) (hx' : pos.x.toNat < 4096)
    (hy' : pos.y.toNat < 4096) : distance st pos = squaredDistance st pos := by
  simp only [distance, squaredDistance, toInt_sub hx hx', toInt_sub hy hy', sq]

theorem toNat_ofInt32 {n : Int} (h : 0 ≤ n) (hn : n < 4096) : ((UInt32.ofInt n).toNat : Int) = n := by
  rw [UInt32.ofInt, UInt32.toNat_ofNat']
  omega

-- A position along an axis is on the pad.
theorem electrodePos_le {axisMax axisBits : Int} {start len : Nat} (hb : 2 ≤ axisBits) (hm : 0 ≤ axisMax)
    (hm' : axisMax < 4096) (hp : 0 < len) (hl : (start + len : Int) ≤ axisBits) :
    ∃ pos, electrodePos axisMax axisBits ⟨start, len⟩ = some pos ∧ (pos.toNat : Int) ≤ axisMax := by
  have hd : ¬2 * (axisBits - 1) = 0 := by omega
  have hn : 0 ≤ axisMax * (2 * start + len - 1) := Int.mul_nonneg hm (by omega)
  have hq : (axisMax * (2 * start + len - 1)).tdiv (2 * (axisBits - 1)) ≤ axisMax := by
    rw [Int.tdiv_eq_ediv_of_nonneg hn]
    exact Int.ediv_le_of_le_mul (by omega) (Int.mul_le_mul_of_nonneg_left (by omega) hm)
  have hq₀ : 0 ≤ (axisMax * (2 * start + len - 1)).tdiv (2 * (axisBits - 1)) :=
    Int.tdiv_nonneg hn (by omega)
  refine ⟨_, by rw [electrodePos, quotient, if_neg hd]; rfl, ?_⟩
  rw [toNat_ofInt32 hq₀ (by omega)]
  exact hq

-- What is reversed on some touchpads stays on the pad.
theorem ofInt_sub_le {n : Int} {a : UInt32} (h : (a.toNat : Int) ≤ n) (hn : n < 4096) :
    ((UInt32.ofInt n - a).toNat : Int) ≤ n := by
  have hi := toNat_ofInt32 (by omega : 0 ≤ n) hn
  rw [UInt32.toNat_sub_of_le _ _ (UInt32.le_iff_toNat_le.mpr (by omega))]
  omega

theorem reverseCorner_x_le {a b : UInt32} (h : (a.toNat : Int) ≤ dev.xMax) (hn : dev.xMax < 4096) :
    ((reverseCorner dev ⟨a, b⟩).x.toNat : Int) ≤ dev.xMax := by
  simp only [reverseCorner]
  split
  case isTrue  => exact ofInt_sub_le h hn
  case isFalse => exact h

theorem reverseCorner_y_le {a b : UInt32} (h : (b.toNat : Int) ≤ dev.yMax) (hn : dev.yMax < 4096) :
    ((reverseCorner dev ⟨a, b⟩).y.toNat : Int) ≤ dev.yMax := by
  simp only [reverseCorner]
  split
  case isTrue  => exact ofInt_sub_le h hn
  case isFalse => exact h

-- The values that the drivers of the touchpads use.
structure InRange (dev : AlpsDevice) (secondTouch : Int) (f : AlpsFields) : Prop where
  xBits       : 2 ≤ dev.xBits ∧ dev.xBits ≤ 30
  yBits       : 2 ≤ dev.yBits ∧ dev.yBits ≤ 30
  xMax        : 0 ≤ dev.xMax ∧ dev.xMax ≤ 4095
  yMax        : 0 ≤ dev.yMax ∧ dev.yMax ≤ 4095
  xMap        : f.xMap ≠ 0 ∧ f.xMap.toNat < 2 ^ dev.xBits.toNat
  yMap        : f.yMap ≠ 0 ∧ f.yMap.toNat < 2 ^ dev.yBits.toNat
  st          : f.st.x.toNat < 4096 ∧ f.st.y.toNat < 4096
  secondTouch : -1 ≤ secondTouch ∧ secondTouch ≤ 3

theorem IsRun.le {n start len : Nat} {axisBits : Int} (r : IsRun n.testBit start len)
    (h : n < 2 ^ axisBits.toNat) (hb : 2 ≤ axisBits) : (start + len : Int) ≤ axisBits := by
  by_contra hn
  have hs := r.set (start + len - 1) (by have := r.pos; omega) (by have := r.pos; omega)
  have hlt : 2 ^ axisBits.toNat ≤ 2 ^ (start + len - 1) := Nat.pow_le_pow_right (by omega) (by omega)
  simp [Nat.testBit_lt_two_pow (lt_of_lt_of_le h hlt)] at hs

-- The corners that are computed are those of a box on the pad.
theorem InRange.corners (h : InRange dev secondTouch f) : ∃ box : Box, box.OnPad dev ∧
    corners dev (alpsGetBitmapPoints f.xMap).divide (alpsGetBitmapPoints f.yMap).divide = some box.corners := by
  have ⟨l, n, r, m, cx⟩ := alpsGetBitmapPoints_covers h.xMap.left
  have ⟨t, k, b, j, cy⟩ := alpsGetBitmapPoints_covers h.yMap.left
  have ⟨hxb, _⟩ := h.xBits
  have ⟨hyb, _⟩ := h.yBits
  have ⟨hx₀, hx⟩ := h.xMax
  have ⟨hy₀, hy⟩ := h.yMax
  have ⟨xLow, hxl, hxl'⟩ := electrodePos_le hxb hx₀ (by omega) cx.low.pos (cx.low.le h.xMap.right hxb)
  have ⟨xHigh, hxh, hxh'⟩ := electrodePos_le hxb hx₀ (by omega) cx.high.pos (cx.high.le h.xMap.right hxb)
  have ⟨yLow, hyl, hyl'⟩ := electrodePos_le hyb hy₀ (by omega) cy.low.pos (cy.low.le h.yMap.right hyb)
  have ⟨yHigh, hyh, hyh'⟩ := electrodePos_le hyb hy₀ (by omega) cy.high.pos (cy.high.le h.yMap.right hyb)
  refine ⟨⟨(reverseCorner dev ⟨xLow, yLow⟩).x, (reverseCorner dev ⟨xHigh, yHigh⟩).x,
    (reverseCorner dev ⟨xLow, yLow⟩).y, (reverseCorner dev ⟨xHigh, yHigh⟩).y⟩,
    ⟨reverseCorner_x_le hxl' (by omega), reverseCorner_x_le hxh' (by omega),
      reverseCorner_y_le hyl' (by omega), reverseCorner_y_le hyh' (by omega)⟩, ?_⟩
  simp only [cx.eq, cy.eq, Touchpad.corners, hxl, hxh, hyl, hyh]
  rfl

namespace Box

theorem OnPad.distance_eq (hb : box.OnPad dev) (h : InRange dev secondTouch f) (c : Corner) :
    distance f.st (box.corner c) = squaredDistance f.st (box.corner c) := by
  have ⟨_, hx⟩ := h.xMax
  have ⟨_, hy⟩ := h.yMax
  have ⟨_, _, _, _⟩ := hb
  cases c <;> exact Touchpad.distance_eq h.st.left h.st.right (by simp [corner]; omega) (by simp [corner]; omega)

-- Every corner is close enough to be found.
theorem OnPad.distance_lt (hb : box.OnPad dev) (h : InRange dev secondTouch f) (c : Corner) :
    distance f.st (box.corner c) < 0x7fffffff := by
  rw [hb.distance_eq h]
  have hsq : ∀ {a b : Nat}, a < 4096 → b < 4096 → ((a : Int) - b) ^ 2 ≤ 4095 ^ 2 := fun ha hb =>
    sq_le_sq' (by omega) (by omega)
  have ⟨_, hx⟩ := h.xMax
  have ⟨_, hy⟩ := h.yMax
  have ⟨_, _, _, _⟩ := hb
  have hdx : ((f.st.x.toNat : Int) - (box.corner c).x.toNat) ^ 2 ≤ 4095 ^ 2 :=
    hsq h.st.left (by cases c <;> simp [corner] <;> omega)
  have hdy : ((f.st.y.toNat : Int) - (box.corner c).y.toNat) ^ 2 ≤ 4095 ^ 2 :=
    hsq h.st.right (by cases c <;> simp [corner] <;> omega)
  unfold squaredDistance
  omega

theorem OnPad.closestCorner_eq (hb : box.OnPad dev) (h : InRange dev secondTouch f) :
    ∃ c, box.Nearest f.st c ∧ (closestCorner f.st box.corners).1 = c.index := by
  have hf : closestCorner f.st box.corners =
      (box.corners.zipIdx 0).foldl (closer (distance f.st)) (-1, 0x7fffffff) := rfl
  have hd := hb.distance_eq h
  have hf := @foldl_closer _ (distance f.st) box.corners (-1, 0x7fffffff) 0
  rcases hf with ⟨hle, _⟩ | ⟨_, _, _, hl, hpre, hpost, _, he⟩
  · have := hle _ (List.mem_map_of_mem (Corner.mem_all .topLeft))
    have := hb.distance_lt h .topLeft
    omega
  · obtain ⟨pre, rest, ha, rfl, hr⟩ := List.map_eq_append_iff.mp hl
    obtain ⟨c, post, rfl, rfl, rfl⟩ := List.map_eq_cons_iff.mp hr
    have ⟨hi, hlt⟩ := Corner.index_eq ha
    have hpre : ∀ c' ∈ pre, squaredDistance f.st (box.corner c) < squaredDistance f.st (box.corner c') :=
      fun c' hc => hd c ▸ hd c' ▸ hpre _ (List.mem_map_of_mem hc)
    have hpost : ∀ c' ∈ post, squaredDistance f.st (box.corner c) ≤ squaredDistance f.st (box.corner c') :=
      fun c' hc => hd c ▸ hd c' ▸ hpost _ (List.mem_map_of_mem hc)
    have hm : ∀ c', c' ∈ pre ∨ c' = c ∨ c' ∈ post := fun c' => by
      simpa [ha] using Corner.mem_all c'
    refine ⟨c, ⟨fun c' => ?_, fun c' hc => ?_⟩, by rw [hf, he]; simp [hi]⟩
    · rcases hm c' with hc | rfl | hc
      · exact le_of_lt (hpre c' hc)
      · exact le_rfl
      · exact hpost c' hc
    · rcases hm c' with hm | rfl | hm
      · exact hpre c' hm
      · exact absurd hc (lt_irrefl _)
      · exact absurd (hlt c' hm) (by omega)

theorem getD_index (box : Box) (c : Corner) : box.corners.getD c.index {} = box.corner c := by
  cases c <;> rfl

theorem OnPad.corner_le (hb : box.OnPad dev) (c : Corner) :
    ((box.corner c).x.toNat : Int) ≤ dev.xMax ∧ ((box.corner c).y.toNat : Int) ≤ dev.yMax := by
  have ⟨_, _, _, _⟩ := hb
  cases c <;> constructor <;> assumption

end Box

theorem Corner.exists_index (h : -1 ≤ secondTouch) (h' : secondTouch ≤ 3) (hn : secondTouch ≠ -1) :
    ∃ c : Corner, secondTouch = c.index := by
  have : secondTouch = 0 ∨ secondTouch = 1 ∨ secondTouch = 2 ∨ secondTouch = 3 := by omega
  rcases this with rfl | rfl | rfl | rfl
  · exact ⟨topLeft, rfl⟩
  · exact ⟨topRight, rfl⟩
  · exact ⟨bottomRight, rfl⟩
  · exact ⟨bottomLeft, rfl⟩

theorem Corner.opposite_index (c : Corner) : ((c.index : Int) + 2).tmod 4 = c.opposite.index := by
  cases c <;> rfl

-- The second touch is at a corner of the bounding box of the contacts. When it is chosen that is the one
-- opposite to the corner that is the first to be closest to the first touch, later it is kept.
structure Placed (box : Box) (secondTouch : Int) (f : AlpsFields) (b : ProcessedBitmap) : Prop where
  fingers : 0 < b.fingers
  mt₀     : b.fields.mt₀ = f.st
  corner  : ∃ c, b.fields.mt₁ = box.corner c ∧ b.secondTouch = c.index
  chosen  : secondTouch = -1 → ∃ c, box.Nearest f.st c ∧ b.fields.mt₁ = box.corner c.opposite ∧
    b.secondTouch = c.opposite.index
  kept    : secondTouch ≠ -1 → b.secondTouch = secondTouch

theorem alpsProcessBitmap_eq (hf : f.HasBitmaps)
    (hc : corners dev (alpsGetBitmapPoints f.xMap).divide (alpsGetBitmapPoints f.yMap).divide = some box.corners)
    (hi : (if secondTouch = -1 then ((closestCorner f.st box.corners).1 + 2).tmod 4 else secondTouch) = c.index) :
    alpsProcessBitmap dev secondTouch f = some {
      fingers     := max (alpsGetBitmapPoints f.xMap).fingers (alpsGetBitmapPoints f.yMap).fingers
      fields      := { f with mt₀ := f.st, mt₁ := box.corner c }
      secondTouch := c.index } := by
  have hn : ¬(f.xMap = 0 ∨ f.yMap = 0) := not_or.mpr hf
  have hm : box.corners.getD (c.index : Int).toNat {} = box.corner c := box.getD_index c
  simp only [alpsProcessBitmap, if_neg hn, hc, Option.map_some, hi, hm]

-- Whatever the touchpad and the contacts are, the second touch is on the pad.
theorem alpsProcessBitmap_placed (dev : AlpsDevice) (secondTouch : Int) (f : AlpsFields)
    (h : InRange dev secondTouch f) : ∃ box b,
      corners dev (alpsGetBitmapPoints f.xMap).divide (alpsGetBitmapPoints f.yMap).divide =
        some (Box.corners box) ∧
      alpsProcessBitmap dev secondTouch f = some b ∧ Placed box secondTouch f b ∧
      (b.fields.mt₁.x.toNat : Int) ≤ dev.xMax ∧ (b.fields.mt₁.y.toNat : Int) ≤ dev.yMax := by
  have ⟨box, hb, hc⟩ := h.corners
  have hf : f.HasBitmaps := ⟨h.xMap.left, h.yMap.left⟩
  have hp := lt_of_lt_of_le (alpsGetBitmapPoints_fingers_pos h.xMap.left)
    (le_max_left _ (alpsGetBitmapPoints f.yMap).fingers)
  by_cases hs : secondTouch = -1
  case pos =>
    have ⟨c, hn, hi⟩ := hb.closestCorner_eq h
    have he := alpsProcessBitmap_eq (c := c.opposite) hf hc (by rw [if_pos hs, hi, c.opposite_index])
    exact ⟨box, _, hc, he, ⟨hp, rfl, ⟨_, rfl, rfl⟩, fun _ => ⟨c, hn, rfl, rfl⟩, absurd hs⟩, hb.corner_le _⟩
  case neg =>
    have ⟨c, hi⟩ := Corner.exists_index h.secondTouch.left h.secondTouch.right hs
    have he := alpsProcessBitmap_eq (c := c) hf hc (by rw [if_neg hs, hi])
    exact ⟨box, _, hc, he, ⟨hp, rfl, ⟨_, rfl, rfl⟩, (absurd · hs), fun _ => hi.symm⟩, hb.corner_le _⟩

-- Two fingers on a Pinnacle touchpad, of which the first one is at the lower right.
theorem alpsProcessBitmap_placed_pinnacle :
    ∃ b, alpsProcessBitmap (setProtocol .v3 0 true 0) (-1)
        { xMap := 0x3030, yMap := 0x18c, st := ⟨1800, 1000⟩ } = some b ∧
      (b.fields.mt₁.x.toNat : Int) ≤ 2000 :=
  have ⟨_, b, _, he, _, hx, _⟩ := alpsProcessBitmap_placed (setProtocol .v3 0 true 0) (-1)
    { xMap := 0x3030, yMap := 0x18c, st := ⟨1800, 1000⟩ }
    { xBits := by decide, yBits := by decide, xMax := by decide, yMax := by decide, xMap := by decide,
      yMap := by decide, st := by decide, secondTouch := by decide }
  ⟨b, he, hx⟩

end Touchpad
