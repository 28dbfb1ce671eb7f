import Mathlib.Logic.Function.Basic
import Mathlib.Data.List.Basic

-- The circular buffer `RingBuffer<T, N>`. The cells from `m_buffer` on are addressed by natural
-- numbers, of which only the first `N` belong to the buffer: its users write through a plain pointer
-- to the head cell, and nothing but their own bookkeeping keeps them below `N`.
structure RingBuffer (T : Type*) (N : Nat) where
  buffer : Nat → T
  head   : Nat
  tail   : Nat

namespace RingBuffer

variable {T : Type*} {N : Nat}

def countBetween (N head tail : Nat) : Nat :=
  if tail ≤ head then head - tail else N - tail + head

def count (r : RingBuffer T N) : Nat :=
  countBetween N r.head r.tail

def reset (r : RingBuffer T N) : RingBuffer T N :=
  { r with head := 0, tail := 0 }

-- The cell `head()[k]`.
def headCell (r : RingBuffer T N) (k : Nat) : T :=
  r.buffer (r.head + k)

-- The assignment `head()[k] = x`.
def setHeadCell (r : RingBuffer T N) (k : Nat) (x : T) : RingBuffer T N :=
  { r with buffer := Function.update r.buffer (r.head + k) x }

-- The cells from `head()[k]` on are set.
def setHeadCells (r : RingBuffer T N) : Nat → List T → RingBuffer T N
  | _, []      => r
  | k, x :: xs => (r.setHeadCell k x).setHeadCells (k + 1) xs

-- The `s` cells from address `a` on.
def cells (r : RingBuffer T N) (a s : Nat) : List T :=
  (List.range s).map fun k => r.buffer (a + k)

-- What a packet handler that gets the pointer `tail()` reads.
def tailPacket (r : RingBuffer T N) (s : Nat) : List T :=
  r.cells r.tail s

def advanceHead (r : RingBuffer T N) (move : Nat) : RingBuffer T N :=
  let newHead := if r.head + move ≥ N then r.head + move - N else r.head + move
  if countBetween N newHead r.tail ≥ r.count then { r with head := newHead } else r

def advanceTail (r : RingBuffer T N) (move : Nat) : RingBuffer T N :=
  { r with tail := if r.tail + move ≥ N then r.tail + move - N else r.tail + move }

variable {r : RingBuffer T N} {a k s : Nat} {x : T}

@[simp]
theorem setHeadCell_head : (r.setHeadCell k x).head = r.head :=
  rfl

@[simp]
theorem setHeadCell_tail : (r.setHeadCell k x).tail = r.tail :=
  rfl

@[simp]
theorem setHeadCell_count : (r.setHeadCell k x).count = r.count :=
  rfl

@[simp]
theorem headCell_setHeadCell : (r.setHeadCell k x).headCell k = x := by
  simp [headCell, setHeadCell]

theorem headCell_setHeadCell_ne {j : Nat} (h : j ≠ k) :
    (r.setHeadCell k x).headCell j = r.headCell j := by
  simp [headCell, setHeadCell, h]

@[simp]
theorem cells_length : (r.cells a s).length = s := by
  simp [cells]

theorem cells_succ : r.cells a (s + 1) = r.cells a s ++ [r.buffer (a + s)] := by
  simp [cells, List.range_succ]

@[simp]
theorem advanceHead_buffer {move : Nat} : (r.advanceHead move).buffer = r.buffer := by
  simp only [advanceHead, apply_ite RingBuffer.buffer, ite_self]

@[simp]
theorem cells_advanceHead {move : Nat} : (r.advanceHead move).cells a s = r.cells a s := by
  simp only [cells, advanceHead_buffer]

-- Writing a cell that the range does not contain leaves the range alone.
theorem cells_setHeadCell_of_disjoint (h : ∀ j < s, a + j ≠ r.head + k) :
    (r.setHeadCell k x).cells a s = r.cells a s := by
  simp only [cells, setHeadCell, List.map_inj_left, List.mem_range]
  intro j hj
  exact Function.update_of_ne (h j hj) _ _

-- Writing just behind a range at the head extends it.
theorem cells_setHeadCell_succ :
    (r.setHeadCell s x).cells r.head (s + 1) = r.cells r.head s ++ [x] := by
  have h : (r.setHeadCell s x).cells r.head s = r.cells r.head s :=
    cells_setHeadCell_of_disjoint fun j hj => by omega
  rw [cells_succ, h]
  simp [setHeadCell]

theorem cells_succ' : r.cells a (s + 1) = r.buffer a :: r.cells (a + 1) s := by
  simp [cells, List.range_succ_eq_map, Nat.add_right_comm, Nat.add_assoc]

theorem cells_drop : (r.cells a s).drop k = r.cells (a + k) (s - k) :=
  List.ext_getElem (by simp) fun i _ _ => by simp [cells, Nat.add_assoc]

@[simp]
theorem cells_getD {d : T} (h : k < s) : (r.cells a s).getD k d = r.buffer (a + k) := by
  simp [cells, h]

section SetHeadCells

variable {xs : List T}

@[simp]
theorem setHeadCells_head : (r.setHeadCells k xs).head = r.head := by
  induction xs generalizing r k
  case nil         => rfl
  case cons _ _ hi => exact hi

@[simp]
theorem setHeadCells_count : (r.setHeadCells k xs).count = r.count := by
  induction xs generalizing r k
  case nil         => rfl
  case cons _ _ hi => exact hi

-- The cells in front of those that are set keep their contents.
theorem buffer_setHeadCells {j : Nat} (h : j < k) :
    (r.setHeadCells k xs).buffer (r.head + j) = r.headCell j := by
  induction xs generalizing r k
  case nil         => rfl
  case cons _ _ hi => exact (hi (Nat.lt_succ_of_lt h)).trans (headCell_setHeadCell_ne (Nat.ne_of_lt h))

-- Nothing but the cells that are set changes.
theorem buffer_setHeadCells_of_outside (h : a < r.head + k ∨ r.head + k + xs.length ≤ a) :
    (r.setHeadCells k xs).buffer a = r.buffer a := by
  induction xs generalizing r k
  case nil          => rfl
  case cons x xs hi =>
    have ha : (r.setHeadCell k x).buffer a = r.buffer a :=
      Function.update_of_ne (by simp at h; omega) _ _
    refine (hi ?_).trans ha
    simp at h ⊢
    omega

theorem cells_setHeadCells : (r.setHeadCells k xs).cells (r.head + k) xs.length = xs := by
  induction xs generalizing r k
  case nil          => rfl
  case cons x xs hi =>
    have hx : ((r.setHeadCell k x).setHeadCells (k + 1) xs).buffer (r.head + k) = x :=
      (buffer_setHeadCells k.lt_succ_self).trans headCell_setHeadCell
    rw [setHeadCells, List.length_cons, cells_succ', hx]
    exact congrArg (x :: ·) hi

end SetHeadCells

end RingBuffer
