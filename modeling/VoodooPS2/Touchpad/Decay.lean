import Mathlib.Data.List.Basic

namespace Touchpad

-- The buffer of a `SimpleAverage`, which keeps the last `n` values.
structure History (α : Type) (n : Nat) where
  buffer   : Vector α n
  count    : Nat := 0
  index    : Nat := 0
  count_le : count ≤ n
  index_lt : index < n

namespace History

variable {α : Type} {n : Nat}

def fill (value : α) (hn : 0 < n := by decide) : History α n where
  buffer   := .replicate n value
  count_le := Nat.zero_le n
  index_lt := hn

-- The values stay in the buffer.
def reset (h : History α n) : History α n where
  buffer   := h.buffer
  count_le := Nat.zero_le n
  index_lt := Nat.zero_lt_of_lt h.index_lt

-- The index moves to the next position, with wrap around, and the count moves until the buffer is full.
def filter (h : History α n) (data : α) : History α n where
  buffer   := h.buffer.set h.index data h.index_lt
  index    := if h.index + 1 < n then h.index + 1 else 0
  count    := if h.count < n then h.count + 1 else h.count
  count_le := by have := h.count_le; split <;> omega
  index_lt := by have := h.index_lt; split <;> omega

-- The oldest value is at index 0, unless the buffer is full, where it is the next one to be overwritten.
def oldest (h : History α n) (empty : α) : α :=
  if h.count = 0 then empty
  else if h.count < n then h.buffer.toList.getD 0 empty
  else h.buffer.toList.getD h.index empty

def newest (h : History α n) (empty : α) : α :=
  if h.count = 0 then empty
  else if h.index = 0 then h.buffer.toList.getD (h.count - 1) empty
  else h.buffer.toList.getD (h.index - 1) empty

end History

structure SimpleAverage (n : Nat) extends History Int n where
  sum : Int := 0

namespace SimpleAverage

variable {n : Nat}

def zero (hn : 0 < n := by decide) : SimpleAverage n where
  toHistory := .fill 0 hn

def reset (a : SimpleAverage n) : SimpleAverage n where
  toHistory := a.toHistory.reset

-- The value that is overwritten in a full buffer leaves the sum.
def add (a : SimpleAverage n) (data : Int) : SimpleAverage n where
  toHistory := a.toHistory.filter data
  sum       := if a.count = n then a.sum + data - a.buffer.get ⟨a.index, a.index_lt⟩ else a.sum + data

def average (a : SimpleAverage n) : Int :=
  a.sum.tdiv a.count

def filter (a : SimpleAverage n) (data : Int) : SimpleAverage n × Int :=
  (a.add data, (a.add data).average)

end SimpleAverage

-- An `UndecayAverage` for a decay by one half.
structure UndecayAverage where
  last      : Int  := 0
  lastvalid : Bool := false
  deriving DecidableEq

namespace UndecayAverage

def reset (a : UndecayAverage) : UndecayAverage :=
  { a with lastvalid := false }

def filter (a : UndecayAverage) (data : Int) : UndecayAverage × Int :=
  ({ last := data, lastvalid := true }, if a.lastvalid then data * 2 - a.last else data)

end UndecayAverage

end Touchpad
