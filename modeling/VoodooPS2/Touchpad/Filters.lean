import VoodooPS2.Machine.Mealy
import VoodooPS2.Touchpad.Decay

-- The filters with the arithmetic of their types, which the gestures use as if numbers were unbounded.
namespace Decay

open Touchpad

-- How values are added to a sum, which is an `int` whatever type they have, and how it is returned.
class Sample (T : Type) where
  toSum : T → Int32
  ofSum : Int32 → T

instance : Sample Int32 where
  toSum := id
  ofSum := id

instance : Sample UInt64 where
  toSum data := data.toUInt32.toInt32
  ofSum sum  := sum.toInt64.toUInt64

structure SimpleAverage (T : Type) (n : Nat) extends History T n where
  sum : Int32 := 0

namespace SimpleAverage

variable {T : Type} [Sample T] {n : Nat} (a : SimpleAverage T n)

-- The values in the buffer are those that are in the memory.
def init (buffer : Vector T n) (hn : 0 < n) : SimpleAverage T n where
  buffer   := buffer
  count_le := Nat.zero_le n
  index_lt := hn

def reset : SimpleAverage T n where
  toHistory := a.toHistory.reset

def newest : T :=
  a.toHistory.newest (Sample.ofSum 0)

def oldest : T :=
  a.toHistory.oldest (Sample.ofSum 0)

def average : T :=
  if a.count = 0 then Sample.ofSum 0 else Sample.ofSum (.ofInt (a.sum.toInt.tdiv a.count))

-- If the buffer is full, an old value is overwritten, so it is subtracted.
def add (data : T) : SimpleAverage T n where
  toHistory := a.toHistory.filter data
  sum       :=
    let sum := a.sum + Sample.toSum data
    if a.count = n then sum - Sample.toSum (a.buffer.get ⟨a.index, a.index_lt⟩) else sum

def filter (data : T) : SimpleAverage T n × T :=
  let a := a.add data
  (a, Sample.ofSum (.ofInt (a.sum.toInt.tdiv a.count)))

end SimpleAverage

-- The parameters `T` and `TT` are the types that are used.
structure DecayingAverage where
  last      : Int32
  lastvalid : Bool := false

namespace DecayingAverage

variable (n₁ n₂ d : Int64) (a : DecayingAverage)

def reset : DecayingAverage :=
  { a with lastvalid := false }

-- What is computed with the wider type.
def result (data : Int32) : Int64 :=
  if a.lastvalid then (data.toInt64 * n₁) / d + (a.last.toInt64 * n₂) / d else data.toInt64

def filter (data : Int32) : DecayingAverage × Int32 :=
  let result := (a.result n₁ n₂ d data).toInt32
  ({ last := result, lastvalid := true }, result)

end DecayingAverage

structure UndecayAverage where
  last      : Int32
  lastvalid : Bool := false

namespace UndecayAverage

variable (n₁ n₂ d : Int64) (a : UndecayAverage)

def reset : UndecayAverage :=
  { a with lastvalid := false }

def result (data : Int32) : Int64 :=
  if a.lastvalid then (data.toInt64 * d) / n₁ - (a.last.toInt64 * n₂) / n₁ else data.toInt64

def filter (data : Int32) : UndecayAverage × Int32 :=
  ({ last := data, lastvalid := true }, (a.result n₁ n₂ d data).toInt32)

end UndecayAverage

inductive FilterAct (T : Type)
  | filter (data : T)
  | reset

-- The values that have been filtered since the last reset.
def sinceReset {T : Type} (acts : List (FilterAct T)) : List T :=
  acts.foldl (fun values act =>
    match act with
    | .filter data => values ++ [data]
    | .reset       => []) []

-- What is observed is what `filter` returns.
def simpleAverage (T : Type) [Sample T] (n : Nat) : Mealy (SimpleAverage T n) (FilterAct T) T where
  step
    | a, .filter data =>
      let r := a.filter data
      (r.1, [r.2])
    | a, .reset       => (a.reset, [])

-- The trackpad smooths what it sends, and the driver undoes it.
def unsmoothing (n₁ n₂ d : Int64) : Mealy (DecayingAverage × UndecayAverage) (FilterAct Int32) Int32 where
  step
    | s, .filter data =>
      let r := s.1.filter n₁ n₂ d data
      let t := s.2.filter n₁ n₂ d r.2
      ((r.1, t.1), [t.2])
    | s, .reset       => ((s.1.reset, s.2.reset), [])

end Decay
