import VoodooPS2.Controller.Port

namespace Controller

open Scripted

def Access.taken? : Access → Option (PS2DeviceType × UInt8)
  | take deviceType byte => some (deviceType, byte)
  | _                    => none

def Access.dispatched? : Access → Option (PS2DeviceType × UInt8)
  | dispatchDriverInterrupt deviceType data => some (deviceType, data)
  | _                                       => none

-- The bytes that were taken from the data port, and those that were passed to the drivers.
def taken (log : List Access) : List (PS2DeviceType × UInt8) :=
  log.filterMap Access.taken?

def dispatched (log : List Access) : List (PS2DeviceType × UInt8) :=
  log.filterMap Access.dispatched?

def ofStream (deviceType : PS2DeviceType) (l : List (PS2DeviceType × UInt8)) : List UInt8 :=
  l.filterMap fun p => if p.1 = deviceType then some p.2 else none

section Logs

variable {l₁ l₂ : List Access} {d d' : PS2DeviceType} {b status : UInt8}

@[simp]
theorem taken_nil : taken [] = [] :=
  rfl

@[simp]
theorem taken_append : taken (l₁ ++ l₂) = taken l₁ ++ taken l₂ :=
  List.filterMap_append

@[simp]
theorem taken_poll : taken (.poll status :: l₁) = taken l₁ :=
  rfl

@[simp]
theorem taken_take : taken (.take d b :: l₁) = (d, b) :: taken l₁ :=
  rfl

@[simp]
theorem taken_outb {port : Port} : taken (.outb port b :: l₁) = taken l₁ :=
  rfl

@[simp]
theorem taken_dispatch : taken (.dispatchDriverInterrupt d b :: l₁) = taken l₁ :=
  rfl

@[simp]
theorem dispatched_nil : dispatched [] = [] :=
  rfl

@[simp]
theorem dispatched_append : dispatched (l₁ ++ l₂) = dispatched l₁ ++ dispatched l₂ :=
  List.filterMap_append

@[simp]
theorem dispatched_poll : dispatched (.poll status :: l₁) = dispatched l₁ :=
  rfl

@[simp]
theorem dispatched_take : dispatched (.take d b :: l₁) = dispatched l₁ :=
  rfl

@[simp]
theorem dispatched_dispatch :
    dispatched (.dispatchDriverInterrupt d b :: l₁) = (d, b) :: dispatched l₁ :=
  rfl

@[simp]
theorem ofStream_nil : ofStream d [] = [] :=
  rfl

@[simp]
theorem ofStream_append {l₁ l₂ : List (PS2DeviceType × UInt8)} :
    ofStream d (l₁ ++ l₂) = ofStream d l₁ ++ ofStream d l₂ :=
  List.filterMap_append

@[simp]
theorem ofStream_cons_self {l : List (PS2DeviceType × UInt8)} :
    ofStream d ((d, b) :: l) = b :: ofStream d l := by
  simp [ofStream]

theorem ofStream_cons_ne {l : List (PS2DeviceType × UInt8)} (h : d' ≠ d) :
    ofStream d ((d', b) :: l) = ofStream d l := by
  simp [ofStream, h]

end Logs

-- The bytes that a reader gets to see before it has found the output buffer empty for
-- `timeoutCounter` times.
def offers : Nat → List UInt8 → List (PS2DeviceType × UInt8)
  | timeoutCounter + 1, status :: is =>
    if status &&& kOutputReady ≠ 0 then
      match is with
      | []         => []
      | byte :: is => (stream status, byte) :: offers (timeoutCounter + 1) is
    else
      offers timeoutCounter is
  | _, _ => []

section Waiting

variable {is : List UInt8}

theorem offers_ready {n : Nat} {status byte : UInt8} (h : status &&& kOutputReady ≠ 0) :
    offers (n + 1) (status :: byte :: is) = (stream status, byte) :: offers (n + 1) is := by
  rw [offers, if_pos h]

theorem offers_notReady {n : Nat} {status : UInt8} (h : ¬status &&& kOutputReady ≠ 0) :
    offers (n + 1) (status :: is) = offers n is := by
  cases is
  all_goals rw [offers, if_neg h]

theorem inbCommandPort_eq_some {o : Outcome UInt8 Access UInt8} (h : inbCommandPort is = some o) :
    ∃ status is', is = status :: is' ∧ o = ⟨status, is', [.poll status]⟩ := by
  cases is
  case nil              => cases h
  case cons status is'  =>
    cases h
    exact ⟨status, is', rfl, rfl⟩

theorem inbDataPort_eq_some {status : UInt8} {o : Outcome UInt8 Access UInt8}
    (h : inbDataPort status is = some o) :
    ∃ byte is', is = byte :: is' ∧ o = ⟨byte, is', [.take (stream status) byte]⟩ := by
  cases is
  case nil            => cases h
  case cons byte is'  =>
    cases h
    exact ⟨byte, is', rfl, rfl⟩

-- The wait for the output buffer takes no byte, and ends where the next byte is offered.
structure Waited (n : Nat) (is : List UInt8) (o : Outcome UInt8 Access (Option UInt8 × Nat)) : Prop where
  rest       : o.rest.length ≤ is.length
  taken      : taken o.log = []
  dispatched : dispatched o.log = []
  timedOut   : o.val.1 = none → offers n is = []
  offered    : ∀ status byte rest, o.val.1 = some status → o.rest = byte :: rest →
    offers n is = (stream status, byte) :: offers o.val.2 rest

theorem waitOutput_waited {n : Nat} {o : Outcome UInt8 Access (Option UInt8 × Nat)}
    (h : waitOutput n is = some o) : Waited n is o := by
  induction n generalizing is o
  case zero =>
    obtain rfl := pure_eq_some.mp h
    exact ⟨le_rfl, rfl, rfl, fun _ => by simp [offers], nofun⟩
  case succ n hi =>
    have ⟨o₁, o₂, h₁, h₂, ho⟩ := bind_eq_some.mp h
    obtain ⟨status, is', rfl, rfl⟩ := inbCommandPort_eq_some h₁
    by_cases hs : status &&& kOutputReady ≠ 0
    case pos =>
      rw [if_pos hs] at h₂
      obtain rfl := pure_eq_some.mp h₂
      subst ho
      refine ⟨Nat.le_succ _, rfl, rfl, nofun, ?_⟩
      rintro _ byte rest ⟨⟩ ⟨⟩
      exact offers_ready hs
    case neg =>
      rw [if_neg hs] at h₂
      have ⟨hr, ht, hd, hn, ho'⟩ := hi h₂
      subst ho
      rw [← offers_notReady hs] at hn ho'
      exact ⟨Nat.le_succ_of_le hr, by simpa using ht, by simpa using hd, hn, ho'⟩

-- If the output buffer stays empty, the wait ends with nothing.
theorem waitOutput_silent (n : Nat) :
    waitOutput n (List.replicate n 0 ++ is) = some ⟨(none, 0), is, List.replicate n (.poll 0)⟩ := by
  induction n
  case zero      => rfl
  case succ n hi =>
    refine bind_eq_some.mpr ⟨⟨0, List.replicate n 0 ++ is, [.poll 0]⟩,
      ⟨(none, 0), is, List.replicate n (.poll 0)⟩, rfl, ?_, rfl⟩
    exact if_neg (show ¬(0 : UInt8) &&& kOutputReady ≠ 0 by decide) ▸ hi

end Waiting

end Controller
