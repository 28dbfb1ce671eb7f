import VoodooPS2.Touchpad.Theorems.Framer

namespace Touchpad

-- The packet of which `l` are the first bytes.
def packetOf (l : List UInt8) (k : Nat) : UInt8 :=
  l.getD k 0

theorem packetOf_append {l₁ l₂ : List UInt8} {k : Nat} (h : k < l₁.length) :
    packetOf (l₁ ++ l₂) k = packetOf l₁ k := by
  simp [packetOf, List.getElem?_append_left h]

theorem packetOf_concat_length {l : List UInt8} {data : UInt8} :
    packetOf (l ++ [data]) l.length = data := by
  simp [packetOf]

-- A packet under construction, seen without the buffer it is assembled in: fewer bytes than a packet
-- has, none of which made the framer give up.
structure Frame (priv : AlpsData) where
  bytes   : List UInt8
  lt      : bytes.length < priv.pktsize
  checked : ∀ k < bytes.length, ¬Rejects priv k (packetOf bytes)

namespace Frame

variable {priv : AlpsData}

@[ext]
theorem ext {f₁ f₂ : Frame priv} (h : f₁.bytes = f₂.bytes) : f₁ = f₂ := by
  cases f₁
  cases f₂
  simp_all

def empty : Frame priv where
  bytes   := []
  lt      := priv.pktsize_pos
  checked := nofun

def Completes (f : Frame priv) (data : UInt8) : Prop :=
  ¬IsBare priv (packetOf (f.bytes ++ [data])) ∧ f.bytes.length + 1 = priv.pktsize

instance {f : Frame priv} {data} : Decidable (f.Completes data) := by
  unfold Completes
  infer_instance

-- What has passed a check still passes it when more bytes follow.
theorem checked_append (f : Frame priv) {k : Nat} (h : k < f.bytes.length) (l : List UInt8) :
    ¬Rejects priv k (packetOf (f.bytes ++ l)) := by
  rw [Rejects.congr (packetOf_append (by omega)) fun j hj => packetOf_append (by omega)]
  exact f.checked k h

theorem checked_concat (f : Frame priv) {data : UInt8}
    (hr : ¬Rejects priv f.bytes.length (packetOf (f.bytes ++ [data]))) :
    ∀ k < (f.bytes ++ [data]).length, ¬Rejects priv k (packetOf (f.bytes ++ [data])) := by
  intro k hk
  rw [List.length_append, List.length_singleton] at hk
  by_cases h : k < f.bytes.length
  case pos => exact f.checked_append h [data]
  case neg =>
    obtain rfl : k = f.bytes.length := by omega
    exact hr

-- The bytes of a bare packet pass as long as there are at most three of them.
theorem bare_le {l : List UInt8} (hb : IsBare priv (packetOf l))
    (hc : ∀ k < l.length, ¬Rejects priv k (packetOf l)) : l.length ≤ 3 := by
  by_contra h
  exact hc 3 (by omega) (by simp [Rejects, hb])

theorem length_concat_lt (f : Frame priv) {data : UInt8}
    (hr : ¬Rejects priv f.bytes.length (packetOf (f.bytes ++ [data])))
    (hc : ¬f.Completes data) : (f.bytes ++ [data]).length < priv.pktsize := by
  have hlt := f.lt
  by_cases hb : IsBare priv (packetOf (f.bytes ++ [data]))
  case pos =>
    have := bare_le hb (f.checked_concat hr)
    have := priv.six_le_pktsize
    omega
  case neg =>
    have : f.bytes.length + 1 ≠ priv.pktsize := fun h => hc ⟨hb, h⟩
    simp
    omega

def step (f : Frame priv) (data : UInt8) : Frame priv × List (List UInt8) :=
  if hr : Rejects priv f.bytes.length (packetOf (f.bytes ++ [data])) then (empty, [])
  else if hc : f.Completes data then (empty, [f.bytes ++ [data]])
  else (⟨f.bytes ++ [data], f.length_concat_lt hr hc, f.checked_concat hr⟩, [])

end Frame

def framing (priv : AlpsData) : Mealy (Frame priv) UInt8 (List UInt8) where
  step := Frame.step

-- The slot at the head holds the bytes of the frame, and no packet waits to be read.
structure Represents {priv : AlpsData} (s : Framer) (f : Frame priv) : Prop where
  holds : s.ringBuffer.Holds priv.pktsize []
  count : s.packetByteCount = f.bytes.length
  cells : s.ringBuffer.cells s.ringBuffer.head f.bytes.length = f.bytes

namespace Represents

variable {s : Framer} {priv : AlpsData} {f : Frame priv} {data : UInt8}

theorem lt (r : Represents s f) : s.packetByteCount < priv.pktsize :=
  r.count ▸ f.lt

theorem saveFirst_cells (r : Represents s f) (data : UInt8) :
    (s.saveFirst data).ringBuffer.cells s.ringBuffer.head f.bytes.length = f.bytes := by
  by_cases hn : s.packetByteCount = 0
  case pos =>
    have : f.bytes = [] := List.length_eq_zero_iff.mp (r.count ▸ hn)
    simp [this, RingBuffer.cells]
  case neg => simpa [Framer.saveFirst, hn] using r.cells

theorem kept_cells (r : Represents s f) (data : UInt8) :
    (s.kept data).ringBuffer.cells s.ringBuffer.head (f.bytes.length + 1) = f.bytes ++ [data] := by
  have h := RingBuffer.cells_setHeadCell_succ (r := (s.saveFirst data).ringBuffer)
    (s := f.bytes.length) (x := data)
  simpa [r.saveFirst_cells data, Framer.kept, Framer.store, Framer.setPacket, r.count] using h

theorem packet_eq (r : Represents s f) {k : Nat} (hk : k < f.bytes.length) :
    (s.saveFirst data).packet k = packetOf (f.bytes ++ [data]) k := by
  rw [packetOf_append hk]
  have h := congrArg (·[k]?) (r.saveFirst_cells data)
  simp [RingBuffer.cells, hk] at h
  simp [packetOf, ← h, Framer.packet, RingBuffer.headCell, hk]

theorem packet_zero (r : Represents s f) :
    (s.saveFirst data).packet 0 = packetOf (f.bytes ++ [data]) 0 := by
  by_cases hn : f.bytes.length = 0
  case pos =>
    rw [Framer.saveFirst_packet_zero (r.count ▸ hn)]
    simp [List.length_eq_zero_iff.mp hn, packetOf]
  case neg => exact r.packet_eq (by omega)

theorem isBare_iff (r : Represents s f) :
    IsBare priv (s.saveFirst data).packet ↔ IsBare priv (packetOf (f.bytes ++ [data])) := by
  simp [IsBare, r.packet_zero]

theorem rejects_iff (r : Represents s f) :
    s.Rejects priv data ↔ Rejects priv f.bytes.length (packetOf (f.bytes ++ [data])) := by
  rw [Framer.Rejects, r.count]
  exact Rejects.congr r.packet_zero fun k hk => r.packet_eq hk

theorem completes_iff (r : Represents s f) (hr : ¬s.Rejects priv data) :
    s.Completes priv data ↔ f.Completes data := by
  simp [Framer.Completes, Framer.Fills, hr, Frame.Completes, r.isBare_iff, r.count, and_comm]

-- One packet fits into an empty buffer.
theorem advanceHead {s : Framer} (h : s.ringBuffer.Holds priv.pktsize []) :
    (s.advanceHead priv).ringBuffer.Holds priv.pktsize
      [s.ringBuffer.cells s.ringBuffer.head priv.pktsize] := by
  apply h.advanceHead
  have := priv.pktsize_le_eight
  have := h.count
  simp_all
  omega

theorem empty_of {s : Framer} (h : s.ringBuffer.Holds priv.pktsize []) (hn : s.packetByteCount = 0) :
    Represents s (.empty : Frame priv) where
  holds := h
  count := hn
  cells := by simp [Frame.empty, RingBuffer.cells]

end Represents

-- A framer that has just closed its slot is emptied by the work loop.
theorem packetReady_of_closed {priv : AlpsData} {s : Framer} {p : List UInt8}
    (h : s.ringBuffer.Holds priv.pktsize [p]) :
    Represents (packetReady priv s).1 (.empty : Frame priv) ∧
    (packetReady priv s).2 = if s.badData then [] else [p] := by
  have ⟨h₁, h₂, _, h₄⟩ := packetReady_spec h
  refine ⟨.empty_of h₁ (by simpa using h₂), ?_⟩
  rw [h₄]
  cases s.badData <;> rfl

-- Assembling packets in the ring buffer, with a work loop that is never late, is framing the bytes.
theorem promptFramer_simulates (priv : AlpsData) :
    (promptFramer priv).Simulates (framing priv) (fun _ _ => True) Represents := by
  suffices h : ∀ {s : Framer} {f : Frame priv} {data : UInt8}, Represents s f →
      Represents ((promptFramer priv).step s data).1 ((framing priv).step f data).1 ∧
      ((promptFramer priv).step s data).2 = ((framing priv).step f data).2 from
    { step := fun r _ => (h r).left, out := fun r _ => (h r).right }
  intro s f data r
  simp only [promptFramer, framing, Frame.step]
  by_cases hr : s.Rejects priv data
  case pos =>
    rw [interruptOccurred_of_rejects hr, dif_pos (r.rejects_iff.mp hr)]
    exact packetReady_of_closed
      (s := { (s.saveFirst data).advanceHead priv with badData := true })
      (Represents.advanceHead (Framer.saveFirst_holds r.holds data))
  case neg =>
    rw [dif_neg (r.rejects_iff.not.mp hr)]
    by_cases hc : s.Completes priv data
    case pos =>
      have hf := (r.completes_iff hr).mp hc
      have hh := Represents.advanceHead (kept_holds r.holds r.lt data)
      have hp : (s.kept data).ringBuffer.cells s.ringBuffer.head priv.pktsize = f.bytes ++ [data] :=
        hf.right ▸ r.kept_cells data
      rw [kept_head, hp] at hh
      rw [interruptOccurred_of_completes hc, dif_pos hf]
      exact packetReady_of_closed hh
    case neg =>
      rw [interruptOccurred_of_buffers hr hc, dif_neg ((r.completes_iff hr).not.mp hc)]
      refine ⟨⟨kept_holds r.holds r.lt data, ?count, ?cells⟩, rfl⟩
      case count => simp [Framer.kept, Framer.store, r.count]
      case cells =>
        have := r.kept_cells data
        simpa [Framer.kept, Framer.store, Framer.setPacket] using this

end Touchpad
