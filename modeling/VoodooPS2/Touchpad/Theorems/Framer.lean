import VoodooPS2.Touchpad.Framer

namespace Touchpad

theorem AlpsData.pktsize_pos (priv : AlpsData) : 0 < priv.pktsize := by
  have := priv.pktsize_eq
  omega

theorem AlpsData.pktsize_dvd (priv : AlpsData) : priv.pktsize ∣ 192 := by
  cases priv.pktsize_eq <;> simp_all

theorem AlpsData.six_le_pktsize (priv : AlpsData) : 6 ≤ priv.pktsize := by
  have := priv.pktsize_eq
  omega

theorem AlpsData.pktsize_le_eight (priv : AlpsData) : priv.pktsize ≤ 8 := by
  have := priv.pktsize_eq
  omega

-- The call that gets to see `packet` while `n` bytes are stored gives the packet up.
def Rejects (priv : AlpsData) (n : Nat) (packet : Nat → UInt8) : Prop :=
  if IsBare priv packet then
    n = 3
  else
    IsStuffed priv n packet ∨ IsInvalidFirstByte priv packet ∨ HasHighBit priv n packet ∨
    IsInvalidPackageV7 priv n packet ∨ IsInvalidPackageSS4V2 priv n packet

instance {priv n packet} : Decidable (Rejects priv n packet) := by
  unfold Rejects
  infer_instance

-- The checks only look at stored bytes, and at the first one.
theorem Rejects.congr {priv : AlpsData} {n : Nat} {p p' : Nat → UInt8}
    (h₀ : p 0 = p' 0) (h : ∀ k < n, p k = p' k) : Rejects priv n p ↔ Rejects priv n p' := by
  have hl : n ≥ 2 → p (n - 1) = p' (n - 1) := fun hn => h _ (by omega)
  have h₂ : n = 3 → p 2 = p' 2 := fun hn => h _ (by omega)
  have h₃ : n ≥ 4 → p 3 = p' 3 := fun hn => h _ (by omega)
  have h₅ : n = 6 → p 5 = p' 5 := fun hn => h _ (by omega)
  have hs : IsStuffed priv n p ↔ IsStuffed priv n p' := by
    unfold IsStuffed; grind
  have hb : HasHighBit priv n p ↔ HasHighBit priv n p' := by
    unfold HasHighBit; grind
  have hv₇ : IsInvalidPackageV7 priv n p ↔ IsInvalidPackageV7 priv n p' := by
    unfold IsInvalidPackageV7; grind
  have hv₈ : IsInvalidPackageSS4V2 priv n p ↔ IsInvalidPackageSS4V2 priv n p' := by
    unfold IsInvalidPackageSS4V2; grind
  simp only [Rejects, IsBare, IsInvalidFirstByte, h₀, hs, hb, hv₇, hv₈]

namespace Framer

-- A call with `data` gives the packet under construction up.
def Rejects (s : Framer) (priv : AlpsData) (data : UInt8) : Prop :=
  Touchpad.Rejects priv s.packetByteCount (s.saveFirst data).packet

-- A call with `data` stores the last byte of the packet under construction.
def Fills (s : Framer) (priv : AlpsData) (data : UInt8) : Prop :=
  ¬s.Rejects priv data ∧ s.packetByteCount + 1 = priv.pktsize

-- A call with `data` completes the packet under construction and keeps it.
def Completes (s : Framer) (priv : AlpsData) (data : UInt8) : Prop :=
  s.Fills priv data ∧ ¬IsBare priv (s.saveFirst data).packet

instance {s : Framer} {priv data} : Decidable (s.Rejects priv data) := by
  unfold Rejects
  infer_instance

instance {s : Framer} {priv data} : Decidable (s.Fills priv data) := by
  unfold Fills
  infer_instance

instance {s : Framer} {priv data} : Decidable (s.Completes priv data) := by
  unfold Completes
  infer_instance

variable {s : Framer} {priv : AlpsData} {data : UInt8} {q : List (List UInt8)}

@[simp]
theorem saveFirst_packetByteCount : (s.saveFirst data).packetByteCount = s.packetByteCount := by
  simp only [saveFirst]
  split <;> rfl

@[simp]
theorem saveFirst_head : (s.saveFirst data).ringBuffer.head = s.ringBuffer.head := by
  simp only [saveFirst]
  split <;> rfl

@[simp]
theorem saveFirst_count : (s.saveFirst data).ringBuffer.count = s.ringBuffer.count := by
  simp only [saveFirst]
  split <;> rfl

theorem saveFirst_packet_zero (h : s.packetByteCount = 0) : (s.saveFirst data).packet 0 = data := by
  simp [saveFirst, h, setPacket, packet]

theorem saveFirst_packet_of_ne (h : s.packetByteCount ≠ 0) : (s.saveFirst data).packet = s.packet := by
  simp [saveFirst, h]

theorem saveFirst_holds (h : s.ringBuffer.Holds priv.pktsize q) (data : UInt8) :
    (s.saveFirst data).ringBuffer.Holds priv.pktsize q := by
  simp only [saveFirst]
  split
  · exact h.setHeadCell priv.pktsize_pos data
  · exact h

theorem store_holds (h : s.ringBuffer.Holds priv.pktsize q) (hn : s.packetByteCount < priv.pktsize) :
    (s.store data).ringBuffer.Holds priv.pktsize q :=
  h.setHeadCell hn data

end Framer

section Delivery

variable {s : Framer} {priv : AlpsData} {data : UInt8} {q : List (List UInt8)}

-- The indices at which a call writes: the first byte is written ahead of the checks.
def firstStore (s : Framer) : List Nat :=
  if s.packetByteCount = 0 then [0] else []

theorem interruptOccurred_of_rejects (h : s.Rejects priv data) :
    interruptOccurred priv s data =
      ⟨{ (s.saveFirst data).advanceHead priv with badData := true }, .packetReady, firstStore s⟩ := by
  simp only [Framer.Rejects, Rejects] at h
  simp only [interruptOccurred, firstStore]
  split at h
  case isTrue hb  => rw [if_pos hb, if_pos h]; rfl
  case isFalse hb =>
    rw [if_neg hb]
    repeat' split
    all_goals first | rfl | simp_all

-- The framer after a call that has kept its byte.
def Framer.kept (s : Framer) (data : UInt8) : Framer :=
  { (s.saveFirst data).store data with badData := false }

theorem interruptOccurred_of_completes (h : s.Completes priv data) :
    interruptOccurred priv s data =
      ⟨(s.kept data).advanceHead priv, .packetReady, firstStore s ++ [s.packetByteCount]⟩ := by
  obtain ⟨⟨hr, hn⟩, hb⟩ := h
  simp only [Framer.Rejects, Rejects, if_neg hb, not_or] at hr
  obtain ⟨h₁, h₂, h₃, h₄, h₅⟩ := hr
  simp only [interruptOccurred, firstStore, if_neg hb, if_neg h₁, if_neg h₂, if_neg h₃, if_neg h₄,
    if_neg h₅]
  rw [if_pos]
  · rfl
  · simpa [Framer.store] using hn

theorem interruptOccurred_of_buffers (hr : ¬s.Rejects priv data) (hc : ¬s.Completes priv data) :
    interruptOccurred priv s data =
      ⟨s.kept data, .packetBuffering, firstStore s ++ [s.packetByteCount]⟩ := by
  by_cases hb : IsBare priv (s.saveFirst data).packet
  case pos =>
    simp only [Framer.Rejects, Rejects, if_pos hb] at hr
    simp only [interruptOccurred, firstStore, if_pos hb, if_neg hr]
    rfl
  case neg =>
    have hn : ¬s.packetByteCount + 1 = priv.pktsize := fun hn => hc ⟨⟨hr, hn⟩, hb⟩
    simp only [Framer.Rejects, Rejects, if_neg hb, not_or] at hr
    obtain ⟨h₁, h₂, h₃, h₄, h₅⟩ := hr
    simp only [interruptOccurred, firstStore, if_neg hb, if_neg h₁, if_neg h₂, if_neg h₃, if_neg h₄,
      if_neg h₅]
    rw [if_neg]
    · rfl
    · simpa [Framer.store] using hn

@[simp]
theorem kept_head : (s.kept data).ringBuffer.head = s.ringBuffer.head := by
  simp [Framer.kept, Framer.store, Framer.setPacket]

theorem kept_packet_zero : (s.kept data).packet 0 = (s.saveFirst data).packet 0 := by
  by_cases hn : s.packetByteCount = 0
  case pos =>
    have : (s.kept data).packet 0 = data := by
      simp [Framer.kept, Framer.store, Framer.packet, Framer.setPacket, hn]
    rw [this, Framer.saveFirst_packet_zero hn]
  case neg =>
    exact RingBuffer.headCell_setHeadCell_ne (by simpa using Ne.symm hn)

theorem kept_holds (h : s.ringBuffer.Holds priv.pktsize q) (hn : s.packetByteCount < priv.pktsize)
    (data : UInt8) :
    (s.kept data).ringBuffer.Holds priv.pktsize q :=
  (s.saveFirst data).store_holds (s.saveFirst_holds h data) (by simpa using hn)

theorem drain_spec {fuel : Nat} (h : s.ringBuffer.Holds priv.pktsize q) (hf : q.length ≤ fuel) :
    (drain priv fuel s).1.ringBuffer.Holds priv.pktsize [] ∧
    (drain priv fuel s).1.packetByteCount = (if q = [] then s.packetByteCount else 0) ∧
    (drain priv fuel s).1.badData = s.badData ∧
    (drain priv fuel s).2 = if s.badData = false then q else [] := by
  induction fuel generalizing s q
  case zero =>
    obtain rfl : q = [] := List.length_eq_zero_iff.mp (by omega)
    simp [drain, h]
  case succ fuel hi =>
    cases q
    case nil =>
      have hc : ¬s.ringBuffer.count ≥ priv.pktsize := by simpa using h.size_le_count_iff.not
      simp [drain, hc, h]
    case cons p q =>
      have hc : s.ringBuffer.count ≥ priv.pktsize := h.size_le_count_iff.mpr (by simp)
      have ht := h.tailPacket_eq
      let s' : Framer :=
        { s with packetByteCount := 0, ringBuffer := s.ringBuffer.advanceTail priv.pktsize }
      obtain ⟨h₁, h₂, h₃, h₄⟩ := hi (s := s') h.advanceTail (by simpa using hf)
      simp only [drain, if_pos hc, ht]
      refine ⟨h₁, ?_, h₃, ?_⟩
      · rw [h₂]; simp [s']
      · rw [h₄]; split <;> simp_all [s']

theorem packetReady_spec (h : s.ringBuffer.Holds priv.pktsize q) :
    (packetReady priv s).1.ringBuffer.Holds priv.pktsize [] ∧
    (packetReady priv s).1.packetByteCount = (if q = [] then s.packetByteCount else 0) ∧
    (packetReady priv s).1.badData = s.badData ∧
    (packetReady priv s).2 = if s.badData = false then q else [] := by
  apply drain_spec h
  rw [h.count]
  exact Nat.le_mul_of_pos_left _ priv.pktsize_pos

theorem packetReady_of_nil (h : s.ringBuffer.Holds priv.pktsize []) :
    packetReady priv s = (s, []) := by
  simp [packetReady, h.count_eq_zero_iff.mpr rfl, drain]

-- The loop of `packetReady` ends because its condition fails, not because the fuel is spent.
theorem packetReady_emptied (h : s.ringBuffer.Holds priv.pktsize q) :
    (packetReady priv s).1.ringBuffer.count < priv.pktsize := by
  have := (packetReady_spec h).left.count
  simp only [List.length_nil, Nat.mul_zero] at this
  exact this ▸ priv.pktsize_pos

theorem initTouchPad_holds : (initTouchPad s).ringBuffer.Holds priv.pktsize [] :=
  .reset priv.pktsize_pos priv.pktsize_dvd (by decide)

end Delivery

end Touchpad
