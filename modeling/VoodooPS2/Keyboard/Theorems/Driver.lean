import VoodooPS2.Keyboard.Driver

namespace Keyboard

section Bytes

theorem ofLittleEndian_littleEndian {k n : Nat} : ofLittleEndian (littleEndian k n) = n % 256 ^ k := by
  induction k generalizing n
  case zero      => simp [littleEndian, ofLittleEndian, Nat.mod_one]
  case succ k hi =>
    have hi : Nat.ofDigits 256 ((littleEndian k (n / 256)).map UInt8.toNat) = n / 256 % 256 ^ k := hi
    have hb : (UInt8.ofNat n).toNat = n % 256 := UInt8.toNat_ofNat'
    rw [ofLittleEndian, littleEndian, List.map_cons, Nat.ofDigits_cons, hi, hb, pow_succ', Nat.mod_mul]

theorem littleEndian_length {k n : Nat} : (littleEndian k n).length = k := by
  induction k generalizing n
  case zero      => rfl
  case succ k hi => simp [littleEndian, hi]

end Bytes

section Receiver

variable {r : Receiver} {q : List (List UInt8)} {packet : UInt8 × UInt8} {now : UInt64}

-- What is read from the slot in which a packet is buffered.
theorem Receiver.ofCells_bufferAt :
    Packet.ofCells ((r.bufferAt now packet).ringBuffer.cells r.ringBuffer.head kPacketLength) =
      ⟨packet.1, packet.2, now⟩ := by
  let r₂ := (r.ringBuffer.setHeadCell 0 packet.1).setHeadCell 1 packet.2
  let bytes := littleEndian 8 now.toNat
  have hb : (r₂.setHeadCells kPacketTimeOffset bytes).cells (r.ringBuffer.head + 8) 8 = bytes := by
    have := @RingBuffer.cells_setHeadCells _ _ r₂ kPacketTimeOffset bytes
    rwa [littleEndian_length] at this
  have ht : ofLittleEndian bytes = now.toNat :=
    ofLittleEndian_littleEndian.trans (Nat.mod_eq_of_lt now.toNat_lt)
  rw [Packet.ofCells, Packet.mk.injEq, RingBuffer.cells_getD (by decide), RingBuffer.cells_getD (by decide),
    RingBuffer.cells_drop]
  simp only [Receiver.bufferAt, RingBuffer.advanceHead_buffer]
  refine ⟨?_, ?_, ?_⟩
  case refine_1 =>
    have h : r₂.headCell 0 = packet.1 :=
      (RingBuffer.headCell_setHeadCell_ne (by decide)).trans RingBuffer.headCell_setHeadCell
    exact (RingBuffer.buffer_setHeadCells (by decide : 0 < kPacketTimeOffset)).trans h
  case refine_2 =>
    have h : r₂.headCell 1 = packet.2 := RingBuffer.headCell_setHeadCell
    exact (RingBuffer.buffer_setHeadCells (by decide : 1 < kPacketTimeOffset)).trans h
  case refine_3 =>
    rw [RingBuffer.cells_advanceHead]
    exact (congrArg (fun l => UInt64.ofNat (ofLittleEndian l)) hb).trans (ht ▸ UInt64.ofNat_toNat)

-- The packets that wait in the ring buffer.
def Receiver.Pending (r : Receiver) (ps : List Packet) : Prop :=
  ∃ q, r.ringBuffer.Holds kPacketLength q ∧ q.map Packet.ofCells = ps

namespace Receiver.Pending

variable {ps : List Packet} {p : Packet} {scanner : Scanner}

theorem count (h : r.Pending ps) : r.ringBuffer.count = kPacketLength * ps.length := by
  have ⟨q, hq, he⟩ := h
  rw [hq.count, ← he, List.length_map]

-- A packet that does not fit is lost.
theorem bufferAt (h : r.Pending ps) : (r.bufferAt now packet).Pending
    (if kPacketLength * ps.length + kPacketLength < kPacketLength * 32 then
      ps ++ [⟨packet.1, packet.2, now⟩]
    else ps) := by
  have ⟨q, hq, he⟩ := h
  have hs := ((hq.setHeadCell (by decide : 0 < kPacketLength) packet.1).setHeadCell
    (by decide : 1 < kPacketLength) packet.2).setHeadCells
    (by rw [littleEndian_length] : kPacketTimeOffset + (littleEndian 8 now.toNat).length ≤ kPacketLength)
  have hl : q.length = ps.length := by simpa using congrArg List.length he
  split
  case isTrue hf =>
    refine ⟨_, hs.advanceHead (by simpa [h.count] using hf), ?_⟩
    have hp := @Receiver.ofCells_bufferAt r packet now
    rw [Receiver.bufferAt, RingBuffer.cells_advanceHead] at hp
    simpa [he] using hp
  case isFalse hf =>
    have hp : 0 < q.length := by
      have : ¬16 * ps.length + 16 < 512 := hf
      omega
    have ha := hs.advanceHead_full (by simpa [h.count] using hf) hp
    exact ⟨q, by simpa only [Receiver.bufferAt, ha] using hs, he⟩

theorem size_le_count_iff (h : r.Pending ps) : kPacketLength ≤ r.ringBuffer.count ↔ ps ≠ [] := by
  have ⟨q, hq, he⟩ := h
  simp [hq.size_le_count_iff, ← he]

theorem tailPacket (h : r.Pending (p :: ps)) :
    Packet.ofCells (r.ringBuffer.tailPacket kPacketLength) = p ∧
      { r with ringBuffer := r.ringBuffer.advanceTail kPacketLength }.Pending ps := by
  have ⟨q, hq, he⟩ := h
  cases q
  case nil         => simp at he
  case cons cs q   =>
    have ⟨hp, he⟩ := List.cons.inj he
    exact ⟨(congrArg Packet.ofCells hq.tailPacket_eq).trans hp, q, hq.advanceTail, he⟩

end Receiver.Pending

variable {ps2flags : Nat → UInt16} {data : UInt8}

@[simp]
theorem Receiver.bufferAt_scanner : (r.bufferAt now packet).scanner = r.scanner :=
  rfl

theorem interruptOccurredAt_of_none (h : (r.scanner.scan ps2flags data).2 = none) :
    interruptOccurredAt ps2flags r now data = { r with scanner := (r.scanner.scan ps2flags data).1 } := by
  simp [interruptOccurredAt, h]

theorem interruptOccurredAt_of_some (h : (r.scanner.scan ps2flags data).2 = some packet) :
    interruptOccurredAt ps2flags r now data =
      Receiver.bufferAt { r with scanner := (r.scanner.scan ps2flags data).1 } now packet := by
  simp [interruptOccurredAt, h]

end Receiver

end Keyboard
