import VoodooPS2.Touchpad.Theorems.Frame

namespace Touchpad

-- The validity predicate of a protocol, as the checks of `interruptOccurred` and their comments
-- state it.
structure ValidPacket (priv : AlpsData) (packet : List UInt8) : Prop where
  length    : packet.length = priv.pktsize
  firstByte : packetOf packet 0 &&& priv.mask0 = priv.byte0
  highBit   : priv.protoVersion < alpsProtoV5 →
    ∀ k, 1 ≤ k → k < priv.pktsize → packetOf packet k &&& 0x80 = 0
  v7        : priv.protoVersion = alpsProtoV7 →
    packetOf packet 2 &&& 0x40 = 0x40 ∧ packetOf packet 3 &&& 0x48 = 0x48 ∧
    packetOf packet 5 &&& 0x40 = 0
  ss4v2     : priv.protoVersion = alpsProtoV8 →
    packetOf packet 3 &&& 0x08 = 0x08 ∧ packetOf packet 5 &&& 0x10 = 0

-- The part of the validity predicate that concerns the last byte.
structure ValidLastByte (priv : AlpsData) (data : UInt8) : Prop where
  highBit : priv.protoVersion < alpsProtoV5 → data &&& 0x80 = 0
  v7      : priv.pktsize = 6 → priv.protoVersion = alpsProtoV7 → data &&& 0x40 = 0
  ss4v2   : priv.pktsize = 6 → priv.protoVersion = alpsProtoV8 → data &&& 0x10 = 0

variable {priv : AlpsData} {packet : List UInt8} {data : UInt8} {k : Nat}

theorem ValidPacket.lastByte (v : ValidPacket priv packet) :
    ValidLastByte priv (packetOf packet (priv.pktsize - 1)) where
  highBit h := by
    have := priv.six_le_pktsize
    exact v.highBit h _ (by omega) (by omega)
  v7 hs h    := by rw [hs]; exact (v.v7 h).right.right
  ss4v2 hs h := by rw [hs]; exact (v.ss4v2 h).right

-- The check that is due once `k` bytes are stored, if the first byte is not the one of a bare packet.
theorem not_rejects_iff (hb : ¬IsBare priv (packetOf packet)) :
    ¬Rejects priv k (packetOf packet) ↔
    ¬IsStuffed priv k (packetOf packet) ∧ ¬IsInvalidFirstByte priv (packetOf packet) ∧
    ¬HasHighBit priv k (packetOf packet) ∧ ¬IsInvalidPackageV7 priv k (packetOf packet) ∧
    ¬IsInvalidPackageSS4V2 priv k (packetOf packet) := by
  simp [Rejects, hb]

-- All but the last byte have been looked at by the time a packet is complete.
theorem ValidPacket.of_checked (hl : packet.length = priv.pktsize)
    (hb : ¬IsBare priv (packetOf packet))
    (hc : ∀ k < priv.pktsize, ¬Rejects priv k (packetOf packet))
    (hd : ValidLastByte priv (packetOf packet (priv.pktsize - 1))) : ValidPacket priv packet := by
  have hs := priv.six_le_pktsize
  have hc k hk := (not_rejects_iff hb).mp (hc k hk)
  have h₃ := hc 3 (by omega)
  have h₄ := hc 4 (by omega)
  have h₆ : priv.pktsize = 6 ∨ 6 < priv.pktsize := by omega
  constructor
  case length    => exact hl
  case firstByte => simpa [IsInvalidFirstByte] using (hc 0 (by omega)).right.left
  case highBit =>
    intro hv k h₁ hk
    by_cases hk' : k = priv.pktsize - 1
    case pos => exact hk' ▸ hd.highBit hv
    case neg =>
      have := (hc (k + 1) (by omega)).right.right.left
      simp only [HasHighBit, hv, true_and, not_and, not_not, Nat.add_sub_cancel] at this
      exact this (by omega) (by omega)
  case v7 =>
    intro hv
    refine ⟨?_, ?_, ?_⟩
    · simpa [IsInvalidPackageV7, hv] using h₃.right.right.right.left
    · simpa [IsInvalidPackageV7, hv] using h₄.right.right.right.left
    · cases h₆
      case inl h => simpa [h] using hd.v7 h hv
      case inr h => simpa [IsInvalidPackageV7, hv] using (hc 6 h).right.right.right.left
  case ss4v2 =>
    intro hv
    refine ⟨?_, ?_⟩
    · simpa [IsInvalidPackageSS4V2, hv] using h₄.right.right.right.right
    · cases h₆
      case inl h => simpa [h] using hd.ss4v2 h hv
      case inr h => simpa [IsInvalidPackageSS4V2, hv] using (hc 6 h).right.right.right.right

theorem Frame.completes_valid_iff {f : Frame priv}
    (hr : ¬Rejects priv f.bytes.length (packetOf (f.bytes ++ [data]))) (hc : f.Completes data) :
    ValidPacket priv (f.bytes ++ [data]) ↔ ValidLastByte priv data := by
  have hd : packetOf (f.bytes ++ [data]) (priv.pktsize - 1) = data := by
    rw [← hc.right]
    exact packetOf_concat_length
  constructor
  case mp => exact fun v => hd ▸ v.lastByte
  case mpr =>
    intro v
    refine .of_checked (by simpa using hc.right) hc.left ?_ (hd.symm ▸ v)
    simpa [hc.right] using f.checked_concat hr

-- The packets that one byte makes the framer hand over are valid, if and only if the byte does not
-- complete a packet or is a valid last byte.
theorem Represents.step_valid_iff {s : Framer} {f : Frame priv} (r : Represents s f) :
    (∀ p ∈ ((promptFramer priv).step s data).2, ValidPacket priv p) ↔
    (s.Completes priv data → ValidLastByte priv data) := by
  rw [(promptFramer_simulates priv).out r trivial]
  simp only [framing, Frame.step]
  by_cases hr : s.Rejects priv data
  case pos =>
    rw [dif_pos (r.rejects_iff.mp hr)]
    simp [Framer.Completes, Framer.Fills, hr]
  case neg =>
    rw [dif_neg (r.rejects_iff.not.mp hr), r.completes_iff hr]
    by_cases hc : f.Completes data
    case pos => simp [hc, Frame.completes_valid_iff (r.rejects_iff.not.mp hr) hc]
    case neg => simp [hc]

theorem Represents.valid_iff {s : Framer} {f : Frame priv} (r : Represents s f)
    (bytes : List UInt8) :
    (∀ p ∈ (promptFramer priv).out s bytes, ValidPacket priv p) ↔
    (promptFramer priv).Along (fun s b => s.Completes priv b → ValidLastByte priv b) s bytes := by
  induction bytes generalizing s f
  case nil => simp [Mealy.Along]
  case cons b bytes hi =>
    have hr := (promptFramer_simulates priv).step r (i := b) trivial
    simp only [Mealy.out_cons, List.forall_mem_append, Mealy.Along]
    rw [hi hr, r.step_valid_iff]

theorem initTouchPad_represents {s : Framer} : Represents (initTouchPad s) (.empty : Frame priv) :=
  .empty_of initTouchPad_holds rfl

-- Every packet that is handed to `process_packet` is valid, if and only if every byte that completes
-- a packet is a valid last byte: this is the one byte that no check ever looks at.
theorem promptFramer_valid_iff (priv : AlpsData) (s : Framer) (bytes : List UInt8) :
    (∀ p ∈ (promptFramer priv).out (initTouchPad s) bytes, ValidPacket priv p) ↔
    (promptFramer priv).Along (fun s b => s.Completes priv b → ValidLastByte priv b)
      (initTouchPad s) bytes :=
  initTouchPad_represents.valid_iff bytes

theorem not_promptFramer_valid : ¬∀ (priv : AlpsData) (s : Framer) (bytes : List UInt8),
    ∀ p ∈ (promptFramer priv).out (initTouchPad s) bytes, ValidPacket priv p := by
  intro h
  have v := h privV3 .zero [0x8f, 0, 0, 0, 0, 0x80] [0x8f, 0, 0, 0, 0, 0x80] (by decide)
  exact absurd (v.highBit (by decide) 5 (by decide) (by decide)) (by decide)

end Touchpad
