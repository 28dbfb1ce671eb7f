import VoodooPS2.Touchpad.Theorems.Framer

namespace Touchpad

-- A delivered byte is written inside the slot at the head of the ring buffer, inside the buffer, and
-- to no cell of a packet that has not been read.
def StepSafe (priv : AlpsData) (s : Framer) : Event → Prop
  | .byte data =>
    s.packetByteCount < priv.pktsize ∧
    ∀ k ∈ (interruptOccurred priv s data).stores,
      k < priv.pktsize ∧ s.ringBuffer.head + k < 192 ∧ ¬s.ringBuffer.Unread (s.ringBuffer.head + k)
  | .packetReady => True

-- What the two contexts keep of the framer, in whatever order they run.
structure Sound (priv : AlpsData) (s : Framer) (q : List (List UInt8)) : Prop where
  holds : s.ringBuffer.Holds priv.pktsize q
  le    : s.packetByteCount ≤ priv.pktsize
  -- The byte count of a slot that is full is only reset if there is a packet to be read.
  full  : s.packetByteCount = priv.pktsize → q ≠ []
  bare  : q = [] → s.packetByteCount ≠ 0 → IsBare priv s.packet → s.packetByteCount ≤ 3

variable {s : Framer} {priv : AlpsData} {data : UInt8} {q : List (List UInt8)}

theorem initTouchPad_sound (priv : AlpsData) : Sound priv (initTouchPad s) [] where
  holds := initTouchPad_holds
  le    := Nat.zero_le _
  full  := fun h => absurd h.symm (Nat.ne_of_gt priv.pktsize_pos)
  bare  := fun _ h => absurd rfl h

theorem stores_le (h : k ∈ (interruptOccurred priv s data).stores) : k ≤ s.packetByteCount := by
  by_cases hr : s.Rejects priv data
  case pos =>
    simp only [interruptOccurred_of_rejects hr, firstStore] at h
    split at h <;> simp_all
  case neg =>
    have he : (interruptOccurred priv s data).stores = firstStore s ++ [s.packetByteCount] := by
      by_cases hc : s.Completes priv data
      case pos => rw [interruptOccurred_of_completes hc]
      case neg => rw [interruptOccurred_of_buffers hr hc]
    simp only [he, firstStore] at h
    split at h <;> simp_all

namespace Sound

theorem stepSafe (v : Sound priv s q) (h : s.packetByteCount < priv.pktsize) :
    StepSafe priv s (.byte data) := by
  refine ⟨h, fun k hk => ?_⟩
  have hk : k < priv.pktsize := Nat.lt_of_le_of_lt (stores_le hk) h
  have := v.holds.head_room
  exact ⟨hk, by omega, v.holds.head_not_unread hk⟩

-- Closing the slot leaves something to be read: the packet itself, or the buffer was full already.
theorem advanceHead_holds (h : s.ringBuffer.Holds priv.pktsize q) :
    ∃ q', (s.advanceHead priv).ringBuffer.Holds priv.pktsize q' ∧ q' ≠ [] := by
  by_cases hf : s.ringBuffer.count + priv.pktsize < 192
  case pos => exact ⟨_, h.advanceHead hf, by simp⟩
  case neg =>
    have hq : q ≠ [] := by
      rintro rfl
      have := h.count
      have := priv.pktsize_le_eight
      simp_all
      omega
    refine ⟨q, ?_, hq⟩
    rw [Framer.advanceHead, h.advanceHead_full hf (List.length_pos_iff.mpr hq)]
    exact h

-- Unless something is pending, a bare packet is given up by the call that follows its third byte.
theorem bare_lt (v : Sound priv s []) (hr : ¬s.Rejects priv data)
    (hb : IsBare priv (s.saveFirst data).packet) : s.packetByteCount < 3 := by
  by_cases hn : s.packetByteCount = 0
  case pos => omega
  case neg =>
    have hle := v.bare rfl hn (Framer.saveFirst_packet_of_ne hn ▸ hb)
    have hne : s.packetByteCount ≠ 3 := by simpa [Framer.Rejects, Rejects, hb] using hr
    omega

theorem buffers (v : Sound priv s q) (h : s.packetByteCount < priv.pktsize)
    (hr : ¬s.Rejects priv data) (hc : ¬s.Completes priv data) : Sound priv (s.kept data) q := by
  have hp : (s.kept data).packetByteCount = s.packetByteCount + 1 := by
    simp [Framer.kept, Framer.store]
  refine ⟨kept_holds v.holds h data, by omega, ?full, ?bare⟩
  case full =>
    rintro hn rfl
    have hb : IsBare priv (s.saveFirst data).packet := by
      by_contra hb
      exact hc ⟨⟨hr, by omega⟩, hb⟩
    have := v.bare_lt hr hb
    have := priv.six_le_pktsize
    omega
  case bare =>
    rintro rfl _ hb
    have hb : IsBare priv (s.saveFirst data).packet := by
      simpa [IsBare, kept_packet_zero] using hb
    have := v.bare_lt hr hb
    omega

theorem rejects (v : Sound priv s q) (hr : s.Rejects priv data) :
    ∃ q', Sound priv (interruptOccurred priv s data).framer q' ∧ q' ≠ [] := by
  have ⟨q', hq', hn⟩ := advanceHead_holds (Framer.saveFirst_holds v.holds data)
  rw [interruptOccurred_of_rejects hr]
  refine ⟨q', ⟨hq', ?_, fun _ => hn, fun h => absurd h hn⟩, hn⟩
  simpa [Framer.advanceHead] using v.le

theorem byte (v : Sound priv s q) (h : s.packetByteCount < priv.pktsize) (data : UInt8) :
    ∃ q', Sound priv (interruptOccurred priv s data).framer q' := by
  by_cases hr : s.Rejects priv data
  case pos =>
    have ⟨q', v', _⟩ := v.rejects hr
    exact ⟨q', v'⟩
  by_cases hc : s.Completes priv data
  case pos =>
    have ⟨q', hq', hn⟩ := advanceHead_holds (kept_holds v.holds h data)
    rw [interruptOccurred_of_completes hc]
    refine ⟨q', hq', ?_, fun _ => hn, fun h => absurd h hn⟩
    simp [Framer.advanceHead, Framer.kept, Framer.store]
    omega
  case neg =>
    rw [interruptOccurred_of_buffers hr hc]
    exact ⟨q, v.buffers h hr hc⟩

theorem packetReady (v : Sound priv s q) : Sound priv (packetReady priv s).1 [] := by
  cases q
  case nil => rwa [packetReady_of_nil v.holds]
  case cons =>
    have ⟨h₁, h₂, _, _⟩ := packetReady_spec v.holds
    rw [if_neg (by simp)] at h₂
    have := priv.pktsize_pos
    exact ⟨h₁, by omega, by omega, fun _ h => absurd h₂ h⟩

-- Which is why every byte leaves the invariant, as long as the slot was not full.
theorem invariant (priv : AlpsData) :
    (framer priv).Invariant (StepSafe priv) (fun s => ∃ q, Sound priv s q) where
  step := by
    rintro s (data | _) ⟨q, v⟩ h
    case byte        =>
      have := v.byte h.left data
      simp only [framer]
      split <;> exact this
    case packetReady => exact ⟨[], v.packetReady⟩

theorem packetReady_lt (v : Sound priv s q) :
    (Touchpad.packetReady priv s).1.packetByteCount < priv.pktsize :=
  Nat.lt_of_le_of_ne v.packetReady.le fun h => v.packetReady.full h rfl

end Sound

-- The only step after which the slot is full is a call that stores the last byte of the slot.
theorem interruptOccurred_full_iff (h : s.packetByteCount < priv.pktsize) :
    (interruptOccurred priv s data).framer.packetByteCount = priv.pktsize ↔ s.Fills priv data := by
  by_cases hr : s.Rejects priv data
  case pos =>
    rw [interruptOccurred_of_rejects hr]
    simp [Framer.Fills, hr, Framer.advanceHead]
    omega
  case neg =>
    have hp : (s.kept data).packetByteCount = s.packetByteCount + 1 := by
      simp [Framer.kept, Framer.store]
    by_cases hc : s.Completes priv data
    case pos =>
      rw [interruptOccurred_of_completes hc]
      simp [Framer.Fills, hr, Framer.advanceHead, hp]
    case neg =>
      rw [interruptOccurred_of_buffers hr hc]
      simp [Framer.Fills, hr, hp]

theorem framer_byte_state : ((framer priv).step s (.byte data)).1 =
    (interruptOccurred priv s data).framer := by
  simp only [framer]
  split <;> rfl

-- The slot is not full when a byte arrives, unless it was filled by the byte just before.
theorem not_full_of_along {pre : List Event} {b : UInt8} {post : List Event}
    (hp : (framer priv).Along (StepSafe priv) (initTouchPad s) pre)
    (h : ∀ pre' a b' post', pre ++ .byte b :: post = pre' ++ .byte a :: .byte b' :: post' →
      ¬((framer priv).state (initTouchPad s) pre').Fills priv a) :
    ((framer priv).state (initTouchPad s) pre).packetByteCount ≠ priv.pktsize := by
  rcases pre.eq_nil_or_concat with rfl | ⟨pre, e, rfl⟩
  case inl => exact (Nat.ne_of_gt priv.pktsize_pos).symm
  case inr =>
    rw [List.concat_eq_append] at *
    have ⟨hp, he, _⟩ := Mealy.Along.append.mp hp
    have ⟨q, v⟩ := (Sound.invariant priv).run hp ⟨[], initTouchPad_sound priv⟩
    rw [Mealy.state_append, Mealy.state_cons, Mealy.state_nil]
    cases e
    case packetReady => exact Nat.ne_of_lt v.packetReady_lt
    case byte a =>
      rw [framer_byte_state, Ne, interruptOccurred_full_iff he.left]
      exact h pre _ b post (by simp)

-- In the state that `initTouchPad` leaves, and under any alternation of the two contexts, every byte
-- is stored inside the slot at the head if and only if `packetReady` runs between every call that
-- stores the last byte of the slot and the byte that is delivered next.
theorem framer_safe_iff (priv : AlpsData) (s : Framer) (es : List Event) :
    (framer priv).Along (StepSafe priv) (initTouchPad s) es ↔
    ∀ pre a b post, es = pre ++ .byte a :: .byte b :: post →
      ¬((framer priv).state (initTouchPad s) pre).Fills priv a := by
  constructor
  case mp =>
    rintro h pre a b post rfl hf
    have ⟨hp, hs⟩ := Mealy.Along.append.mp h
    have ⟨q, v⟩ := (Sound.invariant priv).run hp ⟨[], initTouchPad_sound priv⟩
    have ha := hs.left.left
    have hb := hs.right.left.left
    rw [framer_byte_state] at hb
    exact absurd ((interruptOccurred_full_iff ha).mpr hf) (Nat.ne_of_lt hb)
  case mpr =>
    intro h
    suffices ∀ pre post, es = pre ++ post → (framer priv).Along (StepSafe priv) (initTouchPad s) pre
      from this es [] (by simp)
    intro pre
    induction pre using List.reverseRecOn
    case nil => exact fun _ _ => trivial
    case append_singleton pre e hi =>
      rintro post rfl
      have hp := hi (e :: post) (by simp)
      refine Mealy.Along.append.mpr ⟨hp, ?_, trivial⟩
      cases e
      case packetReady => trivial
      case byte b =>
        have ⟨q, v⟩ := (Sound.invariant priv).run hp ⟨[], initTouchPad_sound priv⟩
        exact v.stepSafe <| Nat.lt_of_le_of_ne v.le <| not_full_of_along hp (by simpa using h)

-- The first byte after a whole packet finds `_packetByteCount` at the size of the slot, if it comes ahead of
-- `packetReady`. Here the slot at the head is still empty, so the byte is rejected. Where it holds an old
-- packet the byte is written behind the slot.
theorem not_framer_safe : ¬∀ (priv : AlpsData) (s : Framer) (es : List Event),
    (framer priv).Along (StepSafe priv) (initTouchPad s) es := by
  intro h
  let packet : List Event := [0x8f, 0, 0, 0, 0, 0].map .byte
  have hs := Mealy.Along.iff_split.mp (h privV3 .zero (packet ++ [.byte 0x8f])) packet _ [] rfl
  exact absurd hs.left (by decide)

end Touchpad
