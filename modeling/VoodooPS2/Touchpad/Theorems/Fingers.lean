import VoodooPS2.Touchpad.Theorems.Pairing

namespace Touchpad

-- A pressed pad has a finger.
def EventInfo.HasFinger (e : EventInfo) : Prop :=
  0 < e.z → 1 ≤ e.fingers

def Call.HasFinger (c : Call) : Prop :=
  ∀ e, c.event? = some e → e.HasFinger

theorem events_hasFinger {calls : List Call} :
    (∀ e ∈ events calls, e.HasFinger) ↔ ∀ c ∈ calls, c.HasFinger := by
  simp only [events, List.mem_filterMap, Call.HasFinger]
  constructor
  · exact fun h c hc e he => h e ⟨c, hc, he⟩
  · rintro h e ⟨c, hc, he⟩
    exact h c hc e he

theorem Call.hasFinger_of_none {c : Call} (h : c.event? = none) : c.HasFinger := by
  simp [HasFinger, h]

@[simp]
theorem Call.hasFinger_dispatch {e : EventInfo} :
    (Call.dispatchEventsWithInfo e).HasFinger ↔ e.HasFinger := by
  simp [HasFinger, event?]

section Routines

variable {dev : AlpsDevice} {s : Decoder} {p m : List UInt8} {r : Decoder × List Call} {q : UInt8}

theorem reportTrackstick_event? {x y : Int} {buttons : UInt32} :
    (reportTrackstick x y buttons).event? = none := by
  unfold reportTrackstick
  split <;> rfl

theorem trackstickV3_hasFinger : ∀ c ∈ (alpsProcessTrackstickPacketV3 dev s p).2, c.HasFinger := by
  unfold alpsProcessTrackstickPacketV3
  split
  case isTrue  => simp
  case isFalse => simp [Call.hasFinger_of_none reportTrackstick_event?]

-- Two fingers or more are only reported if there are as many, and otherwise the pressure decides.
theorem reportV3V5_hasFinger {t : Touches} : ∀ c ∈ (reportV3V5 dev t).2, c.HasFinger := by
  simp only [reportV3V5, Decoder.dispatch]
  split
  case isTrue =>
    simp only [List.mem_singleton, forall_eq, Call.hasFinger_dispatch, EventInfo.HasFinger]
    intro h
    simp [h]
  case isFalse h =>
    simp only [List.mem_singleton, forall_eq, Call.hasFinger_dispatch, EventInfo.HasFinger]
    omega

theorem touchpadV3V5_hasFinger {d : DecodeFields} (h : alpsProcessTouchpadPacketV3V5 dev s p d = some r) :
    ∀ c ∈ r.2, c.HasFinger := by
  have ⟨t, _, ht⟩ := Option.map_eq_some_iff.mp h
  rw [← ht]
  split
  case isTrue  => simp
  case isFalse =>
    split
    case isTrue  => simp
    case isFalse => exact reportV3V5_hasFinger

theorem processPacketV3_hasFinger {d : DecodeFields} (h : alpsProcessPacketV3 dev s p d = some r) :
    ∀ c ∈ r.2, c.HasFinger := by
  unfold alpsProcessPacketV3 at h
  split at h
  case isTrue  =>
    cases h
    exact trackstickV3_hasFinger
  case isFalse => exact touchpadV3V5_hasFinger h

-- The pressure is made up from the fingers.
theorem processPacketV7_hasFinger : ∀ c ∈ (alpsProcessPacketV7 dev s p).2, c.HasFinger := by
  unfold alpsProcessPacketV7
  split
  case isTrue  =>
    unfold alpsProcessTrackstickPacketV7
    split
    case isTrue  => simp
    case isFalse => simp [Call.hasFinger_of_none reportTrackstick_event?]
  case isFalse =>
    unfold alpsProcessTouchpadPacketV7
    split
    case h_1 => simp
    case h_2 f _ =>
      simp only [Decoder.dispatch, List.mem_singleton, forall_eq, Call.hasFinger_dispatch,
        EventInfo.HasFinger]
      split <;> omega

-- The packets of version 8 that are reported on their own know the number of fingers.
theorem single_hasFinger (h : PairingRoutine.ss4V2.part dev p = .whole) :
    ∀ e ∈ PairingRoutine.ss4V2.single dev q p, e.HasFinger := by
  have ⟨hi, hf⟩ := part_eq_whole.mp h
  simp only [PairingRoutine.single]
  split
  case isTrue => simp
  case isFalse hs =>
    simp only [PairingRoutine.decode, List.mem_singleton, forall_eq, EventInfo.HasFinger, eventSS4V2,
      alpsDecodeSS4V2, alpsDecodeSS4V2Buttons_fingers, alpsDecodeSS4V2Buttons_pressure]
    cases hk : alpsGetPktIDSS4V2 p
    case one =>
      simp only [ss4DecodeTouches, hk, ss4DecodeOne]
      intro hz
      rw [if_pos hz]
      decide
    case two =>
      have hc : ¬ss4Continues p = true := fun hc =>
        Bool.false_ne_true (hf.symm.trans (alpsDecodeSS4V2_firstMp.mpr ⟨hk, hc⟩))
      simp only [ss4DecodeTouches, hk, ss4DecodeTwo, hc]
      exact fun _ => by decide
    case multi => exact absurd (hi.symm.trans (alpsDecodeSS4V2_isMp.mpr hk)) Bool.false_ne_true
    case stick => exact absurd hk hs
    case idle  =>
      simp only [ss4DecodeTouches, hk]
      decide

-- The second packet of a pair is only sent for three or more fingers.
theorem pair_hasFinger (hm : PairingRoutine.ss4V2.part dev m = .second) :
    ∀ e ∈ PairingRoutine.ss4V2.pair dev q p m, e.HasFinger := by
  have hk : alpsGetPktIDSS4V2 m = .multi := alpsDecodeSS4V2_isMp.mp (part_eq_second.mp hm)
  simp only [PairingRoutine.pair, PairingRoutine.decode, List.mem_singleton, forall_eq,
    EventInfo.HasFinger, eventSS4V2]
  intro _
  simp only [alpsDecodeSS4V2, alpsDecodeSS4V2Buttons_fingers, ss4DecodeTouches_of_multi hk,
    ss4DecodeMulti]
  split
  · decide
  · split <;> decide

end Routines

section V4

variable {dev : AlpsDevice} {s : Decoder} {p : List UInt8} {ps : List (List UInt8)}

-- The packet is the third one of a group that has shown something on both axes.
def CompletesBitmaps (s : Decoder) (p : List UInt8) : Prop :=
  (s.syncV4 p).multiPacket = 2 ∧
    (bitmapV4 (fieldsV4 p) ((s.syncV4 p).collectV4 p).multiData).HasBitmaps

-- A packet that reports pressure comes at the end of such a group.
def PressedOnCompletion (s : Decoder) (p : List UInt8) : Prop :=
  0 < (fieldsV4 p).pressure → CompletesBitmaps s p

instance : Decidable (CompletesBitmaps s p) :=
  inferInstanceAs (Decidable (_ ∧ _))

instance : Decidable (PressedOnCompletion s p) :=
  inferInstanceAs (Decidable (_ → _))

theorem syncV4_le (h : s.multiPacket ≤ 2) : (s.syncV4 p).multiPacket ≤ 2 := by
  unfold Decoder.syncV4
  split
  case isTrue  => exact Nat.zero_le 2
  case isFalse => exact h

@[simp]
theorem collectV4_multiPacket : (s.collectV4 p).multiPacket = s.multiPacket + 1 :=
  rfl

-- A packet that does not end a group is reported without fingers.
theorem processPacketV4_of_lt (h : (s.syncV4 p).multiPacket < 2) :
    alpsProcessPacketV4 dev s p = some (reportV4 ⟨(s.syncV4 p).collectV4 p, fieldsV4 p, 0⟩) := by
  have h₁ : ¬(s.syncV4 p).multiPacket > 2 := by omega
  have h₂ : ¬((s.syncV4 p).collectV4 p).multiPacket > 2 := by simp; omega
  simp only [alpsProcessPacketV4, h₁, h₂, if_false]

theorem processPacketV4_of_eq (h : (s.syncV4 p).multiPacket = 2) :
    let s' := (s.syncV4 p).collectV4 p
    alpsProcessPacketV4 dev s p =
      (alpsProcessBitmap dev s'.secondTouch (bitmapV4 (fieldsV4 p) s'.multiData)).map fun b =>
        reportV4 ⟨{ s' with multiPacket := 0, secondTouch := b.secondTouch }, b.fields, b.fingers⟩ := by
  have h₁ : ¬(s.syncV4 p).multiPacket > 2 := by omega
  have h₂ : ((s.syncV4 p).collectV4 p).multiPacket > 2 := by simp [h]
  simp only [alpsProcessPacketV4, h₁, h₂, if_false, if_true]

theorem processPacketV4_collects {r : Decoder × List Call} (hs : s.multiPacket ≤ 2)
    (h : alpsProcessPacketV4 dev s p = some r) : r.1.multiPacket ≤ 2 := by
  rcases Nat.lt_or_eq_of_le (syncV4_le (p := p) hs) with hs | hs
  case inl =>
    rw [processPacketV4_of_lt hs] at h
    cases h
    show (s.syncV4 p).multiPacket + 1 ≤ 2
    omega
  case inr =>
    rw [processPacketV4_of_eq hs] at h
    have ⟨b, _, hb⟩ := Option.map_eq_some_iff.mp h
    rw [← hb]
    exact Nat.zero_le 2

@[simp]
theorem reportV4_hasFinger {t : Touches} :
    (∀ c ∈ (reportV4 t).2, c.HasFinger) ↔ (0 < t.fields.pressure → 1 ≤ t.fingers) := by
  simp [reportV4, Decoder.dispatch, EventInfo.HasFinger]

theorem processPacketV4_hasFinger (hs : s.multiPacket ≤ 2) :
    (∀ r, alpsProcessPacketV4 dev s p = some r → ∀ c ∈ r.2, c.HasFinger) ↔
      PressedOnCompletion s p := by
  simp only [PressedOnCompletion, CompletesBitmaps]
  rcases Nat.lt_or_eq_of_le (syncV4_le (p := p) hs) with hs | hs
  case inl =>
    have hn : (s.syncV4 p).multiPacket ≠ 2 := by omega
    simp [processPacketV4_of_lt hs, hn]
  case inr =>
    rw [processPacketV4_of_eq hs]
    generalize (s.syncV4 p).collectV4 p = s'
    by_cases hx : (bitmapV4 (fieldsV4 p) s'.multiData).HasBitmaps ∧ dev.SingleElectrode
    case pos => simp [alpsProcessBitmap_eq_none.mpr hx, hs, hx.left]
    case neg =>
      have ⟨b, hb, ⟨_, _, hfields⟩, he, hn⟩ := alpsProcessBitmap_of_ok s'.secondTouch hx
      have hz : b.fields.pressure = (fieldsV4 p).pressure := by
        rw [hfields]
        rfl
      simp only [hb, Option.map_some, Option.some_inj, forall_eq', reportV4_hasFinger, hz, hs, true_and]
      refine imp_congr_right fun _ => ⟨fun hb => ?_, fun hb => (hn hb).left⟩
      by_contra hc
      have := he hc
      omega

end V4

section Protocols

variable {dev : AlpsDevice} {ps : List (List UInt8)}

theorem divideByZero_hasFinger : Call.divideByZero.HasFinger :=
  Call.hasFinger_of_none rfl

theorem fingersV4_iff (h : dev.processPacket = .v4) :
    (∀ e ∈ events ((decoder dev).out (some {}) ps), e.HasFinger) ↔
      (decoder dev).Along (fun s p => ∀ s' ∈ s, PressedOnCompletion s' p) (some {}) ps := by
  have hp : processPacket dev = alpsProcessPacketV4 dev := by
    funext s p
    simp only [processPacket, h]
  rw [events_hasFinger, decoder, hp]
  exact Mealy.halting_out_iff (I := fun s => s.multiPacket ≤ 2) divideByZero_hasFinger
    (fun _ _ _ hs hr => processPacketV4_collects hs hr) (fun _ _ hs => processPacketV4_hasFinger hs)
    (Nat.zero_le 2)

theorem fingersSS4V2 (h : dev.processPacket = .ss4V2) :
    ∀ e ∈ events ((decoder dev).out (some {}) ps), e.HasFinger := by
  have hd : decoder dev = PairingRoutine.ss4V2.decoder dev := by
    simp only [decoder, PairingRoutine.decoder, PairingRoutine.process]
    congr
    funext s p
    simp only [processPacket, h]
  have hc : ps.IsChain (PairingRoutine.ss4V2.protocol dev 0).Fits :=
    List.isChain_iff_forall_rel_of_append_cons_cons.mpr fun _ _ _ _ _ _ _ => id
  rw [hd, (pairing_events_iff dev .ss4V2 {} rfl ps).mpr hc]
  exact Pairing.reports_forall (fun _ hp => single_hasFinger (q := 0) hp) fun _ _ _ hm =>
    pair_hasFinger (q := 0) hm

theorem fingers_of_ne_v4 (h₁ : dev.processPacket ≠ .v1V2) (h₄ : dev.processPacket ≠ .v4) :
    ∀ e ∈ events ((decoder dev).out (some {}) ps), e.HasFinger := by
  cases hd : dev.processPacket
  case v1V2  => exact absurd hd h₁
  case v4    => exact absurd hd h₄
  case ss4V2 => exact fingersSS4V2 hd
  all_goals
    rw [events_hasFinger]
    refine Mealy.halting_out_forall divideByZero_hasFinger fun s p r hr => ?_
    simp only [processPacket, hd] at hr
  case v3           => exact processPacketV3_hasFinger hr
  case touchpadV3V5 => exact touchpadV3V5_hasFinger hr
  case v7           =>
    cases hr
    exact processPacketV7_hasFinger

-- In version 4 the fingers are only known at the end of a group of packets.
theorem fingers_iff (dev : AlpsDevice) (h : dev.processPacket ≠ .v1V2) (ps : List (List UInt8)) :
    (∀ e ∈ events ((decoder dev).out (some {}) ps), 0 < e.z → 1 ≤ e.fingers) ↔
      (dev.processPacket = .v4 →
        (decoder dev).Along (fun s p => ∀ s' ∈ s, PressedOnCompletion s' p) (some {}) ps) := by
  by_cases h₄ : dev.processPacket = .v4
  case pos => exact (fingersV4_iff h₄).trans (by simp only [h₄, true_imp_iff])
  case neg => exact iff_of_true (fingers_of_ne_v4 h h₄) (fun h => absurd h h₄)

theorem fingers_rushmore :
    (events ((decoder (setProtocol .v3Rushmore 0 true 0)).out (some {})
      [[0x80, 0x10, 0x20, 0x08, 0x00, 0x30]])).Forall fun e => 0 < e.z → 1 ≤ e.fingers :=
  List.forall_iff_forall_mem.mpr <| (fingers_iff _ (by decide) _).mpr (by decide)

theorem not_fingers : ¬∀ dev ps, AlpsDevice.processPacket dev ≠ .v1V2 →
    ∀ e ∈ events ((decoder dev).out (some {}) ps), 0 < e.z → 1 ≤ e.fingers := by
  intro h
  have := h (setProtocol .v4 0 false 0) [[0x8f, 0x10, 0x20, 0x08, 0x00, 0x30, 0x40, 0x00]] (by decide)
  revert this
  decide +kernel

end Protocols

end Touchpad
