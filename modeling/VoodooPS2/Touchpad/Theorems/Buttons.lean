import VoodooPS2.Touchpad.Theorems.Stale

namespace Touchpad

section V3

-- The packets of the trackstick of version 3, one after the other.
def trackstickV3 (dev : AlpsDevice) : Mealy Decoder (List UInt8) Call where
  step := alpsProcessTrackstickPacketV3 dev

-- A packet that is not bad, and is not the end of a stream.
def ValidTrackstickV3 (p : List UInt8) : Prop :=
  byte p 0 &&& 0x40 ≠ 0 ∧ ¬(byte p 1 = 0x7f ∧ byte p 2 = 0x7f ∧ byte p 3 = 0x7f)
  deriving Decidable

-- The packet is reported with the given mask, which then is the one that is remembered.
def ReportedWith (dev : AlpsDevice) (s : Decoder) (p : List UInt8) (mask : UInt32) : Prop :=
  ∃ x y quirks, alpsProcessTrackstickPacketV3 dev s p =
    ({ s with quirks := quirks, lastbuttons := mask }, [reportTrackstick x y mask])

variable {dev : AlpsDevice} {s : Decoder} {p : List UInt8} {ps : List (List UInt8)} {mask : UInt32}

-- The buttons are those of the packet, whether or not it is the first one that has any.
theorem quirk_buttons {quirks : UInt8} :
    (if (if quirks &&& alpsQuirkTrackstickButtons = 0 ∧ mask ≠ 0 then
        quirks ||| alpsQuirkTrackstickButtons else quirks) &&& alpsQuirkTrackstickButtons ≠ 0
      then mask else 0) = mask := by
  by_cases hm : mask = 0
  case pos => simp [hm]
  case neg =>
    by_cases hq : quirks &&& alpsQuirkTrackstickButtons = 0
    case pos =>
      have hs : (quirks ||| alpsQuirkTrackstickButtons) &&& alpsQuirkTrackstickButtons ≠ 0 := by
        intro h
        have := congrArg (·.toNat.testBit 0) h
        simp [alpsQuirkTrackstickButtons] at this
      rw [if_pos (show _ ∧ _ from ⟨hq, hm⟩), if_pos hs]
    case neg => simp [hq]

-- A packet without buttons is reported with those that are remembered.
theorem reportedWith (hd : dev.flags &&& alpsDualpoint ≠ 0) (hv : ValidTrackstickV3 p) :
    ReportedWith dev s p
      (if buttonMask (byte p 3) = 0 then s.lastbuttons else buttonMask (byte p 3)) := by
  have hn : ¬(dev.flags &&& alpsDualpoint = 0 ∨ byte p 0 &&& 0x40 = 0 ∨
      byte p 1 = 0x7f ∧ byte p 2 = 0x7f ∧ byte p 3 = 0x7f) := by
    intro h
    rcases h with h | h | h
    · exact hd h
    · exact hv.left h
    · exact hv.right h
  unfold ReportedWith alpsProcessTrackstickPacketV3
  rw [if_neg hn]
  simp only [quirk_buttons]
  exact ⟨_, _, _, rfl⟩

theorem ReportedWith.unique {mask' : UInt32} (h : ReportedWith dev s p mask)
    (h' : ReportedWith dev s p mask') : mask = mask' := by
  have ⟨_, _, _, h⟩ := h
  have ⟨_, _, _, h'⟩ := h'
  exact congrArg (·.1.lastbuttons) (h.symm.trans h')

theorem ReportedWith.lastbuttons (h : ReportedWith dev s p mask) :
    ((trackstickV3 dev).step s p).1.lastbuttons = mask := by
  have ⟨_, _, _, h⟩ := h
  exact congrArg (·.1.lastbuttons) h

-- Along the sequence every packet is reported with its own buttons.
def ButtonsReported (dev : AlpsDevice) : Decoder → List (List UInt8) → Prop :=
  (trackstickV3 dev).Along fun s p => ReportedWith dev s p (buttonMask (byte p 3))

-- A packet with buttons is not followed by one without.
def NeverReleased (ps : List (List UInt8)) : Prop :=
  ps.Pairwise fun p q => buttonMask (byte q 3) = 0 → buttonMask (byte p 3) = 0
  deriving Decidable

-- A packet is reported with its own buttons, unless there are none and some are remembered.
theorem reportedWith_iff (hd : dev.flags &&& alpsDualpoint ≠ 0) (hv : ValidTrackstickV3 p) :
    ReportedWith dev s p (buttonMask (byte p 3)) ↔ (buttonMask (byte p 3) = 0 → s.lastbuttons = 0) := by
  have hr := @reportedWith dev s p hd hv
  constructor
  case mp =>
    intro h hm
    simpa [hm] using hr.unique h
  case mpr =>
    intro h
    by_cases hm : buttonMask (byte p 3) = 0
    case pos => simpa [hm, h hm] using hr
    case neg => simpa [hm] using hr

-- From a state on that remembers buttons, each packet has to have some.
theorem buttonsReported_iff (hd : dev.flags &&& alpsDualpoint ≠ 0) (hv : ∀ p ∈ ps, ValidTrackstickV3 p) :
    ButtonsReported dev s ps ↔
      NeverReleased ps ∧ (s.lastbuttons ≠ 0 → ∀ p ∈ ps, buttonMask (byte p 3) ≠ 0) := by
  induction ps generalizing s
  case nil => simp [ButtonsReported, Mealy.Along, NeverReleased]
  case cons p ps hi =>
    have hvp := hv p List.mem_cons_self
    have hi := @hi ((trackstickV3 dev).step s p).1 fun q hq => hv q (List.mem_cons_of_mem p hq)
    simp only [ButtonsReported, Mealy.Along, reportedWith_iff hd hvp] at hi ⊢
    rw [hi, NeverReleased, NeverReleased, List.pairwise_cons, (reportedWith hd hvp).lastbuttons,
      List.forall_mem_cons]
    by_cases hm : buttonMask (byte p 3) = 0
    case pos =>
      rw [if_pos hm]
      constructor
      case mp =>
        rintro ⟨hl, hn, _⟩
        exact ⟨⟨fun _ _ _ => hm, hn⟩, absurd (hl hm)⟩
      case mpr =>
        rintro ⟨⟨_, hn⟩, hb⟩
        have hl : s.lastbuttons = 0 := by
          by_contra hl
          exact (hb hl).left hm
        exact ⟨fun _ => hl, hn, absurd hl⟩
    case neg =>
      rw [if_neg hm]
      constructor
      case mp =>
        rintro ⟨_, hn, hb⟩
        have hb := hb hm
        exact ⟨⟨fun q hq h => absurd h (hb q hq), hn⟩, fun _ => ⟨hm, hb⟩⟩
      case mpr =>
        rintro ⟨⟨hp, hn⟩, _⟩
        exact ⟨(absurd · hm), hn, fun _ q hq h => hm (hp q hq h)⟩

-- If no button is held to begin with the buttons of the packets are reported as long as none is released.
theorem trackstickV3_buttonsReported_iff (dev : AlpsDevice) (s : Decoder) (ps : List (List UInt8))
    (hd : dev.flags &&& alpsDualpoint ≠ 0) (hv : ∀ p ∈ ps, ValidTrackstickV3 p) (hs : s.lastbuttons = 0) :
    ButtonsReported dev s ps ↔ NeverReleased ps := by
  rw [buttonsReported_iff hd hv]
  exact and_iff_left fun h => absurd hs h

-- The left button of the trackstick is pressed.
theorem trackstickV3_buttonsReported_press :
    ButtonsReported (setProtocol .v3 0 false 0) {}
      [[0x48, 0x04, 0x02, 0x00, 0x00, 0x3f], [0x48, 0x04, 0x02, 0x01, 0x00, 0x3f]] :=
  (trackstickV3_buttonsReported_iff _ _ _ (by decide) (by decide) rfl).mpr (by decide)

-- It is released while the trackstick is moved.
theorem not_trackstickV3_buttonsReported : ¬∀ dev s ps,
    dev.flags &&& alpsDualpoint ≠ 0 → (∀ p ∈ ps, ValidTrackstickV3 p) → s.lastbuttons = 0 →
      ButtonsReported dev s ps := by
  intro h
  have hb := h (setProtocol .v3 0 false 0) {}
    [[0x48, 0x04, 0x02, 0x01, 0x00, 0x3f], [0x48, 0x04, 0x02, 0x00, 0x00, 0x3f]]
    (by decide) (by decide) rfl
  exact absurd hb.right.left.lastbuttons (by decide)

end V3

section V7

-- The packets of version 7, one after the other.
def decoderV7 (dev : AlpsDevice) : Mealy Decoder (List UInt8) Call where
  step := alpsProcessPacketV7 dev

def IsTrackstickV7 (p : List UInt8) : Prop :=
  byte p 0 = 0x48 ∧ byte p 4 &&& 0x47 = 0x06
  deriving Decidable

-- A packet of the touchpad that announces a discontinuity of the coordinates.
def IsNewV7 (p : List UInt8) : Prop :=
  ¬IsTrackstickV7 p ∧ alpsGetPacketIDV7 p = .new
  deriving Decidable

-- A packet of the touchpad that is decoded.
def IsDecodedV7 (p : List UInt8) : Prop :=
  ¬IsTrackstickV7 p ∧ alpsGetPacketIDV7 p ≠ .unknown
  deriving Decidable

def Call.isReport : Call → Bool
  | .dispatchEventsWithInfo _ | .dispatchRelativePointerEvent .. => true
  | _                                                            => false

-- The touches and the movements among the calls.
def reports (calls : List Call) : List Call :=
  calls.filter Call.isReport

def withoutNewV7 (ps : List (List UInt8)) : List (List UInt8) :=
  ps.filter fun p => ¬IsNewV7 p

-- It makes no difference whether the packets that announce a discontinuity are there.
structure NewIgnored (dev : AlpsDevice) (s : Decoder) (ps : List (List UInt8)) : Prop where
  reports    : reports ((decoderV7 dev).out s (withoutNewV7 ps)) = reports ((decoderV7 dev).out s ps)
  touchpad   : ((decoderV7 dev).state s (withoutNewV7 ps)).lastTouchpadButtons =
    ((decoderV7 dev).state s ps).lastTouchpadButtons
  trackstick : ((decoderV7 dev).state s (withoutNewV7 ps)).lastTrackStickButtons =
    ((decoderV7 dev).state s ps).lastTrackStickButtons

variable {dev : AlpsDevice} {s : Decoder} {p : List UInt8} {ps : List (List UInt8)}

theorem events_reports {calls : List Call} : events (reports calls) = events calls := by
  induction calls
  case nil => rfl
  case cons c cs hi =>
    cases c
    case dispatchEventsWithInfo e => exact congrArg (e :: ·) hi
    all_goals exact hi

theorem IsNewV7.decoded (h : IsNewV7 p) : IsDecodedV7 p :=
  ⟨h.left, by simp [h.right]⟩

-- A packet that announces a discontinuity is taken for the release of everything on the touchpad.
theorem IsNewV7.processed (h : IsNewV7 p) : alpsProcessPacketV7 dev s p =
    ({ s with lastTouchpadButtons := 0 }.dispatch ⟨0, reverseY dev 0, 0, 0, s.lastTrackStickButtons⟩) := by
  have hn : ¬(byte p 0 = 0x48 ∧ byte p 4 &&& 0x47 = 0x06) := h.left
  simp [alpsProcessPacketV7, hn, alpsProcessTouchpadPacketV7, alpsDecodePacketV7, h.right,
    AlpsFields.buttons, toInt]

theorem isSome_ite {α : Type} {c : Prop} [Decidable c] {a b : α} : (if c then some a else some b).isSome := by
  split <;> rfl

theorem alpsDecodePacketV7_isSome {f : AlpsFields} {flags : UInt32} :
    (alpsDecodePacketV7 f p flags).isSome ↔ alpsGetPacketIDV7 p ≠ .unknown := by
  unfold alpsDecodePacketV7
  cases alpsGetPacketIDV7 p
  case idle | unknown | new => simp
  case two | multi          => exact iff_of_true isSome_ite nofun

-- Every packet that is decoded is an event, whatever has been there before.
theorem events_alpsProcessPacketV7 :
    (events (alpsProcessPacketV7 dev s p).2).length = if IsDecodedV7 p then 1 else 0 := by
  unfold alpsProcessPacketV7
  split
  case isTrue h =>
    have hd : ¬IsDecodedV7 p := fun hd => hd.left h
    rw [if_neg hd, alpsProcessTrackstickPacketV7]
    split
    case isTrue  => rfl
    case isFalse => exact congrArg List.length events_reportTrackstick
  case isFalse h =>
    unfold alpsProcessTouchpadPacketV7
    cases hf : alpsDecodePacketV7 {} p dev.flags
    case none =>
      have hd : ¬IsDecodedV7 p := by
        intro hd
        have hs : (alpsDecodePacketV7 {} p dev.flags).isSome := alpsDecodePacketV7_isSome.mpr hd.right
        simp [hf] at hs
      rw [if_neg hd]
      rfl
    case some f =>
      have hd : IsDecodedV7 p := ⟨h, alpsDecodePacketV7_isSome.mp (by rw [hf]; rfl)⟩
      rw [if_pos hd]
      rfl

theorem events_decoderV7 : (events ((decoderV7 dev).out s ps)).length = ps.countP (IsDecodedV7 ·) := by
  induction ps generalizing s
  case nil          => rfl
  case cons p ps hi =>
    rw [Mealy.out_cons, events_append, List.length_append, hi, List.countP_cons]
    have := @events_alpsProcessPacketV7 dev s p
    simp only [decoderV7, this, decide_eq_true_eq]
    omega

theorem withoutNewV7_eq_self : withoutNewV7 ps = ps ↔ ∀ p ∈ ps, ¬IsNewV7 p := by
  simp [withoutNewV7, List.filter_eq_self]

-- The events that are missing are the ones of the packets that have been removed.
theorem countP_withoutNewV7 :
    (withoutNewV7 ps).countP (IsDecodedV7 ·) + ps.countP (IsNewV7 ·) = ps.countP (IsDecodedV7 ·) := by
  induction ps
  case nil => rfl
  case cons p ps hi =>
    by_cases h : IsNewV7 p
    case pos => simp [withoutNewV7, h, h.decoded] at hi ⊢; omega
    case neg => simp [withoutNewV7, h, List.countP_cons] at hi ⊢; omega

-- The packets are only ignored where there are none.
theorem decoderV7_newIgnored_iff (dev : AlpsDevice) (s : Decoder) (ps : List (List UInt8)) :
    NewIgnored dev s ps ↔ ∀ p ∈ ps, ¬IsNewV7 p := by
  constructor
  case mp =>
    intro h
    have he := congrArg events h.reports
    have he := congrArg List.length (events_reports.symm.trans (he.trans events_reports))
    rw [events_decoderV7, events_decoderV7, ← @countP_withoutNewV7 ps] at he
    have : ps.countP (IsNewV7 ·) = 0 := by omega
    simpa using List.countP_eq_zero.mp this
  case mpr =>
    intro h
    rw [← withoutNewV7_eq_self] at h
    exact ⟨by rw [h], by rw [h], by rw [h]⟩

-- A finger rests on the pad while the left button is held.
theorem not_decoderV7_newIgnored : ¬∀ dev s ps, NewIgnored dev s ps := by
  intro h
  have := (h (setProtocol .v7 0 false 0) {}
    [[0x80, 0x20, 0x20, 0x00, 0x40, 0x80], [0x10, 0x20, 0x20, 0x00, 0x00, 0x80]]).touchpad
  exact absurd this (by decide)

end V7

end Touchpad
