import VoodooPS2.Touchpad.Theorems.Pairing
import VoodooPS2.Touchpad.Theorems.Validity

namespace Touchpad

-- The same packet is saved, or none.
def SamePending (s₁ s₂ : Decoder) : Prop :=
  s₁.multiPacket = s₂.multiPacket ∧ (s₁.multiPacket ≠ 0 → s₁.multiData = s₂.multiData)

-- The same bytes of the bitmaps have been collected.
def SameBitmaps (s₁ s₂ : Decoder) : Prop :=
  s₁.multiPacket = s₂.multiPacket ∧
    ∀ k < 2 * s₁.multiPacket, s₁.multiData.bytes.getD k 0 = s₂.multiData.bytes.getD k 0

-- As far as the touchpads with a trackstick are concerned.
def SameV3V5 (dev : AlpsDevice) (s₁ s₂ : Decoder) : Prop :=
  SamePending s₁ s₂ ∧ (dev.flags &&& alpsDualpoint ≠ 0 → s₁.quirks = s₂.quirks)

-- What is left of the packets from before, as far as the events depend on it.
def SameAssembly (dev : AlpsDevice) (s₁ s₂ : Decoder) : Prop :=
  match dev.processPacket with
  | .v1V2                   => True
  | .v3 _ | .touchpadV3V5 _ => SameV3V5 dev s₁ s₂
  | .v4                     => SameBitmaps s₁ s₂
  | .v7                     => s₁.lastTrackStickButtons = s₂.lastTrackStickButtons
  | .ss4V2                  => SamePending s₁ s₂

section Alike

variable {dev : AlpsDevice} {s₁ s₂ : Decoder} {p : List UInt8}

-- Two ways to process a packet that are alike in what they leave and in the events.
def Alike (R : Decoder → Decoder → Prop) (r₁ r₂ : Option (Decoder × List Call)) : Prop :=
  r₁ = none ∧ r₂ = none ∨
    ∃ a b, r₁ = some a ∧ r₂ = some b ∧ R a.1 b.1 ∧ events a.2 = events b.2

theorem Alike.some {R : Decoder → Decoder → Prop} {a b : Decoder × List Call} (hr : R a.1 b.1)
    (he : events a.2 = events b.2) : Alike R (.some a) (.some b) :=
  .inr ⟨a, b, rfl, rfl, hr, he⟩

theorem events_startDrag {c : Prop} [Decidable c] : events (if c then [.startDrag] else []) = [] := by
  split <;> rfl

theorem processPacketV1V2_events :
    events (alpsProcessPacketV1V2 dev s₁ p).2 = events (alpsProcessPacketV1V2 dev s₂ p).2 := by
  simp only [alpsProcessPacketV1V2, Decoder.dispatch]
  split
  case isTrue  => rfl
  case isFalse => simp only [events_append, events_startDrag]

theorem events_reportTrackstick {x y : Int} {buttons : UInt32} :
    events [reportTrackstick x y buttons] = [] := by
  unfold reportTrackstick
  split <;> rfl

theorem trackstickV3_alike (h : SameV3V5 dev s₁ s₂) :
    SameV3V5 dev (alpsProcessTrackstickPacketV3 dev s₁ p).1 (alpsProcessTrackstickPacketV3 dev s₂ p).1 ∧
    events (alpsProcessTrackstickPacketV3 dev s₁ p).2 =
      events (alpsProcessTrackstickPacketV3 dev s₂ p).2 := by
  unfold alpsProcessTrackstickPacketV3
  split
  case isTrue  => exact ⟨h, rfl⟩
  case isFalse =>
    dsimp only
    refine ⟨⟨h.left, fun hd => ?_⟩, events_reportTrackstick.trans events_reportTrackstick.symm⟩
    simp only [h.right hd]

-- The bitmaps are processed alike, up to the corner that has been chosen for the second touch.
theorem processBitmap_alike (f : AlpsFields) (n₁ n₂ : Int) :
    alpsProcessBitmap dev n₁ f = none ∧ alpsProcessBitmap dev n₂ f = none ∨
    ∃ b₁ b₂, alpsProcessBitmap dev n₁ f = some b₁ ∧ alpsProcessBitmap dev n₂ f = some b₂ ∧
      b₁.fingers = b₂.fingers ∧ b₁.fields = { b₂.fields with mt₁ := b₁.fields.mt₁ } := by
  unfold alpsProcessBitmap
  split
  case isTrue => exact .inr ⟨_, _, rfl, rfl, rfl, rfl⟩
  case isFalse =>
    dsimp only
    generalize corners dev _ _ = c
    rcases c with _ | c
    case none => exact .inl ⟨rfl, rfl⟩
    case some => exact .inr ⟨_, _, rfl, rfl, rfl, rfl⟩

theorem touchesV3V5_alike {d : DecodeFields} (h : SameV3V5 dev s₁ s₂) :
    touchesV3V5 dev s₁ p d = none ∧ touchesV3V5 dev s₂ p d = none ∨
    ∃ t₁ t₂, touchesV3V5 dev s₁ p d = some t₁ ∧ touchesV3V5 dev s₂ p d = some t₂ ∧
      SameV3V5 dev t₁.decoder t₂.decoder ∧ t₁.fingers = t₂.fingers ∧
      t₁.fields = { t₂.fields with mt₁ := t₁.fields.mt₁ } := by
  unfold touchesV3V5
  dsimp only
  by_cases hm : s₁.multiPacket = 0
  case pos =>
    have hm' : ¬s₂.multiPacket ≠ 0 := by simp [← h.left.left, hm]
    rw [if_neg (not_not.mpr hm), if_neg hm']
    exact .inr ⟨_, _, rfl, rfl, h, rfl, rfl⟩
  case neg =>
    have hm' : s₂.multiPacket ≠ 0 := h.left.left ▸ hm
    simp only [if_pos hm, if_pos hm']
    split
    case isFalse => exact .inr ⟨_, _, rfl, rfl, ⟨⟨rfl, fun h => absurd rfl h⟩, h.right⟩, rfl, rfl⟩
    case isTrue =>
      unfold mergeV3V5
      rw [h.left.right hm]
      rcases @processBitmap_alike dev
          (decodeFields dev s₂.multiData.bytes d (decodeFields dev p d {})) s₁.secondTouch s₂.secondTouch
        with ⟨h₁, h₂⟩ | ⟨b₁, b₂, h₁, h₂, hf, hb⟩
      case inl =>
        rw [h₁, h₂]
        exact .inl ⟨rfl, rfl⟩
      case inr =>
        rw [h₁, h₂]
        refine .inr ⟨_, _, rfl, rfl, ⟨⟨h.left.left, fun _ => rfl⟩, h.right⟩, ?_, hb⟩
        simp only [hf]

theorem buttonsV3V5_alike {q₁ q₂ : UInt8} {f : AlpsFields}
    (h : dev.flags &&& alpsDualpoint ≠ 0 → q₁ = q₂) : buttonsV3V5 dev q₁ f = buttonsV3V5 dev q₂ f := by
  unfold buttonsV3V5
  by_cases hd : dev.flags &&& alpsDualpoint ≠ 0
  case pos => rw [h hd]
  case neg => simp only [hd, false_and, if_false]

theorem reportV3V5_alike {t₁ t₂ : Touches} (h : SameV3V5 dev t₁.decoder t₂.decoder)
    (hn : t₁.fingers = t₂.fingers) (hf : t₁.fields = { t₂.fields with mt₁ := t₁.fields.mt₁ }) :
    SameV3V5 dev (reportV3V5 dev t₁).1 (reportV3V5 dev t₂).1 ∧
    events (reportV3V5 dev t₁).2 = events (reportV3V5 dev t₂).2 := by
  have hb : buttonsV3V5 dev t₁.decoder.quirks t₁.fields = buttonsV3V5 dev t₂.decoder.quirks t₂.fields := by
    rw [buttonsV3V5_alike h.right, hf]
    rfl
  have hs : t₁.fields.st = t₂.fields.st := by rw [hf]
  have hm : t₁.fields.mt₀ = t₂.fields.mt₀ := by rw [hf]
  have hp : t₁.fields.pressure = t₂.fields.pressure := by rw [hf]
  simp only [reportV3V5, Decoder.dispatch, hn, hs, hm, hp]
  split
  case isTrue  => exact ⟨⟨⟨rfl, fun h => absurd rfl h⟩, h.right⟩, by simp only [hb]⟩
  case isFalse => exact ⟨⟨⟨rfl, fun h => absurd rfl h⟩, h.right⟩, by simp only [hb]⟩

theorem touchpadV3V5_alike {d : DecodeFields} (h : SameV3V5 dev s₁ s₂) :
    Alike (SameV3V5 dev) (alpsProcessTouchpadPacketV3V5 dev s₁ p d)
      (alpsProcessTouchpadPacketV3V5 dev s₂ p d) := by
  unfold alpsProcessTouchpadPacketV3V5
  rcases touchesV3V5_alike (p := p) (d := d) h with ⟨h₁, h₂⟩ | ⟨t₁, t₂, h₁, h₂, hr, hn, hf⟩
  case inl =>
    rw [h₁, h₂]
    exact .inl ⟨rfl, rfl⟩
  case inr =>
    have hi : t₁.fields.isMp = t₂.fields.isMp := by rw [hf]
    have hc : t₁.fields.firstMp = t₂.fields.firstMp := by rw [hf]
    rw [h₁, h₂, Option.map_some, Option.map_some, hi, hc, hr.left.left]
    split
    case isTrue => exact .some hr rfl
    case isFalse =>
      split
      case isTrue  => exact .some ⟨⟨rfl, fun _ => rfl⟩, hr.right⟩ rfl
      case isFalse =>
        have ⟨hs, he⟩ := reportV3V5_alike hr hn hf
        exact .some hs he

theorem processPacketV7_alike (h : s₁.lastTrackStickButtons = s₂.lastTrackStickButtons) :
    (alpsProcessPacketV7 dev s₁ p).1.lastTrackStickButtons =
      (alpsProcessPacketV7 dev s₂ p).1.lastTrackStickButtons ∧
    events (alpsProcessPacketV7 dev s₁ p).2 = events (alpsProcessPacketV7 dev s₂ p).2 := by
  unfold alpsProcessPacketV7
  split
  case isTrue =>
    unfold alpsProcessTrackstickPacketV7
    split
    case isTrue  => exact ⟨h, rfl⟩
    case isFalse => exact ⟨rfl, events_reportTrackstick.trans events_reportTrackstick.symm⟩
  case isFalse =>
    unfold alpsProcessTouchpadPacketV7
    split
    case h_1 => exact ⟨h, rfl⟩
    case h_2 =>
      simp only [Decoder.dispatch, h]
      exact ⟨trivial, trivial⟩

theorem touchesSS4V2_alike (h : SamePending s₁ s₂) :
    SamePending (touchesSS4V2 dev s₁ p).decoder (touchesSS4V2 dev s₂ p).decoder ∧
    (touchesSS4V2 dev s₁ p).fields = (touchesSS4V2 dev s₂ p).fields ∧
    (touchesSS4V2 dev s₁ p).fingers = (touchesSS4V2 dev s₂ p).fingers := by
  unfold touchesSS4V2
  dsimp only
  by_cases hm : s₁.multiPacket = 0
  case pos =>
    have hm' : ¬s₂.multiPacket ≠ 0 := by simp [← h.left, hm]
    simp only [if_neg (not_not.mpr hm), if_neg hm']
    exact ⟨h, trivial, trivial⟩
  case neg =>
    have hm' : s₂.multiPacket ≠ 0 := h.left ▸ hm
    simp only [if_pos hm, if_pos hm']
    split
    case isTrue  => exact ⟨h, by rw [h.right hm], by rw [h.right hm]⟩
    case isFalse => exact ⟨⟨rfl, fun h => absurd rfl h⟩, rfl, rfl⟩

theorem processPacketSS4V2_alike (h : SamePending s₁ s₂) :
    SamePending (alpsProcessPacketSS4V2 dev s₁ p).1 (alpsProcessPacketSS4V2 dev s₂ p).1 ∧
    events (alpsProcessPacketSS4V2 dev s₁ p).2 = events (alpsProcessPacketSS4V2 dev s₂ p).2 := by
  have ⟨ht, hf, hn⟩ := @touchesSS4V2_alike dev _ _ p h
  simp only [alpsProcessPacketSS4V2, reportSS4V2, Decoder.dispatch, hf, hn, ht.left]
  split
  case isTrue => exact ⟨ht, rfl⟩
  case isFalse =>
    split
    case isTrue => exact ⟨⟨rfl, fun _ => rfl⟩, rfl⟩
    case isFalse =>
      split
      case isTrue  => exact ⟨⟨rfl, fun h => absurd rfl h⟩, rfl⟩
      case isFalse => exact ⟨⟨rfl, fun h => absurd rfl h⟩, rfl⟩

theorem MultiData.getD_set {m : MultiData} {i k : Nat} {data : UInt8} :
    (m.set i data).bytes.getD k 0 = if k = i ∧ i < 6 then data else m.bytes.getD k 0 := by
  simp only [MultiData.set, List.getD_eq_getElem?_getD, List.getElem?_set, m.length_bytes]
  by_cases hk : i = k
  case neg => simp [hk, Ne.symm hk]
  case pos =>
    subst hk
    by_cases hi : i < 6
    case pos => simp [hi]
    case neg => simp [hi, m.length_bytes]

theorem MultiData.ext_getD {m₁ m₂ : MultiData} (h : ∀ k < 6, m₁.bytes.getD k 0 = m₂.bytes.getD k 0) :
    m₁ = m₂ := by
  suffices m₁.bytes = m₂.bytes by
    cases m₁
    cases m₂
    simp_all
  refine List.ext_getElem (m₁.length_bytes.trans m₂.length_bytes.symm) fun k h₁ h₂ => ?_
  simpa [h₁, h₂] using h k (m₁.length_bytes ▸ h₁)

theorem syncV4_alike (h : SameBitmaps s₁ s₂) : SameBitmaps (s₁.syncV4 p) (s₂.syncV4 p) := by
  unfold Decoder.syncV4
  split
  case isTrue  => exact ⟨rfl, fun k hk => absurd hk k.not_lt_zero⟩
  case isFalse => exact h

theorem collectV4_alike (h : SameBitmaps s₁ s₂) : SameBitmaps (s₁.collectV4 p) (s₂.collectV4 p) := by
  refine ⟨congrArg (· + 1) h.left, fun k hk => ?_⟩
  simp only [Decoder.collectV4, MultiData.getD_set, h.left] at hk ⊢
  split
  case isTrue => rfl
  case isFalse h₁ =>
    split
    case isTrue => rfl
    case isFalse h₂ =>
      by_cases hk' : k < 2 * s₁.multiPacket
      case pos => exact h.right k hk'
      case neg =>
        have h₁ : ∀ m : MultiData, m.bytes.getD k 0 = 0 := fun m => by
          have := m.length_bytes
          have := h.left
          simp only [List.getD_eq_getElem?_getD]
          rw [List.getElem?_eq_none (by omega)]
          rfl
        rw [h₁, h₁]

theorem with_mt₁ (f : AlpsFields) : f = { f with mt₁ := f.mt₁ } :=
  rfl

theorem reportV4_alike {t₁ t₂ : Touches} (h : SameBitmaps t₁.decoder t₂.decoder)
    (hn : t₁.fingers = t₂.fingers) (hf : t₁.fields = { t₂.fields with mt₁ := t₁.fields.mt₁ }) :
    Alike SameBitmaps (some (reportV4 t₁)) (some (reportV4 t₂)) := by
  have hs : t₁.fields.st = t₂.fields.st := by rw [hf]
  have hp : t₁.fields.pressure = t₂.fields.pressure := by rw [hf]
  have hb : t₁.fields.buttons = t₂.fields.buttons := by
    rw [hf]
    rfl
  apply Alike.some h
  simp only [reportV4, Decoder.dispatch, hn, hs, hp, hb]

theorem SameBitmaps.of_zero (h₁ : s₁.multiPacket = 0) (h₂ : s₂.multiPacket = 0) : SameBitmaps s₁ s₂ :=
  ⟨h₁.trans h₂.symm, fun k hk => by omega⟩

theorem processPacketV4_alike (h : SameBitmaps s₁ s₂) :
    Alike SameBitmaps (alpsProcessPacketV4 dev s₁ p) (alpsProcessPacketV4 dev s₂ p) := by
  have hs := syncV4_alike (p := p) h
  have hc := collectV4_alike (p := p) hs
  unfold alpsProcessPacketV4
  dsimp only
  rw [hs.left, hc.left]
  by_cases h₁ : (s₂.syncV4 p).multiPacket > 2
  case pos =>
    rw [if_pos h₁, if_pos h₁]
    exact .some hs rfl
  case neg =>
    rw [if_neg h₁, if_neg h₁]
    by_cases h₂ : ((s₂.syncV4 p).collectV4 p).multiPacket > 2
    case neg =>
      rw [if_neg h₂, if_neg h₂]
      exact reportV4_alike hc rfl (with_mt₁ _)
    case pos =>
      rw [if_pos h₂, if_pos h₂]
      have hm : ((s₁.syncV4 p).collectV4 p).multiData = ((s₂.syncV4 p).collectV4 p).multiData :=
        MultiData.ext_getD fun k hk => hc.right k (by have := hc.left; omega)
      rw [hm]
      rcases @processBitmap_alike dev
          (bitmapV4 (fieldsV4 p) ((s₂.syncV4 p).collectV4 p).multiData)
          ((s₁.syncV4 p).collectV4 p).secondTouch ((s₂.syncV4 p).collectV4 p).secondTouch
        with ⟨h₁, h₂⟩ | ⟨b₁, b₂, h₁, h₂, hn, hf⟩
      case inl =>
        rw [h₁, h₂]
        exact .inl ⟨rfl, rfl⟩
      case inr =>
        rw [h₁, h₂]
        exact reportV4_alike (.of_zero rfl rfl) hn hf

end Alike

section Driver

variable {dev : AlpsDevice} {s₁ s₂ : Decoder}

theorem processPacket_alike {p : List UInt8} (h : SameAssembly dev s₁ s₂) :
    Alike (SameAssembly dev) (processPacket dev s₁ p) (processPacket dev s₂ p) := by
  unfold SameAssembly at h ⊢
  unfold processPacket
  cases hd : dev.processPacket <;> simp only [hd] at h ⊢
  case v1V2 => exact .some trivial processPacketV1V2_events
  case v3 =>
    unfold alpsProcessPacketV3
    split
    case isTrue  =>
      have ⟨hr, he⟩ := trackstickV3_alike (p := p) h
      exact .some hr he
    case isFalse => exact touchpadV3V5_alike h
  case touchpadV3V5 => exact touchpadV3V5_alike h
  case v4 => exact processPacketV4_alike h
  case v7 =>
    have ⟨hr, he⟩ := @processPacketV7_alike dev _ _ p h
    exact .some hr he
  case ss4V2 =>
    have ⟨hr, he⟩ := @processPacketSS4V2_alike dev _ _ p h
    exact .some hr he

theorem decoder_alike (h : SameAssembly dev s₁ s₂) (ps : List (List UInt8)) :
    events ((decoder dev).out (some s₁) ps) = events ((decoder dev).out (some s₂) ps) :=
  Mealy.halting_alike (fun _ _ => events_append) (fun _ _ _ _ h => processPacket_alike h) h

-- The framer forgets everything.
theorem promptFramer_initTouchPad {f₁ f₂ : Framer} (bytes : List UInt8) :
    (promptFramer dev.toAlpsData).out (initTouchPad f₁) bytes =
      (promptFramer dev.toAlpsData).out (initTouchPad f₂) bytes := by
  have hs := promptFramer_simulates dev.toAlpsData
  rw [hs.run_out (.of_forall fun _ _ => trivial) initTouchPad_represents,
    hs.run_out (.of_forall fun _ _ => trivial) initTouchPad_represents]

-- As long as the decoder holds the same unfinished packets nothing else that was received before makes
-- a difference afterwards.
theorem initDriver_events (dev : AlpsDevice) (f₁ f₂ : Framer) (s₁ s₂ : Decoder)
    (h : SameAssembly dev s₁ s₂) (bytes : List UInt8) :
    events ((driver dev).out (initDriver (f₁, some s₁)) bytes) =
      events ((driver dev).out (initDriver (f₂, some s₂)) bytes) := by
  simp only [driver, initDriver, Mealy.comp_out]
  rw [@promptFramer_initTouchPad dev f₁ f₂, decoder_alike h]

theorem initDriver_events_position :
    events ((driver (setProtocol .v3 0 true 0)).out
      (initDriver (.zero, some { lastbuttons := 1, secondTouch := -1 })) [0x8f, 0x10, 0x20, 0, 0, 0x30]) =
    events ((driver (setProtocol .v3 0 true 0)).out
      (initDriver (.zero, some {})) [0x8f, 0x10, 0x20, 0, 0, 0x30]) :=
  have h : SameV3V5 (setProtocol .v3 0 true 0) { lastbuttons := 1, secondTouch := -1 } {} :=
    ⟨⟨rfl, fun h => absurd rfl h⟩, fun _ => rfl⟩
  initDriver_events (setProtocol .v3 0 true 0) _ _ _ _ h _

-- The first packet of a pair is received before, and the second one after the touchpad is initialised.
theorem not_initDriver_events : ¬∀ dev bytes₁ bytes₂ bytes,
    events ((driver dev).out (initDriver ((driver dev).state (.zero, some {}) bytes₁)) bytes) =
      events ((driver dev).out (initDriver ((driver dev).state (.zero, some {}) bytes₂)) bytes) := by
  intro h
  have := h (setProtocol .v3 0 true 0) [] [0x8f, 0x10, 0x20, 0x08, 0x40, 0x30]
    [0xcf, 0x7f, 0x7f, 0x0f, 0x00, 0x01]
  revert this
  decide +kernel

end Driver

end Touchpad
