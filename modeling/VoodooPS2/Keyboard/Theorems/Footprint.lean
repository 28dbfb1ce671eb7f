import VoodooPS2.Keyboard.Theorems.Access

namespace Keyboard

theorem update_congr {α : Type} {t t' : Nat → α} {n m : Nat} (f : α → α) (h : t n = t' n) :
    Function.update t m (f (t m)) n = Function.update t' m (f (t' m)) n := by
  rw [Function.update_apply, Function.update_apply]
  split
  case isTrue hm => rw [← hm, h]
  case isFalse   => exact h

section Loaders

variable {α : Type} {access : Nat → TableAccess} {t t' : Nat → α} {n : Nat} {pArray : List (Option CString)}

namespace Changes

variable {entry : (Nat → α) → Nat → α} {as : List TableAccess}

theorem frame (h : Changes access entry as) (hn : access n ∉ as) : entry t n = t n := by
  cases h
  case skip he     => rw [he]
  case update _ he =>
    rw [he]
    exact Function.update_of_ne (fun hm => hn (List.mem_singleton.mpr (congrArg access hm))) ..

theorem congr (h : Changes access entry as) (ht : t n = t' n) : entry t n = entry t' n := by
  cases h
  case skip he       => rwa [he, he]
  case update f _ he => rw [he, he, update_congr f ht]

end Changes

variable {entry : (Nat → α) → CString → Nat → α} {accesses : CString → List TableAccess}

theorem loadEntries_append {σ : Type} {entry : σ → CString → σ} {es es' : List (Option CString)} {t : σ} :
    loadEntries entry (es ++ es') t = loadEntries entry es' (loadEntries entry es t) :=
  List.foldl_append

theorem loadEntries_frame (h : ∀ psz, Changes access (entry · psz) (accesses psz))
    (hn : access n ∉ loadAccesses accesses pArray) : loadEntries entry pArray t n = t n := by
  induction pArray using List.reverseRecOn
  case nil => rfl
  case append_singleton pArray pString hi =>
    rw [loadAccesses, loadEntries_append] at hn
    rw [loadEntries_append]
    cases pString
    case none     => exact hi hn
    case some psz =>
      dsimp only [loadEntries, List.foldl_cons, List.foldl_nil] at hn ⊢
      by_cases hc : psz.head? = some ';'
      case pos =>
        rw [if_pos hc] at hn ⊢
        exact hi hn
      case neg =>
        rw [if_neg hc, List.mem_append, not_or] at hn
        rw [if_neg hc]
        exact ((h psz).frame hn.right).trans (hi hn.left)

theorem loadEntries_congr (h : ∀ psz, Changes access (entry · psz) (accesses psz)) (ht : t n = t' n) :
    loadEntries entry pArray t n = loadEntries entry pArray t' n := by
  induction pArray generalizing t t'
  case nil => exact ht
  case cons pString pArray hi =>
    apply hi
    cases pString
    case none     => exact ht
    case some psz =>
      dsimp only
      split
      case isTrue  => exact ht
      case isFalse => exact (h psz).congr ht

end Loaders

-- The element is the same in the tables that a packet is dispatched with.
def TableAccess.Same (cfg cfg' : Config) (v v' : KeyBits) : TableAccess → Prop
  | ps2flags index      => cfg.ps2flags index = cfg'.ps2flags index
  | ps2ToPS2Map index   => cfg.ps2ToPS2Map index = cfg'.ps2ToPS2Map index
  | ps2ToADBMap index   => cfg.ps2ToADBMap index = cfg'.ps2ToADBMap index
  | ps2ToADBMapMapped _ => True
  | keyBitVector unit   => v unit = v' unit

-- Only the tables of the two configurations differ.
def Config.SameSettings (cfg cfg' : Config) : Prop :=
  ∃ ps2ToPS2Map ps2flags ps2ToADBMap, cfg' =
    { cfg with ps2ToPS2Map := ps2ToPS2Map, ps2flags := ps2flags, ps2ToADBMap := ps2ToADBMap }

section Congr

variable {cfg cfg' : Config} {v v' : KeyBits} {d : Dispatcher} {n keyCode : Nat} {on : Bool}
variable {packet : List UInt8}

theorem isKeyDown_congr (h : v (n >>> 5) = v' (n >>> 5)) : v.isKeyDown n = v'.isKeyDown n := by
  rw [KeyBits.isKeyDown, KeyBits.isKeyDown, h]

theorem breakless_congr (h : cfg.ps2flags n = cfg'.ps2flags n) :
    Breakless cfg.ps2flags n ↔ Breakless cfg'.ps2flags n := by
  rw [Breakless, Breakless, h]

theorem trackModifier_congr (h : cfg.ps2flags n = cfg'.ps2flags n) :
    d.trackModifier cfg n on = d.trackModifier cfg' n on := by
  rw [Dispatcher.trackModifier, Dispatcher.trackModifier, h]

theorem liftedKeys_congr {state : UInt16} (h : ∀ a ∈ liftedAccesses v state, a.Same cfg cfg' v v') :
    liftedKeys v state = liftedKeys v' state ∧
    ∀ key ∈ liftedKeys v state, cfg.ps2ToADBMap key = cfg'.ps2ToADBMap key := by
  simp only [liftedAccesses, List.mem_flatMap] at h
  dsimp only [liftedKeys]
  generalize (if checkModifierState state kMaskLeftWindows then [0x1d] else [0x2a, 0x1d]) = keys at h ⊢
  constructor
  case left =>
    refine List.filter_congr fun key hk => isKeyDown_congr ?_
    exact h (.key key) ⟨key, hk, List.mem_cons_self⟩
  case right =>
    intro key hk
    have ⟨hk, hd⟩ := List.mem_filter.mp hk
    exact h (.ps2ToADBMap key) ⟨key, hk, by simp [hd]⟩

theorem switchKeyCode_congr (hs : cfg.SameSettings cfg')
    (h : ∀ a ∈ switchKeyCodeAccesses cfg v d.ps2modifierState keyCode, a.Same cfg cfg' v v') :
    switchKeyCode cfg v d keyCode on = switchKeyCode cfg' v' d keyCode on := by
  obtain ⟨m, f, b, rfl⟩ := hs
  by_cases hh : HacksBrightness cfg d.ps2modifierState keyCode
  case neg =>
    dsimp only [switchKeyCode, toggleFKeyMode]
    by_cases hk : keyCode = 0x4e ∨ keyCode = 0x4a
    case neg => rw [if_neg hk, if_neg hk]
    case pos =>
      rw [if_pos hk, if_pos hk]
      by_cases hb : cfg.backlightLevels ∧
        checkModifierState d.ps2modifierState (kMaskLeftControl ||| kMaskLeftAlt)
      case pos => rw [if_pos hb, if_pos hb]
      case neg =>
        have hn : ¬(cfg.brightnessHack ∧
            checkModifierState d.ps2modifierState (kMaskLeftControl ||| kMaskLeftShift)) :=
          fun hn => hh ⟨hk, hb, hn⟩
        rw [if_neg hb, if_neg hb, if_neg hn, if_neg hn]
  case pos =>
    have ⟨hk, hb, hh⟩ := hh
    rw [switchKeyCodeAccesses, if_pos hk, if_neg hb, if_pos hh] at h
    have ⟨hl, hm⟩ := liftedKeys_congr fun a ha => h a (List.mem_append_left _ ha)
    dsimp only [switchKeyCode]
    rw [if_pos hk, if_pos hk, if_neg hb, if_neg hb, if_pos hh, if_pos hh, ← hl]
    have hd (on : Bool) := List.map_congr_left fun key hk =>
      congrArg (Effect.dispatchKeyboardEvent · on) (hm key hk)
    rw [hd, hd]

theorem sendKey_congr (hs : cfg.SameSettings cfg') {adbKeyCode : UInt8} {eatKey : Bool}
    (h : ∀ a ∈ sendKeyAccesses cfg n keyCode adbKeyCode eatKey, a.Same cfg cfg' v v') :
    sendKey cfg d n keyCode adbKeyCode on eatKey = sendKey cfg' d n keyCode adbKeyCode on eatKey := by
  obtain ⟨m, f, b, rfl⟩ := hs
  dsimp only [sendKey]
  by_cases hc : adbKeyCode = 0x39 ∧ cfg.versionMajor ≥ 16
  case pos => rw [if_pos hc, if_pos hc]
  case neg =>
    rw [if_neg hc, if_neg hc]
    by_cases hk : keyCode ≠ 0 ∧ eatKey = false
    case neg => rw [if_neg hk, if_neg hk]
    case pos =>
      rw [sendKeyAccesses, if_neg hc, if_pos hk, List.forall_mem_singleton] at h
      have hf : Breakless cfg.ps2flags n ↔ Breakless f n := breakless_congr h
      simp only [hf]

theorem switchADBKeyCode_congr (hs : cfg.SameSettings cfg') {adbKeyCode : UInt8} :
    switchADBKeyCode cfg d adbKeyCode on = switchADBKeyCode cfg' d adbKeyCode on := by
  obtain ⟨m, f, b, rfl⟩ := hs
  rfl

theorem evaluateRKA_congr (hs : cfg.SameSettings cfg') :
    evaluateRKA cfg keyCode on = evaluateRKA cfg' keyCode on := by
  obtain ⟨m, f, b, rfl⟩ := hs
  rfl

theorem dispatchKey_congr (hs : cfg.SameSettings cfg')
    (h : ∀ a ∈ dispatchKeyAccesses cfg v d n on, a.Same cfg cfg' v v') :
    dispatchKey cfg v d n on = dispatchKey cfg' v' d n on := by
  simp only [dispatchKeyAccesses, List.forall_mem_append, List.forall_mem_cons] at h
  obtain ⟨⟨hm, hf, hk⟩, ha, hn⟩ := h
  have hm : cfg.ps2ToPS2Map n = cfg'.ps2ToPS2Map n := hm
  simp only [dispatchKey]
  rw [← trackModifier_congr hf, ← hm, ← switchKeyCode_congr hs hk, ← evaluateRKA_congr hs]
  generalize switchKeyCode cfg v _ _ on = r at ha hn ⊢
  have ha : cfg.ps2ToADBMap r.2.1 = cfg'.ps2ToADBMap r.2.1 := ha
  rw [← ha, ← switchADBKeyCode_congr hs]
  generalize switchADBKeyCode cfg r.1 _ on = t at hn ⊢
  rw [← sendKey_congr hs hn]

-- What is done for a packet is determined by the elements that are accessed.
theorem dispatch_congr (hs : cfg.SameSettings cfg')
    (h : ∀ a ∈ dispatchAccesses cfg v d packet, a.Same cfg cfg' v v') :
    dispatchKeyboardEventWithPacket cfg v d packet = dispatchKeyboardEventWithPacket cfg' v' d packet := by
  dsimp only [dispatchAccesses] at h
  dsimp only [dispatchKeyboardEventWithPacket]
  split_ifs at h ⊢ with hl hp
  · have ha : cfg.ps2ToADBMap _ = cfg'.ps2ToADBMap _ := h _ List.mem_cons_self
    rw [ha]
  · rfl
  · exact dispatchKey_congr hs h

variable {s : Scanner} {extended data : UInt8}

-- Two results of the scanner that differ in the bits of the keys alone. Those that were the same before are
-- still the same.
def ScansAlike (v v' : KeyBits) (r r' : Scanner × Option (UInt8 × UInt8)) : Prop :=
  ∃ v₁, r' = ({ r.1 with keyBitVector := v₁ }, r.2) ∧ ∀ unit, v unit = v' unit → r.1.keyBitVector unit = v₁ unit

theorem key_congr (h : ∀ a ∈ s.keyAccesses cfg.ps2flags extended data, a.Same cfg cfg' s.keyBitVector v') :
    ScansAlike s.keyBitVector v' (s.key cfg.ps2flags extended data)
      ({ s with keyBitVector := v' }.key cfg'.ps2flags extended data) := by
  simp only [Scanner.keyAccesses, List.forall_mem_cons] at h
  have hb := breakless_congr h.left
  simp only [Scanner.key, ← hb]
  by_cases hl : Breakless cfg.ps2flags (keyCodeRaw extended data)
  case pos =>
    rw [if_pos hl, if_pos hl]
    exact ⟨v', rfl, fun _ => id⟩
  case neg =>
    rw [if_neg hl] at h
    rw [if_neg hl, if_neg hl]
    by_cases hu : data &&& kSCUpBit = 0
    case neg =>
      rw [if_neg hu, if_neg hu]
      exact ⟨_, rfl, fun _ => update_congr (· &&& ~~~(1#32 <<< (keyCodeRaw extended data &&& 31)))⟩
    case pos =>
      have hv : s.keyBitVector.isKeyDown (keyCodeRaw extended data) = v'.isKeyDown (keyCodeRaw extended data) :=
        isKeyDown_congr (h.right (.key _) (by split_ifs <;> exact List.mem_cons_self))
      rw [if_pos hu, if_pos hu, ← hv]
      split
      case isTrue  => exact ⟨v', rfl, fun _ => id⟩
      case isFalse => exact ⟨_, rfl, fun _ => update_congr (· ||| 1#32 <<< (keyCodeRaw extended data &&& 31))⟩

-- So is the packet that is buffered for a byte.
theorem scan_congr (h : ∀ a ∈ s.accesses cfg.ps2flags data, a.Same cfg cfg' s.keyBitVector v') :
    ScansAlike s.keyBitVector v' (s.scan cfg.ps2flags data)
      ({ s with keyBitVector := v' }.scan cfg'.ps2flags data) := by
  by_cases hz : s.lastdata = kSCReset ∧ data = 0
  case pos =>
    rw [Scanner.scan, Scanner.scan, if_pos hz, if_pos hz]
    exact ⟨v', rfl, fun _ => id⟩
  by_cases hr : Key.Reserved data
  case pos =>
    obtain ⟨_, he⟩ := scan_reserved hr
    rw [he, he]
    exact ⟨v', rfl, fun _ => id⟩
  rw [scan_cases hz hr, @scan_cases cfg'.ps2flags { s with keyBitVector := v' } data hz hr]
  rw [Scanner.accesses, if_neg hz, if_neg hr] at h
  split_ifs at h ⊢
  · exact key_congr (s := { s with lastdata := data, extendCount := 0 }) h
  · exact ⟨v', rfl, fun _ => id⟩

theorem key_frame {ps2flags : Nat → UInt16} {unit : Nat}
    (h : .keyBitVector unit ∉ s.keyAccesses ps2flags extended data) :
    (s.key ps2flags extended data).1.keyBitVector unit = s.keyBitVector unit := by
  have hn {n : Nat} {as : List TableAccess} (h : .keyBitVector unit ∉ .key n :: as) : unit ≠ n >>> 5 :=
    fun he => h (he ▸ List.mem_cons_self)
  simp only [Scanner.keyAccesses, List.mem_cons, reduceCtorEq, false_or] at h
  dsimp only [Scanner.key]
  split_ifs at h ⊢
  · rfl
  · rfl
  · exact Function.update_of_ne (hn h) ..
  · exact Function.update_of_ne (hn h) ..

-- The bits of the keys only change where they are accessed.
theorem scan_frame {ps2flags : Nat → UInt16} {unit : Nat}
    (h : .keyBitVector unit ∉ s.accesses ps2flags data) :
    (s.scan ps2flags data).1.keyBitVector unit = s.keyBitVector unit := by
  by_cases hz : s.lastdata = kSCReset ∧ data = 0
  case pos => rw [Scanner.scan, if_pos hz]
  by_cases hr : Key.Reserved data
  case pos =>
    obtain ⟨_, he⟩ := scan_reserved hr
    rw [he]
  rw [scan_cases hz hr]
  rw [Scanner.accesses, if_neg hz, if_neg hr] at h
  split_ifs at h ⊢
  · exact key_frame h
  · rfl

-- Every key is looked at when the keyboard is initialised.
theorem mem_initKeyboardAccesses {scanCodes : List Nat} (hn : n ∈ scanCodes) :
    .key n ∈ initKeyboardAccesses cfg v d scanCodes := by
  induction scanCodes generalizing d
  case nil => cases hn
  case cons scanCode scanCodes hi =>
    rw [initKeyboardAccesses]
    cases hn
    case head    => exact List.mem_cons_self
    case tail hn =>
      apply List.mem_cons_of_mem
      split
      case isTrue  => exact List.mem_append_right _ (hi hn)
      case isFalse => exact hi hn

theorem initKeyboard_congr {scanCodes : List Nat} (hs : cfg.SameSettings cfg') (time : UInt64)
    (h : ∀ a ∈ initKeyboardAccesses cfg v d scanCodes, a.Same cfg cfg' v v') :
    Inverter.dispatchAll cfg v d ((scanCodes.filter (v.isKeyDown ·)).map (Driver.keyUpPacket time)) =
      Inverter.dispatchAll cfg' v' d ((scanCodes.filter (v'.isKeyDown ·)).map (Driver.keyUpPacket time)) := by
  induction scanCodes generalizing d
  case nil => rfl
  case cons scanCode scanCodes hi =>
    rw [initKeyboardAccesses, List.forall_mem_cons] at h
    have hv := isKeyDown_congr h.left
    rw [List.filter_cons, List.filter_cons, ← hv]
    by_cases hd : v.isKeyDown scanCode
    case neg =>
      rw [if_neg hd] at h
      rw [if_neg hd, if_neg hd]
      exact hi h.right
    case pos =>
      rw [if_pos hd, List.forall_mem_append] at h
      have he := dispatch_congr hs h.right.left
      rw [if_pos hd, if_pos hd, List.map_cons, List.map_cons, Inverter.dispatchAll, Inverter.dispatchAll,
        Inverter.dispatch, Inverter.dispatch]
      have hp : (Driver.keyUpPacket time scanCode).keyData = (Driver.keyUpPacket 0 scanCode).keyData := rfl
      rw [hp, ← he, hi h.right.right]

end Congr

section Interrupt

variable {ps2flags ps2flags' : Nat → UInt16} {r : Receiver} {now : UInt64} {data : UInt8} {v v₁ : KeyBits}

theorem interruptOccurredAt_scanner :
    (interruptOccurredAt ps2flags r now data).scanner = (r.scanner.scan ps2flags data).1 := by
  cases h : (r.scanner.scan ps2flags data).2
  case none => rw [interruptOccurredAt_of_none h]
  case some => rw [interruptOccurredAt_of_some h, Receiver.bufferAt_scanner]

def Receiver.withKeyBits (r : Receiver) (v : KeyBits) : Receiver :=
  { r with scanner := { r.scanner with keyBitVector := v } }

theorem interruptOccurredAt_congr
    (h : { r.scanner with keyBitVector := v }.scan ps2flags' data =
      ({ (r.scanner.scan ps2flags data).1 with keyBitVector := v₁ }, (r.scanner.scan ps2flags data).2)) :
    interruptOccurredAt ps2flags' (r.withKeyBits v) now data =
      (interruptOccurredAt ps2flags r now data).withKeyBits v₁ := by
  simp only [interruptOccurredAt, Receiver.withKeyBits, h]
  cases (r.scanner.scan ps2flags data).2 <;> rfl

-- Nothing is left of the bits.
theorem Driver.initKeyboard_receiver {cfg : Config} {s : Driver} {time : UInt64} :
    (s.initKeyboard cfg time).1.receiver.withKeyBits (fun _ => 0) = (s.initKeyboard cfg time).1.receiver :=
  rfl

theorem Driver.initKeyboard_withKeyBits {cfg cfg' : Config} {s : Driver} {time : UInt64}
    (hs : cfg.SameSettings cfg') (h : ∀ a ∈ initKeyboardAccesses cfg s.receiver.scanner.keyBitVector
      s.inverter.dispatcher (List.range kbvNumKeycodes), a.Same cfg cfg' s.receiver.scanner.keyBitVector v) :
    Driver.initKeyboard cfg' time { s with receiver := s.receiver.withKeyBits v } = s.initKeyboard cfg time := by
  have he := initKeyboard_congr hs time h
  dsimp only [Driver.initKeyboard, Receiver.withKeyBits]
  rw [he]

end Interrupt

namespace Configured

def keyBits (s : Configured) : KeyBits :=
  s.driver.receiver.scanner.keyBitVector

-- What is put out in a step, besides the changes of the tables and of the registers.
def events (s : Configured) : TableAct → List Event
  | .dispatch packet   =>
    (dispatchKeyboardEventWithPacket s.cfg s.keyBits s.driver.inverter.dispatcher packet).2.map .effect
  | .initKeyboard time => (s.driver.initKeyboard s.cfg time).2
  | _                  => []

-- Two keyboards of which only the tables differ.
structure SameRegisters (s s' : Configured) : Prop where
  settings : s.cfg.SameSettings s'.cfg
  driver   : ∃ v, s'.driver = { s.driver with receiver := s.driver.receiver.withKeyBits v }

end Configured

-- The element is the same in two keyboards.
def TableAccess.Agrees (s s' : Configured) : TableAccess → Prop
  | ps2ToADBMapMapped index => s.ps2ToADBMapMapped index = s'.ps2ToADBMapMapped index
  | access                  => access.Same s.cfg s'.cfg s.keyBits s'.keyBits

theorem TableAccess.Agrees.same {s s' : Configured} {access : TableAccess} (h : access.Agrees s s') :
    access.Same s.cfg s'.cfg s.keyBits s'.keyBits := by
  cases access
  case ps2ToADBMapMapped => trivial
  all_goals exact h

namespace Configured

-- Where the listed elements are the same a step does the same, and other elements that are the same stay so.
def ReadsOnly (s : Configured) (a : TableAct) (as : List TableAccess) : Prop :=
  ∀ s', s.SameRegisters s' → (∀ x ∈ as, x.Agrees s s') →
    s'.events a = s.events a ∧ (s.step a).1.SameRegisters (s'.step a).1 ∧
    ∀ x : TableAccess, x.Agrees s s' → x.Agrees (s.step a).1 (s'.step a).1

-- All elements but the listed ones are left as they are.
def WritesOnly (s : Configured) (a : TableAct) (as : List TableAccess) : Prop :=
  ∀ x, x.InBounds → x ∉ as → x.Agrees s (s.step a).1

theorem step_reads (s : Configured) (a : TableAct) : s.ReadsOnly a (s.step a).2 := by
  rintro ⟨cfg', mapped', driver'⟩ ⟨hs, v, hv⟩ h
  obtain ⟨cfg, mapped, driver⟩ := s
  obtain rfl : driver' = { driver with receiver := driver.receiver.withKeyBits v } := hv
  have hs : cfg.SameSettings cfg' := hs
  have hc : ∀ x ∈ (step ⟨cfg, mapped, driver⟩ a).2, x.Same cfg cfg' driver.receiver.scanner.keyBitVector v :=
    fun x hx => (h x hx).same
  cases a
  case loadCustomPS2Map pArray =>
    obtain ⟨m, f, b, rfl⟩ := hs
    refine ⟨rfl, ⟨⟨loadCustomPS2Map pArray m, f, b, rfl⟩, v, rfl⟩, fun x hx => ?_⟩
    cases x
    case ps2ToPS2Map => exact loadEntries_congr customPS2MapEntry_changes hx
    all_goals exact hx
  case loadBreaklessPS2 pArray =>
    obtain ⟨m, f, b, rfl⟩ := hs
    refine ⟨rfl, ⟨⟨m, loadBreaklessPS2 pArray f, b, rfl⟩, v, rfl⟩, fun x hx => ?_⟩
    cases x
    case ps2flags => exact loadEntries_congr breaklessPS2Entry_changes hx
    all_goals exact hx
  case loadCustomADBMap =>
    refine ⟨rfl, ⟨hs, v, rfl⟩, fun x hx => ?_⟩
    cases x
    case ps2ToADBMapMapped => exact loadEntries_congr customADBMapEntry_changes hx
    all_goals exact hx
  case settings cfg₁ =>
    refine ⟨rfl, ⟨⟨cfg'.ps2ToPS2Map, cfg'.ps2flags, cfg₁.ps2ToADBMap, rfl⟩, v, rfl⟩, fun x hx => ?_⟩
    cases x
    case ps2ToADBMap => rfl
    all_goals exact hx
  case byte now data =>
    obtain ⟨v₁, he, hb⟩ := scan_congr hc
    refine ⟨rfl, ⟨hs, v₁, ?_⟩, fun x hx => ?_⟩
    · dsimp only [step]
      rw [interruptOccurredAt_congr he]
    · cases x
      case keyBitVector unit =>
        dsimp only [step, TableAccess.Agrees, TableAccess.Same, keyBits]
        rw [interruptOccurredAt_congr he, interruptOccurredAt_scanner]
        exact hb unit hx
      all_goals exact hx
  case dispatch packet =>
    have he : _ = dispatchKeyboardEventWithPacket cfg' v driver.inverter.dispatcher packet := dispatch_congr hs hc
    refine ⟨?_, ⟨hs, v, ?_⟩, fun x hx => ?_⟩
    · exact congrArg (fun r : Dispatcher × List Effect => r.2.map Event.effect) he.symm
    · exact congrArg (fun r : Dispatcher × List Effect => Driver.mk (driver.receiver.withKeyBits v)
        { driver.inverter with dispatcher := r.1 }) he.symm
    · cases x
      all_goals exact hx
  case initKeyboard time =>
    dsimp only [step, events] at hc ⊢
    have hr := @Driver.initKeyboard_receiver cfg driver time
    rw [Driver.initKeyboard_withKeyBits hs hc]
    generalize driver.initKeyboard cfg time = r at hr ⊢
    refine ⟨rfl, ⟨hs, fun _ => 0, ?_⟩, fun x hx => ?_⟩
    · dsimp only
      rw [hr]
    · cases x
      case keyBitVector => rfl
      all_goals exact hx

-- What the settings become is not up to the driver.
theorem step_writes (s : Configured) (a : TableAct) (ha : ∀ cfg, a ≠ .settings cfg) :
    s.WritesOnly a (s.step a).2 := by
  intro x hi hn
  cases a
  case settings cfg => exact absurd rfl (ha cfg)
  case loadCustomPS2Map =>
    cases x
    case ps2ToPS2Map => exact (loadEntries_frame customPS2MapEntry_changes hn).symm
    all_goals rfl
  case loadBreaklessPS2 =>
    cases x
    case ps2flags => exact (loadEntries_frame breaklessPS2Entry_changes hn).symm
    all_goals rfl
  case loadCustomADBMap =>
    cases x
    case ps2ToADBMapMapped => exact (loadEntries_frame customADBMapEntry_changes hn).symm
    all_goals rfl
  case byte =>
    cases x
    case keyBitVector =>
      dsimp only [step, TableAccess.Agrees, TableAccess.Same, keyBits]
      rw [interruptOccurredAt_scanner]
      exact (scan_frame hn).symm
    all_goals rfl
  case dispatch =>
    cases x
    all_goals rfl
  case initKeyboard =>
    cases x
    case keyBitVector unit =>
      have hu : unit < 16 := hi
      have hk : TableAccess.key (32 * unit) = .keyBitVector unit := by
        rw [TableAccess.key, Nat.shiftRight_eq_div_pow, Nat.mul_div_cancel_left _ (by decide)]
      have hr : 32 * unit < kbvNumKeycodes := by
        show 32 * unit < 512
        omega
      dsimp only [step] at hn
      rw [← hk] at hn
      exact absurd (mem_initKeyboardAccesses (List.mem_range.mpr hr)) hn
    all_goals rfl

-- The accesses that are listed for a step are all there are.
theorem step_adequate (s : Configured) (a : TableAct) : s.ReadsOnly a (s.step a).2 ∧
    ((∀ cfg, a ≠ .settings cfg) → s.WritesOnly a (s.step a).2) :=
  ⟨s.step_reads a, s.step_writes a⟩

end Configured

end Keyboard
