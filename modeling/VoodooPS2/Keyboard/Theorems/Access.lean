import VoodooPS2.Keyboard.Access
import VoodooPS2.Keyboard.Theorems.Dispatch
import VoodooPS2.Keyboard.Theorems.Driver
import VoodooPS2.Keyboard.Theorems.Parse

namespace Keyboard

def AllInBounds (accesses : List TableAccess) : Prop :=
  ∀ a ∈ accesses, a.InBounds

namespace AllInBounds

variable {a : TableAccess} {as bs : List TableAccess}

theorem nil : AllInBounds [] :=
  fun _ h => nomatch h

theorem cons (ha : a.InBounds) (h : AllInBounds as) : AllInBounds (a :: as) :=
  List.forall_mem_cons.mpr ⟨ha, h⟩

theorem append (h : AllInBounds as) (h' : AllInBounds bs) : AllInBounds (as ++ bs) :=
  List.forall_mem_append.mpr ⟨h, h'⟩

theorem singleton (ha : a.InBounds) : AllInBounds [a] :=
  cons ha nil

end AllInBounds

section InBounds

variable {cfg : Config} {v : KeyBits} {d : Dispatcher} {s : Scanner} {data : UInt8} {n : Nat}

theorem TableAccess.key_inBounds (h : n < 512) : (TableAccess.key n).InBounds := by
  change n >>> 5 < 16
  rw [Nat.shiftRight_eq_div_pow]
  omega

theorem keyCodeRaw_lt {extended : UInt8} (h : extended = 0 ∨ extended = 1) (data : UInt8) :
    keyCodeRaw extended data < 512 := by
  have hk : ∀ b, keyCodeRaw 0 b < 512 ∧ keyCodeRaw 1 b < 512 := by decide +kernel
  cases h
  case inl h => exact h ▸ (hk data).left
  case inr h => exact h ▸ (hk data).right

theorem Scanner.keyAccesses_inBounds {ps2flags : Nat → UInt16} {extended : UInt8}
    (h : extended = 0 ∨ extended = 1) : AllInBounds (s.keyAccesses ps2flags extended data) := by
  have hn := keyCodeRaw_lt h data
  have hk := TableAccess.key_inBounds hn
  unfold Scanner.keyAccesses
  refine .cons hn ?_
  split_ifs
  · exact .nil
  · exact .singleton hk
  · exact .cons hk (.singleton hk)
  · exact .singleton hk

-- The counter of prefixes is zero or one when a byte is taken for that of a key.
theorem extendCount_of_key (hx : s.extendCount ≤ 2) (h : s.extendCount = 0 ∨ s.extendCount - 1 = 0) :
    s.extendCount = 0 ∨ s.extendCount = 1 := by
  rcases le_two hx with hx | hx | hx
  case inr.inr => simp [hx] at h
  all_goals simp [hx]

theorem Scanner.accesses_inBounds {ps2flags : Nat → UInt16} (hx : s.extendCount ≤ 2) :
    AllInBounds (s.accesses ps2flags data) := by
  unfold Scanner.accesses
  split_ifs with _ _ hk
  · exact .nil
  · exact .nil
  · exact keyAccesses_inBounds (extendCount_of_key hx hk)
  · exact .nil

theorem liftedAccesses_inBounds {state : UInt16} : AllInBounds (liftedAccesses v state) := by
  have hk (key : Nat) (h : key < 512) :
      AllInBounds (.key key :: if v.isKeyDown key then [.ps2ToADBMap key] else []) := by
    refine .cons (TableAccess.key_inBounds h) ?_
    split
    case isTrue  => exact .singleton h
    case isFalse => exact .nil
  unfold liftedAccesses
  split
  case isTrue  => simpa only [List.flatMap_singleton] using hk 0x1d (by decide)
  case isFalse => exact (hk 0x2a (by decide)).append ((hk 0x1d (by decide)).append .nil)

theorem switchKeyCodeAccesses_inBounds {state : UInt16} {keyCode : Nat} :
    AllInBounds (switchKeyCodeAccesses cfg v state keyCode) := by
  unfold switchKeyCodeAccesses
  split_ifs
  · exact .nil
  · exact liftedAccesses_inBounds.append liftedAccesses_inBounds
  · exact .nil
  · exact .nil

theorem sendKeyAccesses_inBounds {keyCode : Nat} {adbKeyCode : UInt8} {eatKey : Bool} (h : n < 512) :
    AllInBounds (sendKeyAccesses cfg n keyCode adbKeyCode eatKey) := by
  unfold sendKeyAccesses
  split_ifs
  · exact .nil
  · exact .singleton h
  · exact .nil

-- The values of the map are used as indices in turn.
def MapsInBounds (ps2ToPS2Map : Nat → Nat) : Prop :=
  ∀ n < 512, ps2ToPS2Map n < 512

theorem leftKeyCode_lt {state : UInt16} {keyCode : Nat} (h : keyCode < 512) :
    leftKeyCode cfg state keyCode < 512 := by
  unfold leftKeyCode
  split_ifs
  all_goals omega

theorem dispatchKeyAccesses_inBounds {on : Bool} (hm : MapsInBounds cfg.ps2ToPS2Map) (h : n < 512) :
    AllInBounds (dispatchKeyAccesses cfg v d n on) := by
  unfold dispatchKeyAccesses
  refine .append (.cons h (.cons h switchKeyCodeAccesses_inBounds)) ?_
  refine .cons ?_ (sendKeyAccesses_inBounds h)
  have hc := (switchKeyCode_spec cfg v (d.trackModifier cfg n on) (cfg.ps2ToPS2Map n) on).code
  exact hc ▸ leftKeyCode_lt (hm n h)

theorem packetKey_lt (packet : List UInt8) : (packetKey packet).switch < 512 := by
  have hb : (packet.getD 1 0 &&& ~~~kSCUpBit).toNat < 256 := UInt8.toNat_lt _
  dsimp only [packetKey, kbvNumScancodes]
  split
  all_goals omega

theorem dispatchAccesses_inBounds (hm : MapsInBounds cfg.ps2ToPS2Map) (packet : List UInt8) :
    AllInBounds (dispatchAccesses cfg v d packet) := by
  have h : (packet.getD 1 0).toNat < 512 := by
    have := (packet.getD 1 0).toNat_lt
    omega
  dsimp only [dispatchAccesses]
  split_ifs
  · exact .cons h (.singleton h)
  · exact .singleton (packetKey_lt packet)
  · exact dispatchKeyAccesses_inBounds hm (packetKey_lt packet)

theorem initKeyboardAccesses_inBounds (hm : MapsInBounds cfg.ps2ToPS2Map) {scanCodes : List Nat}
    (h : ∀ scanCode ∈ scanCodes, scanCode < 512) : AllInBounds (initKeyboardAccesses cfg v d scanCodes) := by
  induction scanCodes generalizing d
  case nil => exact .nil
  case cons scanCode scanCodes hi =>
    rw [List.forall_mem_cons] at h
    refine .cons (TableAccess.key_inBounds h.left) ?_
    split
    case isTrue  => exact (dispatchAccesses_inBounds hm _).append (hi h.right)
    case isFalse => exact hi h.right

end InBounds

-- What an entry of an array does to a table: nothing, or it changes an element.
inductive Changes {α : Type} (access : Nat → TableAccess) (entry : (Nat → α) → Nat → α) : List TableAccess → Prop
  | skip : (∀ t, entry t = t) → Changes access entry []
  | update {n : Nat} (f : α → α) : n < 512 → (∀ t, entry t = Function.update t n (f (t n))) →
    Changes access entry [access n]

theorem Changes.inBounds {α : Type} {access : Nat → TableAccess} {entry : (Nat → α) → Nat → α}
    {as : List TableAccess} (ha : ∀ n < 512, (access n).InBounds) (h : Changes access entry as) :
    AllInBounds as := by
  cases h
  case skip        => exact .nil
  case update hn _ => exact .singleton (ha _ hn)

section Loaders

variable {psz : CString} {pArray : List (Option CString)} {ps2ToPS2Map : Nat → Nat}

theorem tableIndex_lt (ex code : UInt8) : tableIndex ex code < 512 := by
  have := code.toNat_lt
  dsimp only [tableIndex, kbvNumScancodes]
  split
  all_goals omega

theorem customPS2MapEntry_changes (psz : CString) :
    Changes .ps2ToPS2Map (customPS2MapEntry · psz) (customPS2MapAccesses psz) := by
  unfold customPS2MapEntry customPS2MapAccesses
  cases parseRemap psz
  case none => exact .skip fun _ => rfl
  case some =>
    dsimp only
    split_ifs
    · exact .skip fun _ => rfl
    · exact .update (fun _ => _) (tableIndex_lt ..) fun _ => rfl

theorem breaklessPS2Entry_changes (psz : CString) :
    Changes .ps2flags (breaklessPS2Entry · psz) (breaklessPS2Accesses psz) := by
  unfold breaklessPS2Entry breaklessPS2Accesses
  cases parseHex psz '\n' ';'
  case none => exact .skip fun _ => rfl
  case some =>
    dsimp only
    split_ifs
    · exact .skip fun _ => rfl
    · exact .update (· ||| kBreaklessKey) (tableIndex_lt ..) fun _ => rfl

theorem customADBMapEntry_changes (psz : CString) :
    Changes .ps2ToADBMapMapped (customADBMapEntry · psz) (customADBMapAccesses psz) := by
  unfold customADBMapEntry customADBMapAccesses
  cases parseRemap psz
  case none => exact .skip fun _ => rfl
  case some =>
    dsimp only
    split_ifs
    · exact .skip fun _ => rfl
    · exact .update (fun _ => _) (tableIndex_lt ..) fun _ => rfl

theorem loadAccesses_inBounds {entry : CString → List TableAccess} (h : ∀ psz, AllInBounds (entry psz)) :
    AllInBounds (loadAccesses entry pArray) :=
  loadEntries_induct (fun _ psz ha => ha.append (h psz)) .nil pArray

theorem customPS2MapEntry_mapsInBounds (h : MapsInBounds ps2ToPS2Map) :
    MapsInBounds (customPS2MapEntry ps2ToPS2Map psz) := by
  unfold customPS2MapEntry
  split
  case h_1 => exact h
  case h_2 =>
    dsimp only
    split
    case isTrue  => exact h
    case isFalse =>
      intro n hn
      rw [Function.update_apply]
      split
      case isTrue  => exact tableIndex_lt ..
      case isFalse => exact h n hn

theorem loadCustomPS2Map_mapsInBounds (h : MapsInBounds ps2ToPS2Map) :
    MapsInBounds (loadCustomPS2Map pArray ps2ToPS2Map) :=
  loadEntries_induct (fun _ _ => customPS2MapEntry_mapsInBounds) h pArray

end Loaders

-- What keeps the indices small.
structure Configured.Sound (s : Configured) : Prop where
  mapsInBounds : MapsInBounds s.cfg.ps2ToPS2Map
  extendCount  : s.driver.receiver.scanner.extendCount ≤ 2

namespace Configured.Sound

variable {s : Configured} {a : TableAct}

theorem step (h : s.Sound) : (s.step a).1.Sound := by
  have hm := h.mapsInBounds
  have hx := h.extendCount
  cases a
  case loadCustomPS2Map       => exact ⟨loadCustomPS2Map_mapsInBounds hm, hx⟩
  case loadBreaklessPS2       => exact ⟨hm, hx⟩
  case loadCustomADBMap       => exact ⟨hm, hx⟩
  case settings               => exact ⟨hm, hx⟩
  case dispatch               => exact ⟨hm, hx⟩
  case initKeyboard           => exact ⟨hm, UInt8.zero_le⟩
  case byte now data          =>
    refine ⟨hm, ?_⟩
    have hs := (scanned s.cfg.ps2flags data hx).left
    dsimp only [Configured.step]
    cases ho : (s.driver.receiver.scanner.scan s.cfg.ps2flags data).2
    case none        => rwa [interruptOccurredAt_of_none ho]
    case some packet => rwa [interruptOccurredAt_of_some ho]

theorem accesses (h : s.Sound) : AllInBounds (s.step a).2 := by
  cases a
  case loadCustomPS2Map =>
    exact loadAccesses_inBounds fun psz => (customPS2MapEntry_changes psz).inBounds fun _ => id
  case loadBreaklessPS2 =>
    exact loadAccesses_inBounds fun psz => (breaklessPS2Entry_changes psz).inBounds fun _ => id
  case loadCustomADBMap =>
    exact loadAccesses_inBounds fun psz => (customADBMapEntry_changes psz).inBounds fun _ => id
  case settings         => exact .nil
  case byte             => exact Scanner.accesses_inBounds h.extendCount
  case dispatch packet  => exact dispatchAccesses_inBounds h.mapsInBounds packet
  case initKeyboard     =>
    have hr : ∀ n ∈ List.range kbvNumKeycodes, n < 512 := fun _ => List.mem_range.mp
    dsimp only [Configured.step]
    exact initKeyboardAccesses_inBounds h.mapsInBounds hr

end Configured.Sound

section Packets

variable {ps2flags : Nat → UInt16} {s : Scanner} {extended data : UInt8} {packet : UInt8 × UInt8}

-- Prefixes are counted, and nothing is made of them yet.
theorem scan_reserved (hr : Key.Reserved data) : ∃ count : UInt8 → UInt8, ∀ ps2flags (s : Scanner),
    s.scan ps2flags data = ({ s with lastdata := data, extendCount := count s.extendCount }, none) := by
  rcases hr with rfl | rfl | hi
  · exact ⟨fun _ => 1, fun _ => scan_extend⟩
  · exact ⟨fun _ => 2, fun _ => scan_pause⟩
  · exact ⟨id, fun _ s => scan_ignored s hi⟩

-- What a byte that is neither a prefix nor an error does, depending on the prefixes before it.
theorem scan_cases (hz : ¬(s.lastdata = kSCReset ∧ data = 0))
    (hr : ¬Key.Reserved data) : s.scan ps2flags data =
      if s.extendCount = 0 ∨ s.extendCount - 1 = 0 then
        { s with lastdata := data, extendCount := 0 }.key ps2flags s.extendCount data
      else
        ({ s with lastdata := data, extendCount := s.extendCount - 1 }, none) := by
  simp only [Key.Reserved, not_or] at hr
  by_cases hx : s.extendCount = 0
  case pos => simp [Scanner.scan, hz, hr, hx]
  case neg =>
    by_cases hx' : s.extendCount - 1 = 0
    all_goals simp [Scanner.scan, hz, hr, hx, hx']

theorem key_packet (h : (s.key ps2flags extended data).2 = some packet) : packet = (extended + 1, data) := by
  revert h
  dsimp only [Scanner.key]
  split_ifs
  all_goals simp [eq_comm]

-- At most one prefix has been counted when the packet of a key is built, which says how many.
theorem extendCount_of_packet (hx : s.extendCount ≤ 2) (h : (s.scan ps2flags data).2 = some packet)
    (hp : packet.1 ≠ 0) : s.extendCount ≤ 1 ∧ packet.1 = s.extendCount + 1 := by
  by_cases hz : s.lastdata = kSCReset ∧ data = 0
  case pos =>
    rw [Scanner.scan, if_pos hz, Option.some_inj] at h
    exact absurd (h ▸ rfl) hp
  by_cases hr : Key.Reserved data
  case pos =>
    obtain ⟨_, he⟩ := scan_reserved hr
    rw [he] at h
    cases h
  rw [scan_cases hz hr] at h
  split at h
  case isFalse   => cases h
  case isTrue hk =>
    refine ⟨?_, congrArg Prod.fst (key_packet h)⟩
    cases extendCount_of_key hx hk
    case inl hx => exact hx ▸ UInt8.zero_le
    case inr hx => exact hx ▸ UInt8.le_refl 1

end Packets

theorem tables_invariant : tables.Invariant (fun _ _ => True) Configured.Sound where
  step h _ := h.step

-- Whatever the keyboard is configured with and receives, it stays within its tables.
theorem tables_inBounds (cfg : Config) (cells : Nat → UInt8) (macroBuffer : Nat → Packet)
    (acts : List TableAct) :
    (∀ a ∈ tables.out (.init cfg cells macroBuffer) acts, a.InBounds) ∧
    let s := tables.state (.init cfg cells macroBuffer) acts
    let scanner := s.driver.receiver.scanner
    scanner.extendCount ≤ 2 ∧
    ∀ data packet, (scanner.scan s.cfg.ps2flags data).2 = some packet → packet.1 ≠ 0 →
      scanner.extendCount ≤ 1 ∧ packet.1 = scanner.extendCount + 1 := by
  have h₀ : (Configured.init cfg cells macroBuffer).Sound := ⟨fun _ => id, UInt8.zero_le⟩
  have ha : tables.Along (fun _ _ => True) (.init cfg cells macroBuffer) acts :=
    .of_forall fun _ _ => trivial
  have h := tables_invariant.run ha h₀
  refine ⟨tables_invariant.out ha h₀ fun s a h _ => h.accesses, h.extendCount, ?_⟩
  exact fun data packet => extendCount_of_packet h.extendCount

end Keyboard
