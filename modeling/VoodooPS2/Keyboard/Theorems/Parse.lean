import VoodooPS2.Keyboard.Parse

namespace Keyboard

open Numeral

def Hex (ds : CString) : Prop :=
  ∀ c ∈ ds, (hexDigit? c).isSome

instance : DecidablePred Hex :=
  fun ds => List.decidableBAll _ ds

-- The digits, read as an unbounded number.
def hexValue (ds : CString) : Nat :=
  value 16 (ds.filterMap hexDigit?)

section ParseHex

variable {psz ds rest : CString} {term1 term2 : Char} {n : UInt32}

theorem toNat_takeDigit (n : UInt32) (d : Nat) :
    (n <<< 4 + .ofNat d).toNat ≡ n.toNat * 16 + d [MOD 2 ^ 32] := by
  rw [UInt32.toNat_add, UInt32.toNat_shiftLeft, UInt32.toNat_ofNat']
  show (_ + _) % _ % _ = _ % _
  simp [Nat.shiftLeft_eq]

theorem toNat_foldl_takeDigit (ds : List Nat) :
    (ds.foldl (fun (n : UInt32) d => n <<< 4 + .ofNat d) 0).toNat = value 16 ds % 2 ^ 32 := by
  have h := residue_foldl toNat_takeDigit 0 ds
  rw [UInt32.toNat_zero, Nat.zero_mul, Nat.zero_add] at h
  rw [← h, Nat.mod_eq_of_lt (UInt32.toNat_lt _)]

-- Up to a terminator, which is not a digit itself, there may only be digits.
theorem scanned_iff (h₁ : hexDigit? term1 = none) (h₂ : hexDigit? term2 = none) :
    Scanned (fun c => term1 = c ∨ term2 = c) hexDigit? psz ds rest ↔
      psz = ds ++ rest ∧ Hex ds ∧ ∀ c ∈ rest.head?, term1 = c ∨ term2 = c := by
  constructor
  case mp  => exact fun ⟨he, hd, hr⟩ => ⟨he, fun c hc => (hd c hc).right, hr⟩
  case mpr =>
    intro ⟨he, hd, hr⟩
    refine ⟨he, fun c hc => ⟨?_, hd c hc⟩, hr⟩
    have := hd c hc
    rintro (rfl | rfl)
    · simp [h₁] at this
    · simp [h₂] at this

-- No more than 32 bits of the number are kept.
theorem parseHex_eq_some_iff (h₁ : hexDigit? term1 = none) (h₂ : hexDigit? term2 = none) :
    parseHex psz term1 term2 = some (n, rest) ↔ ∃ ds, psz = ds ++ rest ∧ Hex ds ∧
      (∀ c ∈ rest.head?, term1 = c ∨ term2 = c) ∧ n.toNat = hexValue ds % 2 ^ 32 := by
  rw [parseHex, scan_eq_some_iff]
  apply exists_congr
  intro ds
  rw [scanned_iff h₁ h₂, ← UInt32.toNat_inj, toNat_foldl_takeDigit, hexValue, and_assoc, and_assoc,
    eq_comm (a := n.toNat)]

theorem parseHex_equals_iff : parseHex psz '=' nul = some (n, rest) ↔ ∃ ds, psz = ds ++ rest ∧ Hex ds ∧
    (∀ c ∈ rest.head?, '=' = c ∨ nul = c) ∧ n.toNat = hexValue ds % 2 ^ 32 :=
  parseHex_eq_some_iff (by decide) (by decide)

theorem parseHex_line_iff : parseHex psz '\n' ';' = some (n, rest) ↔ ∃ ds, psz = ds ++ rest ∧ Hex ds ∧
    (∀ c ∈ rest.head?, '\n' = c ∨ ';' = c) ∧ n.toNat = hexValue ds % 2 ^ 32 :=
  parseHex_eq_some_iff (by decide) (by decide)

theorem digits_unique {ds' rest' : CString} (h₁ : hexDigit? term1 = none)
    (h₂ : hexDigit? term2 = none) (he : ds ++ rest = ds' ++ rest') (hd : Hex ds) (hd' : Hex ds')
    (hr : ∀ c ∈ rest.head?, term1 = c ∨ term2 = c) (hr' : ∀ c ∈ rest'.head?, term1 = c ∨ term2 = c) :
    ds = ds' ∧ rest = rest' :=
  ((scanned_iff h₁ h₂).mpr ⟨rfl, hd, hr⟩).unique <| (scanned_iff h₁ h₂).mpr ⟨he, hd', hr'⟩

end ParseHex

section ScanCodes

-- A normal key, or an extended one.
def IsScanCode (n : Nat) : Prop :=
  n / 256 = 0 ∨ n / 256 = 0xe0

instance : DecidablePred IsScanCode :=
  fun _ => inferInstanceAs (Decidable (_ ∨ _))

def codeIndex (n : Nat) : Nat :=
  n % 256 + if n / 256 = 0xe0 then kbvNumScancodes else 0

theorem IsScanCode.lt {n : Nat} (h : IsScanCode n) : n < 2 ^ 16 := by
  rcases h with h | h <;> omega

theorem IsScanCode.toNat_ofNat {n : Nat} (h : IsScanCode n) : (UInt16.ofNat n).toNat = n := by
  rw [UInt16.toNat_ofNat', Nat.mod_eq_of_lt h.lt]

theorem byte_eq_iff {n : Nat} {b c : UInt8} (h : b.toNat = n) : b = c ↔ n = c.toNat := by
  rw [← h, UInt8.toNat_inj]

theorem isScanCode_iff {n : Nat} {ex : UInt8} (h : ex.toNat = n / 256) :
    ¬(ex ≠ 0 ∧ ex ≠ 0xe0) ↔ IsScanCode n := by
  rw [IsScanCode, not_and_or, not_not, not_not, byte_eq_iff h, byte_eq_iff h]
  rfl

theorem tableIndex_eq {n : Nat} {ex code : UInt8} (he : ex.toNat = n / 256)
    (hc : code.toNat = n % 256) : tableIndex ex code = codeIndex n := by
  rw [tableIndex, codeIndex, hc]
  congr 1
  exact if_congr (byte_eq_iff he) rfl rfl

end ScanCodes

section Entries

-- Hexadecimal digits on both sides of the equals sign, perhaps none, and perhaps a comment after them.
def IsRemap (psz d₁ d₂ : CString) : Prop :=
  ∃ rest, psz = d₁ ++ '=' :: (d₂ ++ rest) ∧ Hex d₁ ∧ Hex d₂ ∧ ∀ c ∈ rest.head?, '\n' = c ∨ ';' = c

def IsCode (psz d : CString) : Prop :=
  ∃ rest, psz = d ++ rest ∧ Hex d ∧ ∀ c ∈ rest.head?, '\n' = c ∨ ';' = c

variable {psz d d' d₁ d₁' d₂ d₂' : CString}

theorem toNat_toUInt16 {n : UInt32} : ¬n > 0xffff ↔ n.toUInt16.toNat = n.toNat := by
  rw [UInt32.not_lt, UInt32.le_iff_toNat_le, UInt32.toNat_toUInt16]
  show n.toNat ≤ 65535 ↔ n.toNat % 65536 = n.toNat
  omega

theorem parseRemap_eq_some_iff {scanFrom scanTo : UInt16} :
    parseRemap psz = some (scanFrom, scanTo) ↔ ∃ d₁ d₂, IsRemap psz d₁ d₂ ∧
      hexValue d₁ % 2 ^ 32 = scanFrom.toNat ∧ hexValue d₂ % 2 ^ 32 = scanTo.toNat := by
  constructor
  case mp =>
    intro h
    have ⟨(n, s), h₁, h⟩ := Option.bind_eq_some_iff.mp h
    have ⟨d₁, he₁, hd₁, hr₁, hn₁⟩ := parseHex_equals_iff.mp h₁
    dsimp only at h
    split at h
    case h_2 => nomatch h
    case h_1 psz' =>
      split at h
      case isTrue => nomatch h
      case isFalse hlt₁ =>
        have ⟨(m, rest), h₂, h⟩ := Option.bind_eq_some_iff.mp h
        have ⟨d₂, he₂, hd₂, hr₂, hn₂⟩ := parseHex_line_iff.mp h₂
        dsimp only at h
        split at h
        case isTrue => nomatch h
        case isFalse hlt₂ =>
          obtain ⟨rfl, rfl⟩ := Prod.mk.inj (Option.some.inj h)
          have hr : IsRemap psz d₁ d₂ := ⟨rest, by rw [he₁, he₂], hd₁, hd₂, hr₂⟩
          exact ⟨d₁, d₂, hr, by rw [toNat_toUInt16.mp hlt₁, hn₁], by rw [toNat_toUInt16.mp hlt₂, hn₂]⟩
  case mpr =>
    intro ⟨d₁, d₂, ⟨rest, he, hd₁, hd₂, hr⟩, hn₁, hn₂⟩
    have h₁ : parseHex psz '=' nul = some (scanFrom.toUInt32, '=' :: (d₂ ++ rest)) :=
      parseHex_equals_iff.mpr ⟨d₁, he, hd₁, by simp, by rw [hn₁, UInt16.toNat_toUInt32]⟩
    have h₂ : parseHex (d₂ ++ rest) '\n' ';' = some (scanTo.toUInt32, rest) :=
      parseHex_line_iff.mpr ⟨d₂, rfl, hd₂, hr, by rw [hn₂, UInt16.toNat_toUInt32]⟩
    have hlt {scan : UInt16} : ¬scan.toUInt32 > 0xffff := toNat_toUInt16.mpr (by simp)
    simp only [parseRemap, h₁, h₂, Option.bind_eq_bind, Option.bind_some, if_neg hlt,
      UInt16.toUInt16_toUInt32]
    rfl

theorem IsRemap.unique (h : IsRemap psz d₁ d₂) (h' : IsRemap psz d₁' d₂') :
    d₁ = d₁' ∧ d₂ = d₂' := by
  have ⟨rest, he, hd₁, hd₂, hr⟩ := h
  have ⟨rest', he', hd₁', hd₂', hr'⟩ := h'
  have hs {s : CString} : ∀ c ∈ ('=' :: s).head?, '=' = c ∨ nul = c := by simp
  have ⟨h₁, he⟩ := digits_unique (by decide) (by decide) (he ▸ he') hd₁ hd₁' hs hs
  have ⟨h₂, _⟩ := digits_unique (by decide) (by decide) (List.tail_eq_of_cons_eq he) hd₂ hd₂' hr hr'
  exact ⟨h₁, h₂⟩

theorem IsCode.unique (h : IsCode psz d) (h' : IsCode psz d') : d = d' := by
  have ⟨_, he, hd, hr⟩ := h
  have ⟨_, he', hd', hr'⟩ := h'
  exact (digits_unique (by decide) (by decide) (he ▸ he') hd hd' hr hr').left

theorem customPS2MapEntry_of_not {map : Nat → Nat} (h : ∀ d₁ d₂, ¬IsRemap psz d₁ d₂) :
    customPS2MapEntry map psz = map := by
  cases hp : parseRemap psz
  case none   => simp [customPS2MapEntry, hp]
  case some r =>
    have ⟨d₁, d₂, hr, _⟩ := parseRemap_eq_some_iff.mp hp
    exact absurd hr (h d₁ d₂)

theorem high_toNat (scan : UInt16) : (scan >>> 8).toUInt8.toNat = scan.toNat / 256 := by
  have := scan.toNat_lt
  simp [Nat.shiftRight_eq_div_pow]
  omega

-- The entry takes effect if what is left of its two numbers are scan codes.
theorem customPS2MapEntry_eq {map : Nat → Nat} (h : IsRemap psz d₁ d₂) :
    customPS2MapEntry map psz =
      if IsScanCode (hexValue d₁ % 2 ^ 32) ∧ IsScanCode (hexValue d₂ % 2 ^ 32) then
        Function.update map (codeIndex (hexValue d₁ % 2 ^ 32)) (codeIndex (hexValue d₂ % 2 ^ 32))
      else
        map := by
  cases hp : parseRemap psz
  case none =>
    simp only [customPS2MapEntry, hp]
    apply Eq.symm
    apply if_neg
    intro ⟨h₁, h₂⟩
    have hp' : parseRemap psz = some (.ofNat (hexValue d₁ % 2 ^ 32), .ofNat (hexValue d₂ % 2 ^ 32)) :=
      parseRemap_eq_some_iff.mpr ⟨d₁, d₂, h, h₁.toNat_ofNat.symm, h₂.toNat_ofNat.symm⟩
    simp [hp] at hp'
  case some r =>
    obtain ⟨scanIn, scanOut⟩ := r
    have ⟨e₁, e₂, hr, h₁, h₂⟩ := parseRemap_eq_some_iff.mp hp
    obtain ⟨rfl, rfl⟩ := h.unique hr
    simp only [customPS2MapEntry, hp]
    have hi := isScanCode_iff (high_toNat scanIn)
    have ho := isScanCode_iff (high_toNat scanOut)
    rw [h₁, h₂, tableIndex_eq (high_toNat _) scanIn.toNat_toUInt8,
      tableIndex_eq (high_toNat _) scanOut.toNat_toUInt8]
    exact (ite_not ..).symm.trans <| if_congr (by rw [not_or, hi, ho]) rfl rfl

theorem breaklessPS2Entry_of_not {flags : Nat → UInt16} (h : ∀ d, ¬IsCode psz d) :
    breaklessPS2Entry flags psz = flags := by
  cases hp : parseHex psz '\n' ';'
  case none   => simp [breaklessPS2Entry, hp]
  case some r =>
    have ⟨d, he, hd, hr, _⟩ := parseHex_line_iff.mp hp
    exact absurd ⟨r.2, he, hd, hr⟩ (h d)

-- Here it takes effect even if there are more than 16 bits of the number.
theorem breaklessPS2Entry_eq {flags : Nat → UInt16} (h : IsCode psz d) :
    breaklessPS2Entry flags psz =
      if IsScanCode (hexValue d % 2 ^ 16) then
        Function.update flags (codeIndex (hexValue d % 2 ^ 16))
          (flags (codeIndex (hexValue d % 2 ^ 16)) ||| kBreaklessKey)
      else
        flags := by
  have ⟨rest, he, hd, hr⟩ := h
  have hp : parseHex psz '\n' ';' = some (.ofNat (hexValue d), rest) :=
    parseHex_line_iff.mpr ⟨d, he, hd, hr, UInt32.toNat_ofNat'⟩
  have hx : (UInt32.ofNat (hexValue d) >>> 8).toUInt8.toNat = hexValue d % 2 ^ 16 / 256 := by
    simp [Nat.shiftRight_eq_div_pow]
    omega
  have hl : (UInt32.ofNat (hexValue d)).toUInt8.toNat = hexValue d % 2 ^ 16 % 256 := by
    simp
  simp only [breaklessPS2Entry, hp]
  rw [tableIndex_eq hx hl]
  exact (ite_not ..).symm.trans <| if_congr (isScanCode_iff hx) rfl rfl

end Entries

section Loaders

variable {psz d d₁ d₂ : CString}

theorem loadEntries_concat {σ : Type} {entry : σ → CString → σ} {es : List (Option CString)} {t : σ}
    (h : psz.head? ≠ some ';') :
    loadEntries entry (es ++ [some psz]) t = entry (loadEntries entry es t) psz := by
  simp [loadEntries, h]

-- The form that an entry of the map must have.
structure WellFormedRemap (psz d₁ d₂ : CString) : Prop where
  remap : IsRemap psz d₁ d₂
  ne₁   : d₁ ≠ []
  ne₂   : d₂ ≠ []
  code₁ : IsScanCode (hexValue d₁)
  code₂ : IsScanCode (hexValue d₂)

structure WellFormedCode (psz d : CString) : Prop where
  digits : IsCode psz d
  ne     : d ≠ []
  code   : IsScanCode (hexValue d)

-- What is asked of the table after an entry, given the table before it.
structure Remaps (psz : CString) (map map' : Nat → Nat) : Prop where
  set  : ∀ d₁ d₂, WellFormedRemap psz d₁ d₂ →
    map' = Function.update map (codeIndex (hexValue d₁)) (codeIndex (hexValue d₂))
  keep : (∀ d₁ d₂, ¬WellFormedRemap psz d₁ d₂) → map' = map

structure Marks (psz : CString) (flags flags' : Nat → UInt16) : Prop where
  set  : ∀ d, WellFormedCode psz d → flags' = Function.update flags (codeIndex (hexValue d))
    (flags (codeIndex (hexValue d)) ||| kBreaklessKey)
  keep : (∀ d, ¬WellFormedCode psz d) → flags' = flags

theorem update_ne {α : Type} {f : Nat → α} {i : Nat} {a : α} (h : f i ≠ a) :
    Function.update f i a ≠ f :=
  fun he => h <| by rw [← he, Function.update_self]

-- No digits are missing, and no number wraps around to a scan code.
theorem customPS2MapEntry_remaps_iff : (∀ map, Remaps psz map (customPS2MapEntry map psz)) ↔
    ∀ d₁ d₂, IsRemap psz d₁ d₂ → IsScanCode (hexValue d₁ % 2 ^ 32) →
      IsScanCode (hexValue d₂ % 2 ^ 32) →
      d₁ ≠ [] ∧ d₂ ≠ [] ∧ hexValue d₁ < 2 ^ 32 ∧ hexValue d₂ < 2 ^ 32 := by
  constructor
  case mp =>
    intro h d₁ d₂ hr h₁ h₂
    -- A table that the entry changes, since it takes effect.
    let map (_ : Nat) := codeIndex (hexValue d₂ % 2 ^ 32) + 1
    have hm : customPS2MapEntry map psz ≠ map := by
      rw [customPS2MapEntry_eq hr, if_pos ⟨h₁, h₂⟩]
      exact update_ne (Nat.succ_ne_self _)
    have hw : ∃ d₁ d₂, WellFormedRemap psz d₁ d₂ := by
      by_contra hw
      exact hm <| (h map).keep fun d₁ d₂ hd => hw ⟨d₁, d₂, hd⟩
    have ⟨_, _, hw⟩ := hw
    obtain ⟨rfl, rfl⟩ := hr.unique hw.remap
    have hlt₁ := hw.code₁.lt
    have hlt₂ := hw.code₂.lt
    exact ⟨hw.ne₁, hw.ne₂, by omega, by omega⟩
  case mpr =>
    intro h map
    constructor
    case set =>
      intro d₁ d₂ hw
      have hlt₁ := hw.code₁.lt
      have hlt₂ := hw.code₂.lt
      rw [customPS2MapEntry_eq hw.remap, Nat.mod_eq_of_lt (by omega), Nat.mod_eq_of_lt (by omega)]
      exact if_pos ⟨hw.code₁, hw.code₂⟩
    case keep =>
      intro hw
      by_cases hr : ∃ d₁ d₂, IsRemap psz d₁ d₂
      case neg =>
        exact customPS2MapEntry_of_not fun d₁ d₂ hd => hr ⟨d₁, d₂, hd⟩
      case pos =>
        have ⟨d₁, d₂, hr⟩ := hr
        rw [customPS2MapEntry_eq hr]
        apply if_neg
        intro ⟨h₁, h₂⟩
        have ⟨hn₁, hn₂, hlt₁, hlt₂⟩ := h d₁ d₂ hr h₁ h₂
        rw [Nat.mod_eq_of_lt hlt₁] at h₁
        rw [Nat.mod_eq_of_lt hlt₂] at h₂
        exact hw d₁ d₂ ⟨hr, hn₁, hn₂, h₁, h₂⟩

theorem breaklessPS2Entry_marks_iff : (∀ flags, Marks psz flags (breaklessPS2Entry flags psz)) ↔
    ∀ d, IsCode psz d → IsScanCode (hexValue d % 2 ^ 16) → d ≠ [] ∧ hexValue d < 2 ^ 16 := by
  constructor
  case mp =>
    intro h d hc hs
    let flags (_ : Nat) : UInt16 := 0
    have hm : breaklessPS2Entry flags psz ≠ flags := by
      rw [breaklessPS2Entry_eq hc, if_pos hs]
      apply update_ne
      decide
    have hw : ∃ d, WellFormedCode psz d := by
      by_contra hw
      exact hm <| (h flags).keep fun d hd => hw ⟨d, hd⟩
    have ⟨_, hw⟩ := hw
    obtain rfl := hc.unique hw.digits
    exact ⟨hw.ne, hw.code.lt⟩
  case mpr =>
    intro h flags
    constructor
    case set =>
      intro d hw
      rw [breaklessPS2Entry_eq hw.digits, Nat.mod_eq_of_lt hw.code.lt]
      exact if_pos hw.code
    case keep =>
      intro hw
      by_cases hc : ∃ d, IsCode psz d
      case neg =>
        exact breaklessPS2Entry_of_not fun d hd => hc ⟨d, hd⟩
      case pos =>
        have ⟨d, hc⟩ := hc
        rw [breaklessPS2Entry_eq hc]
        apply if_neg
        intro hs
        have ⟨hn, hlt⟩ := h d hc hs
        rw [Nat.mod_eq_of_lt hlt] at hs
        exact hw d ⟨hc, hn, hs⟩

-- A property of all tables before an entry is one of all tables that other entries leave before it.
theorem forall_loadEntries_iff {σ : Type} {entry : σ → CString → σ} {P : σ → σ → Prop}
    (h : psz.head? ≠ some ';') :
    (∀ es t, P (loadEntries entry es t) (loadEntries entry (es ++ [some psz]) t)) ↔
      ∀ t, P t (entry t psz) := by
  simp only [loadEntries_concat h]
  exact ⟨fun hp t => hp [] t, fun hp es t => hp (loadEntries entry es t)⟩

-- Both loaders take exactly the well-formed entries, but for numbers without digits and for numbers that
-- are too large and have a scan code in their low bits.
theorem loaders_exact_iff {psz : CString} (h : psz.head? ≠ some ';') :
    ((∀ es map, Remaps psz (loadCustomPS2Map es map) (loadCustomPS2Map (es ++ [some psz]) map)) ↔
      ∀ d₁ d₂, IsRemap psz d₁ d₂ → IsScanCode (hexValue d₁ % 2 ^ 32) →
        IsScanCode (hexValue d₂ % 2 ^ 32) →
        d₁ ≠ [] ∧ d₂ ≠ [] ∧ hexValue d₁ < 2 ^ 32 ∧ hexValue d₂ < 2 ^ 32) ∧
    ((∀ es flags, Marks psz (loadBreaklessPS2 es flags) (loadBreaklessPS2 (es ++ [some psz]) flags)) ↔
      ∀ d, IsCode psz d → IsScanCode (hexValue d % 2 ^ 16) → d ≠ [] ∧ hexValue d < 2 ^ 16) :=
  ⟨(forall_loadEntries_iff h).trans customPS2MapEntry_remaps_iff,
    (forall_loadEntries_iff h).trans breaklessPS2Entry_marks_iff⟩

theorem loaders_exact_iff_e01e : Remaps "e01e=37;".toList (loadCustomPS2Map [] id)
    (loadCustomPS2Map ([] ++ [some "e01e=37;".toList]) id) := by
  apply (loaders_exact_iff (by decide)).left.mpr
  intro d₁ d₂ hr _ _
  have he : IsRemap "e01e=37;".toList "e01e".toList "37".toList :=
    ⟨[';'], by decide, by decide, by decide, by simp⟩
  obtain ⟨rfl, rfl⟩ := hr.unique he
  decide

-- The entry of the map has no digits before the equals sign. The other one has five digits, and its low
-- 16 bits are a scan code.
theorem not_loaders_exact :
    (¬∀ psz : CString, psz.head? ≠ some ';' → ∀ es map,
      Remaps psz (loadCustomPS2Map es map) (loadCustomPS2Map (es ++ [some psz]) map)) ∧
    (¬∀ psz : CString, psz.head? ≠ some ';' → ∀ es flags,
      Marks psz (loadBreaklessPS2 es flags) (loadBreaklessPS2 (es ++ [some psz]) flags)) := by
  constructor
  case left =>
    intro h
    have hr : IsRemap "=5".toList "".toList "5".toList :=
      ⟨[], by decide, by decide, by decide, nofun⟩
    have hm := (h "=5".toList (by decide) [] id).keep fun d₁ d₂ hw => hw.ne₁ (hw.remap.unique hr).left
    have hm : loadCustomPS2Map [some "=5".toList] id 0 = 0 := congrFun hm 0
    revert hm
    decide
  case right =>
    intro h
    have hc : IsCode "1e005".toList "1e005".toList :=
      ⟨[], by decide, by decide, nofun⟩
    have hm := (h "1e005".toList (by decide) [] fun _ => 0).keep fun d hw => by
      have hs := hw.digits.unique hc ▸ hw.code
      revert hs
      decide
    have hm : loadBreaklessPS2 [some "1e005".toList] (fun _ => 0) 0x105 = 0 := congrFun hm 0x105
    revert hm
    decide

end Loaders

end Keyboard
