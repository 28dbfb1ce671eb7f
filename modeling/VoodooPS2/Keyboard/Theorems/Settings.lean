import VoodooPS2.Keyboard.Settings
import VoodooPS2.Machine.Overlay

open Overlay

namespace Keyboard

variable {n : Nat} {v : Nat} {f : Nat → Nat} {pArray : List (Option CString)}

-- The remap that an element of the array stands for, if any.
def remapped (pString : Option CString) : Option (Nat × Nat) := do
  let psz ← pString
  if psz.head? = some ';' then none
  else do
    let (scanIn, scanOut) ← parseRemap psz
    let exIn := (scanIn >>> 8).toUInt8
    let exOut := (scanOut >>> 8).toUInt8
    if (exIn ≠ 0 ∧ exIn ≠ 0xe0) ∨ (exOut ≠ 0 ∧ exOut ≠ 0xe0) then none
    else some (tableIndex exIn scanIn.toUInt8, tableIndex exOut scanOut.toUInt8)

-- What an array remaps.
abbrev remaps (pArray : List (Option CString)) : Nat → Option Nat :=
  written remapped pArray

theorem loadCustomPS2Map_eq_overlay : loadCustomPS2Map pArray f = overlay (remaps pArray) f := by
  rw [← foldl_update_eq_overlay]
  unfold loadCustomPS2Map loadEntries
  congr 1
  funext f pString
  cases pString
  case none     => rfl
  case some psz =>
    by_cases hc : psz.head? = some ';'
    case pos => simp [remapped, hc]
    case neg =>
      cases hr : parseRemap psz
      case none   => simp [remapped, customPS2MapEntry, hc, hr]
      case some e =>
        simp only [remapped, customPS2MapEntry, hc, hr, if_false, Option.bind_eq_bind, Option.bind_some]
        split
        all_goals rfl

namespace FunctionKeys

variable {k : FunctionKeys}

-- What a key is remapped to for a mode.
def remaps (k : FunctionKeys) (fkeymode : UInt32) : Nat → Option Nat :=
  Keyboard.remaps (k.keys fkeymode)

-- Every key of the standard list is in the special list as well, or is mapped like that anyway.
def Covered (k : FunctionKeys) (f : Nat → Nat) : Prop :=
  ∀ n, Keyboard.remaps k.keysSpecial n = none → ∀ v ∈ Keyboard.remaps k.keysStandard n, v = f n

-- Only what is in the standard list has to be looked at.
theorem covered_iff : k.Covered f ↔ ∀ pString ∈ k.keysStandard, ∀ e ∈ remapped pString,
    Keyboard.remaps k.keysSpecial e.1 = none → Keyboard.remaps k.keysStandard e.1 = some e.2 → e.2 = f e.1 := by
  constructor
  case mp  => exact fun h _ _ e _ hn hv => h e.1 hn e.2 hv
  case mpr =>
    intro h n hn v hv
    have ⟨pString, hp, he⟩ := mem_of_written hv
    exact h pString hp (n, v) he hn hv

instance : Decidable (k.Covered f) :=
  have (pString : Option CString) : Decidable (∀ e ∈ remapped pString, Keyboard.remaps k.keysSpecial e.1 = none →
      Keyboard.remaps k.keysStandard e.1 = some e.2 → e.2 = f e.1) :=
    Option.decidableForallMem _
  decidable_of_iff _ covered_iff.symm

theorem remaps_zero : k.remaps 0 = Keyboard.remaps k.keysSpecial :=
  rfl

theorem remaps_of_ne {m : UInt32} (h : m ≠ 0) : k.remaps m = Keyboard.remaps k.keysStandard := by
  rw [remaps, keys, if_pos h]

theorem remaps_congr {m m' : UInt32} (h : m = 0 ↔ m' = 0) : k.remaps m = k.remaps m' := by
  by_cases hm : m = 0
  case pos => rw [hm, h.mp hm]
  case neg => rw [remaps_of_ne hm, remaps_of_ne (h.not.mp hm)]

-- From the special keys, only the standard list can leave something behind.
theorem covered_special : Overlay.Covered k.remaps (overlay (k.remaps 0) f) ↔ k.Covered f := by
  constructor
  case mp =>
    intro h n hn v hv
    have hv := h 0 1 n hn v (by rwa [remaps_of_ne (by decide)])
    rwa [overlay_of_none (remaps_zero ▸ hn)] at hv
  case mpr =>
    intro h m m' n hn v hv
    by_cases hm : m' = 0
    case pos => exact (overlay_of_some (hm ▸ hv)).symm
    case neg =>
      by_cases hm₀ : m = 0
      case pos =>
        subst hm₀
        rw [overlay_of_none hn]
        exact h n hn v (remaps_of_ne hm ▸ hv)
      case neg =>
        rw [remaps_of_ne hm₀, ← remaps_of_ne hm, hv] at hn
        simp at hn

-- From the standard keys, the special list is known already.
theorem covered_standard {m₀ : UInt32} (h₀ : m₀ ≠ 0) :
    Overlay.Covered k.remaps (overlay (k.remaps m₀) (overlay (k.remaps 0) f)) := by
  intro m m' n hn v hv
  by_cases hm : m' = 0
  case neg =>
    rw [remaps_congr (show m' = 0 ↔ m₀ = 0 by simp [hm, h₀])] at hv
    exact (overlay_of_some hv).symm
  case pos =>
    have hm₀ : m ≠ 0 := by
      rintro rfl
      rw [hm, hn] at hv
      simp at hv
    rw [remaps_congr (show m = 0 ↔ m₀ = 0 by simp [hm₀, h₀])] at hn
    rw [overlay_of_none hn, overlay_of_some (hm ▸ hv)]

end FunctionKeys

namespace Settings

variable {s s₀ : Settings} {p : Profile} {k : FunctionKeys} {o : Options} {calls : List Options}

-- The mode with the table that depends on it.
def fkeys (s : Settings) : UInt32 × (Nat → Nat) :=
  (s.fkeymode, s.ps2ToPS2Map)

@[simp]
theorem setAction_functionKeys {swipe : Touchpad.Swipe} {str : Option CString} :
    (s.setAction swipe str).functionKeys = s.functionKeys := by
  cases str <;> rfl

@[simp]
theorem setAction_fkeys {swipe : Touchpad.Swipe} {str : Option CString} :
    (s.setAction swipe str).fkeys = s.fkeys := by
  cases str <;> rfl

theorem setFKeyMode_functionKeys {num : Option UInt32} :
    (s.setFKeyMode num).functionKeys = s.functionKeys := by
  unfold setFKeyMode
  split
  case h_1 => rfl
  case h_2 =>
    dsimp only
    split
    all_goals rfl

theorem setFKeyMode_fkeys {num : Option UInt32} (h : s.functionKeys = some k) :
    (s.setFKeyMode num).fkeys = switchTo k.remaps s.fkeys num := by
  simp only [setFKeyMode, h]
  by_cases hm : num.getD s.fkeymode = s.fkeymode
  case pos => rw [if_neg (not_not.mpr hm.symm), switchTo_of_eq hm]
  case neg =>
    rw [if_pos (Ne.symm hm), switchTo_of_ne hm, loadCustomPS2Map_eq_overlay]
    rfl

theorem setFKeyMode_of_none {num : Option UInt32} (h : s.functionKeys = none) : s.setFKeyMode num = s := by
  simp only [setFKeyMode, h]

theorem setParamPropertiesGated_functionKeys : (s.setParamPropertiesGated o).functionKeys = s.functionKeys := by
  simp only [setParamPropertiesGated, setAction_functionKeys]
  exact setFKeyMode_functionKeys

-- What comes before and after leaves the mode and its table alone.
theorem exists_setFKeyMode_fkeys : ∃ s' : Settings, s'.functionKeys = s.functionKeys ∧ s'.fkeys = s.fkeys ∧
    (s.setParamPropertiesGated o).fkeys = (s'.setFKeyMode o.hidFKeyMode).fkeys := by
  refine ⟨{ s with
    maxsleeppresstime := o.sleepPressTime.getD s.maxsleeppresstime
    f12ejectdelay     := o.hidF12EjectDelay.getD s.f12ejectdelay
    macroMaxTime      := o.maxMacroTime.getD s.macroMaxTime }, rfl, rfl, ?_⟩
  simp only [setParamPropertiesGated, setAction_fkeys]
  rfl

theorem setParamPropertiesGated_fkeys (h : s.functionKeys = some k) :
    (s.setParamPropertiesGated o).fkeys = switchTo k.remaps s.fkeys o.hidFKeyMode := by
  have ⟨s', hf, hs, he⟩ := @exists_setFKeyMode_fkeys s o
  rw [he, setFKeyMode_fkeys (hf.trans h), hs]

theorem setParamPropertiesGated_of_none (h : s.functionKeys = none) :
    (s.setParamPropertiesGated o).fkeys = s.fkeys := by
  have ⟨s', hf, hs, he⟩ := @exists_setFKeyMode_fkeys s o
  rw [he, setFKeyMode_of_none (hf.trans h), hs]

theorem setParams_fkeys (h : s.functionKeys = some k) :
    (s.setParams calls).fkeys = (calls.map Options.hidFKeyMode).foldl (switchTo k.remaps) s.fkeys := by
  unfold setParams
  induction calls generalizing s
  case nil => rfl
  case cons o calls hi =>
    rw [List.foldl_cons, hi (setParamPropertiesGated_functionKeys.trans h), setParamPropertiesGated_fkeys h]
    rfl

theorem setParams_of_none (h : s.functionKeys = none) : (s.setParams calls).fkeys = s.fkeys := by
  unfold setParams
  induction calls generalizing s
  case nil => rfl
  case cons o calls hi =>
    rw [List.foldl_cons, hi (setParamPropertiesGated_functionKeys.trans h), setParamPropertiesGated_of_none h]

theorem load_fkeys (h : p.functionKeys = some k) :
    (load p).fkeys = (0, overlay (k.remaps 0) (loadCustomPS2Map p.customPS2Map id)) := by
  simp only [load, fkeys, h, loadCustomPS2Map_eq_overlay]
  rfl

theorem init_functionKeys (h : init p = some s) : s.functionKeys = p.functionKeys := by
  unfold init at h
  split at h
  case isTrue  => nomatch h
  case isFalse =>
    obtain rfl := Option.some_inj.mp h
    exact setParamPropertiesGated_functionKeys

theorem init_fkeys (h : init p = some s) (hk : p.functionKeys = some k) :
    s.fkeys = switchTo k.remaps (load p).fkeys p.options.hidFKeyMode := by
  unfold init at h
  split at h
  case isTrue  => nomatch h
  case isFalse =>
    obtain rfl := Option.some_inj.mp h
    exact setParamPropertiesGated_fkeys hk

theorem init_settled (h : init p = some s) (hk : p.functionKeys = some k) :
    overlay (k.remaps s.fkeymode) s.ps2ToPS2Map = s.ps2ToPS2Map := by
  have hs := init_fkeys h hk
  rw [load_fkeys hk] at hs
  have hi : Settled k.remaps _ (0, overlay (k.remaps 0) (loadCustomPS2Map p.customPS2Map id)) :=
    ⟨overlay_overlay_self, fun _ => .inl rfl⟩
  have hi := (hi.switchTo p.options.hidFKeyMode).mode
  rw [← hs] at hi
  exact hi

-- Whatever is left behind by a mode is known already if the profile starts with the standard keys.
theorem init_covered_iff (h : init p = some s) (hk : p.functionKeys = some k) :
    Overlay.Covered k.remaps s.ps2ToPS2Map ↔
      s.fkeymode ≠ 0 ∨ k.Covered (loadCustomPS2Map p.customPS2Map id) := by
  have hs := init_fkeys h hk
  rw [load_fkeys hk] at hs
  by_cases hm : p.options.hidFKeyMode.getD 0 = 0
  case pos =>
    rw [switchTo_of_eq hm] at hs
    have ⟨hz, ht⟩ := Prod.mk.inj hs
    rw [ht, FunctionKeys.covered_special]
    simp [hz]
  case neg =>
    rw [switchTo_of_ne hm] at hs
    have ⟨hz, ht⟩ := Prod.mk.inj hs
    rw [ht]
    exact iff_of_true (FunctionKeys.covered_standard hm) (.inl (hz ▸ hm))

-- However often the mode is changed, the table of the scan codes depends on the mode alone exactly if the
-- lists for the two modes fit together, or if the profile starts with the standard function keys.
theorem setParams_ps2ToPS2Map_iff (p : Profile) (s : Settings) (h : init p = some s) :
    (∀ calls calls' : List Options,
      ((s.setParams calls).fkeymode = 0 ↔ (s.setParams calls').fkeymode = 0) →
        (s.setParams calls).ps2ToPS2Map = (s.setParams calls').ps2ToPS2Map) ↔
    ∀ k ∈ p.functionKeys, s.fkeymode ≠ 0 ∨ k.Covered (loadCustomPS2Map p.customPS2Map id) := by
  cases hk : p.functionKeys
  case none =>
    simp only [Option.not_mem_none, false_implies, implies_true, iff_true]
    intro calls calls' _
    have hs := init_functionKeys h |>.trans hk
    exact congrArg Prod.snd ((setParams_of_none hs).trans (setParams_of_none hs).symm)
  case some k =>
    have hs := init_functionKeys h |>.trans hk
    simp only [Option.mem_def, Option.some_inj, forall_eq', ← init_covered_iff h hk]
    have h₀ := init_settled h hk
    have hf := fun calls => @setParams_fkeys s k calls hs
    constructor
    case mp =>
      intro hc
      refine .of_foldl h₀ fun ms ms' hm => ?_
      have he : ∀ ms : List (Option UInt32),
          ms.foldl (switchTo k.remaps) s.fkeys = (s.setParams (ms.map fun m => { hidFKeyMode := m })).fkeys := by
        intro ms
        rw [hf, List.map_map]
        exact congrArg (List.foldl _ _) (List.map_id _).symm
      have hm : (ms.foldl (switchTo k.remaps) s.fkeys).1 = (ms'.foldl (switchTo k.remaps) s.fkeys).1 := hm
      show (ms.foldl (switchTo k.remaps) s.fkeys).2 = (ms'.foldl (switchTo k.remaps) s.fkeys).2
      rw [he, he] at hm ⊢
      exact hc _ _ (congrArg (· = 0) hm).to_iff
    case mpr =>
      intro hc calls calls' hz
      have ht := @hc.foldl_eq _ _ _ _ _ _ _ (calls.map Options.hidFKeyMode) (calls'.map Options.hidFKeyMode) h₀
      have hf : ∀ calls, (calls.map Options.hidFKeyMode).foldl (switchTo k.remaps) (s.fkeymode, s.ps2ToPS2Map) =
          (s.setParams calls).fkeys := fun calls => (hf calls).symm
      rw [hf, hf] at ht
      exact ht (FunctionKeys.remaps_congr hz)

-- The strings of an array.
def strings (array : List String) : List (Option CString) :=
  array.map fun s => some s.toList

-- The node `ProBook-102` of the property list.
def proBook102 : Profile where
  customPS2Map         := strings ["e005=0"]
  functionKeysStandard := some <| strings [
    ";The following 12 items map Fn+fkeys to Fn+fkeys", "e05f=e05f", "e012=e012", "e017=e017",
    "e06e=e06e", "e00a=e00a", "e009=e009", "e020=e020", "e02e=e02e", "e030=e030", "e010=e010",
    "e022=e022", "e019=e019", ";The following 12 items map fkeys to fkeys", "3b=3b", "3c=3c", "3d=3d",
    "3e=3e", "3f=3f", "40=40", "41=41", "42=42", "43=43", "44=44", "57=57", "58=58"]
  functionKeysSpecial  := some <| strings [
    ";The following 12 items map Fn+fkeys to fkeys", "e05f=3b", "e012=3c", "e017=3d", "e06e=3e",
    "e00a=3f", "e009=40", "e020=41", "e02e=42", "e030=43", "e010=44", "e022=57", "e019=58",
    ";The following 12 items map fkeys to Fn+fkeys", "3b=e05f", "3c=e012", "3d=e017", "3e=e06e",
    "3f=e00a", "40=e009", "41=e020", "42=e02e", "43=e030", "44=e010", "57=e022", "58=e019"]
  options              := { sleepPressTime := some 3000 }

theorem setParams_ps2ToPS2Map_iff_proBook102 :
    let s := (load proBook102).setParamPropertiesGated proBook102.options
    ∀ calls calls' : List Options,
      ((s.setParams calls).fkeymode = 0 ↔ (s.setParams calls').fkeymode = 0) →
        (s.setParams calls).ps2ToPS2Map = (s.setParams calls').ps2ToPS2Map := by
  refine (setParams_ps2ToPS2Map_iff proBook102 _ rfl).mpr fun k hk => .inr ?_
  obtain rfl := Option.some_inj.mp hk
  decide +kernel

end Settings
end Keyboard
