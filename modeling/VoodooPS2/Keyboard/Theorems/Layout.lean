import VoodooPS2.Keyboard.Layout

namespace Keyboard

open LastValue

namespace Layout

variable {base : Nat → UInt8} {l : Layout} {o : Option Bool} {k : Nat} {temp : Bool}

@[simp]
theorem map_apply {keyCode : Nat} {adbKeyCode : UInt8} : (l.map keyCode adbKeyCode).ps2ToADBMap k =
    if k = keyCode then adbKeyCode else l.ps2ToADBMap k := by
  simp [map, Function.update_apply]

@[simp]
theorem map_swapcommandoption {keyCode : Nat} {adbKeyCode : UInt8} :
    (l.map keyCode adbKeyCode).swapcommandoption = l.swapcommandoption :=
  rfl

section Setters

-- The setters leave the codes of most keys alone.
@[simp]
theorem setSwapCapsLockLeftControl_of_ne (h : k ∉ [0x3a, 0x1d]) :
    (l.setSwapCapsLockLeftControl base o).ps2ToADBMap k = l.ps2ToADBMap k := by
  rcases o with _ | _ | _ <;> simp_all [setSwapCapsLockLeftControl]

@[simp]
theorem setSwapCommandOption_of_ne (h : k ∉ [0x38, 0x15b, 0x138, 0x15c]) :
    (l.setSwapCommandOption base o).ps2ToADBMap k = l.ps2ToADBMap k := by
  rcases o with _ | _ | _ <;> simp_all [setSwapCommandOption]

@[simp]
theorem setMakeApplicationKeyRightWindows_of_ne (h : k ∉ [0x15d]) :
    (l.setMakeApplicationKeyRightWindows base o).ps2ToADBMap k = l.ps2ToADBMap k := by
  rcases o with _ | _ | _ <;> simp_all [setMakeApplicationKeyRightWindows]

@[simp]
theorem setMakeApplicationKeyAppleFN_of_ne (h : k ∉ [0x15d]) :
    (l.setMakeApplicationKeyAppleFN base temp o).ps2ToADBMap k = l.ps2ToADBMap k := by
  rcases o with _ | _ | _ <;> cases temp <;> simp_all [setMakeApplicationKeyAppleFN]

@[simp]
theorem setMakeRightModsHangulHanja_of_ne (h : k ∉ [0x138, 0x11d]) :
    (l.setMakeRightModsHangulHanja base o).ps2ToADBMap k = l.ps2ToADBMap k := by
  rcases o with _ | _ | _ <;> simp_all [setMakeRightModsHangulHanja]

@[simp]
theorem setUseISOLayoutKeyboard_of_ne (h : k ∉ [0x29, 0x56]) :
    (l.setUseISOLayoutKeyboard base o).ps2ToADBMap k = l.ps2ToADBMap k := by
  rcases o with _ | _ | _ <;> simp_all [setUseISOLayoutKeyboard]

-- Only one of them changes what is remembered.
@[simp]
theorem setSwapCapsLockLeftControl_swapcommandoption :
    (l.setSwapCapsLockLeftControl base o).swapcommandoption = l.swapcommandoption := by
  rcases o with _ | _ | _ <;> rfl

@[simp]
theorem setSwapCommandOption_swapcommandoption :
    (l.setSwapCommandOption base o).swapcommandoption = o.getD l.swapcommandoption := by
  rcases o with _ | _ | _ <;> rfl

@[simp]
theorem setMakeApplicationKeyRightWindows_swapcommandoption :
    (l.setMakeApplicationKeyRightWindows base o).swapcommandoption = l.swapcommandoption := by
  rcases o with _ | _ | _ <;> rfl

@[simp]
theorem setMakeApplicationKeyAppleFN_swapcommandoption :
    (l.setMakeApplicationKeyAppleFN base temp o).swapcommandoption = l.swapcommandoption := by
  rcases o with _ | _ | _ <;> cases temp <;> rfl

@[simp]
theorem setMakeRightModsHangulHanja_swapcommandoption :
    (l.setMakeRightModsHangulHanja base o).swapcommandoption = l.swapcommandoption := by
  rcases o with _ | _ | _ <;> rfl

@[simp]
theorem setUseISOLayoutKeyboard_swapcommandoption :
    (l.setUseISOLayoutKeyboard base o).swapcommandoption = l.swapcommandoption := by
  rcases o with _ | _ | _ <;> rfl

end Setters

end Layout

namespace LayoutOptions

variable (base : Nat → UInt8)

-- The code of the right alt key.
def rightAlt (swapped : Bool) : UInt8 :=
  base (if swapped then 0x15c else 0x138)

def rightWindows (swapped : Bool) : UInt8 :=
  if swapped then 0x3d else 0x36

def appleFN (fn : Bool) : UInt8 :=
  if fn then 0x3f else base 0x15d

theorem rightWindows_inj {s s' : Bool} : rightWindows s = rightWindows s' ↔ s = s' := by
  revert s s'
  decide

variable (swapped : Bool) (o : LayoutOptions)

def SetsApplicationKey : Prop :=
  o.makeApplicationKeyRightWindows ≠ none ∨ o.makeApplicationKeyAppleFN ≠ none
  deriving Decidable

-- The code of the right alt key that a call sets, where `swapped` is what is remembered.
def rightAltCode : Option UInt8 :=
  (o.makeRightModsHangulHanja.map fun b => if b then base 0xf2 else rightAlt base swapped).or
    (o.swapCommandOption.map (rightAlt base))

def applicationKeyCode : Option UInt8 :=
  if o.makeApplicationKeyRightWindows = some true then some (rightWindows swapped)
  else
    (o.makeApplicationKeyAppleFN.map (appleFN base)).or
      (o.makeApplicationKeyRightWindows.map fun _ => base 0x15d)

-- What a call sets the code of a key to.
def code : Nat → Option UInt8
  | 0x3a  => o.swapCapsLockLeftControl.map fun b => base (if b then 0x1d else 0x3a)
  | 0x1d  => o.swapCapsLockLeftControl.map fun b => base (if b then 0x3a else 0x1d)
  | 0x38  => o.swapCommandOption.map fun b => base (if b then 0x15b else 0x38)
  | 0x15b => o.swapCommandOption.map fun b => base (if b then 0x38 else 0x15b)
  | 0x15c => o.swapCommandOption.map fun b => base (if b then 0x138 else 0x15c)
  | 0x11d => o.makeRightModsHangulHanja.map fun b => base (if b then 0xf1 else 0x11d)
  | 0x29  => o.useISOLayoutKeyboard.map fun b => base (if b then 0x56 else 0x29)
  | 0x56  => o.useISOLayoutKeyboard.map fun b => base (if b then 0x29 else 0x56)
  | 0x138 => o.rightAltCode base swapped
  | 0x15d => o.applicationKeyCode base swapped
  | _     => none

end LayoutOptions

namespace Layout

variable {base : Nat → UInt8} {l : Layout} {o : LayoutOptions} {k : Nat}

@[simp]
theorem setParamPropertiesGated_swapcommandoption :
    (l.setParamPropertiesGated base o).swapcommandoption =
      o.swapCommandOption.getD l.swapcommandoption := by
  simp [setParamPropertiesGated]

theorem setParamPropertiesGated_code :
    (l.setParamPropertiesGated base o).ps2ToADBMap k =
      (o.code base (o.swapCommandOption.getD l.swapcommandoption) k).getD (l.ps2ToADBMap k) := by
  unfold setParamPropertiesGated LayoutOptions.code
  split
  case h_1 | h_2 =>
    rcases o.swapCapsLockLeftControl with _ | _ | _ <;> simp [setSwapCapsLockLeftControl]
  case h_3 | h_4 | h_5 =>
    rcases o.swapCommandOption with _ | _ | _ <;> simp [setSwapCommandOption]
  case h_6 =>
    rcases o.makeRightModsHangulHanja with _ | _ | _ <;> simp [setMakeRightModsHangulHanja]
  case h_7 | h_8 =>
    rcases o.useISOLayoutKeyboard with _ | _ | _ <;> simp [setUseISOLayoutKeyboard]
  case h_9 =>
    unfold LayoutOptions.rightAltCode LayoutOptions.rightAlt
    rcases o.makeRightModsHangulHanja with _ | _ | _ <;> rcases o.swapCommandOption with _ | _ | _ <;>
      simp [setMakeRightModsHangulHanja, setSwapCommandOption, apply_ite base]
  case h_10 =>
    unfold LayoutOptions.applicationKeyCode LayoutOptions.rightWindows LayoutOptions.appleFN
    rcases o.makeApplicationKeyRightWindows with _ | _ | _ <;>
      rcases o.makeApplicationKeyAppleFN with _ | _ | _ <;>
        simp [setMakeApplicationKeyAppleFN, setMakeApplicationKeyRightWindows]
  case h_11 => simp_all

section Runs

variable {calls pre post : List LayoutOptions} {s s' : Bool}

-- What is remembered after a sequence of calls.
def swapped (l : Layout) (calls : List LayoutOptions) : Bool :=
  (lastValue LayoutOptions.swapCommandOption calls).getD l.swapcommandoption

theorem setParams_swapcommandoption :
    (l.setParams base calls).swapcommandoption = l.swapped calls :=
  foldl_entry fun _ _ _ => setParamPropertiesGated_swapcommandoption

theorem setParams_split : l.setParams base (pre ++ o :: post) =
    (((l.setParams base pre).setParamPropertiesGated base o).setParams base post) := by
  rw [setParams, List.foldl_append]
  rfl

theorem swapped_split (h : lastValue LayoutOptions.swapCommandOption post = none) :
    l.swapped (pre ++ o :: post) = l.swapped (pre ++ [o]) := by
  rw [swapped, swapped, lastValue_split (lastValue_eq_none.mp h), lastValue_concat]

theorem swapped_of_post (h : lastValue LayoutOptions.swapCommandOption post = some s) :
    l.swapped (pre ++ o :: post) = s := by
  have he : pre ++ o :: post = pre ++ [o] ++ post := by simp
  rw [swapped, he, lastValue_append, h]
  rfl

theorem setParams_call_swapcommandoption :
    ((l.setParams base pre).setParamPropertiesGated base o).swapcommandoption =
      l.swapped (pre ++ [o]) := by
  rw [← @setParams_swapcommandoption base, setParams_split]
  rfl

-- One call with the last value of every option.
theorem last_code : (l.setParamPropertiesGated base (.last calls)).ps2ToADBMap k =
    ((LayoutOptions.last calls).code base (l.swapped calls) k).getD (l.ps2ToADBMap k) :=
  setParamPropertiesGated_code

-- The codes of most keys are those of a single option.
theorem code_last (h : k ≠ 0x138) (h' : k ≠ 0x15d) : (LayoutOptions.last calls).code base s k =
    lastValue (fun o => o.code base s' k) calls := by
  unfold LayoutOptions.code
  split
  case h_9  => exact absurd rfl h
  case h_10 => exact absurd rfl h'
  case h_11 => exact (lastValue_eq_none.mpr fun _ _ => rfl).symm
  all_goals exact lastValue_map.symm

-- The code of a key that does not depend on what is remembered.
theorem setParams_entry {f : LayoutOptions → Option UInt8}
    (h : ∀ s, ∀ o ∈ calls, o.code base s k = f o) :
    (l.setParams base calls).ps2ToADBMap k = (lastValue f calls).getD (l.ps2ToADBMap k) :=
  @foldl_entry _ _ _ _ (fun l => l.ps2ToADBMap k) f l calls fun l o ho => by
    rw [setParamPropertiesGated_code, h _ o ho]

theorem setParams_of_ne (h : k ≠ 0x138) (h' : k ≠ 0x15d) : (l.setParams base calls).ps2ToADBMap k =
    (l.setParamPropertiesGated base (.last calls)).ps2ToADBMap k := by
  have hs {s s' : Bool} {o : LayoutOptions} : o.code base s k = o.code base s' k := by
    unfold LayoutOptions.code
    split <;> first | rfl | contradiction
  rw [last_code, @code_last base k calls (l.swapped calls) false h h']
  exact setParams_entry fun _ _ _ => hs

open LayoutOptions

-- The right alt key, if the call `o` is the last one to set the option for the Hangul and Hanja keys.
theorem setParams_rightAlt {b : Bool} (h : ∀ o ∈ post, o.makeRightModsHangulHanja = none)
    (ho : o.makeRightModsHangulHanja = some b) :
    (l.setParams base (pre ++ o :: post)).ps2ToADBMap 0x138 =
      ((lastValue swapCommandOption post).map (rightAlt base)).getD
        (if b then base 0xf2 else rightAlt base (l.swapped (pre ++ [o]))) := by
  have hc (s : Bool) (o' : LayoutOptions) (ho' : o' ∈ post) :
      o'.code base s 0x138 = o'.swapCommandOption.map (rightAlt base) := by
    rw [code, rightAltCode, h o' ho']
    rfl
  rw [setParams_split, setParams_entry hc, lastValue_map, ← @setParams_call_swapcommandoption base,
    setParamPropertiesGated_swapcommandoption, setParamPropertiesGated_code, code, rightAltCode, ho]
  rfl

theorem rightAlt_iff {b : Bool} (h : ∀ o ∈ post, o.makeRightModsHangulHanja = none)
    (ho : o.makeRightModsHangulHanja = some b) :
    (l.setParams base (pre ++ o :: post)).ps2ToADBMap 0x138 =
        (l.setParamPropertiesGated base (.last (pre ++ o :: post))).ps2ToADBMap 0x138 ↔
      (b = true → (∃ o' ∈ post, o'.swapCommandOption ≠ none) →
        base 0xf2 = rightAlt base (l.swapped (pre ++ o :: post))) := by
  have hl : (LayoutOptions.last (pre ++ o :: post)).makeRightModsHangulHanja = some b := by
    simp only [LayoutOptions.last, lastValue_split h, ho, Option.some_or]
  rw [setParams_rightAlt h ho, last_code, code, rightAltCode, hl]
  cases hs : lastValue swapCommandOption post
  case none =>
    have hn : ¬∃ o' ∈ post, o'.swapCommandOption ≠ none := by simpa using lastValue_eq_none.mp hs
    simp [swapped_split hs, hn]
  case some s =>
    have he : ∃ o' ∈ post, o'.swapCommandOption ≠ none := by
      by_contra hn
      rw [lastValue_eq_none.mpr (by simpa using hn)] at hs
      cases hs
    rw [swapped_of_post hs]
    cases b
    case false => simp
    case true  => simp [he, eq_comm]

-- The application key, if the call `o` is the last one to set an option for it.
theorem setParams_applicationKey (h : ∀ o ∈ post, ¬o.SetsApplicationKey) :
    (l.setParams base (pre ++ o :: post)).ps2ToADBMap 0x15d =
      (o.applicationKeyCode base (l.swapped (pre ++ [o]))).getD
        ((l.setParams base pre).ps2ToADBMap 0x15d) := by
  have hc (s : Bool) (o' : LayoutOptions) (ho' : o' ∈ post) : o'.code base s 0x15d = none := by
    have ⟨hw, hf⟩ := not_or.mp (h o' ho')
    rw [code, applicationKeyCode, not_not.mp hw, not_not.mp hf]
    rfl
  have hn : lastValue (fun _ : LayoutOptions => (none : Option UInt8)) post = none :=
    lastValue_eq_none.mpr fun _ _ => rfl
  rw [setParams_split, setParams_entry hc, hn, ← @setParams_call_swapcommandoption base,
    setParamPropertiesGated_swapcommandoption, setParamPropertiesGated_code]
  rfl

-- What the call `o` makes of the application key agrees with the calls before and after it.
structure KeepsApplicationKey (base : Nat → UInt8) (l : Layout) (pre : List LayoutOptions)
    (o : LayoutOptions) (post : List LayoutOptions) : Prop where
  kept       : o.makeApplicationKeyRightWindows = some true →
    l.swapped (pre ++ [o]) = l.swapped (pre ++ o :: post)
  overridden : o.makeApplicationKeyRightWindows = none →
    lastValue makeApplicationKeyRightWindows pre = some true →
      ∀ b, o.makeApplicationKeyAppleFN = some b →
        appleFN base b = rightWindows (l.swapped (pre ++ o :: post))
  forgotten  : o.makeApplicationKeyRightWindows = some false → o.makeApplicationKeyAppleFN = none →
    lastValue makeApplicationKeyAppleFN pre = some true → base 0x15d = appleFN base true

theorem applicationKey_iff (h : ∀ o ∈ post, ¬o.SetsApplicationKey) (ho : o.SetsApplicationKey) :
    (l.setParams base (pre ++ o :: post)).ps2ToADBMap 0x15d =
        (l.setParamPropertiesGated base (.last (pre ++ o :: post))).ps2ToADBMap 0x15d ↔
      l.KeepsApplicationKey base pre o post := by
  have hw := @lastValue_split _ _ makeApplicationKeyRightWindows o pre post fun o ho =>
    not_not.mp (not_or.mp (h o ho)).left
  have hf := @lastValue_split _ _ makeApplicationKeyAppleFN o pre post fun o ho =>
    not_not.mp (not_or.mp (h o ho)).right
  have hk : l.KeepsApplicationKey base pre o post ↔ _ ∧ _ ∧ _ :=
    ⟨fun h => ⟨h.kept, h.overridden, h.forgotten⟩, fun h => ⟨h.left, h.right.left, h.right.right⟩⟩
  rw [setParams_applicationKey h, last_code, hk]
  simp only [code, applicationKeyCode, LayoutOptions.last, hw, hf]
  unfold SetsApplicationKey at ho
  generalize o.makeApplicationKeyRightWindows = w at ho
  generalize o.makeApplicationKeyAppleFN = fn at ho
  generalize lastValue makeApplicationKeyRightWindows pre = w'
  generalize lastValue makeApplicationKeyAppleFN pre = fn'
  rcases w with _ | _ | _
  case none =>
    cases fn
    case none   => simp at ho
    case some b =>
      rcases w' with _ | _ | _ <;> simp
  case some.false =>
    cases fn
    case some b => simp
    case none   => rcases fn' with _ | _ | _ <;> simp [appleFN]
  case some.true => simp [rightWindows_inj]

-- Options that share an entry of the table are set in the order in which a single call looks at them.
structure InOrder (base : Nat → UInt8) (l : Layout) (calls : List LayoutOptions) : Prop where
  rightAlt : ∀ pre o post, calls = pre ++ o :: post →
    (∀ o' ∈ post, o'.makeRightModsHangulHanja = none) → o.makeRightModsHangulHanja = some true →
      (∃ o' ∈ post, o'.swapCommandOption ≠ none) → base 0xf2 = rightAlt base (l.swapped calls)
  applicationKey : ∀ pre o post, calls = pre ++ o :: post → (∀ o' ∈ post, ¬o'.SetsApplicationKey) →
    o.SetsApplicationKey → l.KeepsApplicationKey base pre o post

theorem InOrder.rightAlt_eq (h : l.InOrder base calls) :
    (l.setParams base calls).ps2ToADBMap 0x138 =
      (l.setParamPropertiesGated base (.last calls)).ps2ToADBMap 0x138 := by
  rcases last_or_none (p := fun o : LayoutOptions => o.makeRightModsHangulHanja ≠ none) calls with
    hn | ⟨pre, o, post, rfl, ho, hn⟩
  case inl =>
    have hn (o : LayoutOptions) (ho : o ∈ calls) : o.makeRightModsHangulHanja = none :=
      not_not.mp (hn o ho)
    have hc (s : Bool) (o : LayoutOptions) (ho : o ∈ calls) :
        o.code base s 0x138 = o.swapCommandOption.map (LayoutOptions.rightAlt base) := by
      rw [code, rightAltCode, hn o ho]
      rfl
    rw [setParams_entry hc, last_code, code, rightAltCode, lastValue_map]
    simp only [LayoutOptions.last, lastValue_eq_none.mpr hn]
    rfl
  case inr =>
    have ⟨b, hb⟩ := Option.ne_none_iff_exists'.mp ho
    have hn (o' : LayoutOptions) (ho' : o' ∈ post) : o'.makeRightModsHangulHanja = none :=
      not_not.mp (hn o' ho')
    exact (rightAlt_iff hn hb).mpr fun ht => h.rightAlt pre o post rfl hn (ht ▸ hb)

theorem InOrder.applicationKey_eq (h : l.InOrder base calls) :
    (l.setParams base calls).ps2ToADBMap 0x15d =
      (l.setParamPropertiesGated base (.last calls)).ps2ToADBMap 0x15d := by
  rcases last_or_none (p := SetsApplicationKey) calls with hn | ⟨pre, o, post, rfl, ho, hn⟩
  case inr => exact (applicationKey_iff hn ho).mpr (h.applicationKey pre o post rfl hn ho)
  case inl =>
    have hw (o : LayoutOptions) (ho : o ∈ calls) : o.makeApplicationKeyRightWindows = none :=
      not_not.mp (not_or.mp (hn o ho)).left
    have hf (o : LayoutOptions) (ho : o ∈ calls) : o.makeApplicationKeyAppleFN = none :=
      not_not.mp (not_or.mp (hn o ho)).right
    have hc (s : Bool) (o : LayoutOptions) (ho : o ∈ calls) : o.code base s 0x15d = none := by
      rw [code, applicationKeyCode, hw o ho, hf o ho]
      rfl
    have he : lastValue (fun _ : LayoutOptions => (none : Option UInt8)) calls = none :=
      lastValue_eq_none.mpr fun _ _ => rfl
    rw [setParams_entry hc, he, last_code, code, applicationKeyCode]
    simp [LayoutOptions.last, lastValue_eq_none.mpr hw, lastValue_eq_none.mpr hf]

end Runs

end Layout

-- The exact condition under which a sequence of calls can be replaced by one call.
theorem setParams_iff (base : Nat → UInt8) (l : Layout) (calls : List LayoutOptions) :
    (l.setParams base calls).ps2ToADBMap =
        (l.setParamPropertiesGated base (.last calls)).ps2ToADBMap ↔ l.InOrder base calls := by
  constructor
  case mp =>
    intro h
    refine ⟨fun pre o post he hn ho => ?_, fun pre o post he hn ho => ?_⟩
    · subst he
      exact (Layout.rightAlt_iff hn ho).mp (congrFun h 0x138) rfl
    · subst he
      exact (Layout.applicationKey_iff hn ho).mp (congrFun h 0x15d)
  case mpr =>
    intro h
    funext k
    by_cases ha : k = 0x138
    case pos => exact ha ▸ h.rightAlt_eq
    case neg =>
      by_cases hk : k = 0x15d
      case pos => exact hk ▸ h.applicationKey_eq
      case neg => exact Layout.setParams_of_ne ha hk

-- The option for the Apple function key is not ignored if the other one has been set by an earlier call.
theorem not_setParams_last :
    ¬ ∀ (base : Nat → UInt8) (l : Layout) (calls : List LayoutOptions),
      (l.setParams base calls).ps2ToADBMap =
        (l.setParamPropertiesGated base (.last calls)).ps2ToADBMap := by
  intro h
  have := congrFun (h ps2ToADBMapStock ⟨ps2ToADBMapStock, false⟩
    [{ makeApplicationKeyRightWindows := some true }, { makeApplicationKeyAppleFN := some true }]) 0x15d
  exact absurd this (by decide)

end Keyboard
