import VoodooPS2.Keyboard.Theorems.Dispatch
import VoodooPS2.Keyboard.Theorems.Driver
import VoodooPS2.Keyboard.Theorems.Macro

namespace Keyboard

-- Some entry of the map is the code of caps lock, which is not sent like the others.
def SendsCapsLock (cfg : Config) : Prop :=
  ∃ keyCode, IsCapsLock cfg (cfg.ps2ToADBMap keyCode)

-- Registers that make no difference to what is dispatched. If `timed` does not hold, this does not include
-- what the timer for the sleep and eject keys does.
structure Dispatcher.Alike (cfg : Config) (timed : Prop) (d e : Dispatcher) : Prop where
  state : d.ps2modifierState = e.ps2modifierState
  caps  : SendsCapsLock cfg → d.firsttime = e.firsttime
  timer : timed → d.sleepEjectTimer = e.sleepEjectTimer
  func  : timed → d.sleepEjectTimer = true → d.timerFunc = e.timerFunc

namespace Dispatcher.Alike

variable {cfg : Config} {timed : Prop} {d e : Dispatcher} {v : KeyBits} {n keyCode : Nat} {on eatKey : Bool}
variable {adbKeyCode : UInt8}

theorem withState (h : d.Alike cfg timed e) (state : UInt16) :
    { d with ps2modifierState := state }.Alike cfg timed { e with ps2modifierState := state } :=
  ⟨rfl, h.caps, h.timer, h.func⟩

theorem cancelled (h : d.Alike cfg timed e) :
    { d with sleepEjectTimer := false }.Alike cfg timed { e with sleepEjectTimer := false } :=
  ⟨h.state, h.caps, fun _ => rfl, fun _ ho => Bool.noConfusion ho⟩

theorem withFunc (h : d.Alike cfg timed e) (f : TimerFunc) :
    { d with timerFunc := f }.Alike cfg timed { e with timerFunc := f } :=
  ⟨h.state, h.caps, h.timer, fun _ _ => rfl⟩

theorem set (h : d.Alike cfg timed e) (f : TimerFunc) :
    { d with timerFunc := f, sleepEjectTimer := true }.Alike cfg timed
      { e with timerFunc := f, sleepEjectTimer := true } :=
  ⟨h.state, h.caps, fun _ => rfl, fun _ _ => rfl⟩

theorem trackModifier (h : d.Alike cfg timed e) :
    (d.trackModifier cfg n on).Alike cfg timed (e.trackModifier cfg n on) := by
  obtain ⟨state, _, _, _⟩ := d
  obtain ⟨_, _, _, _⟩ := e
  obtain rfl : state = _ := h.state
  simp only [Dispatcher.trackModifier]
  split
  case isTrue  => exact h.withState _
  case isFalse => exact h

-- Two functions branch in the same way.
theorem branch {α : Type} {p : Prop} [Decidable p] {r₁ r₂ r₁' r₂' : Dispatcher × α}
    (h₁ : r₁.1.Alike cfg timed r₁'.1 ∧ r₁.2 = r₁'.2) (h₂ : r₂.1.Alike cfg timed r₂'.1 ∧ r₂.2 = r₂'.2) :
    (if p then r₁ else r₂).1.Alike cfg timed (if p then r₁' else r₂').1 ∧
      (if p then r₁ else r₂).2 = (if p then r₁' else r₂').2 := by
  split
  case isTrue  => exact h₁
  case isFalse => exact h₂

theorem switchKeyCode (h : d.Alike cfg timed e) :
    (switchKeyCode cfg v d keyCode on).1.Alike cfg timed (switchKeyCode cfg v e keyCode on).1 ∧
      (switchKeyCode cfg v d keyCode on).2 = (switchKeyCode cfg v e keyCode on).2 := by
  obtain ⟨state, _, _, _⟩ := d
  obtain ⟨_, _, _, _⟩ := e
  obtain rfl : state = _ := h.state
  repeat' apply branch
  all_goals first
    | exact ⟨h, rfl⟩ | exact ⟨h.cancelled, rfl⟩ | exact ⟨h.withFunc _, rfl⟩ | exact ⟨h.set _, rfl⟩

theorem switchADBKeyCode (h : d.Alike cfg timed e) :
    (switchADBKeyCode cfg d adbKeyCode on).1.Alike cfg timed (switchADBKeyCode cfg e adbKeyCode on).1 ∧
      (switchADBKeyCode cfg d adbKeyCode on).2 = (switchADBKeyCode cfg e adbKeyCode on).2 := by
  obtain ⟨state, _, _, _⟩ := d
  obtain ⟨_, _, _, _⟩ := e
  obtain rfl : state = _ := h.state
  repeat' apply branch
  all_goals first
    | exact ⟨h, rfl⟩ | exact ⟨h.cancelled, rfl⟩ | exact ⟨h.withFunc _, rfl⟩ | exact ⟨h.set _, rfl⟩

-- The code that comes out of the special cases is no other one for caps lock.
theorem capsLock_of_left (h : IsCapsLock cfg (leftADBKeyCode cfg adbKeyCode)) : IsCapsLock cfg adbKeyCode := by
  unfold leftADBKeyCode at h
  split at h
  case isTrue  => exact absurd h.left (by decide)
  case isFalse => exact h

theorem sendKey (h : d.Alike cfg timed e) (hc : IsCapsLock cfg adbKeyCode → d.firsttime = e.firsttime) :
    (sendKey cfg d n keyCode adbKeyCode on eatKey).1.Alike cfg timed
        (sendKey cfg e n keyCode adbKeyCode on eatKey).1 ∧
      (sendKey cfg d n keyCode adbKeyCode on eatKey).2 = (sendKey cfg e n keyCode adbKeyCode on eatKey).2 := by
  simp only [Keyboard.sendKey]
  split
  case isTrue hl =>
    rw [hc hl]
    split
    case isTrue  => exact ⟨⟨h.state, fun _ => rfl, h.timer, h.func⟩, rfl⟩
    case isFalse => exact ⟨h, rfl⟩
  case isFalse =>
    split
    case isTrue  => exact ⟨h, rfl⟩
    case isFalse => exact ⟨h, rfl⟩

theorem dispatchKey (h : d.Alike cfg timed e) :
    (dispatchKey cfg v d n on).1.Alike cfg timed (dispatchKey cfg v e n on).1 ∧
      (dispatchKey cfg v d n on).2 = (dispatchKey cfg v e n on).2 := by
  obtain ⟨h₁, he₁⟩ := @switchKeyCode _ _ _ _ v (cfg.ps2ToPS2Map n) on (@trackModifier _ _ _ _ n on h)
  simp only [Keyboard.dispatchKey]
  generalize Keyboard.switchKeyCode cfg v (d.trackModifier cfg n on) (cfg.ps2ToPS2Map n) on = r at h₁ he₁ ⊢
  generalize Keyboard.switchKeyCode cfg v (e.trackModifier cfg n on) (cfg.ps2ToPS2Map n) on = r' at h₁ he₁ ⊢
  obtain ⟨d₁, keyCode, _⟩ := r
  obtain ⟨e₁, _⟩ := r'
  cases he₁
  obtain ⟨h₂, he₂⟩ := @switchADBKeyCode _ _ _ _ on (cfg.ps2ToADBMap keyCode) h₁
  have hl := (switchADBKeyCode_spec cfg d₁ (cfg.ps2ToADBMap keyCode) on).code
  generalize Keyboard.switchADBKeyCode cfg d₁ (cfg.ps2ToADBMap keyCode) on = s at h₂ he₂ hl ⊢
  generalize Keyboard.switchADBKeyCode cfg e₁ (cfg.ps2ToADBMap keyCode) on = s' at h₂ he₂ ⊢
  obtain ⟨d₂, adbKeyCode, eatKey, _⟩ := s
  obtain ⟨e₂, _⟩ := s'
  cases he₂
  have hl : adbKeyCode = leftADBKeyCode cfg (cfg.ps2ToADBMap keyCode) := hl
  have hc (hc : IsCapsLock cfg adbKeyCode) : d₂.firsttime = e₂.firsttime :=
    h₂.caps ⟨_, capsLock_of_left (hl ▸ hc)⟩
  obtain ⟨h₃, he₃⟩ := @sendKey _ _ _ _ n keyCode on eatKey adbKeyCode h₂ hc
  exact ⟨h₃, congrArg (_ ++ _ :: ·) he₃⟩

theorem dispatch {packet : List UInt8} (h : d.Alike cfg timed e) :
    (dispatchKeyboardEventWithPacket cfg v d packet).1.Alike cfg timed
        (dispatchKeyboardEventWithPacket cfg v e packet).1 ∧
      (dispatchKeyboardEventWithPacket cfg v d packet).2 =
        (dispatchKeyboardEventWithPacket cfg v e packet).2 := by
  simp only [dispatchKeyboardEventWithPacket]
  split
  case isTrue => exact ⟨h, rfl⟩
  case isFalse =>
    split
    case isTrue  => exact ⟨h, rfl⟩
    case isFalse => exact h.dispatchKey

end Dispatcher.Alike

-- The registers are alike, and the packets in the macro buffer are the same.
structure Inverter.Alike (cfg : Config) (timed : Prop) (s t : Inverter) : Prop where
  dispatcher : s.dispatcher.Alike cfg timed t.dispatcher
  buffered   : s.buffered = t.buffered

-- Two results that differ in the states only, which are alike.
def Inverter.Same {α : Type} (cfg : Config) (timed : Prop) (r u : Inverter × α) : Prop :=
  r.1.Alike cfg timed u.1 ∧ r.2 = u.2

namespace Inverter.Alike

variable {cfg : Config} {c : Inversion} {timed : Prop} {v : KeyBits} {s t : Inverter} {p : Packet}
variable {now : UInt64}

theorem dispatchAll {d e : Dispatcher} {ps : List Packet} (h : d.Alike cfg timed e) :
    (dispatchAll cfg v d ps).1.Alike cfg timed (dispatchAll cfg v e ps).1 ∧
      (dispatchAll cfg v d ps).2 = (dispatchAll cfg v e ps).2 := by
  induction ps generalizing d e
  case nil         => exact ⟨h, rfl⟩
  case cons p _ hi =>
    have ⟨h₁, he₁⟩ := @Dispatcher.Alike.dispatch _ _ _ _ v p.keyData h
    have ⟨h₂, he₂⟩ := hi h₁
    refine ⟨h₂, ?_⟩
    rw [Inverter.dispatchAll, Inverter.dispatchAll, Inverter.dispatch, Inverter.dispatch, he₁, he₂]

theorem current (h : s.Alike cfg timed t) : s.macroCurrent = t.macroCurrent := by
  simpa only [buffered_length] using congrArg List.length h.buffered

theorem macroBuffer (h : s.Alike cfg timed t) {i : Nat} (hi : i < s.macroCurrent) :
    s.macroBuffer i = t.macroBuffer i := by
  have hb := h.buffered
  rw [Inverter.buffered, Inverter.buffered, ← h.current] at hb
  exact List.map_inj_left.mp hb i (List.mem_range.mpr hi)

theorem dispatchPacket (h : s.Alike cfg timed t) :
    Same cfg timed (s.dispatchPacket cfg v p) (t.dispatchPacket cfg v p) := by
  have ⟨hd, he⟩ := @Dispatcher.Alike.dispatch _ _ _ _ v p.keyData h.dispatcher
  exact ⟨⟨hd, h.buffered⟩, by rw [Inverter.dispatchPacket, Inverter.dispatchPacket, dispatch, dispatch, he]⟩

theorem dispatchInvertBuffer (h : s.Alike cfg timed t) :
    Same cfg timed (s.dispatchInvertBuffer cfg v) (t.dispatchInvertBuffer cfg v) := by
  have ⟨hd, he⟩ := @dispatchAll _ _ v _ _ s.buffered h.dispatcher
  simp only [Inverter.dispatchInvertBuffer, ← h.buffered]
  exact ⟨⟨hd, rfl⟩, he⟩

theorem dispatchExpired (h : s.Alike cfg timed t) :
    Same cfg timed (s.dispatchExpired cfg c v now) (t.dispatchExpired cfg c v now) := by
  have hc : (s.macroCurrent > 0 ∧ c.Expired now (s.macroBuffer (s.macroCurrent - 1)).time) ↔
      (t.macroCurrent > 0 ∧ c.Expired now (t.macroBuffer (t.macroCurrent - 1)).time) := by
    rw [← h.current]
    refine and_congr_right fun hp => ?_
    rw [h.macroBuffer (Nat.sub_lt hp Nat.one_pos)]
  simp only [Inverter.dispatchExpired, hc]
  split
  case isTrue  => exact h.dispatchInvertBuffer
  case isFalse => exact ⟨h, rfl⟩

theorem copy (h : s.Alike cfg timed t) :
    Option.Rel (fun s t => s.Alike cfg timed t ∧ s.compared = t.compared) (s.copy c p) (t.copy c p) := by
  have hc := congrArg (· ++ [p]) h.buffered
  simp only [← compared_copied] at hc
  simp only [Inverter.copy, h.current] at hc ⊢
  split
  case isTrue =>
    refine .some ⟨⟨h.dispatcher, ?_⟩, hc⟩
    rw [← h.current, buffered_copied, h.current, buffered_copied, h.buffered]
  case isFalse => exact .none

theorem finish {found : Found} (h : s.Alike cfg timed t) (hc : s.compared = t.compared) :
    Same cfg timed (s.finish cfg v found) (t.finish cfg v found) := by
  cases found
  case exact m =>
    have hi : s.inverted m = t.inverted m := by
      have hc := hc
      rw [compared, compared, ← h.current] at hc
      rw [inverted, inverted, List.map_inj_left.mp hc 0 (by simp)]
    obtain ⟨hd, he⟩ := @Dispatcher.Alike.dispatch _ _ _ _ v (s.inverted m).keyData h.dispatcher
    simp only [Inverter.finish, Inverter.dispatchPacket, dispatch, ← hi]
    exact ⟨⟨hd, rfl⟩, by rw [he]⟩
  case begun   => exact ⟨⟨h.dispatcher, hc⟩, rfl⟩
  case nothing =>
    simp only [Inverter.finish, ← h.current]
    split
    case isTrue  =>
      obtain ⟨h, he⟩ := @dispatchInvertBuffer _ _ v _ _ h
      exact ⟨h, congrArg (·, false) he⟩
    case isFalse => exact ⟨h, rfl⟩

theorem invertMacros {macros : List Macro} (h : s.Alike cfg timed t) :
    Option.Rel (Same cfg timed) (s.invertMacros cfg c v macros p) (t.invertMacros cfg c v macros p) := by
  simp only [Inverter.invertMacros]
  split
  case isFalse => exact .some ⟨h, rfl⟩
  case isTrue  =>
    obtain ⟨h, he⟩ := @dispatchExpired _ c _ v _ _ p.time h
    generalize s.dispatchExpired cfg c v p.time = r at h he ⊢
    generalize t.dispatchExpired cfg c v p.time = u at h he ⊢
    have hc := @copy _ c _ _ _ p h
    generalize r.1.copy c p = s' at hc ⊢
    generalize u.1.copy c p = t' at hc ⊢
    cases hc
    case none      => exact .none
    case some s t hc =>
      obtain ⟨h, hc⟩ := hc
      obtain ⟨h', he'⟩ := @finish _ _ v _ _ (find t.dispatcher.ps2modifierState t.compared macros) h hc
      refine .some ⟨?_, ?_⟩
      · simpa only [hc, h.dispatcher.state] using h'
      · simp only [hc, h.dispatcher.state, he, he']

theorem invert (h : s.Alike cfg timed t) :
    Option.Rel (Same cfg timed) (s.invert cfg c v p) (t.invert cfg c v p) := by
  simp only [Inverter.invert]
  split
  case h_1              => exact .some h.dispatchPacket
  case h_2 macros hm    =>
    have hr := @invertMacros _ c _ v _ _ p macros h
    generalize s.invertMacros cfg c v macros p = r at hr ⊢
    generalize t.invertMacros cfg c v macros p = u at hr ⊢
    cases hr
    case none        => exact .none
    case some r u hr =>
      obtain ⟨s, es, ok⟩ := r
      obtain ⟨t, _⟩ := u
      obtain ⟨h, ⟨⟩⟩ := hr
      cases ok
      case true  => exact .some ⟨h, rfl⟩
      case false =>
        obtain ⟨h, he⟩ := @dispatchPacket _ _ v _ _ p h
        exact .some ⟨h, congrArg (es ++ ·) he⟩

theorem handle (h : s.Alike cfg timed t) :
    Option.Rel (Same cfg timed) (s.handle cfg c v p) (t.handle cfg c v p) := by
  simp only [Inverter.handle]
  split
  case isTrue  => exact h.invert
  case isFalse => exact .some ⟨h, rfl⟩

end Inverter.Alike

end Keyboard
