import VoodooPS2.Touchpad.Theorems.Respond

namespace Touchpad

namespace Gestures

-- What holds of the event functions' variables at all times.
structure Valid (c : Settings) (g : Gestures) : Prop where
  used   : g.touchmode.Used
  middle : g.middle.Ok c

variable {c : Settings} {dev : AlpsDevice} {g : Gestures} {e : EventInfo} {now : UInt64}
variable {r : Gestures × List HidEvent}

theorem valid_init : Valid c {} where
  used   := trivial
  middle := MiddleButton.ok_init

theorem dispatchEventsWithInfo_valid (h : g.Valid c) (hr : dispatchEventsWithInfo c dev g e now = some r) :
    r.1.Valid c := by
  have ⟨p, _, hp⟩ := Option.map_eq_some_iff.mp hr
  subst hp
  exact ⟨Locals.respond_used h.used, Locals.respond_ok h.middle⟩

theorem onButtonTimer_valid (h : g.Valid c) (hs : g.middle.buttonTimerSet) :
    (g.onButtonTimer c now).1.Valid c where
  used   := h.used
  middle := middleButton_timer_ok h.middle hs

theorem onDragTimer_valid (h : g.Valid c) : (g.onDragTimer c now).1.Valid c := by
  simp only [onDragTimer]
  split
  case isTrue  => exact ⟨trivial, middleButton_ok h.middle⟩
  case isFalse => exact ⟨h.used, h.middle⟩

theorem onScrollTimer_valid (h : g.Valid c) (hr : g.onScrollTimer c = some r) : r.1.Valid c := by
  simp only [onScrollTimer] at hr
  split_ifs at hr <;> cases hr <;> exact ⟨h.used, h.middle⟩

theorem notifyKeyPressed_valid {k : UInt8} {goingDown : Bool} (h : g.Valid c) :
    (g.notifyKeyPressed k goingDown now).Valid c := by
  simp only [notifyKeyPressed]
  split
  case h_2 => exact ⟨h.used, h.middle⟩
  case h_1 => split_ifs <;> exact ⟨h.used, h.middle⟩

theorem setMouseCount_valid {n : Int} (h : g.Valid c) : (g.setMouseCount c n).Valid c := by
  simp only [setMouseCount]
  split_ifs <;> exact ⟨trivial, h.middle⟩

theorem step_valid {i : Input} (h : g.Valid c) (hr : g.step c dev i = some r) : r.1.Valid c := by
  cases i
  case call call now =>
    cases call
    case dispatchEventsWithInfo e => exact dispatchEventsWithInfo_valid h hr
    case divideByZero             => cases hr
    case startDrag                => cases hr; exact ⟨trivial, h.middle⟩
    all_goals cases hr; exact h
  case scrollTimer =>
    simp only [step] at hr
    split at hr
    case isTrue  => exact onScrollTimer_valid h hr
    case isFalse => cases hr; exact h
  all_goals simp only [step, Option.some_inj] at hr; subst hr
  case storeButtons => exact ⟨h.used, h.middle⟩
  case buttonTimer =>
    split
    case isTrue hs => exact onButtonTimer_valid h hs
    case isFalse   => exact h
  case dragTimer =>
    split
    case isTrue  => exact onDragTimer_valid h
    case isFalse => exact h
  case scrollDebounceTimer =>
    split <;> exact ⟨h.used, h.middle⟩
  case setDisableTouchpad =>
    simp only [setDisableTouchpad]
    split <;> exact ⟨h.used, h.middle⟩
  case notifyKeyPressed => exact notifyKeyPressed_valid h
  case setMouseCount    => exact setMouseCount_valid h
  case initTouchPad     => exact ⟨h.used, h.middle⟩

theorem valid_of_run {is : List Input} (h : (gestures c dev).state (some {}) is = some g) : g.Valid c :=
  (Mealy.halting_invariant (fun _ _ _ => step_valid)).run (.of_forall fun _ _ => trivial)
    (by simpa using valid_init) g h

-- The end of a drag, if there is one to end.
def endDrag (c : Settings) (g : Gestures) (now : UInt64) : Gestures × List HidEvent :=
  if g.touchmode = .dragNoTouch then g.onDragTimer c now else (g, [])

-- A packet without a finger and without a button.
def Idle (c : Settings) (e : EventInfo) : Prop :=
  e.z < c.zFinger ∧ e.buttons = 0

theorem Idle.fingers (h : Idle c e) : (e.touch c now).fingers = 0 :=
  if_neg h.left.not_gt

theorem dispatchEventsWithInfo_isSome (hx : 0 < c.xupmm) (hy : 0 < c.yupmm) (hd : dev.axisMean ≠ 0) :
    ∃ r, dispatchEventsWithInfo c dev g e now = some r := by
  have ⟨p, hp⟩ := Option.isSome_iff_exists.mp <| (scale_isSome_iff (x := e.x) (y := e.y) hx hy).mpr hd
  exact ⟨_, by simp only [dispatchEventsWithInfo, hp, Option.map_some]; rfl⟩

-- A touch that has ended, and is continued by a second one for a limited time only.
structure Calm (g : Gestures) (now : UInt64) : Prop where
  touchmode   : g.touchmode = .noTouch ∨ g.touchmode = .preDrag
  untouchtime : g.untouchtime ≤ now
  ignoreall   : g.ignoreall = false

theorem endDrag_calm (h : g.touchmode.Resting) (hu : g.untouchtime ≤ now) (hi : g.ignoreall = false)
    {t : UInt64} : (g.endDrag c t).1.Calm now := by
  simp only [endDrag]
  split
  case isTrue hm =>
    simp only [onDragTimer, if_pos hm]
    exact ⟨.inl rfl, hu, hi⟩
  case isFalse hm =>
    refine ⟨?_, hu, hi⟩
    cases hg : g.touchmode <;> simp_all [TouchMode.Resting]

theorem idle_calm (h : g.Valid c) (hi : g.ignoreall = false) (he : Idle c e) (hu : g.untouchtime ≤ now)
    (hr : dispatchEventsWithInfo c dev g e now = some r) {t : UInt64} : (r.1.endDrag c t).1.Calm now := by
  have ⟨p, _, hp⟩ := Option.map_eq_some_iff.mp hr
  subst hp
  have ⟨hm, ht⟩ := @Locals.respond_resting c (e.touch c now) ⟨g, p.1, p.2, e.buttons, 0, 0, []⟩ e.buttons
    he.left hi h.used
  refine endDrag_calm hm ?_ (Locals.respond_ignoreall.trans hi)
  rcases ht with ht | ht <;> rw [ht]
  case inl => exact UInt64.le_refl now
  case inr => exact hu

theorem Calm.late {t : UInt64} (h : g.Calm now) (ht : now.toNat + c.maxdragtime.toNat ≤ t.toNat) :
    g.touchmode = .noTouch ∨ g.touchmode = .preDrag ∧ t - g.untouchtime ≥ c.maxdragtime := by
  refine h.touchmode.imp id fun hm => ⟨hm, ?_⟩
  have hu := UInt64.le_iff_toNat_le.mp h.untouchtime
  have hle : g.untouchtime ≤ t := UInt64.le_iff_toNat_le.mpr (by omega)
  rw [ge_iff_le, UInt64.le_iff_toNat_le, UInt64.toNat_sub_of_le _ _ hle]
  omega

theorem Calm.idle {t : UInt64} {b : UInt32} (h : g.Calm now) (he : Idle c e)
    (ht : now.toNat + c.maxdragtime.toNat ≤ t.toNat)
    (hr : dispatchEventsWithInfo c dev g e t = some r) :
    r.1.touchmode = .noTouch ∧ buttonsAfter b r.2 = 0 := by
  have ⟨p, _, hp⟩ := Option.map_eq_some_iff.mp hr
  subst hp
  rw [he.right]
  exact Locals.respond_rest he.left he.fingers h.ignoreall (h.late ht)

end Gestures

-- Whatever was touched or held before, all buttons are released by two packets without a finger.
theorem idle_releases (c : Settings) (dev : AlpsDevice) (is : List Input) (g : Gestures)
    (e₁ e₂ : EventInfo) (t₁ t t₂ : UInt64) (hx : 0 < c.xupmm) (hy : 0 < c.yupmm)
    (hd : dev.axisMean ≠ 0) (hg : (gestures c dev).state (some {}) is = some g)
    (hi : g.ignoreall = false) (he₁ : Gestures.Idle c e₁) (he₂ : Gestures.Idle c e₂)
    (hu : g.untouchtime ≤ t₁) (ht : t₁.toNat + c.maxdragtime.toNat ≤ t₂.toNat) :
    ∃ r₁ r₂, dispatchEventsWithInfo c dev g e₁ t₁ = some r₁ ∧
      dispatchEventsWithInfo c dev (r₁.1.endDrag c t).1 e₂ t₂ = some r₂ ∧
      r₂.1.touchmode = .noTouch ∧ ∀ b, buttonsAfter b (r₁.2 ++ (r₁.1.endDrag c t).2 ++ r₂.2) = 0 := by
  have ⟨r₁, h₁⟩ := @Gestures.dispatchEventsWithInfo_isSome c dev g e₁ t₁ hx hy hd
  have ⟨r₂, h₂⟩ := @Gestures.dispatchEventsWithInfo_isSome c dev (r₁.1.endDrag c t).1 e₂ t₂ hx hy hd
  have hc := Gestures.idle_calm (Gestures.valid_of_run hg) hi he₁ hu h₁ (t := t)
  refine ⟨r₁, r₂, h₁, h₂, (hc.idle (b := 0) he₂ ht h₂).left, fun b => ?_⟩
  rw [buttonsAfter_append]
  exact (hc.idle he₂ ht h₂).right

-- A drag of a version 1 touchpad, which is left to its timer.
theorem idle_releases_drag :
    ∃ r₁ r₂, dispatchEventsWithInfo {} (setProtocol .v1 0 false 0) { touchmode := .drag }
        ⟨500, 300, 0, 0, 0⟩ 1000000000 = some r₁ ∧
      dispatchEventsWithInfo {} (setProtocol .v1 0 false 0) (r₁.1.endDrag {} 2000000000).1
        ⟨500, 300, 0, 0, 0⟩ 2000000001 = some r₂ ∧
      r₂.1.touchmode = .noTouch ∧
      ∀ b, buttonsAfter b (r₁.2 ++ (r₁.1.endDrag {} 2000000000).2 ++ r₂.2) = 0 :=
  idle_releases {} (setProtocol .v1 0 false 0) [.call .startDrag 0] { touchmode := .drag }
    ⟨500, 300, 0, 0, 0⟩ ⟨500, 300, 0, 0, 0⟩ 1000000000 2000000000 2000000001 (by decide) (by decide)
    (by decide) rfl rfl ⟨by decide, rfl⟩ ⟨by decide, rfl⟩ (by decide) (by decide)

end Touchpad
