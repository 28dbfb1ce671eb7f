import VoodooPS2.Touchpad.Theorems.Release

namespace Touchpad

-- Packets of the touchpad report no finger and no button. The other inputs are arbitrary.
def Input.Quiet (c : Settings) : Input → Prop
  | .call (.dispatchEventsWithInfo e) _ => Gestures.Idle c e
  | .call _ _ | .storeButtons _         => False
  | _                                   => True

namespace Gestures

variable {c : Settings} {dev : AlpsDevice} {g : Gestures} {e : EventInfo} {now : UInt64}
variable {r : Gestures × List HidEvent} {b : UInt32}

-- Nothing that is still pressed, or waits to be reported, when the touchpad is disabled.
structure Settled (g : Gestures) (b : UInt32) : Prop where
  released  : b = 0
  noPending : ¬g.middle.buttonTimerSet
  noDrag    : g.touchmode = .dragNoTouch → g.dragTimerSet → g.lastbuttons &&& ~~~0x1 = 0

-- Disabled, a packet without a finger only stores the buttons.
theorem dispatchEventsWithInfo_ignored (hi : g.ignoreall) (he : Idle c e)
    (hr : dispatchEventsWithInfo c dev g e now = some r) :
    r.1.middle = g.middle ∧ r.1.touchState = g.touchState ∧ r.1.lastbuttons = 0 ∧ r.2 = [] := by
  have ⟨p, _, hp⟩ := Option.map_eq_some_iff.mp hr
  subst hp
  have ⟨hm, ht, ho⟩ := @Locals.respond_ignored c (e.touch c now) ⟨g, p.1, p.2, e.buttons, 0, 0, []⟩
    e.buttons he.fingers hi
  exact ⟨hm, ht, Locals.respond_lastbuttons.trans he.right, ho⟩

theorem Settled.packet (h : g.Settled b) (hi : g.ignoreall) (he : Idle c e)
    (hr : dispatchEventsWithInfo c dev g e now = some r) : r.1.Settled (buttonsAfter b r.2) := by
  have ⟨hm, ht, hl, ho⟩ := dispatchEventsWithInfo_ignored hi he hr
  refine ⟨ho ▸ h.released, hm ▸ h.noPending, fun _ _ => ?_⟩
  rw [hl]
  rfl

theorem Settled.onDragTimer (h : g.Settled b) (hv : g.Valid c) (hs : g.dragTimerSet) :
    (g.onDragTimer c now).1.Settled (buttonsAfter b (g.onDragTimer c now).2) := by
  simp only [Gestures.onDragTimer]
  split
  case isFalse => exact ⟨h.released, h.noPending, fun _ hs => absurd hs Bool.false_ne_true⟩
  case isTrue hm =>
    rw [h.noDrag hm hs]
    obtain ⟨ho, hn⟩ := @middleButton_quiet c g.ignoreall g.middle now .fromPassthru hv.middle h.noPending
    refine ⟨?_, hn, fun hm _ => TouchMode.noConfusion hm⟩
    rw [ho, middleButton_released]
    rfl

theorem Settled.onScrollTimer (h : g.Settled b) (hr : g.onScrollTimer c = some r) :
    r.1.Settled (buttonsAfter b r.2) := by
  simp only [Gestures.onScrollTimer] at hr
  split_ifs at hr <;> cases hr <;> exact ⟨h.released, h.noPending, h.noDrag⟩

theorem Settled.notifyKeyPressed {k : UInt8} {goingDown : Bool} (h : g.Settled b) :
    (g.notifyKeyPressed k goingDown now).Settled b := by
  simp only [Gestures.notifyKeyPressed]
  split
  case h_2 => exact ⟨h.released, h.noPending, h.noDrag⟩
  case h_1 => split_ifs <;> exact ⟨h.released, h.noPending, h.noDrag⟩

theorem Settled.setMouseCount {n : Int} (h : g.Settled b) : (g.setMouseCount c n).Settled b := by
  simp only [Gestures.setMouseCount]
  split_ifs <;> exact ⟨h.released, h.noPending, fun hm _ => TouchMode.noConfusion hm⟩

theorem Settled.setDisableTouchpad {enable : Bool} (h : g.Settled b) :
    (g.setDisableTouchpad enable).Settled b := by
  simp only [Gestures.setDisableTouchpad]
  split <;> exact ⟨h.released, h.noPending, h.noDrag⟩

theorem Settled.step {i : Input} (h : g.Settled b) (hv : g.Valid c) (hi : g.ignoreall) (hq : i.Quiet c)
    (hr : g.step c dev i = some r) : r.1.Settled (buttonsAfter b r.2) := by
  cases i
  case call call now =>
    cases call
    case dispatchEventsWithInfo e => exact h.packet hi hq hr
    all_goals exact hq.elim
  case storeButtons => exact hq.elim
  case scrollTimer =>
    simp only [Gestures.step] at hr
    split at hr
    case isTrue  => exact h.onScrollTimer hr
    case isFalse => cases hr; exact h
  all_goals simp only [Gestures.step, Option.some_inj] at hr; subst hr
  case buttonTimer =>
    rw [if_neg h.noPending]
    exact h
  case dragTimer =>
    split
    case isTrue hs => exact h.onDragTimer hv hs
    case isFalse   => exact h
  case scrollDebounceTimer =>
    dsimp only
    split <;> exact ⟨h.released, h.noPending, h.noDrag⟩
  case setDisableTouchpad => exact h.setDisableTouchpad
  case notifyKeyPressed   => exact h.notifyKeyPressed
  case setMouseCount      => exact h.setMouseCount
  case initTouchPad       => exact ⟨h.released, h.noPending, h.noDrag⟩

-- The steps of a run during which the touchpad is disabled.
def Ignores (c : Settings) (s : Option Gestures) (i : Input) : Prop :=
  i.Quiet c ∧ ∀ g ∈ s, g.ignoreall

-- What has been settled stays so, even if the machine is halted.
theorem Settled.run {is : List Input} {events : List HidEvent} (hv : g.Valid c)
    (h : g.Settled (buttonsAfter 0 events)) (ha : (gestures c dev).Along (Ignores c) (some g) is) :
    buttonsAfter 0 (events ++ (gestures c dev).out (some g) is) = 0 := by
  let I (s : Option Gestures) (t : List HidEvent) : Prop :=
    buttonsAfter 0 t = 0 ∧ ∀ g ∈ s, g.Valid c ∧ g.Settled (buttonsAfter 0 t)
  refine (Mealy.history (I := I) (fun {s i t} hI hG => ?_) ha ⟨h.released, by simp [hv, h]⟩).left
  rcases s with _ | g
  case none => simpa [I, gestures, Mealy.halting] using hI.left
  case some =>
    obtain ⟨hv, hs⟩ := hI.right g rfl
    cases hr : g.step c dev i
    case none   => simpa [I, gestures, Mealy.halting_step_none hr] using hI.left
    case some r =>
      have hs' := hs.step hv (hG.right g rfl) hG.left hr
      have hv' := step_valid hv hr
      rw [← buttonsAfter_append] at hs'
      simp only [I, gestures, Mealy.halting_step_some hr, Option.mem_some_iff, forall_eq']
      exact ⟨hs'.released, hv', hs'⟩

-- The packet of a touch that is over.
def idle (c : Settings) : EventInfo :=
  ⟨0, 0, c.zFinger - 1, 0, 0⟩

theorem idle_idle : Idle c (idle c) :=
  ⟨Int.sub_one_lt_of_le le_rfl, rfl⟩

-- Disabled, such a packet does not release anything.
theorem idle_out (hi : g.ignoreall) :
    buttonsAfter b ((gestures c dev).out (some g) [.call (.dispatchEventsWithInfo (idle c)) now]) = b := by
  cases hr : g.step c dev (.call (.dispatchEventsWithInfo (idle c)) now)
  case none   => simp [gestures, Mealy.halting_step_none hr]
  case some r =>
    have ⟨_, _, _, ho⟩ := dispatchEventsWithInfo_ignored hi idle_idle hr
    simp [gestures, Mealy.halting_step_some hr, ho]

-- The inputs after which nothing more is reported: the time of a delayed button is over.
def expire (c : Settings) : List Input :=
  [.buttonTimer 0, .call (.dispatchEventsWithInfo (idle c)) 0]

theorem step_buttonTimer :
    (gestures c dev).step (some g) (.buttonTimer now) =
      (some (if g.middle.buttonTimerSet then g.onButtonTimer c now else (g, [])).1,
        (if g.middle.buttonTimerSet then g.onButtonTimer c now else (g, [])).2) :=
  Mealy.halting_step_some rfl

theorem step_buttonTimer_ignoreall :
    (if g.middle.buttonTimerSet then g.onButtonTimer c now else (g, [])).1.ignoreall = g.ignoreall := by
  split <;> rfl

theorem expire_ignores (hi : g.ignoreall) : (gestures c dev).Along (Ignores c) (some g) (expire c) := by
  refine ⟨⟨trivial, by simpa using hi⟩, ⟨idle_idle, ?_⟩, trivial⟩
  rw [step_buttonTimer]
  simpa using step_buttonTimer_ignoreall.trans hi

-- A button that is still pressed, or waits to be reported, is pressed in the end.
theorem expire_ne_zero (hv : g.Valid c) (hi : g.ignoreall) (h : b ≠ 0 ∨ g.middle.buttonTimerSet) :
    buttonsAfter b ((gestures c dev).out (some g) (expire c)) ≠ 0 := by
  rw [expire, Mealy.out_cons, step_buttonTimer, buttonsAfter_append,
    idle_out (step_buttonTimer_ignoreall.trans hi)]
  split
  case isFalse hs => exact h.resolve_right hs
  case isTrue hs  =>
    have ho := (@middleButton_timer c g.ignoreall g.middle g.lastbuttons 0 hv.middle hs).right
    simp only [onButtonTimer]
    rw [ho]
    exact or_ne_zero_of_right (hv.middle.pending (hv.middle.timer.mp hs))

theorem step_dragTimer :
    (gestures c dev).step (some g) (.dragTimer now) =
      (some (if g.dragTimerSet then g.onDragTimer c now else (g, [])).1,
        (if g.dragTimerSet then g.onDragTimer c now else (g, [])).2) :=
  Mealy.halting_step_some rfl

-- The end of a drag presses the other buttons that are held, or delays them.
theorem drag_ne_zero (hv : g.Valid c) (hi : g.ignoreall) (hm : g.touchmode = .dragNoTouch)
    (hs : g.dragTimerSet) (hb : g.lastbuttons &&& ~~~0x1 ≠ 0) :
    (gestures c dev).Along (Ignores c) (some g) (.dragTimer 0 :: expire c) ∧
      buttonsAfter b ((gestures c dev).out (some g) (.dragTimer 0 :: expire c)) ≠ 0 := by
  have he : (g.onDragTimer c 0).1.ignoreall ∧
      (buttonsAfter b (g.onDragTimer c 0).2 ≠ 0 ∨ (g.onDragTimer c 0).1.middle.buttonTimerSet) := by
    simp only [onDragTimer, if_pos hm, buttonsAfter_append, buttonsAfter_pointer]
    exact ⟨hi, middleButton_held hv.middle hb⟩
  constructor
  · refine ⟨⟨trivial, by simpa using hi⟩, ?_⟩
    rw [step_dragTimer, if_pos hs]
    exact expire_ignores he.left
  · rw [Mealy.out_cons, step_dragTimer, if_pos hs, buttonsAfter_append]
    exact expire_ne_zero (onDragTimer_valid hv) he.left he.right

-- What becomes of the buttons once a packet of the touchpad has been ignored.
def Releases (c : Settings) (dev : AlpsDevice) (g : Gestures) (b : UInt32) : Prop :=
  ∀ after, (gestures c dev).Along (Ignores c) (some g) after →
    (∃ e now, .call (.dispatchEventsWithInfo e) now ∈ after) →
      buttonsAfter b ((gestures c dev).out (some g) after) = 0

theorem releases_iff (hv : g.Valid c) (hi : g.ignoreall) : Releases c dev g b ↔ g.Settled b := by
  constructor
  case mpr =>
    intro h after ha _
    have := @Settled.run c dev g after [.relativePointer 0 0 b] hv h ha
    rwa [buttonsAfter_append] at this
  case mp =>
    intro h
    have hn : ¬(b ≠ 0 ∨ g.middle.buttonTimerSet) := fun hp =>
      expire_ne_zero hv hi hp <| h _ (expire_ignores hi) ⟨idle c, 0, by simp [expire]⟩
    refine ⟨not_not.mp fun hb => hn (.inl hb), fun hs => hn (.inr hs), fun hm hs => ?_⟩
    by_contra hb
    have ⟨ha, ho⟩ := @drag_ne_zero c dev g b hv hi hm hs hb
    exact ho <| h _ ha ⟨idle c, 0, by simp [expire]⟩

end Gestures

-- The exact condition under which no button stays pressed when the touchpad is disabled.
theorem disable_releases_iff (c : Settings) (dev : AlpsDevice) (before : List Input) (g : Gestures)
    (hg : (gestures c dev).state (some {}) before = some g) (hi : g.ignoreall = false) :
    (∀ after, (gestures c dev).Along (Gestures.Ignores c) (some (g.setDisableTouchpad false)) after →
      (∃ e now, .call (.dispatchEventsWithInfo e) now ∈ after) →
        buttonsAfter 0
          ((gestures c dev).out (some {}) (before ++ .setDisableTouchpad false :: after)) = 0) ↔
      g.Settled (buttonsAfter 0 ((gestures c dev).out (some {}) before)) := by
  have hd : g.setDisableTouchpad false = { g with ignoreall := true } := if_pos hi.symm
  have hv : (g.setDisableTouchpad false).Valid c :=
    have hv := Gestures.valid_of_run hg
    hd ▸ ⟨hv.used, hv.middle⟩
  have hs (after : List Input) :
      (gestures c dev).out (some {}) (before ++ .setDisableTouchpad false :: after) =
        (gestures c dev).out (some {}) before ++
          (gestures c dev).out (some (g.setDisableTouchpad false)) after := by
    rw [Mealy.out_append, hg]
    rfl
  have hr := @Gestures.releases_iff c dev _ (buttonsAfter 0 ((gestures c dev).out (some {}) before)) hv
    (hd ▸ rfl)
  simp only [hs, buttonsAfter_append]
  apply Iff.trans hr
  rw [hd]
  exact ⟨fun h => ⟨h.released, h.noPending, h.noDrag⟩, fun h => ⟨h.released, h.noPending, h.noDrag⟩⟩

-- The button of a trackstick, which was released before the touchpad is disabled.
theorem disable_releases_stick :
    buttonsAfter 0 ((gestures {} (setProtocol .v1 0 false 0)).out (some {})
      ([.call (.dispatchRelativePointerEvent 1 1 1) 0, .call (.dispatchRelativePointerEvent 0 0 0) 1] ++
        .setDisableTouchpad false :: [.call (.dispatchEventsWithInfo ⟨500, 300, 0, 0, 0⟩) 2])) = 0 :=
  (disable_releases_iff {} (setProtocol .v1 0 false 0)
      [.call (.dispatchRelativePointerEvent 1 1 1) 0, .call (.dispatchRelativePointerEvent 0 0 0) 1] {}
      rfl rfl).mpr ⟨rfl, Bool.false_ne_true, fun hm => TouchMode.noConfusion hm⟩
    [.call (.dispatchEventsWithInfo ⟨500, 300, 0, 0, 0⟩) 2]
    ⟨⟨⟨by decide, rfl⟩, by rintro _ ⟨⟩; rfl⟩, trivial⟩ ⟨_, _, List.mem_singleton_self _⟩

-- A button that is pressed when the touchpad is disabled.
theorem not_disable_releases :
    ¬ ∀ (c : Settings) (dev : AlpsDevice) (before : List Input) (g : Gestures),
      (gestures c dev).state (some {}) before = some g → g.ignoreall = false →
        ∀ after, (gestures c dev).Along (Gestures.Ignores c) (some (g.setDisableTouchpad false)) after →
          (∃ e now, .call (.dispatchEventsWithInfo e) now ∈ after) →
            buttonsAfter 0
              ((gestures c dev).out (some {}) (before ++ .setDisableTouchpad false :: after)) = 0 := by
  intro h
  have := h {} (setProtocol .v1 0 false 0) [.call (.dispatchEventsWithInfo ⟨500, 300, 0, 0, 1⟩) 0] _ rfl rfl
    [.call (.dispatchEventsWithInfo ⟨500, 300, 0, 0, 0⟩) 1] ⟨⟨⟨by decide, rfl⟩, by rintro _ ⟨⟩; rfl⟩, trivial⟩
    ⟨_, _, List.mem_singleton_self _⟩
  exact absurd this (by decide +kernel)

end Touchpad
