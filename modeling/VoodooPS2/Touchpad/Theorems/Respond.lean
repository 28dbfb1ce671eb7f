import VoodooPS2.Touchpad.Theorems.TouchModes

namespace Touchpad

namespace Locals

variable {c : Settings} {t : Touch} {f : Locals} {b buttonsraw : UInt32}

section Press

theorem pressButtons_ignoreall : (f.pressButtons c t buttonsraw).g.ignoreall = f.g.ignoreall :=
  rfl

theorem pressButtons_lastbuttons : (f.pressButtons c t buttonsraw).g.lastbuttons = buttonsraw :=
  rfl

theorem pressButtons_ok (h : f.g.middle.Ok c) : (f.pressButtons c t buttonsraw).g.middle.Ok c := by
  simp only [pressButtons]
  -- the simulation runs twice, once, or not at all
  split_ifs <;>
    first | exact middleButton_ok (middleButton_ok h) | exact middleButton_ok h | exact h

-- Without a finger the buttons are only simulated once.
theorem pressButtons_of_no_finger (ht : t.fingers = 0) :
    ∃ r : Pressed, (r = middleButton c f.g.ignoreall f.g.middle buttonsraw t.now .fromTrackpad ∨
        r = ⟨f.g.middle, buttonsraw, []⟩) ∧
      f.pressButtons c t buttonsraw = { f with
        g       := { f.g with lastbuttons := buttonsraw, middle := r.middle }
        buttons := r.buttons
        events  := f.events ++ r.events } := by
  by_cases hc : c.clickpadtype = 0
  case pos => exact ⟨_, .inl rfl, by simp [pressButtons, ht, hc]⟩
  case neg => exact ⟨_, .inr rfl, by simp [pressButtons, ht, hc]⟩

theorem pressButtons_released (ht : t.fingers = 0) : (f.pressButtons c t 0).buttons = 0 := by
  have ⟨r, hr, he⟩ := @pressButtons_of_no_finger c t f 0 ht
  rw [he]
  rcases hr with rfl | rfl
  · exact middleButton_released
  · rfl

theorem pressButtons_ignored (ht : t.fingers = 0) (hi : f.g.ignoreall) :
    f.pressButtons c t buttonsraw =
      { f with g := { f.g with lastbuttons := buttonsraw }, buttons := buttonsraw } := by
  have ⟨r, hr, he⟩ := @pressButtons_of_no_finger c t f buttonsraw ht
  rw [hi, middleButton_ignoreall, or_self] at hr
  rw [he, hr]
  simp

end Press

section Respond

theorem respond_used (h : f.g.touchmode.Used) : (f.respond c t buttonsraw).g.touchmode.Used := by
  have hf : ((f.pressButtons c t buttonsraw).filterPosition c t).g.touchmode.Used := by
    rw [Gestures.touchmode_of_touchState filterPosition_touchState]
    exact h
  simp only [respond]
  split
  case isTrue  => exact hf
  case isFalse => exact handle_used hf

-- Only the simulation of the middle button, and the storing of the buttons, are about buttons.
theorem respond_buttonState :
    (f.respond c t buttonsraw).g.buttonState = (f.pressButtons c t buttonsraw).g.buttonState := by
  simp only [respond]
  split
  case isTrue  => exact filterPosition_buttonState
  case isFalse => exact handle_buttonState.trans filterPosition_buttonState

theorem respond_ignoreall : (f.respond c t buttonsraw).g.ignoreall = f.g.ignoreall :=
  (Gestures.ignoreall_of_buttonState respond_buttonState).trans pressButtons_ignoreall

theorem respond_lastbuttons : (f.respond c t buttonsraw).g.lastbuttons = buttonsraw :=
  (Gestures.lastbuttons_of_buttonState respond_buttonState).trans pressButtons_lastbuttons

theorem respond_ok (h : f.g.middle.Ok c) : (f.respond c t buttonsraw).g.middle.Ok c := by
  rw [Gestures.middle_of_buttonState respond_buttonState]
  exact pressButtons_ok h

-- If the input is ignored, a packet without a finger is only remembered.
theorem respond_ignored (ht : t.fingers = 0) (hi : f.g.ignoreall) :
    (f.respond c t buttonsraw).g.middle = f.g.middle ∧
      (f.respond c t buttonsraw).g.touchState = f.g.touchState ∧
      (f.respond c t buttonsraw).events = f.events := by
  have hp := @pressButtons_ignored c t f buttonsraw ht hi
  have hm : (f.pressButtons c t buttonsraw).g.middle = f.g.middle := by rw [hp]
  have he : (f.pressButtons c t buttonsraw).events = f.events := by rw [hp]
  have hf : ((f.pressButtons c t buttonsraw).filterPosition c t).g.ignoreall :=
    (Gestures.ignoreall_of_buttonState filterPosition_buttonState).trans hi
  have hr : f.respond c t buttonsraw = (f.pressButtons c t buttonsraw).filterPosition c t :=
    if_pos (.inr hf)
  rw [hr]
  exact ⟨(Gestures.middle_of_buttonState filterPosition_buttonState).trans hm,
    filterPosition_touchState, filterPosition_output.right.trans he⟩

-- If it is not, the zone outside of which typing suppresses a touch does not matter either.
theorem respond_of_no_finger (hz : t.z ≤ c.zFinger) (hi : f.g.ignoreall = false) :
    f.respond c t buttonsraw = ((f.pressButtons c t buttonsraw).filterPosition c t).handle c t := by
  have hf : ((f.pressButtons c t buttonsraw).filterPosition c t).g.ignoreall = false :=
    (Gestures.ignoreall_of_buttonState filterPosition_buttonState).trans hi
  exact if_neg (by simp [outsideZone, hf, hz.not_gt])

-- The first packet without a finger ends the touch.
theorem respond_resting (hz : t.z < c.zFinger) (hi : f.g.ignoreall = false) (hu : f.g.touchmode.Used) :
    (f.respond c t buttonsraw).g.touchmode.Resting ∧
      ((f.respond c t buttonsraw).g.untouchtime = t.now ∨
        (f.respond c t buttonsraw).g.untouchtime = f.g.untouchtime) := by
  have hs : ((f.pressButtons c t buttonsraw).filterPosition c t).g.touchState = f.g.touchState :=
    filterPosition_touchState
  rw [respond_of_no_finger hz.le hi, ← Gestures.untouchtime_of_touchState hs]
  exact handle_resting hz (by rwa [Gestures.touchmode_of_touchState hs])

-- A later one reports that no button is held.
theorem respond_rest (hz : t.z < c.zFinger) (ht : t.fingers = 0) (hi : f.g.ignoreall = false)
    (h : f.g.touchmode = .noTouch ∨
      f.g.touchmode = .preDrag ∧ t.now - f.g.untouchtime ≥ c.maxdragtime) :
    (f.respond c t 0).g.touchmode = .noTouch ∧ buttonsAfter b (f.respond c t 0).events = 0 := by
  have hs : ((f.pressButtons c t 0).filterPosition c t).g.touchState = f.g.touchState :=
    filterPosition_touchState
  have hb : ((f.pressButtons c t 0).filterPosition c t).buttons = 0 :=
    filterPosition_output.left.trans (pressButtons_released ht)
  rw [respond_of_no_finger hz.le hi]
  rw [← Gestures.touchmode_of_touchState hs, ← Gestures.untouchtime_of_touchState hs] at h
  have ⟨hm, he⟩ := handle_rest hz h
  exact ⟨hm, by rw [he, hb, buttonsAfter_append, buttonsAfter_pointer]⟩

end Respond

end Locals

end Touchpad
