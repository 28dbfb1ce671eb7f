import VoodooPS2.Touchpad.Theorems.Gestures
import VoodooPS2.Touchpad.Theorems.MiddleButton
import VoodooPS2.Touchpad.Theorems.Scale

namespace Touchpad

namespace TouchMode

-- The modes without a touch that are ever entered.
def Resting : TouchMode → Prop
  | noTouch | preDrag | dragNoTouch => True
  | _                               => False

-- The modes that are ever entered.
def Used : TouchMode → Prop
  | noTouch | preDrag | dragNoTouch | move | mTouch | drag | dragLock => True
  | _                                                                 => False

variable {m : TouchMode}

theorem Resting.used (h : m.Resting) : m.Used := by
  cases m <;> trivial

theorem Resting.not_isTouch (h : m.Resting) : m.isTouch = false := by
  cases m <;> first | rfl | exact h.elim

theorem Used.resting (h : m.Used) (ht : m.isTouch = false) : m.Resting := by
  cases m <;> trivial

end TouchMode

namespace Locals

variable {c : Settings} {t : Touch} {f : Locals} {g : Gestures}

section Lift

-- A tap ends in one of two modes, and the end of a longer touch in one of two as well.
theorem tap_touchState :
    (f.tap c).g.touchmode.Resting ∧ (f.tap c).g.untouchtime = f.g.untouchtime := by
  simp only [tap]
  split
  case h_1 => exact ⟨trivial, by split_ifs <;> rfl⟩
  case h_2 => exact ⟨trivial, rfl⟩
  case h_3 =>
    refine ⟨?_, rfl⟩
    dsimp only
    split_ifs <;> trivial

theorem endTouch_touchState :
    (f.endTouch c).g.touchmode.Resting ∧ (f.endTouch c).g.untouchtime = f.g.untouchtime := by
  simp only [endTouch]
  split_ifs <;> exact ⟨trivial, rfl⟩

theorem liftFinger_of_isTouch (hz : t.z < c.zFinger) (h : f.g.touchmode.isTouch) :
    (f.liftFinger c t).g.touchmode.Resting ∧ (f.liftFinger c t).g.untouchtime = t.now := by
  have hm : ((f.clearTouch t).startMomentum c).resetHistory.g.untouchtime = t.now :=
    congrArg (·.2.1) <| Gestures.touchState_of_control (resetHistory_control.trans startMomentum_control)
  simp only [liftFinger, if_pos (And.intro hz h)]
  split
  case isTrue  => exact tap_touchState.imp id (·.trans hm)
  case isFalse => exact endTouch_touchState.imp id (·.trans hm)

theorem liftFinger_of_not_isTouch (h : f.g.touchmode.isTouch = false) : f.liftFinger c t = f := by
  simp [liftFinger, h]

-- What is left of a touch when its finger has been lifted.
theorem liftFinger_resting (hz : t.z < c.zFinger) (h : f.g.touchmode.Used) :
    (f.liftFinger c t).g.touchmode.Resting ∧
      ((f.liftFinger c t).g.untouchtime = t.now ∨ (f.liftFinger c t).g.untouchtime = f.g.untouchtime) := by
  cases ht : f.g.touchmode.isTouch
  case true =>
    have ⟨hr, hu⟩ := liftFinger_of_isTouch hz ht
    exact ⟨hr, .inl hu⟩
  case false =>
    rw [liftFinger_of_not_isTouch ht]
    exact ⟨h.resting ht, .inr rfl⟩

theorem liftFinger_used (h : f.g.touchmode.Used) : (f.liftFinger c t).g.touchmode.Used := by
  by_cases hz : t.z < c.zFinger
  case pos => exact (liftFinger_resting hz h).left.used
  case neg => simpa [liftFinger, hz] using h

theorem cancelPreDrag_used (h : f.g.touchmode.Used) : (f.cancelPreDrag c t).g.touchmode.Used := by
  simp only [cancelPreDrag]
  split
  case isTrue  => trivial
  case isFalse => exact h

theorem cancelPreDrag_resting (h : f.g.touchmode.Resting) :
    (f.cancelPreDrag c t).g.touchmode.Resting ∧
      (f.cancelPreDrag c t).g.untouchtime = f.g.untouchtime := by
  simp only [cancelPreDrag]
  split
  case isTrue  => exact ⟨trivial, rfl⟩
  case isFalse => exact ⟨h, rfl⟩

end Lift

section Move

theorem moveFingers_touchmode :
    (f.moveFingers c t).g.touchmode = f.g.touchmode ∨ (f.moveFingers c t).g.touchmode = .move := by
  have keep {f' : Locals} (h : f'.g.control = f.g.control) : f'.g.touchmode = f.g.touchmode :=
    Gestures.touchmode_of_touchState (Gestures.touchState_of_control h)
  simp only [moveFingers]
  split_ifs
  · exact .inl rfl
  · simp only [releaseSecond]
    split_ifs <;> simp
  · exact .inl (keep scroll_control)
  · exact .inl (keep swipe_control)
  · exact .inl (keep swipe4_control)
  · exact .inl rfl

theorem moveByMode_touchmode :
    (f.moveByMode c t).g.touchmode = f.g.touchmode ∨ (f.moveByMode c t).g.touchmode = .move := by
  have keep {f' : Locals} (h : f'.g.control = f.g.control) : f'.g.touchmode = f.g.touchmode :=
    Gestures.touchmode_of_touchState (Gestures.touchState_of_control h)
  cases hm : f.g.touchmode <;> simp only [moveByMode, hm] <;> rw [← hm]
  case drag | dragLock       => exact .inl (keep (move_control.trans holdDrag_control))
  case move                  => exact .inl (keep move_control)
  case mTouch                => exact moveFingers_touchmode
  case dragNoTouch | preDrag => exact .inl (keep holdPreDrag_control)
  all_goals exact .inl trivial

theorem moveByMode_used (h : f.g.touchmode.Used) : (f.moveByMode c t).g.touchmode.Used := by
  rcases @moveByMode_touchmode c t f with hm | hm <;> rw [hm]
  case inl => exact h
  case inr => trivial

end Move

section Modes

theorem startDrag_used (h : g.touchmode.Used) : (startDrag c g).touchmode.Used := by
  simp only [startDrag]
  split
  case isTrue  => trivial
  case isFalse => exact h

theorem resumeDrag_used (h : g.touchmode.Used) : (resumeDrag g).touchmode.Used := by
  simp only [resumeDrag]
  split
  case isTrue  => trivial
  case isFalse => exact h

theorem startMulti_used (h : g.touchmode.Used) : (startMulti t g).touchmode.Used := by
  simp only [startMulti]
  split
  case isTrue  => trivial
  case isFalse => exact h

theorem startMove_used (h : g.touchmode.Used) : (startMove g).touchmode.Used := by
  simp only [startMove]
  split
  case isTrue  => trivial
  case isFalse => exact h

theorem switchModes_used (h : f.g.touchmode.Used) : (f.switchModes c t).g.touchmode.Used := by
  simp only [switchModes]
  split
  case isTrue  => exact startMove_used (startMulti_used (resumeDrag_used (startDrag_used h)))
  case isFalse => exact h

end Modes

theorem cancelTap_touchState : (f.cancelTap c t).g.touchState = f.g.touchState :=
  Gestures.touchState_of_control cancelTap_control

theorem captureTap_touchState : (f.captureTap c t).g.touchState = f.g.touchState :=
  Gestures.touchState_of_control captureTap_control

theorem handle_used (h : f.g.touchmode.Used) : (f.handle c t).g.touchmode.Used := by
  apply switchModes_used
  rw [Gestures.touchmode_of_touchState captureTap_touchState]
  apply moveByMode_used
  rw [Gestures.touchmode_of_touchState cancelTap_touchState]
  exact cancelPreDrag_used (liftFinger_used h)

section Untouched

-- Without a finger, in a mode without a touch, nothing is left to do but to hold a button.
theorem cancelTap_of_not_isTouch (h : f.g.touchmode.isTouch = false) : f.cancelTap c t = f := by
  simp [cancelTap, h]

theorem captureTap_of_no_finger (hz : t.z ≤ c.zFinger) : f.captureTap c t = f :=
  if_neg (by simpa [isFingerTouch] using hz)

theorem switchModes_of_no_finger (hz : t.z ≤ c.zFinger) : f.switchModes c t = f :=
  if_neg (by simpa [isFingerTouch] using hz)

theorem moveByMode_of_resting (h : f.g.touchmode.Resting) :
    (f.moveByMode c t).g.touchState = f.g.touchState := by
  cases hm : f.g.touchmode <;> simp only [moveByMode, hm]
  case preDrag     => exact Gestures.touchState_of_control holdPreDrag_control
  case dragNoTouch => exact Gestures.touchState_of_control holdPreDrag_control
  all_goals simp [hm, TouchMode.Resting] at h

-- The first packet without a finger.
theorem handle_resting (hz : t.z < c.zFinger) (h : f.g.touchmode.Used) :
    (f.handle c t).g.touchmode.Resting ∧
      ((f.handle c t).g.untouchtime = t.now ∨ (f.handle c t).g.untouchtime = f.g.untouchtime) := by
  have ⟨hr, hu⟩ := liftFinger_resting hz h
  have ⟨hr', hu'⟩ := @cancelPreDrag_resting c t _ hr
  have hs : (f.handle c t).g.touchState = ((f.liftFinger c t).cancelPreDrag c t).g.touchState := by
    rw [handle, cancelTap_of_not_isTouch hr'.not_isTouch, captureTap_of_no_finger hz.le,
      switchModes_of_no_finger hz.le]
    exact moveByMode_of_resting hr'
  have hm : (f.handle c t).g.touchmode = ((f.liftFinger c t).cancelPreDrag c t).g.touchmode :=
    congrArg (·.1) hs
  have ht : (f.handle c t).g.untouchtime = ((f.liftFinger c t).cancelPreDrag c t).g.untouchtime :=
    congrArg (·.2.1) hs
  rw [hm, ht, hu']
  exact ⟨hr', hu⟩

-- A later packet without a finger, when a second tap is no longer waited for.
theorem handle_rest (hz : t.z < c.zFinger)
    (h : f.g.touchmode = .noTouch ∨
      f.g.touchmode = .preDrag ∧ t.now - f.g.untouchtime ≥ c.maxdragtime) :
    (f.handle c t).g.touchmode = .noTouch ∧
      (f.handle c t).events =
        f.events ++ [.relativePointer (f.dx.tdiv c.divisorx) (f.dy.tdiv c.divisory) f.buttons] := by
  have ht : f.g.touchmode.isTouch = false := by rcases h with h | ⟨h, _⟩ <;> rw [h] <;> rfl
  have hp : f.cancelPreDrag c t = { f with g := { f.g with touchmode := .noTouch } } := by
    rcases h with h | h
    case inr => exact if_pos h
    case inl =>
      rw [cancelPreDrag, if_neg (by simp [h]), ← h]
  rw [handle, liftFinger_of_not_isTouch ht, hp, cancelTap_of_not_isTouch rfl,
    captureTap_of_no_finger hz.le, switchModes_of_no_finger hz.le]
  exact ⟨rfl, rfl⟩

end Untouched

end Locals

end Touchpad
