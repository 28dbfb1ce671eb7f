import VoodooPS2.Touchpad.Theorems.Frames

namespace Touchpad

namespace Gestures

-- The part of the state that is about buttons.
def buttonState (g : Gestures) : MiddleButton × UInt32 × Bool :=
  (g.middle, g.lastbuttons, g.ignoreall)

-- The part of the state that is about the touch mode.
def touchState (g : Gestures) : TouchMode × UInt64 × Bool :=
  (g.touchmode, g.untouchtime, g.dragTimerSet)

def control (g : Gestures) : (MiddleButton × UInt32 × Bool) × TouchMode × UInt64 × Bool :=
  (g.buttonState, g.touchState)

variable {c : Settings} {g g' : Gestures}

theorem buttonState_of_control (h : g'.control = g.control) : g'.buttonState = g.buttonState :=
  congrArg Prod.fst h

theorem touchState_of_control (h : g'.control = g.control) : g'.touchState = g.touchState :=
  congrArg Prod.snd h

theorem touchmode_of_touchState (h : g'.touchState = g.touchState) : g'.touchmode = g.touchmode :=
  congrArg Prod.fst h

theorem untouchtime_of_touchState (h : g'.touchState = g.touchState) :
    g'.untouchtime = g.untouchtime :=
  congrArg (·.2.1) h

theorem middle_of_buttonState (h : g'.buttonState = g.buttonState) : g'.middle = g.middle :=
  congrArg Prod.fst h

theorem lastbuttons_of_buttonState (h : g'.buttonState = g.buttonState) : g'.lastbuttons = g.lastbuttons :=
  congrArg (·.2.1) h

theorem ignoreall_of_buttonState (h : g'.buttonState = g.buttonState) : g'.ignoreall = g.ignoreall :=
  congrArg (·.2.2) h

end Gestures

namespace Locals

variable {c : Settings} {t : Touch} {f : Locals}

section Filters

theorem filterPosition_control : (f.filterPosition c t).g.control = f.g.control :=
  (congrArg (·.g.control) filterPosition_frame :)

theorem filterPosition_buttonState : (f.filterPosition c t).g.buttonState = f.g.buttonState :=
  Gestures.buttonState_of_control filterPosition_control

theorem filterPosition_touchState : (f.filterPosition c t).g.touchState = f.g.touchState :=
  Gestures.touchState_of_control filterPosition_control

-- Nothing but the position is filtered.
theorem filterPosition_output :
    (f.filterPosition c t).buttons = f.buttons ∧ (f.filterPosition c t).events = f.events :=
  ⟨(congrArg buttons filterPosition_frame :), (congrArg events filterPosition_frame :)⟩

end Filters

section Touches

theorem startMomentum_control : (f.startMomentum c).g.control = f.g.control :=
  (congrArg (·.g.control) startMomentum_frame :)

theorem resetHistory_control : f.resetHistory.g.control = f.g.control :=
  rfl

theorem tap_buttonState : (f.tap c).g.buttonState = f.g.buttonState :=
  (congrArg (·.g.buttonState) tap_frame :)

theorem endTouch_buttonState : (f.endTouch c).g.buttonState = f.g.buttonState :=
  (congrArg (·.g.buttonState) endTouch_frame :)

theorem clearTouch_buttonState : (f.clearTouch t).g.buttonState = f.g.buttonState :=
  rfl

theorem liftFinger_buttonState : (f.liftFinger c t).g.buttonState = f.g.buttonState :=
  liftFinger_keeps (φ := (·.g.buttonState))
    (fun _ => (Gestures.buttonState_of_control (resetHistory_control.trans startMomentum_control)).trans
      clearTouch_buttonState)
    (fun _ => tap_buttonState) (fun _ => endTouch_buttonState) fun _ => rfl

theorem cancelPreDrag_buttonState : (f.cancelPreDrag c t).g.buttonState = f.g.buttonState :=
  (congrArg (·.g.buttonState) cancelPreDrag_frame :)

theorem cancelTap_control : (f.cancelTap c t).g.control = f.g.control :=
  (congrArg (·.g.control) cancelTap_frame :)

theorem captureTap_control : (f.captureTap c t).g.control = f.g.control :=
  (congrArg (·.g.control) captureTap_frame :)

end Touches

section Moves

theorem move_control : (f.move c t).g.control = f.g.control :=
  (congrArg (·.g.control) move_frame :)

theorem scroll_control : (f.scroll c t).g.control = f.g.control :=
  (congrArg (·.g.control) scroll_frame :)

theorem swipe_control : (f.swipe c).g.control = f.g.control :=
  (congrArg (·.g.control) swipe_frame :)

theorem swipe4_control : (f.swipe4 c).g.control = f.g.control :=
  (congrArg (·.g.control) swipe4_frame :)

theorem holdDrag_control : (f.holdDrag c t).g.control = f.g.control :=
  (congrArg (·.g.control) holdDrag_frame :)

theorem holdPreDrag_control : (f.holdPreDrag c t).g.control = f.g.control :=
  (congrArg (·.g.control) holdPreDrag_frame :)

theorem releaseSecond_buttonState : (f.releaseSecond c).g.buttonState = f.g.buttonState :=
  (congrArg (·.g.buttonState) releaseSecond_frame :)

theorem moveFingers_buttonState : (f.moveFingers c t).g.buttonState = f.g.buttonState := by
  simp only [moveFingers]
  split_ifs
  · rfl
  · exact releaseSecond_buttonState
  · exact Gestures.buttonState_of_control scroll_control
  · exact Gestures.buttonState_of_control swipe_control
  · exact Gestures.buttonState_of_control swipe4_control
  · rfl

theorem moveByMode_buttonState : (f.moveByMode c t).g.buttonState = f.g.buttonState := by
  simp only [moveByMode]
  split
  case h_1 => exact Gestures.buttonState_of_control (move_control.trans holdDrag_control)
  case h_2 => exact Gestures.buttonState_of_control (move_control.trans holdDrag_control)
  case h_3 => exact Gestures.buttonState_of_control move_control
  case h_4 => exact moveFingers_buttonState
  case h_5 => exact Gestures.buttonState_of_control holdPreDrag_control
  case h_6 => exact Gestures.buttonState_of_control holdPreDrag_control
  case h_7 => rfl

end Moves

section Modes

theorem switchModes_buttonState : (f.switchModes c t).g.buttonState = f.g.buttonState :=
  (congrArg (·.g.buttonState) switchModes_frame :)

theorem dispatch_control : (f.dispatch c t).g.control = f.g.control :=
  rfl

-- The touch changes nothing about the buttons that is kept from one packet to the next.
theorem handle_buttonState : (f.handle c t).g.buttonState = f.g.buttonState := by
  rw [handle, Gestures.buttonState_of_control dispatch_control, switchModes_buttonState,
    Gestures.buttonState_of_control captureTap_control, moveByMode_buttonState,
    Gestures.buttonState_of_control cancelTap_control, cancelPreDrag_buttonState, liftFinger_buttonState]

end Modes

end Locals

end Touchpad
