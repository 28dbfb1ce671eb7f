import VoodooPS2.Touchpad.Settings

namespace Touchpad

-- The messages to the keyboard that stand for a movement of three or four fingers.
inductive Swipe
  | swipeUp
  | swipeDown
  | swipeLeft
  | swipeRight
  | swipe4Up
  | swipe4Down
  | swipe4Left
  | swipe4Right
  deriving DecidableEq

-- What the driver hands to the system.
inductive HidEvent
  | relativePointer (dx dy : Int) (buttonState : UInt32)
  | scrollWheel (deltaAxis1 deltaAxis2 deltaAxis3 : Int)
  | keyboardMessage (message : Swipe)
  -- The machine is halted by a division by zero.
  | divideByZero
  deriving DecidableEq

inductive MButtonState
  | noButtons
  | middle
  | wait4Two
  | wait4None
  | noOp
  deriving DecidableEq

inductive MBComingFrom
  | fromPassthru
  | fromTimer
  | fromTrackpad
  | fromCancel
  deriving DecidableEq

-- The variables of the simulation of a middle button, with its timer.
structure MiddleButton where
  mbuttonstate   : MButtonState := .noButtons
  pendingbuttons : UInt32       := 0
  buttontime     : UInt64       := 0
  buttonTimerSet : Bool         := false
  deriving DecidableEq

namespace MiddleButton

variable (c : Settings) (m : MiddleButton) (buttons : UInt32) (now : UInt64) (source : MBComingFrom)

-- The button is delayed until it is clear whether a second one goes the same way.
def wait (state : MButtonState) : MiddleButton where
  mbuttonstate   := state
  pendingbuttons := buttons
  buttontime     := now
  buttonTimerSet := true

-- The end of a delay.
def settle (state : MButtonState) : MiddleButton :=
  { m with mbuttonstate := state, pendingbuttons := 0, buttonTimerSet := false }

def released : MButtonState :=
  if buttons = 0 then .noButtons else .noOp

def timeout : Bool :=
  source = .fromTimer ∨ source = .fromCancel ∨ now - m.buttontime > c.maxmiddleclicktime

def dispatchPending : List HidEvent :=
  [.relativePointer 0 0 (buttons ||| m.pendingbuttons)]

def nextState : MiddleButton × List HidEvent :=
  match m.mbuttonstate with
  | .noButtons =>
    if source = .fromCancel then (m, [])
    else if buttons &&& 0x4 ≠ 0 then ({ m with mbuttonstate := .noOp }, [])
    else if buttons = 0x3 then ({ m with mbuttonstate := .middle }, [])
    else if buttons ≠ 0 then (wait buttons now .wait4Two, [])
    else (m, [])
  | .wait4Two =>
    if ¬m.timeout c now source ∧ buttons = 0x3 then (m.settle .middle, [])
    else if m.timeout c now source ∨ buttons ≠ m.pendingbuttons then
      (m.settle (released buttons),
        if source = .fromTimer ∨ buttons &&& m.pendingbuttons = 0 then m.dispatchPending buttons else [])
    else (m, [])
  | .middle =>
    if buttons = 0 then ({ m with mbuttonstate := .noButtons }, [])
    else if buttons &&& 0x3 ≠ 0x3 then (wait buttons now .wait4None, [])
    else (m, [])
  | .wait4None =>
    if ¬m.timeout c now source ∧ buttons = 0 then (m.settle .noButtons, [])
    else if m.timeout c now source ∨ buttons ≠ m.pendingbuttons then
      (m.settle (released buttons), if source = .fromTimer then m.dispatchPending buttons else [])
    else (m, [])
  | .noOp =>
    if buttons = 0 then ({ m with mbuttonstate := .noButtons }, []) else (m, [])

-- The buttons to report in the new state.
def modify : UInt32 :=
  match m.mbuttonstate with
  | .middle                => 0x4
  | .wait4None | .wait4Two => buttons &&& ~~~0x3
  | .noButtons | .noOp     => buttons

end MiddleButton

structure Pressed where
  middle  : MiddleButton
  buttons : UInt32
  events  : List HidEvent

def Settings.simulatesMiddle (c : Settings) : Prop :=
  c.fakemiddlebutton ∧ 2 < c.buttonCount
  deriving Decidable

def middleButton (c : Settings) (ignoreall : Bool) (m : MiddleButton) (buttons : UInt32) (now : UInt64)
    (source : MBComingFrom) : Pressed :=
  if ¬c.simulatesMiddle ∨ ignoreall ∧ source = .fromTrackpad then ⟨m, buttons, []⟩
  else
    let r := m.nextState c buttons now source
    ⟨r.1, r.1.modify buttons, r.2⟩

end Touchpad
