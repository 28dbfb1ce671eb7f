import VoodooPS2.Touchpad.Decay
import VoodooPS2.Touchpad.MiddleButton
import VoodooPS2.Touchpad.Protocol

namespace Touchpad

inductive TouchMode
  | noTouch
  | preDrag
  | dragNoTouch
  | move
  | vScroll
  | hScroll
  | cScroll
  | mTouch
  | drag
  | dragLock
  | wait1Release
  | wait2Tap
  | wait2Release
  deriving DecidableEq

def TouchMode.value : TouchMode → Nat
  | noTouch      => 0
  | preDrag      => 2
  | dragNoTouch  => 4
  | move         => 1
  | vScroll      => 3
  | hScroll      => 5
  | cScroll      => 7
  | mTouch       => 9
  | drag         => 11
  | dragLock     => 13
  | wait1Release => 101
  | wait2Tap     => 102
  | wait2Release => 103

def TouchMode.isTouch (m : TouchMode) : Bool :=
  m.value % 2 = 1

-- The variables of the event functions. A timer is set from `setTimerTimeout` until it is cancelled or
-- its action runs.
structure Gestures where
  middle                 : MiddleButton             := {}
  lastx                  : Int                      := 0
  lasty                  : Int                      := 0
  lastFingers            : Int                      := 0
  lastbuttons            : UInt32                   := 0
  passbuttons            : UInt32                   := 0
  ignoredeltas           : Int                      := 0
  ignoresingle           : Int                      := 0
  xrest                  : Int                      := 0
  yrest                  : Int                      := 0
  touchx                 : Int                      := 0
  touchy                 : Int                      := 0
  touchtime              : UInt64                   := 0
  untouchtime            : UInt64                   := 0
  keytime                : UInt64                   := 0
  wasdouble              : Bool                     := false
  wastriple              : Bool                     := false
  wasScroll              : Bool                     := false
  scrolldebounce         : Bool                     := false
  ignoreall              : Bool                     := false
  modifierdown           : UInt32                   := 0
  draglocktemp           : UInt32                   := 0
  mousecount             : Int                      := 0
  touchmode              : TouchMode                := .noTouch
  inSwipeLeft            : Bool                     := false
  inSwipeRight           : Bool                     := false
  inSwipeUp              : Bool                     := false
  inSwipeDown            : Bool                     := false
  inSwipe4Left           : Bool                     := false
  inSwipe4Right          : Bool                     := false
  inSwipe4Up             : Bool                     := false
  inSwipe4Down           : Bool                     := false
  xmoved                 : Int                      := 0
  ymoved                 : Int                      := 0
  xAvg                   : SimpleAverage 5          := .zero
  yAvg                   : SimpleAverage 5          := .zero
  xUndo                  : UndecayAverage           := {}
  yUndo                  : UndecayAverage           := {}
  dyHistory              : SimpleAverage 32         := .zero
  timeHistory            : History UInt64 32        := .fill 0
  momentumscrollinterval : UInt64                   := 0
  momentumscrollsum      : Int                      := 0
  momentumscrollcurrent  : Int                      := 0
  momentumscrollrest1    : Int                      := 0
  momentumscrollrest2    : Int                      := 0
  dragTimerSet           : Bool                     := false
  scrollTimerSet         : Bool                     := false
  scrollDebounceTimerSet : Bool                     := false

-- The axis which has the most resolution gives the scale, or neither does if there is a division by zero.
def scaleAxes (c : Settings) (xraw yraw : Int) : Option (Int × Int) :=
  if c.xupmm < c.yupmm then
    if c.xupmm = 0 then none else some ((xraw * c.yupmm).tdiv c.xupmm, yraw)
  else if c.xupmm > c.yupmm then
    if c.yupmm = 0 then none else some (xraw, (yraw * c.xupmm).tdiv c.yupmm)
  else
    some (xraw, yraw)

def AlpsDevice.axisMean (dev : AlpsDevice) : Int :=
  (dev.xMax + dev.yMax).tdiv 2

-- Scales all touchpads' axes to 6000.
def AlpsDevice.axisFactor (dev : AlpsDevice) : Int :=
  Int.tdiv 6000 dev.axisMean

def scale (c : Settings) (dev : AlpsDevice) (xraw yraw : Int) : Option (Int × Int) :=
  (scaleAxes c xraw yraw).bind fun (x, y) =>
    if dev.axisMean = 0 then none else some (x * dev.axisFactor, y * dev.axisFactor)

-- The variables of a call of `dispatchEventsWithInfo` that keep their values. The fingers are those that
-- are left when the pressure has been looked at.
structure Touch where
  z       : Int
  fingers : Int
  now     : UInt64

-- The variables of a call of `dispatchEventsWithInfo` that change.
structure Locals where
  g       : Gestures
  x       : Int
  y       : Int
  buttons : UInt32
  dx      : Int           := 0
  dy      : Int           := 0
  events  : List HidEvent := []

def Gestures.resetAverages (g : Gestures) : Gestures :=
  { g with xUndo := g.xUndo.reset, yUndo := g.yUndo.reset, xAvg := g.xAvg.reset, yAvg := g.yAvg.reset }

-- One of the messages for a movement of three fingers.
def Gestures.swipe (c : Settings) (g : Gestures) : Gestures × List HidEvent :=
  if g.ymoved > c.swipedy ∧ ¬g.inSwipeUp ∧ ¬g.inSwipe4Up ∧ c.threefingervertswipe then
    ({ g with inSwipeUp := true, inSwipeDown := false, ymoved := 0 }, [.keyboardMessage .swipeUp])
  else if g.ymoved < -c.swipedy ∧ ¬g.inSwipeDown ∧ ¬g.inSwipe4Down ∧ c.threefingervertswipe then
    ({ g with inSwipeDown := true, inSwipeUp := false, ymoved := 0 }, [.keyboardMessage .swipeDown])
  else if g.xmoved < -c.swipedx ∧ ¬g.inSwipeRight ∧ ¬g.inSwipe4Right ∧ c.threefingerhorizswipe then
    ({ g with inSwipeRight := true, inSwipeLeft := false, xmoved := 0 }, [.keyboardMessage .swipeRight])
  else if g.xmoved > c.swipedx ∧ ¬g.inSwipeLeft ∧ ¬g.inSwipe4Left ∧ c.threefingerhorizswipe then
    ({ g with inSwipeLeft := true, inSwipeRight := false, xmoved := 0 }, [.keyboardMessage .swipeLeft])
  else
    (g, [])

-- One of the messages for a movement of four fingers.
def Gestures.swipe4 (c : Settings) (g : Gestures) : Gestures × List HidEvent :=
  if g.ymoved > c.swipedy ∧ ¬g.inSwipe4Up then
    ({ g with inSwipe4Up := true, inSwipeUp := false, inSwipe4Down := false, ymoved := 0 },
      [.keyboardMessage .swipe4Up])
  else if g.ymoved < -c.swipedy ∧ ¬g.inSwipe4Down then
    ({ g with inSwipe4Down := true, inSwipeDown := false, inSwipe4Up := false, ymoved := 0 },
      [.keyboardMessage .swipe4Down])
  else if g.xmoved < -c.swipedx ∧ ¬g.inSwipe4Right then
    ({ g with inSwipe4Right := true, inSwipeRight := false, inSwipe4Left := false, xmoved := 0 },
      [.keyboardMessage .swipe4Right])
  else if g.xmoved > c.swipedx ∧ ¬g.inSwipe4Left then
    ({ g with inSwipe4Left := true, inSwipeLeft := false, inSwipe4Right := false, xmoved := 0 },
      [.keyboardMessage .swipe4Left])
  else
    (g, [])

-- The conversion of a value to a `short`, and to an `int64_t`.
def toShort (n : Int) : Int :=
  n.bmod (2 ^ 16)

def toInt64 (n : Int) : Int :=
  n.bmod (2 ^ 64)

namespace Locals

variable (c : Settings) (t : Touch) (f : Locals)

-- The middle button is simulated with the two others, and once more if a finger is going down.
def pressButtons (buttonsraw : UInt32) : Locals :=
  let g := { f.g with lastbuttons := buttonsraw }
  let r : Pressed :=
    if c.clickpadtype = 0 ∨ t.fingers = 3 then
      middleButton c g.ignoreall g.middle buttonsraw t.now
        (if t.fingers = 3 then .fromPassthru else .fromTrackpad)
    else
      ⟨g.middle, buttonsraw, []⟩
  let r : Pressed :=
    if g.lastFingers = 0 ∧ t.fingers > 0 then
      let r' := middleButton c g.ignoreall r.middle (buttonsraw ||| g.passbuttons) t.now .fromCancel
      { r' with events := r.events ++ r'.events }
    else
      r
  { f with g := { g with middle := r.middle }, buttons := r.buttons, events := f.events ++ r.events }

def changeFingers : Locals :=
  let g := f.g
  let g :=
    if g.lastFingers > 0 ∧ t.fingers > 0 ∧ g.lastFingers ≠ t.fingers then
      { g with ignoredeltas := c.ignoredeltasstart }
    else
      g
  { f with g := if g.lastFingers ≠ t.fingers then g.resetAverages else g }

def unsmooth : Locals :=
  if c.unsmoothinput then
    let (xUndo, x) := f.g.xUndo.filter f.x
    let (yUndo, y) := f.g.yUndo.filter f.y
    { f with g := { f.g with xUndo := xUndo, yUndo := yUndo }, x := x, y := y }
  else
    f

def smooth : Locals :=
  if c.smoothinput then
    let (xAvg, x) := f.g.xAvg.filter f.x
    let (yAvg, y) := f.g.yAvg.filter f.y
    { f with g := { f.g with xAvg := xAvg, yAvg := yAvg }, x := x, y := y }
  else
    f

def ignoreDeltas : Locals :=
  if f.g.ignoredeltas = 0 then f
  else
    let g := { f.g with lastx := f.x, lasty := f.y, ignoredeltas := f.g.ignoredeltas - 1 }
    { f with g := if g.ignoredeltas = 0 then g.resetAverages else g }

-- The position, when all filters have been applied.
def filterPosition : Locals :=
  (((f.changeFingers c t).unsmooth c).smooth c).ignoreDeltas

-- The touch was shortly after typing, and outside of the zone.
def outsideZone : Prop :=
  c.outzoneWt ∧ t.z > c.zFinger ∧ t.now - f.g.keytime < c.maxaftertyping ∧
    (f.x < c.zonel ∨ f.x > c.zoner ∨ f.y < c.zoneb ∨ f.y > c.zonet)
  deriving Decidable

def clearTouch : Locals :=
  { f with
    g := { f.g with
      xrest         := 0
      yrest         := 0
      inSwipeLeft   := false
      inSwipeRight  := false
      inSwipeUp     := false
      inSwipeDown   := false
      inSwipe4Left  := false
      inSwipe4Right := false
      inSwipe4Up    := false
      inSwipe4Down  := false
      xmoved        := 0
      ymoved        := 0
      untouchtime   := t.now } }

def momentum (g : Gestures) : Gestures :=
  let interval := g.timeHistory.newest 0 - g.timeHistory.oldest 0
  let g := { g with momentumscrollinterval := interval }
  if interval = 0 then g
  else
    { g with
      momentumscrollsum     := g.dyHistory.sum
      momentumscrollcurrent := toInt64 (c.momentumscrolltimer.toNat * g.dyHistory.sum)
      momentumscrollrest1   := 0
      momentumscrollrest2   := 0
      scrollTimerSet        := true }

-- The scrolling goes on for a while if the fingers moved when they were lifted.
def startMomentum : Locals :=
  let g := f.g
  if (g.touchmode = .mTouch ∨ g.touchmode = .vScroll) ∧ c.momentumscroll ∧ c.momentumscrolltimer ≠ 0 ∧
    g.dyHistory.count > c.momentumscrollsamplesmin
  then
    { f with g := momentum c g }
  else
    f

def resetHistory : Locals :=
  { f with
    g := { f.g with timeHistory := f.g.timeHistory.reset, dyHistory := f.g.dyHistory.reset } }

-- The button of a tap with three fingers, with two, or with one.
def tapButton : UInt32 :=
  if f.g.wastriple ∧ c.rtap then if c.swapdoubletriple then 0x2 else 0x4
  else if f.g.wasdouble ∧ c.rtap then if c.swapdoubletriple then 0x4 else 0x2
  else 0x1

def tap : Locals :=
  match f.g.touchmode with
  | .drag =>
    let f :=
      if c.immediateclick then f
      else
        let buttons := f.buttons &&& ~~~0x7
        { f with
          buttons := buttons
          events  := f.events ++
            [.relativePointer 0 0 (buttons ||| 0x1), .relativePointer 0 0 buttons] }
    { f with buttons := f.buttons ||| f.tapButton c, g := { f.g with touchmode := .noTouch } }
  | .dragLock => { f with g := { f.g with touchmode := .noTouch } }
  | _ =>
    let touchmode :=
      if (f.g.wastriple ∨ f.g.wasdouble) ∧ c.rtap then .noTouch
      else if c.dragging then .preDrag
      else .noTouch
    { f with buttons := f.buttons ||| f.tapButton c, g := { f.g with touchmode := touchmode } }

-- There is a timer for the end of a drag if there is a delay.
def endTouch : Locals :=
  let g := f.g
  let g :=
    if (g.touchmode = .drag ∨ g.touchmode = .dragLock) ∧
      (c.draglock ∨ g.draglocktemp ≠ 0 ∨ c.dragexitdelay ≠ 0)
    then
      let g := { g with touchmode := .dragNoTouch }
      if ¬c.draglock ∧ g.draglocktemp = 0 then { g with dragTimerSet := true } else g
    else
      { g with touchmode := .noTouch, draglocktemp := 0 }
  { f with g := g }

-- A finger has been lifted.
def liftFinger : Locals :=
  if t.z < c.zFinger ∧ f.g.touchmode.isTouch then
    let f := ((f.clearTouch t).startMomentum c).resetHistory
    let f := if t.now - f.g.touchtime < c.maxtaptime ∧ c.clicking then f.tap c else f.endTouch c
    { f with g := { f.g with wasdouble := false, wastriple := false } }
  else
    f

-- The second tap takes too long.
def cancelPreDrag : Locals :=
  if f.g.touchmode = .preDrag ∧ t.now - f.g.untouchtime ≥ c.maxdragtime then
    { f with g := { f.g with touchmode := .noTouch } }
  else
    f

def isFingerTouch : Prop :=
  t.z > c.zFinger
  deriving Decidable

-- The touch point moves too far for a tap.
def cancelTap : Locals :=
  if f.g.touchmode.isTouch ∧ isFingerTouch c t ∧ f.g.lastFingers = t.fingers then
    let dx := (f.g.touchx - f.x).natAbs
    let dy := (f.g.touchy - f.y).natAbs
    if ¬f.g.wasdouble ∧ ¬f.g.wastriple ∧ (dx > c.tapthreshx ∨ dy > c.tapthreshy) ∨
      dx > c.dblthreshx ∨ dy > c.dblthreshy
    then
      { f with g := { f.g with touchtime := 0 } }
    else
      f
  else
    f

def move : Locals :=
  let g := f.g
  if g.lastFingers = t.fingers ∧ t.z ≤ c.zlimit ∧ t.now - g.touchtime > 100000000 then
    if g.wasScroll then
      { f with g := { g with wasScroll := false, ignoredeltas := c.ignoredeltasstart } }
    else
      let dx := f.x - g.lastx + g.xrest
      let dy := g.lasty - f.y + g.yrest
      if dx.natAbs > c.bogusdxthresh ∨ dy.natAbs > c.bogusdythresh then
        { f with g := { g with xrest := 0, yrest := 0 } }
      else
        { f with
          dx := dx
          dy := dy
          g  := { g with xrest := dx.tmod c.divisorx, yrest := dy.tmod c.divisory } }
  else
    f

-- The user could be letting go, so that a single finger is ignored at first.
def releaseSecond : Locals :=
  let g := f.g
  if ¬c.wsticky ∧ ¬g.scrolldebounce ∧ g.ignoresingle = 0 then
    { f with
      g := { g with
        scrollDebounceTimerSet := true
        scrolldebounce         := true
        wasScroll              := true
        dyHistory              := g.dyHistory.reset
        timeHistory            := g.timeHistory.reset
        touchmode              := .move } }
  else if g.ignoresingle ≠ 0 then { f with g := { g with ignoresingle := g.ignoresingle - 1 } }
  else f

-- The movement of two fingers goes into the history, which starts over at a change of direction.
def scrollHistory (dy : Int) : Gestures :=
  let g := f.g
  let g :=
    if decide (dy < 0) ≠ decide (g.dyHistory.newest 0 < 0) ∨ dy = 0 then
      { g with dyHistory := g.dyHistory.reset, timeHistory := g.timeHistory.reset }
    else
      g
  { g with dyHistory := g.dyHistory.add dy, timeHistory := g.timeHistory.filter t.now }

-- What is left of the movement along an axis for the next packet.
def scrollRest (d thresh divisor : Int) : Int :=
  if d.natAbs < thresh then d else if divisor ≠ 0 then d.tmod divisor else 0

-- Small movements are filtered out.
def scrollDelta (d thresh : Int) : Int :=
  if d.natAbs < thresh then 0 else d

def scrollSteps (d divisor : Int) : Int :=
  toShort (if divisor ≠ 0 then d.tdiv divisor else 0)

def scrollBy (whdivisor dx dy : Int) : Locals :=
  let g := { f.scrollHistory t dy with
    xrest := scrollRest dx c.scrolldxthresh whdivisor
    yrest := scrollRest dy c.scrolldythresh c.wvdivisor }
  let dx := scrollDelta dx c.scrolldxthresh
  let dy := scrollDelta dy c.scrolldythresh
  if dy ≠ 0 ∨ dx ≠ 0 then
    -- only if it was not a tap of two fingers
    let events :=
      if g.touchtime = 0 then [.scrollWheel (scrollSteps dy c.wvdivisor) (scrollSteps (-dx) whdivisor) 0]
      else []
    { f with g := { g with ignoresingle := 3 }, events := f.events ++ events }
  else
    { f with g := g }

-- Without `hscroll` the horizontal movement is ignored, as with a divisor of zero.
def scroll : Locals :=
  let g := f.g
  let whdivisor := if c.hscroll then c.whdivisor else 0
  if c.palm ∧ t.z > c.zlimit ∨ c.palmWt ∧ t.now - g.keytime < c.maxaftertyping then f
  else
    f.scrollBy c t whdivisor (if whdivisor ≠ 0 then f.x - g.lastx + g.xrest else 0)
      (if c.wvdivisor ≠ 0 then f.y - g.lasty + g.yrest else 0)

-- The movement since the fingers went down.
def addMovement : Gestures :=
  { f.g with
    xmoved := f.g.xmoved + (f.g.lastx - f.x)
    ymoved := f.g.ymoved + (f.y - f.g.lasty) }

def swipe : Locals :=
  if c.threefingerhorizswipe ∨ c.threefingervertswipe then
    let r := f.addMovement.swipe c
    { f with g := r.1, events := f.events ++ r.2 }
  else
    f

def swipe4 : Locals :=
  let r := f.addMovement.swipe4 c
  { f with g := r.1, events := f.events ++ r.2 }

def moveFingers : Locals :=
  if f.g.lastFingers ≠ t.fingers then f
  else if t.fingers = 1 then f.releaseSecond c
  else if t.fingers = 2 then f.scroll c t
  else if t.fingers = 3 then f.swipe c
  else if t.fingers = 4 then f.swipe4 c
  else f

def holdDrag : Locals :=
  if f.g.touchmode = .dragLock ∨ ¬c.immediateclick ∨ t.now - f.g.touchtime > c.maxdbltaptime then
    { f with buttons := f.buttons ||| 0x1 }
  else
    f

def holdPreDrag : Locals :=
  if ¬c.immediateclick ∧ (¬c.palmWt ∨ t.now - f.g.keytime ≥ c.maxaftertyping) then
    { f with buttons := f.buttons ||| 0x1 }
  else
    f

def moveByMode : Locals :=
  match f.g.touchmode with
  | .drag | .dragLock => (f.holdDrag c t).move c t
  | .move             => f.move c t
  | .mTouch           => f.moveFingers c t
  | .dragNoTouch      => { f with buttons := f.buttons ||| 0x1 }.holdPreDrag c t
  | .preDrag          => f.holdPreDrag c t
  | _                 => f

-- The time of a tap, which does not count if it is close to typing or during momentum scroll.
def captureTap : Locals :=
  if isFingerTouch c t then
    let g := f.g
    let g :=
      if (¬c.palmWt ∨ t.now - g.keytime ≥ c.maxaftertyping) ∧ g.momentumscrollcurrent = 0 then
        let g := if g.touchmode.isTouch then g else { g with touchtime := t.now }
        let g := if g.lastFingers < t.fingers then { g with touchx := f.x, touchy := f.y } else g
        { g with
          wasdouble := t.fingers = 2 ∨ g.wasdouble ∧ g.lastFingers ≠ t.fingers
          wastriple := t.fingers = 3 ∨ g.wastriple ∧ g.lastFingers ≠ t.fingers }
      else
        g
    let g :=
      if ¬g.scrolldebounce ∧ g.momentumscrollcurrent ≠ 0 then
        { g with momentumscrollcurrent := 0, scrollDebounceTimerSet := true, scrolldebounce := true }
      else
        g
    { f with g := g }
  else
    f

def startDrag (g : Gestures) : Gestures :=
  if g.touchmode = .preDrag then
    { g with touchmode := .drag, draglocktemp := g.modifierdown &&& c.draglocktempmask }
  else
    g

def resumeDrag (g : Gestures) : Gestures :=
  if g.touchmode = .dragNoTouch then { g with dragTimerSet := false, touchmode := .dragLock } else g

def startMulti (g : Gestures) : Gestures :=
  if g.touchmode ≠ .mTouch ∧ t.fingers > 1 then { g with touchmode := .mTouch } else g

def startMove (g : Gestures) : Gestures :=
  if g.touchmode = .noTouch ∧ ¬g.scrolldebounce then { g with touchmode := .move } else g

-- All of these changes need a touch of a finger.
def switchModes : Locals :=
  if isFingerTouch c t then { f with g := startMove (startMulti t (resumeDrag (startDrag c f.g))) }
  else f

def dispatch : Locals :=
  { f with
    g      := { f.g with lastx := f.x, lasty := f.y, lastFingers := t.fingers }
    events := f.events ++ [.relativePointer (f.dx.tdiv c.divisorx) (f.dy.tdiv c.divisory) f.buttons] }

-- The part of `dispatchEventsWithInfo` that is left out if the input is ignored.
def handle : Locals :=
  ((((((f.liftFinger c t).cancelPreDrag c t).cancelTap c t).moveByMode c t).captureTap c t).switchModes
    c t).dispatch c t

def respond (buttonsraw : UInt32) : Locals :=
  let f := (f.pressButtons c t buttonsraw).filterPosition c t
  if f.outsideZone c t ∨ f.g.ignoreall then f else f.handle c t

end Locals

def EventInfo.touch (c : Settings) (e : EventInfo) (now : UInt64) : Touch where
  z       := e.z
  fingers := if e.z > c.zFinger then e.fingers else 0
  now     := now

def dispatchEventsWithInfo (c : Settings) (dev : AlpsDevice) (g : Gestures) (e : EventInfo) (now : UInt64) :
    Option (Gestures × List HidEvent) :=
  (scale c dev e.x e.y).map fun (x, y) =>
    let f := Locals.respond c (e.touch c now) ⟨g, x, y, e.buttons, 0, 0, []⟩ e.buttons
    (f.g, f.events)

namespace Gestures

variable (c : Settings) (dev : AlpsDevice) (g : Gestures)

def onButtonTimer (now : UInt64) : Gestures × List HidEvent :=
  let g := { g with middle := { g.middle with buttonTimerSet := false } }
  let r := middleButton c g.ignoreall g.middle g.lastbuttons now .fromTimer
  ({ g with middle := r.middle }, r.events)

def onDragTimer (now : UInt64) : Gestures × List HidEvent :=
  let g := { g with dragTimerSet := false }
  if g.touchmode = .dragNoTouch then
    let r := middleButton c g.ignoreall g.middle (g.lastbuttons &&& ~~~0x1) now .fromPassthru
    ({ g with touchmode := .noTouch, middle := r.middle }, r.events ++ [.relativePointer 0 0 r.buttons])
  else
    (g, [])

def onScrollDebounceTimer : Gestures :=
  { g with scrollDebounceTimerSet := false, scrolldebounce := false }

def onScrollTimer : Option (Gestures × List HidEvent) :=
  let g := { g with scrollTimerSet := false }
  if g.momentumscrollcurrent = 0 then some (g, [])
  else if g.momentumscrollinterval = 0 then none
  else
    let interval := toInt64 g.momentumscrollinterval.toNat
    let dy := (toInt64 (g.momentumscrollcurrent.tdiv interval + g.momentumscrollrest2)).bmod (2 ^ 32)
    if dy.natAbs > c.momentumscrollthreshy then
      if c.momentumscrolldivisor = 0 then none
      else
        let dy' := if c.wvdivisor ≠ 0 then dy.tdiv c.wvdivisor else 0
        let current :=
          toInt64 (g.momentumscrollcurrent * c.momentumscrollmultiplier + g.momentumscrollrest1)
        some ({ g with
          momentumscrollrest2   := if c.wvdivisor ≠ 0 then dy.tmod c.wvdivisor else 0
          momentumscrollrest1   := current.tmod c.momentumscrolldivisor
          momentumscrollcurrent := current.tdiv c.momentumscrolldivisor
          scrollTimerSet        := true }, [.scrollWheel (toShort dy') 0 0])
    else
      some ({ g with momentumscrollcurrent := 0 }, [])

-- `kPS2M_setDisableTouchpad`
def setDisableTouchpad (enable : Bool) : Gestures :=
  if enable = g.ignoreall then { g with ignoreall := !enable } else g

-- The bits of `_modifierdown`, for the ADB codes of the modifier keys.
def modifierMask (adbKeyCode : UInt8) : Option UInt32 :=
  match adbKeyCode with
  | 0x36 => some 0x10
  | 0x37 => some 0x100000
  | 0x38 => some 0
  | 0x3a => some 0x080000
  | 0x3b => some 0x040000
  | 0x3c => some 0
  | 0x3d => some 0x08
  | 0x3e => some 0x04
  | 0x3f => some 0x200000
  | _    => none

-- `kPS2M_notifyKeyPressed`
def notifyKeyPressed (adbKeyCode : UInt8) (goingDown : Bool) (time : UInt64) : Gestures :=
  match modifierMask adbKeyCode with
  | some mask =>
    if goingDown then { g with modifierdown := g.modifierdown ||| mask }
    else { g with modifierdown := g.modifierdown &&& ~~~mask, keytime := time }
  | none => { g with momentumscrollcurrent := 0, keytime := time }

-- The property that changes while the driver runs is the number of mice, which may disable the touchpad. A
-- number of -1 shuts the touchpad down, which does nothing, and is not kept.
def setMouseCount (mousecount : Int) : Gestures :=
  let mousecount := if mousecount = -1 then g.mousecount else mousecount
  let g' := { g with touchmode := .noTouch, mousecount := mousecount }
  if decide (g.mousecount ≠ 0) ≠ decide (mousecount ≠ 0) then
    { g' with ignoreall := mousecount ≠ 0 ∧ c.usbMouseStopsTrackpad }
  else
    g'

def initTouchPad : Gestures :=
  { g with passbuttons := 0, modifierdown := 0 }

end Gestures

-- What the event functions are called for.
inductive Input
  | call (call : Call) (now : UInt64)
  -- The packets of a trackstick store the buttons that they report.
  | storeButtons (buttons : UInt32)
  | buttonTimer (now : UInt64)
  | dragTimer (now : UInt64)
  | scrollTimer
  | scrollDebounceTimer
  | setDisableTouchpad (enable : Bool)
  | notifyKeyPressed (adbKeyCode : UInt8) (goingDown : Bool) (time : UInt64)
  | setMouseCount (mousecount : Int)
  | initTouchPad

-- A timer that is not set does nothing.
def Gestures.step (c : Settings) (dev : AlpsDevice) (g : Gestures) :
    Input → Option (Gestures × List HidEvent)
  | .call (.dispatchEventsWithInfo e) now            => dispatchEventsWithInfo c dev g e now
  | .call (.dispatchRelativePointerEvent dx dy b) _  => some (g, [.relativePointer dx dy b])
  | .call (.dispatchScrollWheelEvent d₁ d₂) _        => some (g, [.scrollWheel (toShort d₁) (toShort d₂) 0])
  | .call .startDrag _                               => some ({ g with touchmode := .drag }, [])
  | .call .divideByZero _                            => none
  | .storeButtons b                                  => some ({ g with lastbuttons := b }, [])
  | .buttonTimer now => some (if g.middle.buttonTimerSet then g.onButtonTimer c now else (g, []))
  | .dragTimer now   => some (if g.dragTimerSet then g.onDragTimer c now else (g, []))
  | .scrollTimer     => if g.scrollTimerSet then g.onScrollTimer c else some (g, [])
  | .scrollDebounceTimer =>
    some (if g.scrollDebounceTimerSet then g.onScrollDebounceTimer else g, [])
  | .setDisableTouchpad enable      => some (g.setDisableTouchpad enable, [])
  | .notifyKeyPressed k goingDown t => some (g.notifyKeyPressed k goingDown t, [])
  | .setMouseCount mousecount       => some (g.setMouseCount c mousecount, [])
  | .initTouchPad                   => some (g.initTouchPad, [])

def gestures (c : Settings) (dev : AlpsDevice) : Mealy (Option Gestures) Input HidEvent :=
  .halting (Gestures.step c dev) .divideByZero

end Touchpad
