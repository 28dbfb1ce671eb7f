import VoodooPS2.Touchpad.Gestures

-- What the parts of `dispatchEventsWithInfo` leave unchanged.
namespace Touchpad

namespace Gestures

variable {c : Settings} {g : Gestures}

theorem swipe_frame : (g.swipe c).1 = { g with
    inSwipeLeft   := (g.swipe c).1.inSwipeLeft
    inSwipeRight  := (g.swipe c).1.inSwipeRight
    inSwipeUp     := (g.swipe c).1.inSwipeUp
    inSwipeDown   := (g.swipe c).1.inSwipeDown
    inSwipe4Left  := (g.swipe c).1.inSwipe4Left
    inSwipe4Right := (g.swipe c).1.inSwipe4Right
    inSwipe4Up    := (g.swipe c).1.inSwipe4Up
    inSwipe4Down  := (g.swipe c).1.inSwipe4Down
    xmoved        := (g.swipe c).1.xmoved
    ymoved        := (g.swipe c).1.ymoved } := by
  simp only [swipe]
  split_ifs <;> rfl

theorem swipe4_frame : (g.swipe4 c).1 = { g with
    inSwipeLeft   := (g.swipe4 c).1.inSwipeLeft
    inSwipeRight  := (g.swipe4 c).1.inSwipeRight
    inSwipeUp     := (g.swipe4 c).1.inSwipeUp
    inSwipeDown   := (g.swipe4 c).1.inSwipeDown
    inSwipe4Left  := (g.swipe4 c).1.inSwipe4Left
    inSwipe4Right := (g.swipe4 c).1.inSwipe4Right
    inSwipe4Up    := (g.swipe4 c).1.inSwipe4Up
    inSwipe4Down  := (g.swipe4 c).1.inSwipe4Down
    xmoved        := (g.swipe4 c).1.xmoved
    ymoved        := (g.swipe4 c).1.ymoved } := by
  simp only [swipe4]
  split_ifs <;> rfl

end Gestures

namespace Locals

variable {c : Settings} {t : Touch} {f : Locals}

section Filters

theorem changeFingers_frame : f.changeFingers c t = { f with
    g := { f.g with
      ignoredeltas := (f.changeFingers c t).g.ignoredeltas
      xUndo        := (f.changeFingers c t).g.xUndo
      yUndo        := (f.changeFingers c t).g.yUndo
      xAvg         := (f.changeFingers c t).g.xAvg
      yAvg         := (f.changeFingers c t).g.yAvg } } := by
  simp only [changeFingers]
  split_ifs <;> rfl

theorem unsmooth_frame : f.unsmooth c = { f with
    g := { f.g with
      xUndo := (f.unsmooth c).g.xUndo
      yUndo := (f.unsmooth c).g.yUndo }
    x := (f.unsmooth c).x
    y := (f.unsmooth c).y } := by
  simp only [unsmooth]
  split_ifs <;> rfl

theorem smooth_frame : f.smooth c = { f with
    g := { f.g with
      xAvg := (f.smooth c).g.xAvg
      yAvg := (f.smooth c).g.yAvg }
    x := (f.smooth c).x
    y := (f.smooth c).y } := by
  simp only [smooth]
  split_ifs <;> rfl

theorem ignoreDeltas_frame : f.ignoreDeltas = { f with
    g := { f.g with
      lastx        := f.ignoreDeltas.g.lastx
      lasty        := f.ignoreDeltas.g.lasty
      ignoredeltas := f.ignoreDeltas.g.ignoredeltas
      xUndo        := f.ignoreDeltas.g.xUndo
      yUndo        := f.ignoreDeltas.g.yUndo
      xAvg         := f.ignoreDeltas.g.xAvg
      yAvg         := f.ignoreDeltas.g.yAvg } } := by
  simp only [ignoreDeltas]
  split_ifs <;> rfl

-- What the filters may change is taken from another state.
def withFilters (f f' : Locals) : Locals :=
  { f with
    g := { f.g with
      lastx        := f'.g.lastx
      lasty        := f'.g.lasty
      ignoredeltas := f'.g.ignoredeltas
      xUndo        := f'.g.xUndo
      yUndo        := f'.g.yUndo
      xAvg         := f'.g.xAvg
      yAvg         := f'.g.yAvg }
    x := f'.x
    y := f'.y }

theorem filterPosition_frame : f.filterPosition c t = f.withFilters (f.filterPosition c t) :=
  let f' := f.filterPosition c t
  calc
    _ = f'.withFilters f'                                       := rfl
    _ = (((f.changeFingers c t).unsmooth c).smooth c).withFilters f' :=
      (congrArg (withFilters · f') ignoreDeltas_frame :)
    _ = ((f.changeFingers c t).unsmooth c).withFilters f'       := (congrArg (withFilters · f') smooth_frame :)
    _ = (f.changeFingers c t).withFilters f'                    := (congrArg (withFilters · f') unsmooth_frame :)
    _ = f.withFilters f'                                        :=
      (congrArg (withFilters · f') changeFingers_frame :)

end Filters

section Touches

theorem startMomentum_frame : f.startMomentum c = { f with
    g := { f.g with
      momentumscrollinterval := (f.startMomentum c).g.momentumscrollinterval
      momentumscrollsum      := (f.startMomentum c).g.momentumscrollsum
      momentumscrollcurrent  := (f.startMomentum c).g.momentumscrollcurrent
      momentumscrollrest1    := (f.startMomentum c).g.momentumscrollrest1
      momentumscrollrest2    := (f.startMomentum c).g.momentumscrollrest2
      scrollTimerSet         := (f.startMomentum c).g.scrollTimerSet } } := by
  simp only [startMomentum, momentum]
  split_ifs <;> rfl

theorem tap_frame : f.tap c = { f with
    g := { f.g with
      touchmode := (f.tap c).g.touchmode }
    buttons := (f.tap c).buttons
    events  := (f.tap c).events } := by
  simp only [tap]
  split
  case h_1 => split_ifs <;> rfl
  all_goals rfl

theorem endTouch_frame : f.endTouch c = { f with
    g := { f.g with
      touchmode    := (f.endTouch c).g.touchmode
      dragTimerSet := (f.endTouch c).g.dragTimerSet
      draglocktemp := (f.endTouch c).g.draglocktemp } } := by
  simp only [endTouch]
  split_ifs <;> rfl

theorem cancelPreDrag_frame : f.cancelPreDrag c t = { f with
    g := { f.g with
      touchmode := (f.cancelPreDrag c t).g.touchmode } } := by
  simp only [cancelPreDrag]
  split_ifs <;> rfl

theorem cancelTap_frame : f.cancelTap c t = { f with
    g := { f.g with
      touchtime := (f.cancelTap c t).g.touchtime } } := by
  simp only [cancelTap]
  split_ifs <;> rfl

-- What all of the parts leave unchanged, the lift of a finger does.
theorem liftFinger_keeps {α : Type} {φ : Locals → α}
    (hs : ∀ f, φ ((f.clearTouch t).startMomentum c).resetHistory = φ f) (ht : ∀ f, φ (f.tap c) = φ f)
    (he : ∀ f, φ (f.endTouch c) = φ f)
    (hw : ∀ f, φ { f with g := { f.g with wasdouble := false, wastriple := false } } = φ f) :
    φ (f.liftFinger c t) = φ f := by
  simp only [liftFinger]
  split
  case isFalse => rfl
  case isTrue  =>
    rw [hw]
    split
    case isTrue  => rw [ht, hs]
    case isFalse => rw [he, hs]

end Touches

section Moves

theorem move_frame : f.move c t = { f with
    g := { f.g with
      xrest        := (f.move c t).g.xrest
      yrest        := (f.move c t).g.yrest
      wasScroll    := (f.move c t).g.wasScroll
      ignoredeltas := (f.move c t).g.ignoredeltas }
    dx := (f.move c t).dx
    dy := (f.move c t).dy } := by
  simp only [move]
  split_ifs <;> rfl

theorem releaseSecond_frame : f.releaseSecond c = { f with
    g := { f.g with
      scrollDebounceTimerSet := (f.releaseSecond c).g.scrollDebounceTimerSet
      scrolldebounce         := (f.releaseSecond c).g.scrolldebounce
      wasScroll              := (f.releaseSecond c).g.wasScroll
      dyHistory              := (f.releaseSecond c).g.dyHistory
      timeHistory            := (f.releaseSecond c).g.timeHistory
      touchmode              := (f.releaseSecond c).g.touchmode
      ignoresingle           := (f.releaseSecond c).g.ignoresingle } } := by
  simp only [releaseSecond]
  split_ifs <;> rfl

theorem scrollHistory_frame {dy : Int} : f.scrollHistory t dy = { f.g with
    dyHistory   := (f.scrollHistory t dy).dyHistory
    timeHistory := (f.scrollHistory t dy).timeHistory } := by
  simp only [scrollHistory]
  split_ifs <;> rfl

theorem scrollBy_frame {whdivisor dx dy : Int} : f.scrollBy c t whdivisor dx dy = { f with
    g := { f.g with
      dyHistory    := (f.scrollBy c t whdivisor dx dy).g.dyHistory
      timeHistory  := (f.scrollBy c t whdivisor dx dy).g.timeHistory
      xrest        := (f.scrollBy c t whdivisor dx dy).g.xrest
      yrest        := (f.scrollBy c t whdivisor dx dy).g.yrest
      ignoresingle := (f.scrollBy c t whdivisor dx dy).g.ignoresingle }
    events := (f.scrollBy c t whdivisor dx dy).events } := by
  simp only [scrollBy]
  generalize hg : f.scrollHistory t dy = g
  rw [scrollHistory_frame] at hg
  subst hg
  split <;> rfl

theorem scroll_frame : f.scroll c t = { f with
    g := { f.g with
      dyHistory    := (f.scroll c t).g.dyHistory
      timeHistory  := (f.scroll c t).g.timeHistory
      xrest        := (f.scroll c t).g.xrest
      yrest        := (f.scroll c t).g.yrest
      ignoresingle := (f.scroll c t).g.ignoresingle }
    events := (f.scroll c t).events } := by
  simp only [scroll]
  split
  case isTrue  => rfl
  case isFalse => exact scrollBy_frame

theorem swipe_frame : f.swipe c = { f with
    g := { f.g with
      inSwipeLeft   := (f.swipe c).g.inSwipeLeft
      inSwipeRight  := (f.swipe c).g.inSwipeRight
      inSwipeUp     := (f.swipe c).g.inSwipeUp
      inSwipeDown   := (f.swipe c).g.inSwipeDown
      inSwipe4Left  := (f.swipe c).g.inSwipe4Left
      inSwipe4Right := (f.swipe c).g.inSwipe4Right
      inSwipe4Up    := (f.swipe c).g.inSwipe4Up
      inSwipe4Down  := (f.swipe c).g.inSwipe4Down
      xmoved        := (f.swipe c).g.xmoved
      ymoved        := (f.swipe c).g.ymoved }
    events := (f.swipe c).events } := by
  simp only [swipe]
  split
  case isFalse => rfl
  case isTrue  =>
    exact congrArg (fun g : Gestures => { f with g := g, events := f.events ++ (f.addMovement.swipe c).2 })
      (@Gestures.swipe_frame c f.addMovement)

theorem swipe4_frame : f.swipe4 c = { f with
    g := { f.g with
      inSwipeLeft   := (f.swipe4 c).g.inSwipeLeft
      inSwipeRight  := (f.swipe4 c).g.inSwipeRight
      inSwipeUp     := (f.swipe4 c).g.inSwipeUp
      inSwipeDown   := (f.swipe4 c).g.inSwipeDown
      inSwipe4Left  := (f.swipe4 c).g.inSwipe4Left
      inSwipe4Right := (f.swipe4 c).g.inSwipe4Right
      inSwipe4Up    := (f.swipe4 c).g.inSwipe4Up
      inSwipe4Down  := (f.swipe4 c).g.inSwipe4Down
      xmoved        := (f.swipe4 c).g.xmoved
      ymoved        := (f.swipe4 c).g.ymoved }
    events := (f.swipe4 c).events } := by
  exact congrArg (fun g : Gestures => { f with g := g, events := f.events ++ (f.addMovement.swipe4 c).2 })
    (@Gestures.swipe4_frame c f.addMovement)

theorem holdDrag_frame : f.holdDrag c t = { f with
    buttons := (f.holdDrag c t).buttons } := by
  simp only [holdDrag]
  split_ifs <;> rfl

theorem holdPreDrag_frame : f.holdPreDrag c t = { f with
    buttons := (f.holdPreDrag c t).buttons } := by
  simp only [holdPreDrag]
  split_ifs <;> rfl

end Moves

section Modes

theorem captureTap_frame : f.captureTap c t = { f with
    g := { f.g with
      touchtime              := (f.captureTap c t).g.touchtime
      touchx                 := (f.captureTap c t).g.touchx
      touchy                 := (f.captureTap c t).g.touchy
      wasdouble              := (f.captureTap c t).g.wasdouble
      wastriple              := (f.captureTap c t).g.wastriple
      momentumscrollcurrent  := (f.captureTap c t).g.momentumscrollcurrent
      scrollDebounceTimerSet := (f.captureTap c t).g.scrollDebounceTimerSet
      scrolldebounce         := (f.captureTap c t).g.scrolldebounce } } := by
  simp only [captureTap]
  split_ifs <;> rfl

theorem switchModes_frame : f.switchModes c t = { f with
    g := { f.g with
      touchmode    := (f.switchModes c t).g.touchmode
      draglocktemp := (f.switchModes c t).g.draglocktemp
      dragTimerSet := (f.switchModes c t).g.dragTimerSet } } := by
  simp only [switchModes, startDrag, resumeDrag, startMulti, startMove]
  split_ifs <;> rfl

end Modes

end Locals

-- An input is a packet of a touch, or it is not.
theorem Input.packet_cases {P : Input → Prop} (call : ∀ e now, P (.call (.dispatchEventsWithInfo e) now))
    (other : ∀ i, (∀ e now, i ≠ .call (.dispatchEventsWithInfo e) now) → P i) (i : Input) : P i := by
  by_cases hi : ∃ e now, i = .call (.dispatchEventsWithInfo e) now
  case neg => exact other i fun e now he => hi ⟨e, now, he⟩
  case pos =>
    have ⟨e, now, hi⟩ := hi
    exact hi ▸ call e now

theorem Gestures.step_frame {c : Settings} {dev : AlpsDevice} {g : Gestures} {i : Input}
    {r : Gestures × List HidEvent} (hr : g.step c dev i = some r)
    (hi : ∀ e now, i ≠ .call (.dispatchEventsWithInfo e) now) : r.1 = { g with
    middle                 := r.1.middle
    lastbuttons            := r.1.lastbuttons
    passbuttons            := r.1.passbuttons
    keytime                := r.1.keytime
    ignoreall              := r.1.ignoreall
    modifierdown           := r.1.modifierdown
    mousecount             := r.1.mousecount
    touchmode              := r.1.touchmode
    scrolldebounce         := r.1.scrolldebounce
    momentumscrollcurrent  := r.1.momentumscrollcurrent
    momentumscrollrest1    := r.1.momentumscrollrest1
    momentumscrollrest2    := r.1.momentumscrollrest2
    dragTimerSet           := r.1.dragTimerSet
    scrollTimerSet         := r.1.scrollTimerSet
    scrollDebounceTimerSet := r.1.scrollDebounceTimerSet } := by
  cases i
  case call call now =>
    cases call
    case dispatchEventsWithInfo e => exact absurd rfl (hi e now)
    case divideByZero             => cases hr
    all_goals cases hr; rfl
  case scrollTimer =>
    simp only [step, onScrollTimer] at hr
    split_ifs at hr <;> cases hr <;> rfl
  all_goals simp only [step, Option.some_inj] at hr; subst hr
  case dragTimer          => simp only [onDragTimer]; split_ifs <;> rfl
  case setMouseCount      => simp only [setMouseCount]; split_ifs <;> rfl
  case setDisableTouchpad => simp only [setDisableTouchpad]; split_ifs <;> rfl
  case notifyKeyPressed   =>
    simp only [notifyKeyPressed]
    split
    case h_1 => split_ifs <;> rfl
    case h_2 => rfl
  case scrollDebounceTimer => split_ifs <;> rfl
  case buttonTimer         => split_ifs <;> rfl
  all_goals rfl

end Touchpad
