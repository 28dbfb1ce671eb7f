import Mathlib.Data.List.Induction
import VoodooPS2.Touchpad.Theorems.Still

namespace Touchpad

namespace HidEvent

-- The movement of the pointer that an event reports.
def dx : HidEvent → Int
  | relativePointer dx _ _ => dx
  | _                      => 0

def dy : HidEvent → Int
  | relativePointer _ dy _ => dy
  | _                      => 0

variable {ev : HidEvent}

theorem Still.dx_eq (h : ev.Still) : ev.dx = 0 := by
  cases ev
  case relativePointer => exact h.left
  all_goals rfl

theorem Still.dy_eq (h : ev.Still) : ev.dy = 0 := by
  cases ev
  case relativePointer => exact h.right
  all_goals rfl

end HidEvent

def movedX (events : List HidEvent) : Int :=
  (events.map HidEvent.dx).sum

def movedY (events : List HidEvent) : Int :=
  (events.map HidEvent.dy).sum

section Moved

variable {events events₁ events₂ : List HidEvent}

@[simp]
theorem movedX_append : movedX (events₁ ++ events₂) = movedX events₁ + movedX events₂ := by
  simp [movedX]

@[simp]
theorem movedY_append : movedY (events₁ ++ events₂) = movedY events₁ + movedY events₂ := by
  simp [movedY]

theorem movedX_still (h : ∀ ev ∈ events, ev.Still) : movedX events = 0 := by
  induction events
  case nil                => rfl
  case cons ev events hi =>
    have ⟨hs, ht⟩ := List.forall_mem_cons.mp h
    simpa [movedX, hs.dx_eq] using hi ht

theorem movedY_still (h : ∀ ev ∈ events, ev.Still) : movedY events = 0 := by
  induction events
  case nil                => rfl
  case cons ev events hi =>
    have ⟨hs, ht⟩ := List.forall_mem_cons.mp h
    simpa [movedY, hs.dy_eq] using hi ht

end Moved

-- The position that was saved by a call, and what was left of the movement.
def Gestures.last (g : Gestures) : Int × Int :=
  (g.lastx, g.lasty)

def Gestures.rests (g : Gestures) : Int × Int :=
  (g.xrest, g.yrest)

namespace Locals

variable {c : Settings} {t : Touch} {f : Locals} {buttonsraw : UInt32}

def position (f : Locals) : Int × Int :=
  (f.x, f.y)

-- The variables of a call when the filters have been applied.
def receive (c : Settings) (t : Touch) (f : Locals) (buttonsraw : UInt32) : Locals :=
  (f.pressButtons c t buttonsraw).filterPosition c t

section Receive

theorem receive_still (h : f.Still) : (f.receive c t buttonsraw).Still :=
  (pressButtons_still h).of_motion filterPosition_motion

theorem receive_lastFingers : (f.receive c t buttonsraw).g.lastFingers = f.g.lastFingers :=
  filterPosition_lastFingers

theorem receive_rests : (f.receive c t buttonsraw).g.rests = f.g.rests :=
  (congrArg (·.g.rests) filterPosition_frame :)

theorem changeFingers_last : (f.changeFingers c t).g.last = f.g.last :=
  (congrArg (·.g.last) changeFingers_frame :)

theorem smooth_unsmooth_last : ((f.unsmooth c).smooth c).g.last = f.g.last :=
  (congrArg (·.g.last) smooth_frame :).trans (congrArg (·.g.last) unsmooth_frame :)

theorem smooth_unsmooth_ignoredeltas :
    ((f.unsmooth c).smooth c).g.ignoredeltas = f.g.ignoredeltas :=
  (congrArg (·.g.ignoredeltas) smooth_frame :).trans (congrArg (·.g.ignoredeltas) unsmooth_frame :)

-- The position is saved early if deltas are ignored, and otherwise not yet.
theorem ignoreDeltas_last : f.ignoreDeltas.g.last =
    if f.g.ignoredeltas = 0 then f.g.last else f.ignoreDeltas.position := by
  simp only [ignoreDeltas]
  split
  case isTrue  => rfl
  case isFalse => split_ifs <;> rfl

theorem changeFingers_ignoredeltas : (f.changeFingers c t).g.ignoredeltas =
    if f.g.lastFingers > 0 ∧ t.fingers > 0 ∧ f.g.lastFingers ≠ t.fingers then c.ignoredeltasstart
    else f.g.ignoredeltas := by
  simp only [changeFingers]
  split_ifs <;> rfl

theorem pressButtons_changeFingers_ignoredeltas :
    ((f.pressButtons c t buttonsraw).changeFingers c t).g.ignoredeltas =
      (f.changeFingers c t).g.ignoredeltas := by
  rw [changeFingers_ignoredeltas, changeFingers_ignoredeltas]
  rfl

theorem receive_last : (f.receive c t buttonsraw).g.last =
    if (f.changeFingers c t).g.ignoredeltas = 0 then f.g.last
    else (f.receive c t buttonsraw).position := by
  rw [receive, filterPosition, ignoreDeltas_last, smooth_unsmooth_last, smooth_unsmooth_ignoredeltas,
    changeFingers_last, pressButtons_changeFingers_ignoredeltas]
  rfl

end Receive

-- What the branch asks for to move the pointer, in the variables that it finds.
structure Steady (c : Settings) (t : Touch) (f : Locals) : Prop where
  lastFingers : f.g.lastFingers = t.fingers
  z           : t.z ≤ c.zlimit
  touchtime   : t.now - f.g.touchtime > 100000000
  wasScroll   : f.g.wasScroll = false

-- The branch that moves the pointer is the one of three modes.
structure Moves (c : Settings) (t : Touch) (f : Locals) : Prop extends Steady c t f where
  touchmode : f.g.touchmode = .move ∨ f.g.touchmode = .drag ∨ f.g.touchmode = .dragLock

-- The movement with what was left of the last one.
def deltaX (f : Locals) : Int :=
  f.x - f.g.lastx + f.g.xrest

def deltaY (f : Locals) : Int :=
  f.g.lasty - f.y + f.g.yrest

def Bogus (c : Settings) (f : Locals) : Prop :=
  f.deltaX.natAbs > c.bogusdxthresh ∨ f.deltaY.natAbs > c.bogusdythresh
  deriving Decidable

section Moves

theorem move_eq (h : f.Steady c t) (hb : ¬f.Bogus c) : f.move c t = { f with
    dx := f.deltaX
    dy := f.deltaY
    g  := { f.g with xrest := f.deltaX.tmod c.divisorx, yrest := f.deltaY.tmod c.divisory } } := by
  simp only [move]
  rw [if_pos ⟨h.lastFingers, h.z, h.touchtime⟩, if_neg (by simp [h.wasScroll])]
  exact if_neg hb

-- A mode of a touch is not one of a touch that has just been lifted.
theorem beforeMoves_of_isTouch (h : (f.beforeMoves c t).g.touchmode.isTouch) :
    f.beforeMoves c t = f.cancelTap c t := by
  rw [beforeMoves, Gestures.touchmode_of_touchState cancelTap_touchState] at h
  have hl : f.liftFinger c t = f := by
    refine if_neg fun hl => ?_
    have hr := (@cancelPreDrag_resting c t _ (liftFinger_of_isTouch hl.left hl.right).left).left
    simp [hr.not_isTouch] at h
  rw [hl] at h
  have hp : f.cancelPreDrag c t = f := by
    refine if_neg fun hp => ?_
    simp [cancelPreDrag, hp, TouchMode.isTouch, TouchMode.value] at h
  rw [beforeMoves, hl, hp]

theorem beforeMoves_isTouch_of_moves (h : f.Moves c t) : f.g.touchmode.isTouch := by
  rcases h.touchmode with hm | hm | hm <;> rw [hm] <;> rfl

theorem moveByMode_of_moves (h : f.Moves c t) (hb : ¬f.Bogus c) : f.moveByMode c t = { f with
    buttons := (f.moveByMode c t).buttons
    dx      := f.deltaX
    dy      := f.deltaY
    g       := { f.g with
      xrest := f.deltaX.tmod c.divisorx
      yrest := f.deltaY.tmod c.divisory } } := by
  have hd : (f.holdDrag c t).Steady c t := by
    rw [holdDrag_frame]
    exact ⟨h.lastFingers, h.z, h.touchtime, h.wasScroll⟩
  have hb' : ¬(f.holdDrag c t).Bogus c := by
    rw [holdDrag_frame]
    exact hb
  have hm : f.moveByMode c t = f.move c t ∨ f.moveByMode c t = (f.holdDrag c t).move c t := by
    rcases h.touchmode with hm | hm | hm <;> simp [moveByMode, hm]
  rcases hm with hm | hm
  case inl => rw [hm, move_eq h.toSteady hb]
  case inr =>
    rw [hm, move_eq hd hb', holdDrag_frame]
    rfl

end Moves

section Handle

theorem moveFingers_position : (f.moveFingers c t).position = f.position := by
  simp only [moveFingers]
  split_ifs
  · rfl
  · exact (congrArg position releaseSecond_frame :)
  · exact (congrArg position scroll_frame :)
  · exact (congrArg position swipe_frame :)
  · exact (congrArg position swipe4_frame :)
  · rfl

theorem move_position : (f.move c t).position = f.position :=
  (congrArg position move_frame :)

theorem holdDrag_position : (f.holdDrag c t).position = f.position :=
  (congrArg position holdDrag_frame :)

theorem holdPreDrag_position : (f.holdPreDrag c t).position = f.position :=
  (congrArg position holdPreDrag_frame :)

theorem moveByMode_position : (f.moveByMode c t).position = f.position := by
  simp only [moveByMode]
  split
  case h_1 => exact move_position.trans holdDrag_position
  case h_2 => exact move_position.trans holdDrag_position
  case h_3 => exact move_position
  case h_4 => exact moveFingers_position
  case h_5 => exact holdPreDrag_position
  case h_6 => exact holdPreDrag_position
  case h_7 => rfl

theorem liftFinger_position : (f.liftFinger c t).position = f.position :=
  liftFinger_keeps (fun _ => (congrArg position startMomentum_frame :))
    (fun _ => (congrArg position tap_frame :)) (fun _ => (congrArg position endTouch_frame :)) (fun _ => rfl)

theorem beforeMoves_position : (f.beforeMoves c t).position = f.position :=
  calc
    _ = ((f.liftFinger c t).cancelPreDrag c t).position := (congrArg position cancelTap_frame :)
    _ = (f.liftFinger c t).position                     := (congrArg position cancelPreDrag_frame :)
    _ = f.position                                      := liftFinger_position

theorem switchModes_captureTap_position : ((f.captureTap c t).switchModes c t).position = f.position :=
  (congrArg position switchModes_frame :).trans (congrArg position captureTap_frame :)

-- A call that is not ignored saves its position.
theorem handle_last : (f.handle c t).g.last = f.position :=
  calc
    _ = ((((f.beforeMoves c t).moveByMode c t).captureTap c t).switchModes c t).position := rfl
    _ = ((f.beforeMoves c t).moveByMode c t).position := switchModes_captureTap_position
    _ = (f.beforeMoves c t).position                  := moveByMode_position
    _ = f.position                                    := beforeMoves_position

theorem switchModes_rests : (f.switchModes c t).g.rests = f.g.rests :=
  (congrArg (·.g.rests) switchModes_frame :)

theorem captureTap_rests : (f.captureTap c t).g.rests = f.g.rests :=
  (congrArg (·.g.rests) captureTap_frame :)

theorem handle_rests : (f.handle c t).g.rests = ((f.beforeMoves c t).moveByMode c t).g.rests :=
  switchModes_rests.trans captureTap_rests

-- What the branch dispatches, and what it leaves for the next call.
structure Carries (c : Settings) (f f' : Locals) : Prop where
  last   : f'.g.last = f.position
  rests  : f'.g.rests = (f.deltaX.tmod c.divisorx, f.deltaY.tmod c.divisory)
  events : ∃ b, f'.events =
    f.events ++ [.relativePointer (f.deltaX.tdiv c.divisorx) (f.deltaY.tdiv c.divisory) b]

-- The quotient is dispatched, and the remainder is kept.
theorem Carries.x {f' : Locals} (h : f.Carries c f') (hs : ∀ ev ∈ f.events, ev.Still) :
    c.divisorx * movedX f'.events + f'.g.xrest = f'.g.lastx - f.g.lastx + f.g.xrest := by
  have ⟨b, he⟩ := h.events
  have hm : movedX f'.events = f.deltaX.tdiv c.divisorx := by
    rw [he, movedX_append, movedX_still hs]
    simp [movedX, HidEvent.dx]
  have hr : f'.g.xrest = f.deltaX.tmod c.divisorx := congrArg (·.1) h.rests
  have hl : f'.g.lastx = f.x := congrArg (·.1) h.last
  rw [hm, hr, hl, Int.mul_tdiv_add_tmod]
  rfl

theorem Carries.y {f' : Locals} (h : f.Carries c f') (hs : ∀ ev ∈ f.events, ev.Still) :
    c.divisory * movedY f'.events + f'.g.yrest = f.g.lasty - f'.g.lasty + f.g.yrest := by
  have ⟨b, he⟩ := h.events
  have hm : movedY f'.events = f.deltaY.tdiv c.divisory := by
    rw [he, movedY_append, movedY_still hs]
    simp [movedY, HidEvent.dy]
  have hr : f'.g.yrest = f.deltaY.tmod c.divisory := congrArg (·.2) h.rests
  have hl : f'.g.lasty = f.y := congrArg (·.2) h.last
  rw [hm, hr, hl, Int.mul_tdiv_add_tmod]
  rfl

theorem Carries.bounds {f' : Locals} (h : f.Carries c f') :
    f'.g.xrest.natAbs < c.divisorx.natAbs ∧ f'.g.yrest.natAbs < c.divisory.natAbs := by
  have hx : f'.g.xrest = f.deltaX.tmod c.divisorx := congrArg (·.1) h.rests
  have hy : f'.g.yrest = f.deltaY.tmod c.divisory := congrArg (·.2) h.rests
  rw [hx, hy, Int.natAbs_tmod, Int.natAbs_tmod]
  exact ⟨Nat.mod_lt _ (Int.natAbs_pos.mpr c.divisorx_ne_zero),
    Nat.mod_lt _ (Int.natAbs_pos.mpr c.divisory_ne_zero)⟩

theorem handle_of_moves (h : (f.beforeMoves c t).Moves c t) (hb : ¬(f.beforeMoves c t).Bogus c) :
    f.Carries c (f.handle c t) := by
  have hc : f.beforeMoves c t = f.cancelTap c t :=
    beforeMoves_of_isTouch (beforeMoves_isTouch_of_moves h)
  have hm := moveByMode_of_moves h hb
  have hx : (f.cancelTap c t).deltaX = f.deltaX := (congrArg deltaX cancelTap_frame :)
  have hy : (f.cancelTap c t).deltaY = f.deltaY := (congrArg deltaY cancelTap_frame :)
  have he : (f.cancelTap c t).events = f.events := (congrArg events cancelTap_frame :)
  constructor
  case last   => exact handle_last
  case rests  =>
    rw [handle_rests, hm, ← hx, ← hy, ← hc]
    rfl
  case events =>
    refine ⟨((f.beforeMoves c t).moveByMode c t).buttons, ?_⟩
    rw [handle_events, hm, ← hx, ← hy, ← he, ← hc]
    rfl

-- An early return, which leaves the position to the next call, unless it was saved because deltas are
-- ignored.
def Ignored (c : Settings) (t : Touch) (f : Locals) : Prop :=
  f.outsideZone c t ∨ f.g.ignoreall
  deriving Decidable

-- A call that takes the branch.
structure Glides (c : Settings) (t : Touch) (f : Locals) : Prop where
  handled : ¬f.Ignored c t
  moves   : (f.beforeMoves c t).Moves c t
  bogus   : ¬(f.beforeMoves c t).Bogus c

end Handle

end Locals

namespace Gestures

variable {c : Settings} {dev : AlpsDevice} {g g' : Gestures} {e : EventInfo} {now : UInt64} {i : Input}
variable {is : List Input} {f : Locals} {events : List HidEvent}

-- The variables of a call when the filters have been applied, if there is no division by zero.
def received (c : Settings) (dev : AlpsDevice) (g : Gestures) (e : EventInfo) (now : UInt64) : Option Locals :=
  (scale c dev e.x e.y).map fun (x, y) =>
    Locals.receive c (e.touch c now) ⟨g, x, y, e.buttons, 0, 0, []⟩ e.buttons

theorem dispatchEventsWithInfo_received : dispatchEventsWithInfo c dev g e now =
    (g.received c dev e now).map fun f =>
      let f' := if f.Ignored c (e.touch c now) then f else f.handle c (e.touch c now)
      (f'.g, f'.events) := by
  simp only [dispatchEventsWithInfo, received, Option.map_map]
  rfl

theorem dispatchEventsWithInfo_of_handled (h : g.received c dev e now = some f)
    (hn : ¬f.Ignored c (e.touch c now)) : dispatchEventsWithInfo c dev g e now =
      some ((f.handle c (e.touch c now)).g, (f.handle c (e.touch c now)).events) := by
  rw [dispatchEventsWithInfo_received, h, Option.map_some, if_neg hn]

-- The deltas that are ignored from this packet on.
def ignoring (c : Settings) (t : Touch) (g : Gestures) : Int :=
  if g.lastFingers > 0 ∧ t.fingers > 0 ∧ g.lastFingers ≠ t.fingers then c.ignoredeltasstart
  else g.ignoredeltas

theorem ignoring_of_same {t : Touch} (h : g.lastFingers = t.fingers) : g.ignoring c t = g.ignoredeltas :=
  if_neg fun hc => hc.right.right h

structure Received (c : Settings) (g : Gestures) (t : Touch) (f : Locals) : Prop where
  events      : ∀ ev ∈ f.events, ev.Still
  delta       : f.dx = 0 ∧ f.dy = 0
  rests       : f.g.rests = g.rests
  lastFingers : f.g.lastFingers = g.lastFingers
  last        : f.g.last = if g.ignoring c t = 0 then g.last else f.position

theorem changeFingers_ignoredeltas {t : Touch} (h : f.g = g) :
    (f.changeFingers c t).g.ignoredeltas = g.ignoring c t := by
  subst h
  simp only [Locals.changeFingers, ignoring]
  split_ifs <;> rfl

theorem received_some (h : g.received c dev e now = some f) : g.Received c (e.touch c now) f := by
  have ⟨⟨x, y⟩, _, hf⟩ := Option.map_eq_some_iff.mp h
  subst hf
  have hs : Locals.Still ⟨g, x, y, e.buttons, 0, 0, []⟩ := ⟨rfl, rfl, List.forall_mem_nil _⟩
  have hr := @Locals.receive_still c (e.touch c now) _ e.buttons hs
  constructor
  case events      => exact hr.events
  case delta       => exact ⟨hr.dx, hr.dy⟩
  case rests       => exact Locals.receive_rests
  case lastFingers => exact Locals.receive_lastFingers
  case last        =>
    rw [← @changeFingers_ignoredeltas c g ⟨g, x, y, e.buttons, 0, 0, []⟩ (e.touch c now) rfl]
    exact Locals.receive_last

-- A call that moves the pointer by the movement since the last one.
def Glides (c : Settings) (dev : AlpsDevice) (g : Gestures) (i : Input) : Prop :=
  ∃ e now f, i = .call (.dispatchEventsWithInfo e) now ∧ g.received c dev e now = some f ∧
    f.Glides c (e.touch c now) ∧ g.ignoredeltas = 0

-- The pointer has moved by the change of the position, up to what is left for the next call.
structure Conserves (c : Settings) (g g' : Gestures) (events : List HidEvent) : Prop where
  x : c.divisorx * movedX events + g'.xrest = g'.lastx - g.lastx + g.xrest
  y : c.divisory * movedY events + g'.yrest = g.lasty - g'.lasty + g.yrest

structure Bounded (c : Settings) (g : Gestures) : Prop where
  x : g.xrest.natAbs < c.divisorx.natAbs
  y : g.yrest.natAbs < c.divisory.natAbs

theorem Conserves.refl : g.Conserves c g [] where
  x := by simp [movedX]
  y := by simp [movedY]

theorem Conserves.trans {g'' : Gestures} {events' : List HidEvent} (h : g.Conserves c g' events)
    (h' : g'.Conserves c g'' events') : g.Conserves c g'' (events ++ events') where
  x := by
    have hx := h.x
    have hx' := h'.x
    rw [movedX_append, Int.mul_add]
    omega
  y := by
    have hy := h.y
    have hy' := h'.y
    rw [movedY_append, Int.mul_add]
    omega

-- One call, with the position that it has saved.
theorem Glides.step (h : g.Glides c dev i) :
    ∃ r, g.step c dev i = some r ∧ g.Conserves c r.1 r.2 ∧ r.1.Bounded c ∧
      ∀ e now, i = .call (.dispatchEventsWithInfo e) now →
        (g.received c dev e now).map Locals.position = some r.1.last := by
  have ⟨e, now, f, hi, hf, hg, h₀⟩ := h
  subst hi
  have hr := received_some hf
  have hc := Locals.handle_of_moves hg.moves hg.bogus
  have hs : f.g.lastFingers = (e.touch c now).fingers :=
    Locals.beforeMoves_lastFingers.symm.trans hg.moves.lastFingers
  have h₀ : g.ignoring c (e.touch c now) = 0 :=
    (ignoring_of_same (hr.lastFingers.symm.trans hs)).trans h₀
  have hl : f.g.last = g.last := hr.last.trans (if_pos h₀)
  have hx : f.g.lastx = g.lastx ∧ f.g.xrest = g.xrest := ⟨congrArg (·.1) hl, congrArg (·.1) hr.rests⟩
  have hy : f.g.lasty = g.lasty ∧ f.g.yrest = g.yrest := ⟨congrArg (·.2) hl, congrArg (·.2) hr.rests⟩
  refine ⟨_, dispatchEventsWithInfo_of_handled hf hg.handled, ⟨?_, ?_⟩, ⟨?_, ?_⟩, ?_⟩
  · rw [← hx.left, ← hx.right]
    exact hc.x hr.events
  · rw [← hy.left, ← hy.right]
    exact hc.y hr.events
  · exact hc.bounds.left
  · exact hc.bounds.right
  · rintro e' now' he
    cases he
    rw [hf, Option.map_some, hc.last]

-- What a run of calls has done, the last of which has saved its position.
structure Carried (c : Settings) (dev : AlpsDevice) (g : Gestures) (is : List Input) (g' : Gestures) : Prop where
  state     : (gestures c dev).state (some g) is = some g'
  conserves : g.Conserves c g' ((gestures c dev).out (some g) is)
  last      : ∀ pre e now, is = pre ++ [.call (.dispatchEventsWithInfo e) now] →
    g'.Bounded c ∧ ∃ g'', (gestures c dev).state (some g) pre = some g'' ∧
      (g''.received c dev e now).map Locals.position = some (g'.lastx, g'.lasty)

theorem Carried.append (h : g.Carried c dev is g') (hg : g'.Glides c dev i) :
    ∃ g'', g.Carried c dev (is ++ [i]) g'' := by
  have ⟨r, hr, hc, hb, hp⟩ := hg.step
  have hs : (gestures c dev).step (some g') i = (some r.1, r.2) := Mealy.halting_step_some hr
  have ho : (gestures c dev).out (some g') [i] = r.2 := by
    rw [Mealy.out_cons, Mealy.out_nil, List.append_nil, hs]
  refine ⟨r.1, ?_, ?_, fun pre e now hpre => ?_⟩
  · rw [Mealy.state_append, h.state, Mealy.state_cons, hs, Mealy.state_nil]
  · rw [Mealy.out_append, h.state, ho]
    exact h.conserves.trans hc
  · have ⟨h₁, h₂⟩ := List.append_inj' hpre rfl
    subst h₁
    exact ⟨hb, g', h.state, hp e now (List.singleton_inj.mp h₂)⟩

theorem carried_of_glides
    (h : (gestures c dev).Along (fun s i => ∃ g ∈ s, g.Glides c dev i) (some g) is) :
    ∃ g', g.Carried c dev is g' := by
  induction is using List.reverseRecOn
  case nil => exact ⟨g, rfl, .refl, by simp⟩
  case append_singleton is i hi =>
    have ⟨ha, hs⟩ := Mealy.Along.append.mp h
    have ⟨g', hc⟩ := hi ha
    have ⟨g₁, hm, hg⟩ := hs.left
    rw [hc.state, Option.mem_some_iff] at hm
    subst hm
    exact hc.append hg

end Gestures

-- A run of such calls conserves the movement: after each of them, the pointer has moved from the position
-- that was saved before the run to the one of the call, up to a remainder.
theorem gestures_carried (c : Settings) (dev : AlpsDevice) (g : Gestures) (is : List Input)
    (h : (gestures c dev).Along (fun s i => ∃ g ∈ s, g.Glides c dev i) (some g) is) :
    ∀ pre, pre <+: is → ∃ g', g.Carried c dev pre g' := by
  rintro pre ⟨post, rfl⟩
  exact Gestures.carried_of_glides (Mealy.Along.append.mp h).left

-- The finger is moved by two packets to the left and to the right, and the remainders change their signs.
def backAndForth : List Input := [
  .call (.dispatchEventsWithInfo ⟨97, 52, 30, 1, 0⟩) 1000000000,
  .call (.dispatchEventsWithInfo ⟨104, 50, 30, 1, 0⟩) 1010000000]

theorem gestures_carried_back :
    ∃ g', Gestures.Carried { smoothinput := false } (setProtocol .v1 0 false 0)
      { touchmode := .move, lastFingers := 1, lastx := 600, lasty := 300 } backAndForth g' := by
  refine gestures_carried { smoothinput := false } (setProtocol .v1 0 false 0)
    { touchmode := .move, lastFingers := 1, lastx := 600, lasty := 300 } backAndForth ⟨?_, ?_, trivial⟩
    backAndForth List.prefix_rfl
  · exact ⟨_, rfl, _, _, _, rfl, rfl, ⟨by decide, ⟨⟨rfl, by decide, by decide, rfl⟩, .inl rfl⟩, by decide⟩, rfl⟩
  · exact ⟨_, rfl, _, _, _, rfl, rfl, ⟨by decide, ⟨⟨rfl, by decide, by decide, rfl⟩, .inl rfl⟩, by decide⟩, rfl⟩

end Touchpad
