import VoodooPS2.Touchpad.Theorems.Frames
import VoodooPS2.Touchpad.Theorems.Release

namespace Touchpad

-- A pointer event that does not move the pointer.
def HidEvent.Still : HidEvent → Prop
  | relativePointer dx dy _ => dx = 0 ∧ dy = 0
  | _                       => False

instance : DecidablePred HidEvent.Still
  | .relativePointer dx dy _ => inferInstanceAs (Decidable (dx = 0 ∧ dy = 0))
  | .scrollWheel _ _ _       => .isFalse id
  | .keyboardMessage _       => .isFalse id
  | .divideByZero            => .isFalse id

theorem middleButton_still {c : Settings} {ignoreall : Bool} {m : MiddleButton} {buttons : UInt32}
    {now : UInt64} {source : MBComingFrom} :
    ∀ ev ∈ (middleButton c ignoreall m buttons now source).events, ev.Still := by
  simp only [middleButton]
  split
  case isTrue  => simp
  case isFalse =>
    rcases @MiddleButton.nextState_events c m buttons now source with h | h <;>
      simp [h, MiddleButton.dispatchPending, HidEvent.Still]

namespace Locals

variable {c : Settings} {t : Touch} {f f' : Locals} {buttonsraw : UInt32}

-- What a call is about to dispatch, and has dispatched.
def motion (f : Locals) : Int × Int × List HidEvent :=
  (f.dx, f.dy, f.events)

-- The variables of a call when it comes to the branches of the modes.
def beforeMoves (c : Settings) (t : Touch) (f : Locals) : Locals :=
  ((f.liftFinger c t).cancelPreDrag c t).cancelTap c t

-- Nothing has moved so far.
structure Still (f : Locals) : Prop where
  dx     : f.dx = 0
  dy     : f.dy = 0
  events : ∀ ev ∈ f.events, ev.Still

theorem Still.of_motion (h : f.Still) (hm : f'.motion = f.motion) : f'.Still where
  dx     := (congrArg (·.1) hm).trans h.dx
  dy     := (congrArg (·.2.1) hm).trans h.dy
  events := (congrArg (·.2.2) hm : f'.events = f.events) ▸ h.events

theorem Still.append {events : List HidEvent} (h : f.Still) (he : ∀ ev ∈ events, ev.Still) :
    { f with events := f.events ++ events }.Still where
  dx     := h.dx
  dy     := h.dy
  events := List.forall_mem_append.mpr ⟨h.events, he⟩

section Before

theorem pressButtons_still (h : f.Still) : (f.pressButtons c t buttonsraw).Still := by
  refine ⟨h.dx, h.dy, List.forall_mem_append.mpr ⟨h.events, ?_⟩⟩
  -- the simulation runs twice, once, or not at all
  dsimp only
  split_ifs
  any_goals exact middleButton_still
  · exact List.forall_mem_append.mpr ⟨middleButton_still, middleButton_still⟩
  · exact List.forall_mem_append.mpr ⟨middleButton_still, middleButton_still⟩
  · exact List.forall_mem_nil _

theorem filterPosition_motion : (f.filterPosition c t).motion = f.motion :=
  (congrArg motion filterPosition_frame :)

theorem clearTouch_motion : (f.clearTouch t).motion = f.motion :=
  rfl

theorem resetHistory_motion : f.resetHistory.motion = f.motion :=
  rfl

theorem startMomentum_motion : (f.startMomentum c).motion = f.motion :=
  (congrArg motion startMomentum_frame :)

theorem endTouch_motion : (f.endTouch c).motion = f.motion :=
  (congrArg motion endTouch_frame :)

-- The end of a drag by a tap reports the button, and nothing else.
theorem tap_still (h : f.Still) : (f.tap c).Still := by
  simp only [tap]
  split
  case h_1 =>
    split
    case isTrue  => exact h.of_motion rfl
    case isFalse => exact (h.append (by simp [HidEvent.Still])).of_motion rfl
  case h_2 => exact h.of_motion rfl
  case h_3 => exact h.of_motion rfl

theorem liftFinger_still (h : f.Still) : (f.liftFinger c t).Still := by
  have h' : ((f.clearTouch t).startMomentum c).resetHistory.Still :=
    h.of_motion ((resetHistory_motion.trans startMomentum_motion).trans clearTouch_motion)
  simp only [liftFinger]
  split
  case isFalse => exact h
  case isTrue  =>
    split
    case isTrue  => exact (tap_still h').of_motion rfl
    case isFalse =>
      have he : (((f.clearTouch t).startMomentum c).resetHistory.endTouch c).Still :=
        h'.of_motion endTouch_motion
      exact he.of_motion rfl

theorem cancelPreDrag_motion : (f.cancelPreDrag c t).motion = f.motion :=
  (congrArg motion cancelPreDrag_frame :)

theorem cancelTap_motion : (f.cancelTap c t).motion = f.motion :=
  (congrArg motion cancelTap_frame :)

theorem beforeMoves_still (h : f.Still) : (f.beforeMoves c t).Still :=
  ((liftFinger_still h).of_motion cancelPreDrag_motion).of_motion cancelTap_motion

end Before

section Moves

theorem move_events : (f.move c t).events = f.events :=
  (congrArg events move_frame :)

theorem holdDrag_events : (f.holdDrag c t).events = f.events :=
  (congrArg events holdDrag_frame :)

theorem holdPreDrag_events : (f.holdPreDrag c t).events = f.events :=
  (congrArg events holdPreDrag_frame :)

theorem scrollBy_events {d dx dy : Int} : (f.scrollBy c t d dx dy).events = f.events ∨
    ∃ a b, (f.scrollBy c t d dx dy).events = f.events ++ [.scrollWheel a b 0] := by
  simp only [scrollBy]
  split
  case isFalse => exact .inl rfl
  case isTrue  =>
    split_ifs
    · exact .inr ⟨_, _, rfl⟩
    · exact .inl (List.append_nil _)

theorem scroll_events : (f.scroll c t).events = f.events ∨
    ∃ a b, (f.scroll c t).events = f.events ++ [.scrollWheel a b 0] := by
  simp only [scroll]
  split
  case isTrue  => exact .inl rfl
  case isFalse => exact scrollBy_events

theorem holdDrag_motion : (f.holdDrag c t).motion = f.motion :=
  (congrArg motion holdDrag_frame :)

theorem holdPreDrag_motion : (f.holdPreDrag c t).motion = f.motion :=
  (congrArg motion holdPreDrag_frame :)

theorem holdDrag_lastFingers : (f.holdDrag c t).g.lastFingers = f.g.lastFingers :=
  congrArg (·.g.lastFingers) holdDrag_frame

-- Each of the branches looks for a change of the fingers.
theorem move_of_change (h : f.g.lastFingers ≠ t.fingers) : f.move c t = f :=
  if_neg fun hm => h hm.left

theorem moveFingers_of_change (h : f.g.lastFingers ≠ t.fingers) : f.moveFingers c t = f :=
  if_pos h

theorem moveByMode_of_change (h : f.g.lastFingers ≠ t.fingers) :
    (f.moveByMode c t).motion = f.motion := by
  have hd : (f.holdDrag c t).g.lastFingers ≠ t.fingers := holdDrag_lastFingers.trans_ne h
  simp only [moveByMode]
  split
  case h_1 => rw [move_of_change hd]; exact holdDrag_motion
  case h_2 => rw [move_of_change hd]; exact holdDrag_motion
  case h_3 => rw [move_of_change h]
  case h_4 => rw [moveFingers_of_change h]
  case h_5 => exact holdPreDrag_motion
  case h_6 => exact holdPreDrag_motion
  case h_7 => rfl

-- Without a touch there is a button to hold at most.
theorem moveByMode_motion_of_not_isTouch (h : f.g.touchmode.isTouch = false) :
    (f.moveByMode c t).motion = f.motion := by
  cases hm : f.g.touchmode <;> simp only [moveByMode, hm]
  case preDrag     => exact holdPreDrag_motion
  case dragNoTouch => exact holdPreDrag_motion
  all_goals simp [hm, TouchMode.isTouch, TouchMode.value] at h

end Moves

theorem captureTap_motion : (f.captureTap c t).motion = f.motion :=
  (congrArg motion captureTap_frame :)

theorem switchModes_motion : (f.switchModes c t).motion = f.motion :=
  (congrArg motion switchModes_frame :)

theorem dispatch_still (h : f.Still) : (f.dispatch c t).Still := by
  refine Still.of_motion (h.append ?_) rfl
  simp [h.dx, h.dy, HidEvent.Still]

-- The pointer event of a call.
def pointer (c : Settings) (f : Locals) : HidEvent :=
  .relativePointer (f.dx.tdiv c.divisorx) (f.dy.tdiv c.divisory) f.buttons

theorem handle_events : (f.handle c t).events =
    ((f.beforeMoves c t).moveByMode c t).events ++ [((f.beforeMoves c t).moveByMode c t).pointer c] :=
  let φ (f : Locals) := f.events ++ [f.pointer c]
  (congrArg φ switchModes_frame :).trans (congrArg φ captureTap_frame :)

-- If the moves of a call are still, the whole of it is.
theorem handle_still (h : f.Still)
    (hm : ((f.beforeMoves c t).moveByMode c t).motion = (f.beforeMoves c t).motion) :
    (f.handle c t).Still :=
  dispatch_still <|
    (((beforeMoves_still h).of_motion hm).of_motion captureTap_motion).of_motion switchModes_motion

section Change

theorem liftFinger_lastFingers : (f.liftFinger c t).g.lastFingers = f.g.lastFingers :=
  @liftFinger_keeps c t f Int (·.g.lastFingers) (fun _ => (congrArg (·.g.lastFingers) startMomentum_frame :))
    (fun _ => (congrArg (·.g.lastFingers) tap_frame :)) (fun _ => (congrArg (·.g.lastFingers) endTouch_frame :))
    (fun _ => rfl)

theorem filterPosition_lastFingers : (f.filterPosition c t).g.lastFingers = f.g.lastFingers :=
  (congrArg (·.g.lastFingers) filterPosition_frame :)

theorem beforeMoves_lastFingers : (f.beforeMoves c t).g.lastFingers = f.g.lastFingers :=
  calc
    _ = ((f.liftFinger c t).cancelPreDrag c t).g.lastFingers :=
      (congrArg (·.g.lastFingers) cancelTap_frame :)
    _ = (f.liftFinger c t).g.lastFingers := (congrArg (·.g.lastFingers) cancelPreDrag_frame :)
    _ = f.g.lastFingers                  := liftFinger_lastFingers

theorem respond_of_change (h : f.Still) (hf : f.g.lastFingers ≠ t.fingers) :
    (f.respond c t buttonsraw).Still := by
  have hs : ((f.pressButtons c t buttonsraw).filterPosition c t).Still :=
    (pressButtons_still h).of_motion filterPosition_motion
  have hl : ((f.pressButtons c t buttonsraw).filterPosition c t).g.lastFingers = f.g.lastFingers :=
    filterPosition_lastFingers
  simp only [respond]
  split
  case isTrue  => exact hs
  case isFalse =>
    exact handle_still hs <| moveByMode_of_change <| (beforeMoves_lastFingers.trans hl).trans_ne hf

end Change

section Untouched

-- Without a finger, a touch is lifted or was none.
theorem beforeMoves_of_no_finger (hu : f.g.touchmode.Used)
    (h : t.z < c.zFinger ∨ f.g.touchmode.isTouch = false) :
    (f.beforeMoves c t).g.touchmode.Resting := by
  have hr : (f.liftFinger c t).g.touchmode.Resting := by
    cases h
    case inl hl => exact (liftFinger_resting hl hu).left
    case inr hn =>
      rw [liftFinger_of_not_isTouch hn]
      exact hu.resting hn
  rw [beforeMoves, Gestures.touchmode_of_touchState cancelTap_touchState]
  exact (cancelPreDrag_resting hr).left

theorem handle_touchmode_of_no_finger (hz : t.z ≤ c.zFinger) :
    (f.handle c t).g.touchmode = ((f.beforeMoves c t).moveByMode c t).g.touchmode := by
  have h : (f.handle c t).g.touchmode =
      ((((f.beforeMoves c t).moveByMode c t).captureTap c t).switchModes c t).g.touchmode := rfl
  rw [h, captureTap_of_no_finger hz, switchModes_of_no_finger hz]

theorem handle_untouched (hz : t.z ≤ c.zFinger) (hu : f.g.touchmode.Used) (hf : f.Still)
    (h : t.z < c.zFinger ∨ f.g.touchmode.isTouch = false) :
    (f.handle c t).g.touchmode.isTouch = false ∧ (f.handle c t).Still := by
  have hr := beforeMoves_of_no_finger hu h
  have hm : ((f.beforeMoves c t).moveByMode c t).g.touchmode = (f.beforeMoves c t).g.touchmode :=
    Gestures.touchmode_of_touchState (moveByMode_of_resting hr)
  refine ⟨?_, handle_still hf (moveByMode_motion_of_not_isTouch hr.not_isTouch)⟩
  rw [handle_touchmode_of_no_finger hz, hm]
  exact hr.not_isTouch

-- At the threshold itself there is no finger, but it has not been lifted either.
theorem beforeMoves_at_threshold (hz : t.z = c.zFinger) (h : f.g.touchmode.isTouch) :
    f.beforeMoves c t = f := by
  have hl : f.liftFinger c t = f := if_neg fun hl => hl.left.ne hz
  have hp : f.cancelPreDrag c t = f := by
    refine if_neg fun hp => ?_
    simp [hp.left, TouchMode.isTouch, TouchMode.value] at h
  have ht : f.cancelTap c t = f := if_neg fun ht => hz.not_gt ht.right.left
  rw [beforeMoves, hl, hp, ht]

theorem moveByMode_touchmode_of_no_finger (hf : t.fingers = 0) :
    (f.moveByMode c t).g.touchmode = f.g.touchmode := by
  have keep {f' : Locals} (h : f'.g.control = f.g.control) : f'.g.touchmode = f.g.touchmode :=
    Gestures.touchmode_of_touchState (Gestures.touchState_of_control h)
  simp only [moveByMode]
  split
  case h_1 => exact keep (move_control.trans holdDrag_control)
  case h_2 => exact keep (move_control.trans holdDrag_control)
  case h_3 => exact keep move_control
  case h_4 => simp [moveFingers, hf]
  case h_5 => exact keep holdPreDrag_control
  case h_6 => exact keep holdPreDrag_control
  case h_7 => rfl

theorem handle_at_threshold (hz : t.z = c.zFinger) (hf : t.fingers = 0) (h : f.g.touchmode.isTouch) :
    (f.handle c t).g.touchmode = f.g.touchmode := by
  rw [handle_touchmode_of_no_finger hz.le, beforeMoves_at_threshold hz h,
    moveByMode_touchmode_of_no_finger hf]

-- The touch is over, and nothing has moved, unless the pressure is the one of the threshold.
theorem respond_untouched_iff (hz : t.z ≤ c.zFinger) (ht : t.fingers = 0) (hi : f.g.ignoreall = false)
    (hu : f.g.touchmode.Used) (hf : f.Still) :
    (f.respond c t buttonsraw).g.touchmode.isTouch = false ∧
        (∀ ev ∈ (f.respond c t buttonsraw).events, ev.Still) ↔
      (t.z = c.zFinger → f.g.touchmode.isTouch = false) := by
  have hm : ((f.pressButtons c t buttonsraw).filterPosition c t).g.touchmode = f.g.touchmode :=
    Gestures.touchmode_of_touchState filterPosition_touchState
  have hs : ((f.pressButtons c t buttonsraw).filterPosition c t).Still :=
    (pressButtons_still hf).of_motion filterPosition_motion
  rw [respond_of_no_finger hz hi]
  constructor
  case mp =>
    intro h he
    by_contra hn
    have hn' : ((f.pressButtons c t buttonsraw).filterPosition c t).g.touchmode.isTouch := by
      simpa [hm] using hn
    rw [handle_at_threshold he ht hn', hn'] at h
    cases h.left
  case mpr =>
    intro h
    have hl : t.z < c.zFinger ∨ f.g.touchmode.isTouch = false := hz.lt_or_eq.imp id h
    rw [← hm] at hu hl
    exact (handle_untouched hz hu hs hl).imp id (·.events)

end Untouched

end Locals

section Untouched

variable {c : Settings} {dev : AlpsDevice} {g : Gestures} {e : EventInfo} {now : UInt64}

namespace Gestures

-- A packet in which the pad is not touched, by the test that sets the fingers to 0.
structure Untouched (c : Settings) (g : Gestures) (e : EventInfo) : Prop where
  z         : e.z ≤ c.zFinger
  ignoreall : g.ignoreall = false

-- Such a packet leaves no touch, and moves nothing.
def Settles (c : Settings) (dev : AlpsDevice) (g : Gestures) (i : Input) : Prop :=
  ∀ e now r, i = .call (.dispatchEventsWithInfo e) now → g.Untouched c e → g.step c dev i = some r →
    r.1.touchmode.isTouch = false ∧ ∀ ev ∈ r.2, ev.Still

-- The test for a lifted finger misses it.
structure Misses (c : Settings) (dev : AlpsDevice) (g : Gestures) (e : EventInfo) : Prop where
  untouched : g.Untouched c e
  z         : e.z = c.zFinger
  touchmode : g.touchmode.isTouch
  scaled    : (scale c dev e.x e.y).isSome

theorem Untouched.fingers (h : g.Untouched c e) : (e.touch c now).fingers = 0 :=
  if_neg h.z.not_gt

theorem dispatchEventsWithInfo_untouched_iff {r : Gestures × List HidEvent} (h : g.Untouched c e)
    (hv : g.Valid c) (hr : dispatchEventsWithInfo c dev g e now = some r) :
    r.1.touchmode.isTouch = false ∧ (∀ ev ∈ r.2, ev.Still) ↔
      (e.z = c.zFinger → g.touchmode.isTouch = false) := by
  have ⟨p, _, hp⟩ := Option.map_eq_some_iff.mp hr
  subst hp
  exact @Locals.respond_untouched_iff c (e.touch c now) ⟨g, p.1, p.2, e.buttons, 0, 0, []⟩ e.buttons
    h.z h.fingers h.ignoreall hv.used ⟨rfl, rfl, List.forall_mem_nil _⟩

theorem settles_iff {i : Input} (hv : g.Valid c) :
    g.Settles c dev i ↔ ∀ e now, i = .call (.dispatchEventsWithInfo e) now → ¬g.Misses c dev e := by
  constructor
  case mp =>
    rintro h e now rfl hm
    have hs : (dispatchEventsWithInfo c dev g e now).isSome := by
      rw [dispatchEventsWithInfo, Option.isSome_map]
      exact hm.scaled
    obtain ⟨r, hr⟩ := Option.isSome_iff_exists.mp hs
    have hn := (dispatchEventsWithInfo_untouched_iff hm.untouched hv hr).mp <|
      h e now r rfl hm.untouched hr
    exact absurd hm.touchmode (by simp [hn hm.z])
  case mpr =>
    rintro h e now r rfl hu hr
    refine (dispatchEventsWithInfo_untouched_iff hu hv hr).mpr fun hz => ?_
    by_contra hn
    obtain ⟨p, hp, _⟩ := Option.map_eq_some_iff.mp hr
    exact h e now rfl ⟨hu, hz, by simpa using hn, Option.isSome_of_mem hp⟩

end Gestures

-- A packet without a touch is treated as one, unless its pressure is the threshold itself, at which a
-- touch goes on.
theorem gestures_settles_iff (c : Settings) (dev : AlpsDevice) (is : List Input) :
    (gestures c dev).Along (fun s i => ∀ g ∈ s, g.Settles c dev i) (some {}) is ↔
      (gestures c dev).Along
        (fun s i => ∀ g ∈ s, ∀ e now, i = .call (.dispatchEventsWithInfo e) now → ¬g.Misses c dev e)
        (some {}) is :=
  (Mealy.halting_invariant fun _ _ _ => Gestures.step_valid).along_iff
    (fun s i hs => forall₂_congr fun g hg => Gestures.settles_iff (hs g hg))
    (by simpa using Gestures.valid_init)

-- The finger goes down, and the next packet has the pressure of the threshold.
theorem not_gestures_settles : ¬ ∀ (c : Settings) (dev : AlpsDevice) (is : List Input),
    (gestures c dev).Along (fun s i => ∀ g ∈ s, g.Settles c dev i) (some {}) is := by
  intro h
  have ⟨_, hs, _⟩ := h {} (setProtocol .v1 0 false 0) [.call (.dispatchEventsWithInfo ⟨500, 300, 30, 1, 0⟩) 0,
    .call (.dispatchEventsWithInfo ⟨500, 300, 5, 1, 0⟩) 200000000]
  have := hs _ rfl ⟨500, 300, 5, 1, 0⟩ 200000000 _ rfl ⟨by decide, rfl⟩ rfl
  exact absurd this.left (by decide)

end Untouched

-- A change of the fingers moves nothing, whatever the mode and the configuration.
theorem dispatchEventsWithInfo_change (c : Settings) (dev : AlpsDevice) (g : Gestures) (e : EventInfo)
    (now : UInt64) (r : Gestures × List HidEvent) (hr : dispatchEventsWithInfo c dev g e now = some r)
    (hf : (e.touch c now).fingers ≠ g.lastFingers) : ∀ ev ∈ r.2, ev.Still := by
  have ⟨p, _, hp⟩ := Option.map_eq_some_iff.mp hr
  subst hp
  have h : Locals.Still ⟨g, p.1, p.2, e.buttons, 0, 0, []⟩ := ⟨rfl, rfl, List.forall_mem_nil _⟩
  exact (Locals.respond_of_change h hf.symm).events

-- A second finger joins the first one, which is on its way.
theorem dispatchEventsWithInfo_change_drag :
    ∃ r, dispatchEventsWithInfo {} (setProtocol .v1 0 false 0)
        { touchmode := .drag, lastFingers := 1, lastx := 100, lasty := 100 } ⟨500, 300, 30, 2, 0⟩
        1000000000 = some r ∧ ∀ ev ∈ r.2, ev.Still :=
  ⟨_, rfl, dispatchEventsWithInfo_change {} (setProtocol .v1 0 false 0)
    { touchmode := .drag, lastFingers := 1, lastx := 100, lasty := 100 } ⟨500, 300, 30, 2, 0⟩ 1000000000 _
    rfl (by decide)⟩

end Touchpad
