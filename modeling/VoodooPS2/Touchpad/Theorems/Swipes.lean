import VoodooPS2.Machine.Latch
import VoodooPS2.Touchpad.Theorems.Still

namespace Touchpad

namespace Swipe

def opposite : Swipe → Swipe
  | swipeUp     => swipeDown
  | swipeDown   => swipeUp
  | swipeLeft   => swipeRight
  | swipeRight  => swipeLeft
  | swipe4Up    => swipe4Down
  | swipe4Down  => swipe4Up
  | swipe4Left  => swipe4Right
  | swipe4Right => swipe4Left

-- The same movement of four fingers.
def four : Swipe → Swipe
  | swipeUp    | swipe4Up    => swipe4Up
  | swipeDown  | swipe4Down  => swipe4Down
  | swipeLeft  | swipe4Left  => swipe4Left
  | swipeRight | swipe4Right => swipe4Right

variable {m : Swipe}

theorem opposite_opposite : m.opposite.opposite = m := by
  cases m <;> rfl

theorem four_four : m.four.four = m.four := by
  cases m <;> rfl

end Swipe

-- What the law is about: the messages, and the calls in which a touch is lifted.
inductive SwipeMark
  | message (m : Swipe)
  | lift
  deriving DecidableEq

-- A swipe is released by the opposite one, with as many or with four fingers, and by a lift.
def Swipe.ReleasedBy (m : Swipe) : SwipeMark → Prop
  | .message m' => m' = m.opposite ∨ m' = m.four.opposite
  | .lift       => True

def HidEvent.message? : HidEvent → Option Swipe
  | keyboardMessage m => some m
  | _                 => none

def messages (events : List HidEvent) : List Swipe :=
  events.filterMap HidEvent.message?

section Messages

variable {events events₁ events₂ : List HidEvent}

@[simp]
theorem messages_append : messages (events₁ ++ events₂) = messages events₁ ++ messages events₂ :=
  List.filterMap_append

@[simp]
theorem messages_divideByZero : messages [.divideByZero] = [] :=
  rfl

theorem messages_still (h : ∀ ev ∈ events, ev.Still) : messages events = [] := by
  refine List.filterMap_eq_nil_iff.mpr fun ev he => ?_
  have hs := h ev he
  cases ev
  case keyboardMessage => exact hs.elim
  all_goals rfl

end Messages

namespace Gestures

variable {c : Settings} {g g' g'' : Gestures}

-- The flags, by the messages that they are about.
def inSwipe (g : Gestures) : Swipe → Bool
  | .swipeUp     => g.inSwipeUp
  | .swipeDown   => g.inSwipeDown
  | .swipeLeft   => g.inSwipeLeft
  | .swipeRight  => g.inSwipeRight
  | .swipe4Up    => g.inSwipe4Up
  | .swipe4Down  => g.inSwipe4Down
  | .swipe4Left  => g.inSwipe4Left
  | .swipe4Right => g.inSwipe4Right

-- A swipe of three fingers is also kept back by one of four.
def Latched (g : Gestures) (m : Swipe) : Prop :=
  g.inSwipe m ∨ g.inSwipe m.four

-- A message sets its flag, and takes back the opposite one and the one of three fingers.
def Sets (g g' : Gestures) (m : Swipe) : Prop :=
  ∀ x, g'.inSwipe x = (x = m ∨ g.inSwipe x ∧ x ≠ m.opposite ∧ x.four ≠ m)

-- What the branches do to the flags, by the message that they send, if any.
inductive Swiped (g g' : Gestures) : List Swipe → Prop
  | none : g'.inSwipe = g.inSwipe → Swiped g g' []
  | one (m : Swipe) : ¬g.Latched m → g.Sets g' m → Swiped g g' [m]

-- Nothing but the flags matters.
theorem Swiped.congr {g₀ g₁ : Gestures} {ms : List Swipe} (h : g.Swiped g' ms)
    (h₀ : g.inSwipe = g₀.inSwipe) (h₁ : g₁.inSwipe = g'.inSwipe) : g₀.Swiped g₁ ms := by
  cases h
  case none hi     => exact .none (h₁.trans (hi.trans h₀))
  case one m hl hs =>
    refine .one m ?_ fun x => ?_
    · rwa [Latched, ← h₀]
    · rw [h₁, ← h₀]
      exact hs x

-- Only a message that releases a swipe opens its latch.
theorem Sets.latched {m x : Swipe} (h : g.Sets g' m)
    (hx : x = m ∨ g.Latched x ∧ ¬x.ReleasedBy (.message m)) : g'.Latched x := by
  have hm : g'.inSwipe m := (h m).mpr (.inl rfl)
  rcases hx with rfl | ⟨hl, hr⟩
  case inl => exact .inl hm
  case inr =>
    by_cases hf : x.four = m
    case pos => exact .inr (hf ▸ hm)
    case neg =>
      have ⟨h₁, h₂⟩ := not_or.mp hr
      rcases hl with hl | hl
      case inl => exact .inl <| (h x).mpr (.inr ⟨hl, fun he => h₁ (he ▸ Swipe.opposite_opposite.symm), hf⟩)
      case inr =>
        refine .inr <| (h x.four).mpr (.inr ⟨hl, fun he => h₂ (he ▸ Swipe.opposite_opposite.symm), ?_⟩)
        rwa [Swipe.four_four]

theorem not_latched {m : Swipe} (h : ¬g.inSwipe m) (hf : ¬g.inSwipe m.four) : ¬g.Latched m :=
  not_or.mpr ⟨h, hf⟩

theorem swipe_swiped : Swiped g (g.swipe c).1 (messages (g.swipe c).2) := by
  simp only [swipe]
  split_ifs with h₁ h₂ h₃ h₄
  · apply Swiped.one .swipeUp (not_latched h₁.right.left h₁.right.right.left)
    rintro (_ | _) <;> simp [inSwipe, Swipe.opposite, Swipe.four]
  · apply Swiped.one .swipeDown (not_latched h₂.right.left h₂.right.right.left)
    rintro (_ | _) <;> simp [inSwipe, Swipe.opposite, Swipe.four]
  · apply Swiped.one .swipeRight (not_latched h₃.right.left h₃.right.right.left)
    rintro (_ | _) <;> simp [inSwipe, Swipe.opposite, Swipe.four]
  · apply Swiped.one .swipeLeft (not_latched h₄.right.left h₄.right.right.left)
    rintro (_ | _) <;> simp [inSwipe, Swipe.opposite, Swipe.four]
  · exact .none rfl

theorem swipe4_swiped : Swiped g (g.swipe4 c).1 (messages (g.swipe4 c).2) := by
  simp only [swipe4]
  split_ifs with h₁ h₂ h₃ h₄
  · apply Swiped.one .swipe4Up (not_latched h₁.right h₁.right)
    rintro (_ | _) <;> simp [inSwipe, Swipe.opposite, Swipe.four]
  · apply Swiped.one .swipe4Down (not_latched h₂.right h₂.right)
    rintro (_ | _) <;> simp [inSwipe, Swipe.opposite, Swipe.four]
  · apply Swiped.one .swipe4Right (not_latched h₃.right h₃.right)
    rintro (_ | _) <;> simp [inSwipe, Swipe.opposite, Swipe.four]
  · apply Swiped.one .swipe4Left (not_latched h₄.right h₄.right)
    rintro (_ | _) <;> simp [inSwipe, Swipe.opposite, Swipe.four]
  · exact .none rfl

end Gestures

namespace Locals

variable {c : Settings} {t : Touch} {f : Locals} {buttonsraw : UInt32}

section Swiped

theorem swipe_swiped (h : messages f.events = []) :
    f.g.Swiped (f.swipe c).g (messages (f.swipe c).events) := by
  simp only [swipe]
  split
  case isTrue =>
    rw [messages_append, h, List.nil_append]
    exact Gestures.swipe_swiped.congr rfl rfl
  case isFalse =>
    rw [h]
    exact .none rfl

theorem swipe4_swiped (h : messages f.events = []) :
    f.g.Swiped (f.swipe4 c).g (messages (f.swipe4 c).events) := by
  simp only [swipe4]
  rw [messages_append, h, List.nil_append]
  exact Gestures.swipe4_swiped.congr rfl rfl

theorem scroll_messages : messages (f.scroll c t).events = messages f.events := by
  rcases @scroll_events c t f with he | ⟨a, b, he⟩ <;> rw [he]
  rw [messages_append]
  exact List.append_nil _

-- The other branches send no message.
theorem swiped_of_quiet {f' : Locals} (hi : f'.g.inSwipe = f.g.inSwipe) (hm : messages f'.events = []) :
    f.g.Swiped f'.g (messages f'.events) :=
  hm ▸ .none hi

theorem moveFingers_swiped (h : messages f.events = []) :
    f.g.Swiped (f.moveFingers c t).g (messages (f.moveFingers c t).events) := by
  have he : (f.releaseSecond c).events = f.events := (congrArg events releaseSecond_frame :)
  simp only [moveFingers]
  split_ifs
  · exact swiped_of_quiet rfl h
  · exact swiped_of_quiet (congrArg (·.g.inSwipe) releaseSecond_frame :) (he ▸ h)
  · exact swiped_of_quiet (congrArg (·.g.inSwipe) scroll_frame :) (scroll_messages.trans h)
  · exact swipe_swiped h
  · exact swipe4_swiped h
  · exact swiped_of_quiet rfl h

theorem move_inSwipe : (f.move c t).g.inSwipe = f.g.inSwipe :=
  (congrArg (·.g.inSwipe) move_frame :)

theorem holdDrag_inSwipe : (f.holdDrag c t).g.inSwipe = f.g.inSwipe :=
  (congrArg (·.g.inSwipe) holdDrag_frame :)

theorem holdPreDrag_inSwipe : (f.holdPreDrag c t).g.inSwipe = f.g.inSwipe :=
  (congrArg (·.g.inSwipe) holdPreDrag_frame :)

theorem moveByMode_swiped (h : messages f.events = []) :
    f.g.Swiped (f.moveByMode c t).g (messages (f.moveByMode c t).events) := by
  have hd : ((f.holdDrag c t).move c t).events = f.events := move_events.trans holdDrag_events
  have hp : (f.holdPreDrag c t).events = f.events := holdPreDrag_events
  have hq : ({ f with buttons := f.buttons ||| 0x1 }.holdPreDrag c t).events = f.events := holdPreDrag_events
  simp only [moveByMode]
  split
  case h_1 => exact swiped_of_quiet (move_inSwipe.trans holdDrag_inSwipe) ((congrArg messages hd).trans h)
  case h_2 => exact swiped_of_quiet (move_inSwipe.trans holdDrag_inSwipe) ((congrArg messages hd).trans h)
  case h_3 => exact swiped_of_quiet move_inSwipe ((congrArg messages move_events).trans h)
  case h_4 => exact moveFingers_swiped h
  case h_5 => exact swiped_of_quiet holdPreDrag_inSwipe ((congrArg messages hq).trans h)
  case h_6 => exact swiped_of_quiet holdPreDrag_inSwipe ((congrArg messages hp).trans h)
  case h_7 => exact swiped_of_quiet rfl h

theorem receive_inSwipe :
    ((f.pressButtons c t buttonsraw).filterPosition c t).g.inSwipe = f.g.inSwipe :=
  (congrArg (·.g.inSwipe) filterPosition_frame :)

theorem switchModes_inSwipe : (f.switchModes c t).g.inSwipe = f.g.inSwipe :=
  (congrArg (·.g.inSwipe) switchModes_frame :)

theorem captureTap_inSwipe : (f.captureTap c t).g.inSwipe = f.g.inSwipe :=
  (congrArg (·.g.inSwipe) captureTap_frame :)

theorem handle_inSwipe : (f.handle c t).g.inSwipe = ((f.beforeMoves c t).moveByMode c t).g.inSwipe :=
  switchModes_inSwipe.trans captureTap_inSwipe

theorem handle_messages :
    messages (f.handle c t).events = messages ((f.beforeMoves c t).moveByMode c t).events := by
  rw [handle_events, messages_append]
  exact List.append_nil _

-- A touch is lifted.
def Lifts (c : Settings) (t : Touch) (f : Locals) : Prop :=
  t.z < c.zFinger ∧ f.g.touchmode.isTouch
  deriving Decidable

theorem handle_lifts (hs : f.Still) (h : f.Lifts c t) : messages (f.handle c t).events = [] := by
  have hr : (f.beforeMoves c t).g.touchmode.Resting := by
    rw [beforeMoves, Gestures.touchmode_of_touchState cancelTap_touchState]
    exact (cancelPreDrag_resting (liftFinger_of_isTouch h.left h.right).left).left
  exact messages_still (handle_still hs (moveByMode_motion_of_not_isTouch hr.not_isTouch)).events

theorem handle_swiped (hs : f.Still) (h : ¬f.Lifts c t) :
    f.g.Swiped (f.handle c t).g (messages (f.handle c t).events) := by
  have hi : (f.beforeMoves c t).g.inSwipe = f.g.inSwipe := by
    have hl : f.liftFinger c t = f := if_neg h
    rw [beforeMoves, hl]
    exact (congrArg (·.g.inSwipe) cancelTap_frame :).trans (congrArg (·.g.inSwipe) cancelPreDrag_frame :)
  have hm := @moveByMode_swiped c t _ (messages_still (beforeMoves_still hs : (f.beforeMoves c t).Still).events)
  rw [handle_messages]
  exact hm.congr hi handle_inSwipe

-- A touch is lifted by a call that is not ignored.
theorem respond_marks (hs : f.Still) :
    (f.g.ignoreall = false ∧ f.Lifts c t) ∧ messages (f.respond c t buttonsraw).events = [] ∨
      ¬(f.g.ignoreall = false ∧ f.Lifts c t) ∧
        f.g.Swiped (f.respond c t buttonsraw).g (messages (f.respond c t buttonsraw).events) := by
  have hf : ((f.pressButtons c t buttonsraw).filterPosition c t).Still :=
    (pressButtons_still hs).of_motion filterPosition_motion
  have hm : ((f.pressButtons c t buttonsraw).filterPosition c t).g.touchmode = f.g.touchmode :=
    Gestures.touchmode_of_touchState filterPosition_touchState
  have hi : ((f.pressButtons c t buttonsraw).filterPosition c t).g.ignoreall = f.g.ignoreall :=
    (Gestures.ignoreall_of_buttonState filterPosition_buttonState).trans pressButtons_ignoreall
  have hl : ((f.pressButtons c t buttonsraw).filterPosition c t).Lifts c t ↔ f.Lifts c t := by
    rw [Lifts, Lifts, hm]
  simp only [respond]
  by_cases h : f.g.ignoreall = false ∧ f.Lifts c t
  case pos =>
    refine .inl ⟨h, ?_⟩
    rw [if_neg (by simp [outsideZone, hi, h.left, h.right.left.not_gt])]
    exact handle_lifts hf (hl.mpr h.right)
  case neg =>
    refine .inr ⟨h, ?_⟩
    split
    case isTrue  => exact swiped_of_quiet receive_inSwipe (messages_still hf.events)
    case isFalse hr =>
      have hn : ¬f.Lifts c t := fun hn => h ⟨by simpa [hi] using (not_or.mp hr).right, hn⟩
      exact (handle_swiped hf (hl.not.mpr hn)).congr receive_inSwipe rfl

end Swiped

end Locals

namespace Gestures

variable {c : Settings} {dev : AlpsDevice} {g : Gestures} {i : Input} {is : List Input}
variable {r : Gestures × List HidEvent}

-- The inputs that lift a touch.
def lifts (c : Settings) (g : Gestures) : Input → Bool
  | .call (.dispatchEventsWithInfo e) _ => g.ignoreall = false ∧ e.z < c.zFinger ∧ g.touchmode.isTouch
  | _                                   => false

theorem call_marks {e : EventInfo} {now : UInt64} (hr : dispatchEventsWithInfo c dev g e now = some r) :
    g.lifts c (.call (.dispatchEventsWithInfo e) now) ∧ messages r.2 = [] ∨
      ¬g.lifts c (.call (.dispatchEventsWithInfo e) now) ∧ g.Swiped r.1 (messages r.2) := by
  have ⟨p, _, hp⟩ := Option.map_eq_some_iff.mp hr
  subst hp
  simp only [lifts, decide_eq_true_eq]
  exact @Locals.respond_marks c (e.touch c now) ⟨g, p.1, p.2, e.buttons, 0, 0, []⟩ e.buttons
    ⟨rfl, rfl, List.forall_mem_nil _⟩

theorem step_messages (hr : g.step c dev i = some r)
    (hi : ∀ e now, i ≠ .call (.dispatchEventsWithInfo e) now) : messages r.2 = [] := by
  cases i
  case call call now =>
    cases call
    case dispatchEventsWithInfo e => exact absurd rfl (hi e now)
    case divideByZero             => cases hr
    all_goals cases hr; rfl
  case scrollTimer =>
    simp only [step, onScrollTimer] at hr
    split_ifs at hr <;> cases hr <;> rfl
  all_goals simp only [step, Option.some_inj] at hr; subst hr
  case dragTimer =>
    simp only [onDragTimer]
    split_ifs
    · rw [messages_append, messages_still middleButton_still]
      rfl
    all_goals rfl
  case buttonTimer =>
    split_ifs
    · exact messages_still middleButton_still
    · rfl
  all_goals rfl

theorem lifts_of_not_call (hi : ∀ e now, i ≠ .call (.dispatchEventsWithInfo e) now) : ¬g.lifts c i := by
  unfold lifts
  split
  case h_1 => exact absurd rfl (hi _ _)
  case h_2 => exact Bool.false_ne_true

theorem step_marks (hr : g.step c dev i = some r) :
    g.lifts c i ∧ messages r.2 = [] ∨ ¬g.lifts c i ∧ g.Swiped r.1 (messages r.2) := by
  cases i using Input.packet_cases
  case call     => exact call_marks hr
  case other hi =>
    refine .inr ⟨lifts_of_not_call hi, ?_⟩
    rw [step_messages hr hi]
    exact .none (congrArg inSwipe (step_frame hr hi) :)

-- The marks of a step, in their order.
def marks (c : Settings) (s : Option Gestures) (i : Input) (events : List HidEvent) : List SwipeMark :=
  (if s.any (·.lifts c i) then [.lift] else []) ++ (messages events).map .message

-- A swipe that has not been released is latched, as long as the machine has not been halted.
def Keeps (s : Option Gestures) (t : List SwipeMark) : Prop :=
  ∀ m : Swipe, Latch.Latched (· = .message m) m.ReleasedBy (∀ g ∈ s, g.Latched m) t

theorem keeps_lift {s s' : Option Gestures} {t : List SwipeMark} (h : Keeps s t) : Keeps s' (t ++ [.lift]) :=
  fun m => (h m).concat nofun fun hl => (hl.elim nofun fun ho => absurd trivial ho.right)

theorem keeps_swiped {t : List SwipeMark} {ms : List Swipe} (h : Keeps (some g) t)
    (hs : g.Swiped r.1 ms) : Keeps (some r.1) (t ++ ms.map .message) := by
  intro m
  have hm : (∀ g' ∈ some g, g'.Latched m) → g.Latched m := fun hl => hl g rfl
  cases hs
  case none hi =>
    rw [List.map_nil, List.append_nil]
    refine (h m).mono fun hl => ?_
    simpa [Latched, hi] using hm hl
  case one m' hl hs =>
    refine (h m).concat ?_ fun ho => ?_
    · rintro ⟨rfl⟩ hg
      exact hl (hm hg)
    · have hx : m = m' ∨ g.Latched m ∧ ¬m.ReleasedBy (.message m') :=
        ho.imp (fun he => (SwipeMark.message.inj he).symm) (.imp hm id)
      simpa using hs.latched hx

theorem keeps_step {s : Option Gestures} {t : List SwipeMark} (h : Keeps s t) :
    Keeps (((gestures c dev).observe (marks c)).step s i).1
      (t ++ (((gestures c dev).observe (marks c)).step s i).2) := by
  simp only [Mealy.observe]
  rcases s with _ | g
  case none => exact fun m => (List.append_nil t).symm ▸ h m
  case some =>
    cases hr : g.step c dev i
    case none =>
      have hs : (gestures c dev).step (some g) i = (none, [.divideByZero]) := Mealy.halting_step_none hr
      rw [hs]
      cases hl : g.lifts c i
      case true  => simpa [marks, hl] using keeps_lift h
      case false =>
        intro m
        simpa [marks, hl] using (h m).mono fun _ => trivial
    case some r =>
      have hs : (gestures c dev).step (some g) i = (some r.1, r.2) := Mealy.halting_step_some hr
      rw [hs]
      rcases step_marks hr with ⟨hl, hm⟩ | ⟨hl, hm⟩
      case inl => simpa [marks, hl, hm] using keeps_lift h
      case inr => simpa [marks, hl] using keeps_swiped h hm

end Gestures

-- Between two equal swipes there is one in the opposite direction, or a lift, whatever the flags were at
-- first.
theorem gestures_notRepeated (c : Settings) (dev : AlpsDevice) (g : Gestures) (is : List Input) (m : Swipe) :
    Latch.NotRepeated (· = .message m) m.ReleasedBy
      (((gestures c dev).observe (Gestures.marks c)).out (some g) is) := by
  have h : Gestures.Keeps _ ([] ++ ((gestures c dev).observe (Gestures.marks c)).out (some g) is) :=
    Mealy.history (G := fun _ _ => True) (fun hk _ => Gestures.keeps_step hk) (.of_forall fun _ _ => trivial)
      fun _ => .nil
  exact (h m).notRepeated

end Touchpad
