import VoodooPS2.Touchpad.Theorems.Motion

namespace Touchpad

-- An event that does not move the pointer.
def HidEvent.Fixed (ev : HidEvent) : Prop :=
  ev.dx = 0 ∧ ev.dy = 0
  deriving Decidable

theorem HidEvent.Still.fixed {ev : HidEvent} (h : ev.Still) : ev.Fixed :=
  ⟨h.dx_eq, h.dy_eq⟩

namespace Locals

variable {c : Settings} {t : Touch} {f : Locals}

section Fixed

theorem scroll_fixed (h : ∀ ev ∈ f.events, ev.Fixed) : ∀ ev ∈ (f.scroll c t).events, ev.Fixed := by
  rcases @scroll_events c t f with he | ⟨a, b, he⟩ <;> rw [he]
  case inl => exact h
  case inr => exact List.forall_mem_append.mpr ⟨h, by simp [HidEvent.Fixed, HidEvent.dx, HidEvent.dy]⟩

theorem swipe_fixed (h : ∀ ev ∈ f.events, ev.Fixed) : ∀ ev ∈ (f.swipe c).events, ev.Fixed := by
  simp only [swipe]
  split
  case isFalse => exact h
  case isTrue  =>
    refine List.forall_mem_append.mpr ⟨h, ?_⟩
    simp only [Gestures.swipe]
    split_ifs <;> simp [HidEvent.Fixed, HidEvent.dx, HidEvent.dy]

theorem swipe4_fixed (h : ∀ ev ∈ f.events, ev.Fixed) : ∀ ev ∈ (f.swipe4 c).events, ev.Fixed := by
  refine List.forall_mem_append.mpr ⟨h, ?_⟩
  simp only [Gestures.swipe4]
  split_ifs <;> simp [HidEvent.Fixed, HidEvent.dx, HidEvent.dy]

theorem moveFingers_fixed (h : ∀ ev ∈ f.events, ev.Fixed) :
    ∀ ev ∈ (f.moveFingers c t).events, ev.Fixed := by
  have hr : (f.releaseSecond c).events = f.events := (congrArg events releaseSecond_frame :)
  simp only [moveFingers]
  split_ifs
  · exact h
  · rwa [hr]
  · exact scroll_fixed h
  · exact swipe_fixed h
  · exact swipe4_fixed h
  · exact h

-- The branches move the pointer by nothing but the event that comes at the end.
theorem moveByMode_fixed (h : ∀ ev ∈ f.events, ev.Fixed) :
    ∀ ev ∈ (f.moveByMode c t).events, ev.Fixed := by
  simp only [moveByMode]
  split
  case h_1 => rwa [move_events, holdDrag_events]
  case h_2 => rwa [move_events, holdDrag_events]
  case h_3 => rwa [move_events]
  case h_4 => exact moveFingers_fixed h
  case h_5 => rwa [holdPreDrag_events]
  case h_6 => rwa [holdPreDrag_events]
  case h_7 => exact h

end Fixed

section Delta

-- The movement that is about to be dispatched.
def delta (f : Locals) : Int × Int :=
  (f.dx, f.dy)

theorem move_delta : (f.move c t).delta = f.delta ∨ f.Steady c t ∧ ¬f.Bogus c := by
  simp only [move]
  split_ifs with h hw hb
  · exact .inl rfl
  · exact .inl rfl
  · exact .inr ⟨⟨h.left, h.right.left, h.right.right, by simpa using hw⟩, hb⟩
  · exact .inl rfl

theorem moveFingers_delta : (f.moveFingers c t).delta = f.delta := by
  simp only [moveFingers]
  split_ifs
  · rfl
  · exact (congrArg delta releaseSecond_frame :)
  · exact (congrArg delta scroll_frame :)
  · exact (congrArg delta swipe_frame :)
  · exact (congrArg delta swipe4_frame :)
  · rfl

theorem holdDrag_move_delta : ((f.holdDrag c t).move c t).delta = f.delta ∨ f.Steady c t ∧ ¬f.Bogus c := by
  have h := @move_delta c t (f.holdDrag c t)
  rw [holdDrag_frame] at h ⊢
  exact h.imp id fun ⟨hs, hb⟩ => ⟨⟨hs.lastFingers, hs.z, hs.touchtime, hs.wasScroll⟩, hb⟩

-- Only the branch for a single finger moves the pointer.
theorem moveByMode_delta : (f.moveByMode c t).delta = f.delta ∨ f.Moves c t ∧ ¬f.Bogus c := by
  cases hm : f.g.touchmode <;> simp only [moveByMode, hm]
  case move        => exact move_delta.imp id fun h => ⟨⟨h.left, .inl hm⟩, h.right⟩
  case drag        => exact holdDrag_move_delta.imp id fun h => ⟨⟨h.left, .inr (.inl hm)⟩, h.right⟩
  case dragLock    => exact holdDrag_move_delta.imp id fun h => ⟨⟨h.left, .inr (.inr hm)⟩, h.right⟩
  case mTouch      => exact .inl moveFingers_delta
  case preDrag     => exact .inl (congrArg delta holdPreDrag_frame :)
  case dragNoTouch => exact .inl (congrArg delta holdPreDrag_frame :)
  all_goals exact .inl trivial

-- An event that moves the pointer comes from the branch.
theorem handle_moving {ev : HidEvent} (h : f.Still) (he : ev ∈ (f.handle c t).events) (hn : ¬ev.Fixed) :
    (f.beforeMoves c t).Moves c t ∧ f.Carries c (f.handle c t) := by
  have hs : (f.beforeMoves c t).Still := beforeMoves_still h
  rcases @moveByMode_delta c t (f.beforeMoves c t) with hd | ⟨hm, hb⟩
  case inr => exact ⟨hm, handle_of_moves hm hb⟩
  case inl =>
    rw [handle_events, List.mem_append, List.mem_singleton] at he
    rcases he with he | rfl
    case inl => exact absurd (moveByMode_fixed (fun ev he => (hs.events ev he).fixed) _ he) hn
    case inr =>
      have hx : ((f.beforeMoves c t).moveByMode c t).dx = 0 := (congrArg (·.1) hd).trans hs.dx
      have hy : ((f.beforeMoves c t).moveByMode c t).dy = 0 := (congrArg (·.2) hd).trans hs.dy
      exact absurd (by simp [pointer, HidEvent.Fixed, HidEvent.dx, HidEvent.dy, hx, hy]) hn

theorem Carries.moving {f' : Locals} {ev : HidEvent} (h : f.Carries c f') (hs : ∀ ev ∈ f.events, ev.Still)
    (he : ev ∈ f'.events) (hn : ¬ev.Fixed) :
    ev.dx = f.deltaX.tdiv c.divisorx ∧ ev.dy = f.deltaY.tdiv c.divisory := by
  have ⟨b, hb⟩ := h.events
  rw [hb, List.mem_append, List.mem_singleton] at he
  rcases he with he | rfl
  case inl => exact absurd (hs ev he).fixed hn
  case inr => exact ⟨rfl, rfl⟩

end Delta

end Locals

namespace Gestures

variable {c : Settings} {dev : AlpsDevice} {g : Gestures} {e : EventInfo} {now : UInt64}
variable {r : Gestures × List HidEvent}

-- The two ways through a call.
theorem dispatchEventsWithInfo_cases (hr : dispatchEventsWithInfo c dev g e now = some r) :
    ∃ f, g.received c dev e now = some f ∧
      (f.Ignored c (e.touch c now) ∧ r = (f.g, f.events) ∨
        ¬f.Ignored c (e.touch c now) ∧
          r = ((f.handle c (e.touch c now)).g, (f.handle c (e.touch c now)).events)) := by
  rw [dispatchEventsWithInfo_received] at hr
  have ⟨f, hf, hr⟩ := Option.map_eq_some_iff.mp hr
  refine ⟨f, hf, ?_⟩
  subst hr
  by_cases hi : f.Ignored c (e.touch c now)
  case pos => exact .inl ⟨hi, by simp only [if_pos hi]⟩
  case neg => exact .inr ⟨hi, by simp only [if_neg hi]⟩

end Gestures

-- What a run knows of the call before: the position that its filters have computed, and whether it has
-- saved it.
structure Tracked where
  g     : Gestures           := {}
  seen  : Option (Int × Int) := none
  saved : Bool               := false

namespace Tracked

variable {c : Settings} {dev : AlpsDevice} {s : Tracked} {i : Input} {is : List Input}

def saves (c : Settings) (dev : AlpsDevice) (g : Gestures) (e : EventInfo) (now : UInt64) : Bool :=
  (g.received c dev e now).any fun f => ¬f.Ignored c (e.touch c now) ∨ g.ignoring c (e.touch c now) ≠ 0

def after (c : Settings) (dev : AlpsDevice) (s : Tracked) (g : Gestures) : Input → Tracked
  | .call (.dispatchEventsWithInfo e) now => {
    g     := g
    seen  := (s.g.received c dev e now).map Locals.position
    saved := saves c dev s.g e now }
  | _ => { s with g := g }

def step (c : Settings) (dev : AlpsDevice) (s : Tracked) (i : Input) : Option (Tracked × List HidEvent) :=
  (s.g.step c dev i).map fun r => (s.after c dev r.1 i, r.2)

end Tracked

def tracked (c : Settings) (dev : AlpsDevice) : Mealy (Option Tracked) Input HidEvent :=
  .halting (Tracked.step c dev) .divideByZero

namespace Tracked

variable {c : Settings} {dev : AlpsDevice} {s : Tracked} {i : Input} {is : List Input}

theorem after_of_not_call {g : Gestures} (hi : ∀ e now, i ≠ .call (.dispatchEventsWithInfo e) now) :
    s.after c dev g i = { s with g := g } := by
  unfold after
  split
  case h_1 => exact absurd rfl (hi _ _)
  case h_2 => rfl

theorem after_g {g : Gestures} : (s.after c dev g i).g = g := by
  cases i
  case call call _ => cases call <;> rfl
  all_goals rfl

-- To look at the run does not change it.
theorem tracked_out : (tracked c dev).out (some s) is = (gestures c dev).out (some s.g) is := by
  refine (Mealy.halting_simulates fun s i => ?_).run_out (.of_forall fun _ _ => trivial) rfl
  have h : Prod.map Tracked.g id ∘ (fun r : Gestures × List HidEvent => (s.after c dev r.1 i, r.2)) = id :=
    funext fun r => congrArg (·, r.2) after_g
  rw [step, Option.map_map, h, Option.map_id_fun, id_eq]

-- The position that was saved is the one that was seen.
def Saved (s : Tracked) : Prop :=
  s.saved → s.seen = some s.g.last

theorem call_saved {e : EventInfo} {now : UInt64} {r : Gestures × List HidEvent}
    (hr : dispatchEventsWithInfo c dev s.g e now = some r) :
    (s.after c dev r.1 (.call (.dispatchEventsWithInfo e) now)).Saved := by
  intro hs
  have ⟨f, hf, h⟩ := Gestures.dispatchEventsWithInfo_cases hr
  have hl : r.1.last = f.position := by
    rcases h with ⟨hi, rfl⟩ | ⟨_, rfl⟩
    case inr => exact Locals.handle_last
    case inl =>
      have hn : s.g.ignoring c (e.touch c now) ≠ 0 := by simpa [after, saves, hf, hi] using hs
      exact (Gestures.received_some hf).last.trans (if_neg hn)
  simp only [after, hf, Option.map_some, hl]

theorem step_last {g : Gestures} {r : Gestures × List HidEvent} (hr : g.step c dev i = some r)
    (hi : ∀ e now, i ≠ .call (.dispatchEventsWithInfo e) now) : r.1.last = g.last :=
  (congrArg Gestures.last (Gestures.step_frame hr hi) :)

theorem step_saved {r : Tracked × List HidEvent} (h : s.Saved) (hr : s.step c dev i = some r) :
    r.1.Saved := by
  have ⟨r', hr', he⟩ := Option.map_eq_some_iff.mp hr
  subst he
  cases i using Input.packet_cases
  case call     => exact call_saved hr'
  case other hi =>
    rw [after_of_not_call hi]
    intro hs
    exact (h hs).trans (congrArg some (step_last hr' hi).symm)

-- Whatever moves the pointer moves it by the difference to the position of the call before, and what was
-- left then.
structure MovesFrom (c : Settings) (g g' : Gestures) (p q : Int × Int) (ev : HidEvent) : Prop where
  dx    : ev.dx = (q.1 - p.1 + g.xrest).tdiv c.divisorx
  dy    : ev.dy = (p.2 - q.2 + g.yrest).tdiv c.divisory
  xrest : g'.xrest = (q.1 - p.1 + g.xrest).tmod c.divisorx
  yrest : g'.yrest = (p.2 - q.2 + g.yrest).tmod c.divisory

def Relative (c : Settings) (dev : AlpsDevice) (s : Tracked) (i : Input) : Prop :=
  ∀ e now f r, i = .call (.dispatchEventsWithInfo e) now → s.g.received c dev e now = some f →
    s.g.step c dev i = some r → ∀ ev ∈ r.2, ¬ev.Fixed →
      ∃ p, s.seen = some p ∧ MovesFrom c s.g r.1 p f.position ev

-- A call that takes the branch comes right after one that has saved its position, and ignores no deltas,
-- or has less than a step left over.
def Continues (c : Settings) (dev : AlpsDevice) (s : Tracked) (i : Input) : Prop :=
  ∀ e now f, i = .call (.dispatchEventsWithInfo e) now → s.g.received c dev e now = some f →
    ¬f.Ignored c (e.touch c now) → (f.beforeMoves c (e.touch c now)).Moves c (e.touch c now) →
      s.saved ∧ (s.g.ignoredeltas = 0 ∨ s.g.Bounded c)

theorem tdiv_of_natAbs_lt {m n : Int} (h : m.natAbs < n.natAbs) : m.tdiv n = 0 := by
  have hd : (m.tdiv n).natAbs = m.natAbs / n.natAbs := Int.natAbs_tdiv m n
  rw [Nat.div_eq_of_lt h] at hd
  exact Int.natAbs_eq_zero.mp hd

theorem deltas {f : Locals} {p q : Int × Int} (hl : f.g.last = p) (hr : f.g.rests = q) :
    f.deltaX = f.position.1 - p.1 + q.1 ∧ f.deltaY = p.2 - f.position.2 + q.2 := by
  subst hl hr
  exact ⟨rfl, rfl⟩

-- If deltas are ignored, what is left over is all that could be dispatched.
theorem fixed_of_bounded {f : Locals} {ev : HidEvent} (hb : s.g.Bounded c) (hr : f.g.rests = s.g.rests)
    (hl : f.g.last = f.position) (hx : ev.dx = f.deltaX.tdiv c.divisorx)
    (hy : ev.dy = f.deltaY.tdiv c.divisory) : ev.Fixed := by
  have ⟨hdx, hdy⟩ := deltas hl hr
  rw [Int.sub_self, Int.zero_add] at hdx hdy
  constructor
  · rw [hx, hdx]
    exact tdiv_of_natAbs_lt hb.x
  · rw [hy, hdy]
    exact tdiv_of_natAbs_lt hb.y

theorem relative_of_continues (hs : s.Saved) (h : s.Continues c dev i) : s.Relative c dev i := by
  rintro e now f r rfl hf hr ev he hn
  have hv := Gestures.received_some hf
  have ⟨f', hf', hc⟩ := Gestures.dispatchEventsWithInfo_cases hr
  rw [hf, Option.some_inj] at hf'
  subst hf'
  rcases hc with ⟨_, rfl⟩ | ⟨hi, rfl⟩
  case inl => exact absurd (hv.events ev he).fixed hn
  case inr =>
    have ⟨hm, hc⟩ := Locals.handle_moving ⟨hv.delta.left, hv.delta.right, hv.events⟩ he hn
    have ⟨hsv, hd⟩ := h e now f rfl hf hi hm
    have ⟨hx, hy⟩ := hc.moving hv.events he hn
    have hg : s.g.ignoring c (e.touch c now) = s.g.ignoredeltas := by
      refine Gestures.ignoring_of_same (hv.lastFingers.symm.trans ?_)
      exact Locals.beforeMoves_lastFingers.symm.trans hm.lastFingers
    have hl := hv.last
    rw [hg] at hl
    by_cases h₀ : s.g.ignoredeltas = 0
    case neg =>
      rw [if_neg h₀] at hl
      exact absurd (fixed_of_bounded (hd.resolve_left h₀) hv.rests hl hx hy) hn
    case pos =>
      rw [if_pos h₀] at hl
      have ⟨hdx, hdy⟩ := deltas hl hv.rests
      refine ⟨s.g.last, hs hsv, ?_, ?_, ?_, ?_⟩
      · rw [hx, hdx]
        rfl
      · rw [hy, hdy]
        rfl
      · exact (congrArg (·.1) hc.rests).trans (congrArg (·.tmod c.divisorx) hdx)
      · exact (congrArg (·.2) hc.rests).trans (congrArg (·.tmod c.divisory) hdy)

end Tracked

-- In a run whose calls move the pointer only if the position of the call before was saved, and not while
-- deltas are ignored, all motion is relative to the packet before.
theorem tracked_relative (c : Settings) (dev : AlpsDevice) (is : List Input)
    (h : (tracked c dev).Along (fun s i => ∀ t ∈ s, t.Continues c dev i) (some {}) is) :
    (tracked c dev).Along (fun s i => ∀ t ∈ s, t.Relative c dev i) (some {}) is := by
  have v : (tracked c dev).Invariant (fun s i => ∀ t ∈ s, t.Continues c dev i) (fun s => ∀ t ∈ s, t.Saved) :=
    ⟨fun hs _ => (Mealy.halting_invariant fun _ _ _ => Tracked.step_saved).step hs trivial⟩
  have h₀ : ∀ t ∈ (some {} : Option Tracked), t.Saved := by simp [Tracked.Saved]
  exact v.along h h₀ fun s i hs hc t ht => Tracked.relative_of_continues (hs t ht) (hc t ht)

-- A finger goes down, and moves.
theorem tracked_relative_move :
    (tracked {} (setProtocol .v1 0 false 0)).Along
      (fun s i => ∀ t ∈ s, t.Relative {} (setProtocol .v1 0 false 0) i) (some {})
      [.call (.dispatchEventsWithInfo ⟨500, 300, 30, 1, 0⟩) 0,
        .call (.dispatchEventsWithInfo ⟨510, 290, 30, 1, 0⟩) 200000000] := by
  refine tracked_relative {} (setProtocol .v1 0 false 0) _ ⟨?_, ?_, trivial⟩
  · rintro t ht e now f h hf _ hm
    cases ht
    cases h
    cases hf
    exact absurd hm.lastFingers (by decide)
  · rintro t ht e now f h hf _ _
    cases ht
    cases h
    exact ⟨rfl, .inl rfl⟩

-- The finger moves on while the touchpad is disabled for a moment.
theorem not_tracked_relative :
    ¬(tracked {} (setProtocol .v1 0 false 0)).Along
      (fun s i => ∀ t ∈ s, t.Relative {} (setProtocol .v1 0 false 0) i) (some {})
      [.call (.dispatchEventsWithInfo ⟨500, 300, 30, 1, 0⟩) 0,
        .call (.dispatchEventsWithInfo ⟨500, 300, 30, 1, 0⟩) 200000000, .setDisableTouchpad false,
        .call (.dispatchEventsWithInfo ⟨600, 300, 30, 1, 0⟩) 210000000, .setDisableTouchpad true,
        .call (.dispatchEventsWithInfo ⟨600, 300, 30, 1, 0⟩) 220000000] := by
  rintro ⟨_, _, _, _, _, h, _⟩
  have ⟨p, hp, hm⟩ := h _ rfl ⟨600, 300, 30, 1, 0⟩ 220000000 _ _ rfl rfl rfl (.relativePointer 60 0 0)
    (by decide) (by decide)
  cases hp
  exact absurd hm.dx (by decide)

end Touchpad
