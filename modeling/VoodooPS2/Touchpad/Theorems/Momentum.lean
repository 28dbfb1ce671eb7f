import VoodooPS2.Machine.Carry
import VoodooPS2.Machine.Halting
import VoodooPS2.Touchpad.Theorems.Decay
import VoodooPS2.Touchpad.Theorems.Still

namespace Touchpad

namespace Gestures

-- The actions of the timers of the scrolling are called at any time.
def stepAnytime (c : Settings) (dev : AlpsDevice) (g : Gestures) : Input → Option (Gestures × List HidEvent)
  | .scrollTimer         => g.onScrollTimer c
  | .scrollDebounceTimer => some (g.onScrollDebounceTimer, [])
  | i                    => g.step c dev i

end Gestures

def anytime (c : Settings) (dev : AlpsDevice) : Mealy (Option Gestures) Input HidEvent :=
  .halting (Gestures.stepAnytime c dev) .divideByZero

namespace Gestures

variable {c : Settings} {dev : AlpsDevice} {g g' : Gestures} {r : Gestures × List HidEvent}

section Decay

def product (c : Settings) (g : Gestures) : Int :=
  g.momentumscrollcurrent * c.momentumscrollmultiplier + g.momentumscrollrest1

-- A call that is the last one, or after which there is another one.
inductive Scrolled (c : Settings) (g g' : Gestures) : Prop
  | last : g'.momentumscrollcurrent = 0 → g'.scrollTimerSet = false → Scrolled c g g'
  | more :
    g.momentumscrollcurrent ≠ 0 →
    g'.momentumscrollinterval = g.momentumscrollinterval →
    g'.momentumscrollcurrent = (toInt64 (g.product c)).tdiv c.momentumscrolldivisor →
    g'.momentumscrollrest1 = (toInt64 (g.product c)).tmod c.momentumscrolldivisor →
    Scrolled c g g'

theorem onScrollTimer_scrolled (hr : g.onScrollTimer c = some r) : g.Scrolled c r.1 := by
  simp only [onScrollTimer] at hr
  split_ifs at hr with hc <;> cases hr
  · exact .last hc rfl
  · exact .more hc rfl rfl rfl
  · exact .more hc rfl rfl rfl
  · exact .last rfl rfl

theorem onScrollTimer_isSome (hi : g.momentumscrollcurrent ≠ 0 → g.momentumscrollinterval ≠ 0)
    (hd : c.momentumscrolldivisor ≠ 0) : (g.onScrollTimer c).isSome := by
  simp only [onScrollTimer]
  split_ifs with hc hn
  · rfl
  · exact absurd hn (hi hc)
  all_goals rfl

theorem toInt64_of_mem {n : Int} (h : -2 ^ 63 ≤ n ∧ n ≤ 2 ^ 63 - 1) : toInt64 n = n :=
  Int.bmod_eq_of_le h.left (by omega)

-- What is left to scroll is a carry, and the product does not overflow.
def Carries (c : Settings) (g : Gestures) (s : Carry c.momentumscrolldivisor) : Prop :=
  s.value = g.momentumscrollcurrent ∧ s.rest = g.momentumscrollrest1 ∧
    -2 ^ 63 ≤ s.product c.momentumscrollmultiplier ∧ s.product c.momentumscrollmultiplier ≤ 2 ^ 63 - 1

-- The state between two calls.
def Damped (c : Settings) (g : Gestures) : Prop :=
  g.momentumscrollcurrent ≠ 0 → g.momentumscrollinterval ≠ 0 ∧ ∃ s, g.Carries c s

-- A call moves towards zero.
structure Decays (g g' : Gestures) : Prop where
  nonneg : 0 ≤ g.momentumscrollcurrent → 0 ≤ g'.momentumscrollcurrent
  nonpos : g.momentumscrollcurrent ≤ 0 → g'.momentumscrollcurrent ≤ 0
  le     : g'.momentumscrollcurrent.natAbs ≤ g.momentumscrollcurrent.natAbs

def rank (c : Settings) (g : Gestures) : Nat :=
  (g.momentumscrollcurrent * c.momentumscrolldivisor + g.momentumscrollrest1).natAbs

structure Stopped (g : Gestures) : Prop where
  current : g.momentumscrollcurrent = 0
  timer   : g.scrollTimerSet = false

theorem Scrolled.stopped (hq : g.Stopped) (hs : g.Scrolled c g') : g'.Stopped := by
  cases hs
  case last hz ht    => exact ⟨hz, ht⟩
  case more hn _ _ _ => exact absurd hq.current hn

-- The factor is less than one.
variable (h : 0 ≤ c.momentumscrollmultiplier) (hm : c.momentumscrollmultiplier < c.momentumscrolldivisor)

include hm

theorem Carries.next {s : Carry c.momentumscrolldivisor} (hs : g.Carries c s)
    (hv : g'.momentumscrollcurrent = (toInt64 (g.product c)).tdiv c.momentumscrolldivisor)
    (hr : g'.momentumscrollrest1 = (toInt64 (g.product c)).tmod c.momentumscrolldivisor) :
    g'.Carries c (s.next h) := by
  have ⟨hv₀, hr₀, hp⟩ := hs
  have he : toInt64 (g.product c) = s.product c.momentumscrollmultiplier := by
    rw [product, ← hv₀, ← hr₀]
    exact toInt64_of_mem hp
  rw [he] at hv hr
  exact ⟨hv.symm, hr.symm, Carry.next_product_mem h hm (by decide) (by decide) hp⟩

include h

theorem Scrolled.damped (hd : g.Damped c) (hs : g.Scrolled c g') : g'.Damped c := by
  cases hs
  case last hz _        => exact fun hn => absurd hz hn
  case more hn hi hv hr =>
    have ⟨hi₀, s, hs⟩ := hd hn
    exact fun _ => ⟨hi ▸ hi₀, s.next h, hs.next h hm hv hr⟩

theorem Scrolled.decays (hd : g.Damped c) (hs : g.Scrolled c g') : g.Decays g' := by
  cases hs
  case last hz _        => exact ⟨fun _ => hz.ge, fun _ => hz.le, hz ▸ Nat.zero_le _⟩
  case more hn hi hv hr =>
    have ⟨_, s, hs⟩ := hd hn
    have hle : (s.next h).value.natAbs ≤ s.value.natAbs := Carry.natAbs_next_value_le h hm
    have hsgn := @Carry.next_sign _ _ s h
    rw [hs.left, (hs.next h hm hv hr).left] at hle hsgn
    refine ⟨?_, ?_, hle⟩ <;> omega

theorem Scrolled.stopped_or_rank_lt (hd : g.Damped c) (hs : g.Scrolled c g') :
    g'.Stopped ∨ g'.rank c < g.rank c := by
  cases hs
  case last hz ht       => exact .inl ⟨hz, ht⟩
  case more hn hi hv hr =>
    have ⟨_, s, hs⟩ := hd hn
    have hlt : (s.next h).rank < s.rank := Carry.next_rank_lt h hm (hs.left ▸ hn)
    have ⟨hv', hr', _⟩ := hs.next h hm hv hr
    rw [Carry.rank, Carry.rank, Carry.product, Carry.product, hv', hr', hs.left, hs.right.left] at hlt
    exact .inr hlt

theorem damped_of_rest (hi : g.momentumscrollinterval ≠ 0) (hr : g.momentumscrollrest1 = 0)
    (hl : -2 ^ 63 ≤ g.momentumscrollcurrent * c.momentumscrollmultiplier)
    (hu : g.momentumscrollcurrent * c.momentumscrollmultiplier < 2 ^ 63) : g.Damped c := by
  have hs : 0 ≤ g.momentumscrollcurrent ∧ 0 ≤ (0 : Int) ∨ g.momentumscrollcurrent ≤ 0 ∧ (0 : Int) ≤ 0 :=
    (Int.le_total 0 g.momentumscrollcurrent).imp (⟨·, le_rfl⟩) (⟨·, le_rfl⟩)
  refine fun _ => ⟨hi, ⟨g.momentumscrollcurrent, 0, hs, h.trans_lt hm⟩, rfl, hr.symm, ?_⟩
  rw [Carry.product, Int.add_zero]
  exact ⟨hl, Int.le_sub_one_of_lt hu⟩

end Decay

end Gestures

-- The momentum decays from call to call of the timer, and finally there are no more calls.
theorem anytime_stops (c : Settings) (dev : AlpsDevice) (g : Gestures)
    (hi : g.momentumscrollinterval ≠ 0) (hr : g.momentumscrollrest1 = 0)
    (h : 0 ≤ c.momentumscrollmultiplier) (hm : c.momentumscrollmultiplier < c.momentumscrolldivisor)
    (hl : -2 ^ 63 ≤ g.momentumscrollcurrent * c.momentumscrollmultiplier)
    (hu : g.momentumscrollcurrent * c.momentumscrollmultiplier < 2 ^ 63) :
    (∀ n, ∃ g₁ g₂, (anytime c dev).state (some g) (.replicate n .scrollTimer) = some g₁ ∧
      (anytime c dev).state (some g) (.replicate (n + 1) .scrollTimer) = some g₂ ∧ g₁.Decays g₂) ∧
    ∃ n, ∀ m, n ≤ m → ∃ g', (anytime c dev).state (some g) (.replicate m .scrollTimer) = some g' ∧
      g'.momentumscrollcurrent = 0 ∧ g'.scrollTimerSet = false := by
  have hd : g.Damped c := Gestures.damped_of_rest h hm hi hr hl hu
  have hv : ∀ g : Gestures, g.Damped c → ∃ r, g.stepAnytime c dev .scrollTimer = some r ∧ r.1.Damped c := by
    intro g hg
    have hs : (g.onScrollTimer c).isSome :=
      Gestures.onScrollTimer_isSome (fun hn => (hg hn).left) (h.trans_lt hm).ne'
    have ⟨r, hr⟩ := Option.isSome_iff_exists.mp hs
    exact ⟨r, hr, (Gestures.onScrollTimer_scrolled hr).damped h hm hg⟩
  constructor
  case left =>
    intro n
    have ⟨g₁, hs, hd₁⟩ : ∃ g₁, (anytime c dev).state (some g) (.replicate n .scrollTimer) = some g₁ ∧
        g₁.Damped c := Mealy.halting_replicate hv hd n
    have ⟨r, hr, _⟩ := hv g₁ hd₁
    refine ⟨g₁, r.1, hs, ?_, (Gestures.onScrollTimer_scrolled hr).decays h hm hd₁⟩
    rw [List.replicate_succ', Mealy.state_append, anytime, hs, Mealy.state_cons, Mealy.halting_step_some hr]
    rfl
  case right =>
    have ⟨n, hn⟩ : ∃ n, ∀ m, n ≤ m → ∃ g',
        (anytime c dev).state (some g) (.replicate m .scrollTimer) = some g' ∧ g'.Damped c ∧ g'.Stopped :=
      Mealy.halting_ranked hv (fun _ _ hq _ hr => (Gestures.onScrollTimer_scrolled hr).stopped hq)
        (fun _ hg _ hr => (Gestures.onScrollTimer_scrolled hr).stopped_or_rank_lt h hm hg) hd
    refine ⟨n, fun m hm => ?_⟩
    have ⟨g', hs, _, hq⟩ := hn m hm
    exact ⟨g', hs, hq.current, hq.timer⟩

-- The timer is called for a momentum of 50 units in 60 ms.
theorem anytime_stops_up :
    ∃ n, ∀ m, n ≤ m → ∃ g', (anytime {} (setProtocol .v1 0 false 0)).state
        (some { momentumscrollcurrent := -500000000, momentumscrollinterval := 60000000 })
        (.replicate m .scrollTimer) = some g' ∧
      g'.momentumscrollcurrent = 0 ∧ g'.scrollTimerSet = false :=
  (anytime_stops {} (setProtocol .v1 0 false 0)
    { momentumscrollcurrent := -500000000, momentumscrollinterval := 60000000 } (by decide) rfl (by decide)
    (by decide) (by decide) (by decide)).right

namespace Gestures

variable {c : Settings} {dev : AlpsDevice} {g g' : Gestures} {r : Gestures × List HidEvent}

section Timed

-- The histories have the same length, and the times in them increase, up to the times that are to come.
structure Timed (us : List UInt64) (g : Gestures) : Prop where
  interval   : g.momentumscrollcurrent ≠ 0 → g.momentumscrollinterval ≠ 0
  count      : g.dyHistory.count = g.timeHistory.count
  aligned    : g.timeHistory.Aligned
  increasing : g.timeHistory.values.Pairwise (· < ·)
  past       : ∀ t ∈ g.timeHistory.values, ∀ u ∈ us, t < u

variable {us : List UInt64}

theorem Timed.congr (h : g.Timed us) (hd : g'.dyHistory = g.dyHistory) (ht : g'.timeHistory = g.timeHistory)
    (hi : g'.momentumscrollinterval = g.momentumscrollinterval)
    (hc : g'.momentumscrollcurrent ≠ 0 → g.momentumscrollcurrent ≠ 0) : g'.Timed us where
  interval   := fun hn => hi ▸ h.interval (hc hn)
  count      := by rw [hd, ht, h.count]
  aligned    := ht ▸ h.aligned
  increasing := ht ▸ h.increasing
  past       := ht ▸ h.past

-- All that matters.
def samples (g : Gestures) : SimpleAverage 32 × History UInt64 32 × UInt64 × Int :=
  (g.dyHistory, g.timeHistory, g.momentumscrollinterval, g.momentumscrollcurrent)

theorem Timed.of_samples (h : g.Timed us) (he : g'.samples = g.samples) : g'.Timed us :=
  h.congr (congrArg (·.1) he) (congrArg (·.2.1) he) (congrArg (·.2.2.1) he)
    (congrArg (·.2.2.2) he : g'.momentumscrollcurrent = g.momentumscrollcurrent).symm.trans_ne

theorem timed_of_empty (hi : g.momentumscrollcurrent ≠ 0 → g.momentumscrollinterval ≠ 0)
    (hd : g.dyHistory.Empty) (ht : g.timeHistory.Empty) : g.Timed us where
  interval   := hi
  count      := hd.left.trans ht.left.symm
  aligned    := ht.aligned
  increasing := by rw [ht.values]; exact .nil
  past       := by rw [ht.values]; exact List.forall_mem_nil _

theorem Timed.reset (h : g.Timed us) :
    { g with dyHistory := g.dyHistory.reset, timeHistory := g.timeHistory.reset }.Timed us :=
  timed_of_empty h.interval History.reset_empty History.reset_empty

theorem Timed.add {now : UInt64} {dy : Int} (h : g.Timed (now :: us)) (hn : ∀ u ∈ us, now < u) :
    { g with dyHistory := g.dyHistory.add dy, timeHistory := g.timeHistory.filter now }.Timed us where
  interval   := h.interval
  count      := by simp only [SimpleAverage.add, History.filter, h.count]
  aligned    := History.filter_aligned h.aligned
  increasing := by
    rw [History.filter_values]
    refine .sublist (List.drop_sublist _ _) (List.pairwise_append.mpr ⟨h.increasing, List.pairwise_singleton _ _, ?_⟩)
    intro t ht u hu
    exact List.eq_of_mem_singleton hu ▸ h.past t ht now List.mem_cons_self
  past t ht u hu := by
    rw [History.filter_values] at ht
    rcases List.mem_append.mp (List.mem_of_mem_drop ht) with ht | ht
    case inl => exact h.past t ht u (List.mem_cons_of_mem now hu)
    case inr => exact List.eq_of_mem_singleton ht ▸ hn u hu

theorem Timed.tail {now : UInt64} (h : g.Timed (now :: us)) : g.Timed us :=
  { h with past := fun t ht u hu => h.past t ht u (List.mem_cons_of_mem now hu) }

end Timed

end Gestures

namespace Locals

variable {c : Settings} {t : Touch} {f : Locals} {buttonsraw : UInt32} {us : List UInt64}

section Timed

theorem receive_timed (h : f.g.Timed us) :
    ((f.pressButtons c t buttonsraw).filterPosition c t).g.Timed us :=
  h.of_samples (congrArg (·.g.samples) filterPosition_frame :)

-- There are at least two times in the history if it is long enough.
theorem startMomentum_timed (hs : 1 ≤ c.momentumscrollsamplesmin) (h : f.g.Timed us) :
    (f.startMomentum c).g.Timed us := by
  simp only [startMomentum]
  split
  case isFalse   => exact h
  case isTrue hm =>
    have hc : 1 < f.g.timeHistory.count := by
      have := h.count
      omega
    have hi : f.g.timeHistory.newest 0 - f.g.timeHistory.oldest 0 ≠ 0 :=
      sub_ne_zero.mpr (History.newest_ne_oldest h.aligned (h.increasing.imp UInt64.ne_of_lt) hc)
    simp only [momentum, if_neg hi]
    exact { h with interval := fun _ => hi }

theorem liftFinger_timed (hs : 1 ≤ c.momentumscrollsamplesmin) (h : f.g.Timed us) :
    (f.liftFinger c t).g.Timed us := by
  simp only [liftFinger]
  split
  case isFalse => exact h
  case isTrue  =>
    have hf : ((f.clearTouch t).startMomentum c).resetHistory.g.Timed us :=
      (startMomentum_timed hs (h.of_samples rfl : (f.clearTouch t).g.Timed us)).reset
    split
    case isTrue  => exact hf.of_samples (congrArg (·.g.samples) tap_frame :)
    case isFalse => exact hf.of_samples (congrArg (·.g.samples) endTouch_frame :)

theorem cancelPreDrag_samples : (f.cancelPreDrag c t).g.samples = f.g.samples :=
  (congrArg (·.g.samples) cancelPreDrag_frame :)

theorem cancelTap_samples : (f.cancelTap c t).g.samples = f.g.samples :=
  (congrArg (·.g.samples) cancelTap_frame :)

theorem beforeMoves_timed (hs : 1 ≤ c.momentumscrollsamplesmin) (h : f.g.Timed us) :
    (f.beforeMoves c t).g.Timed us :=
  (liftFinger_timed hs h).of_samples (cancelTap_samples.trans cancelPreDrag_samples)

theorem releaseSecond_timed (h : f.g.Timed us) : (f.releaseSecond c).g.Timed us := by
  simp only [releaseSecond]
  split_ifs
  · exact h.reset.of_samples rfl
  · exact h.of_samples rfl
  · exact h

-- The only place where a time goes into the history.
theorem scrollHistory_timed {dy : Int} (hn : ∀ u ∈ us, t.now < u) (h : f.g.Timed (t.now :: us)) :
    (f.scrollHistory t dy).Timed us := by
  simp only [scrollHistory]
  split_ifs
  · exact h.reset.add hn
  · exact h.add hn

theorem scrollBy_samples {whdivisor dx dy : Int} :
    (f.scrollBy c t whdivisor dx dy).g.samples = (f.scrollHistory t dy).samples := by
  simp only [scrollBy]
  split <;> rfl

theorem scroll_timed (hn : ∀ u ∈ us, t.now < u) (h : f.g.Timed (t.now :: us)) :
    (f.scroll c t).g.Timed us := by
  simp only [scroll]
  split
  case isTrue  => exact h.tail
  case isFalse => exact (scrollHistory_timed hn h).of_samples scrollBy_samples

theorem moveFingers_timed (hn : ∀ u ∈ us, t.now < u) (h : f.g.Timed (t.now :: us)) :
    (f.moveFingers c t).g.Timed us := by
  simp only [moveFingers]
  split_ifs
  · exact h.tail
  · exact releaseSecond_timed h.tail
  · exact scroll_timed hn h
  · exact h.tail.of_samples (congrArg (·.g.samples) swipe_frame :)
  · exact h.tail.of_samples (congrArg (·.g.samples) swipe4_frame :)
  · exact h.tail

theorem move_samples : (f.move c t).g.samples = f.g.samples :=
  (congrArg (·.g.samples) move_frame :)

theorem moveByMode_timed (hn : ∀ u ∈ us, t.now < u) (h : f.g.Timed (t.now :: us)) :
    (f.moveByMode c t).g.Timed us := by
  have hd : ((f.holdDrag c t).move c t).g.samples = f.g.samples :=
    move_samples.trans (congrArg (·.g.samples) holdDrag_frame :)
  simp only [moveByMode]
  split
  case h_1 => exact h.tail.of_samples hd
  case h_2 => exact h.tail.of_samples hd
  case h_3 => exact h.tail.of_samples move_samples
  case h_4 => exact moveFingers_timed hn h
  case h_5 => exact h.tail.of_samples (congrArg (·.g.samples) holdPreDrag_frame :)
  case h_6 => exact h.tail.of_samples (congrArg (·.g.samples) holdPreDrag_frame :)
  case h_7 => exact h.tail

-- A touch ends the momentum.
theorem captureTap_timed (h : f.g.Timed us) : (f.captureTap c t).g.Timed us := by
  have hc : (f.captureTap c t).g.momentumscrollcurrent ≠ 0 → f.g.momentumscrollcurrent ≠ 0 := by
    simp only [captureTap]
    split_ifs <;> first | exact id | exact absurd rfl
  exact h.congr (congrArg (·.g.dyHistory) captureTap_frame :) (congrArg (·.g.timeHistory) captureTap_frame :)
    (congrArg (·.g.momentumscrollinterval) captureTap_frame :) hc

theorem switchModes_samples : (f.switchModes c t).g.samples = f.g.samples :=
  (congrArg (·.g.samples) switchModes_frame :)

theorem handle_timed (hs : 1 ≤ c.momentumscrollsamplesmin) (hn : ∀ u ∈ us, t.now < u)
    (h : f.g.Timed (t.now :: us)) : (f.handle c t).g.Timed us := by
  have hb : (f.beforeMoves c t).g.Timed (t.now :: us)           := beforeMoves_timed hs h
  have hm : ((f.beforeMoves c t).moveByMode c t).g.Timed us     := moveByMode_timed hn hb
  exact (captureTap_timed hm).of_samples switchModes_samples

theorem respond_timed (hs : 1 ≤ c.momentumscrollsamplesmin) (hn : ∀ u ∈ us, t.now < u)
    (h : f.g.Timed (t.now :: us)) : (f.respond c t buttonsraw).g.Timed us := by
  have hr : ((f.pressButtons c t buttonsraw).filterPosition c t).g.Timed (t.now :: us) := receive_timed h
  simp only [respond]
  split
  case isTrue  => exact hr.tail
  case isFalse => exact handle_timed hs hn hr

end Timed

end Locals

namespace Gestures

variable {c : Settings} {dev : AlpsDevice} {g g' : Gestures} {r : Gestures × List HidEvent}
variable {i : Input} {is : List Input} {us : List UInt64}

section Timed

theorem call_timed {e : EventInfo} {now : UInt64} (hs : 1 ≤ c.momentumscrollsamplesmin)
    (hn : ∀ u ∈ us, now < u) (h : g.Timed (now :: us)) (hr : dispatchEventsWithInfo c dev g e now = some r) :
    r.1.Timed us := by
  have ⟨p, _, hp⟩ := Option.map_eq_some_iff.mp hr
  subst hp
  exact @Locals.respond_timed c (e.touch c now) ⟨g, p.1, p.2, e.buttons, 0, 0, []⟩ e.buttons us hs hn h

theorem step_current (hr : g.step c dev i = some r)
    (hi : ∀ e now, i ≠ .call (.dispatchEventsWithInfo e) now) :
    r.1.momentumscrollcurrent ≠ 0 → g.momentumscrollcurrent ≠ 0 := by
  cases i
  case call call now =>
    cases call
    case dispatchEventsWithInfo e => exact absurd rfl (hi e now)
    case divideByZero             => cases hr
    all_goals cases hr; exact id
  case scrollTimer =>
    simp only [step] at hr
    split at hr
    case isFalse => cases hr; exact id
    case isTrue  =>
      cases onScrollTimer_scrolled hr
      case last hz _       => exact fun hn => absurd hz hn
      case more hn _ _ _   => exact fun _ => hn
  all_goals simp only [step, Option.some_inj] at hr; subst hr
  case dragTimer          => simp only [onDragTimer]; split_ifs <;> exact id
  case setMouseCount      => simp only [setMouseCount]; split_ifs <;> exact id
  case setDisableTouchpad => simp only [setDisableTouchpad]; split_ifs <;> exact id
  case notifyKeyPressed   =>
    simp only [notifyKeyPressed]
    split
    case h_1 => split_ifs <;> exact id
    case h_2 => exact absurd rfl
  case scrollDebounceTimer => split_ifs <;> exact id
  case buttonTimer         => split_ifs <;> exact id
  all_goals exact id

theorem step_timed (hr : g.step c dev i = some r)
    (hi : ∀ e now, i ≠ .call (.dispatchEventsWithInfo e) now) (h : g.Timed us) : r.1.Timed us :=
  h.congr (congrArg (·.dyHistory) (step_frame hr hi) :) (congrArg (·.timeHistory) (step_frame hr hi) :)
    (congrArg (·.momentumscrollinterval) (step_frame hr hi) :) (step_current hr hi)

-- A timer that is not set acts as one that is.
theorem stepAnytime_step (hr : g.stepAnytime c dev i = some r) :
    ∃ g' : Gestures, g'.samples = g.samples ∧ g'.step c dev i = some r := by
  cases i
  case scrollTimer         => exact ⟨{ g with scrollTimerSet := true }, rfl, hr⟩
  case scrollDebounceTimer => exact ⟨{ g with scrollDebounceTimerSet := true }, rfl, hr⟩
  all_goals exact ⟨g, rfl, hr⟩

end Timed

end Gestures

-- The time of a packet.
def Input.packetTime : Input → Option UInt64
  | .call (.dispatchEventsWithInfo _) now => some now
  | _                                     => none

theorem packetTime_of_not_call {i : Input} (hi : ∀ e now, i ≠ .call (.dispatchEventsWithInfo e) now) :
    i.packetTime = none := by
  unfold Input.packetTime
  split
  case h_1 => exact absurd rfl (hi _ _)
  case h_2 => rfl

def packetTimes (is : List Input) : List UInt64 :=
  is.filterMap Input.packetTime

namespace Gestures

variable {c : Settings} {dev : AlpsDevice} {g g' : Gestures} {r : Gestures × List HidEvent}
variable {i : Input} {is : List Input}

section Timed

theorem stepAnytime_timed (hs : 1 ≤ c.momentumscrollsamplesmin) (hp : (packetTimes (i :: is)).Pairwise (· < ·))
    (h : g.Timed (packetTimes (i :: is))) (hr : g.stepAnytime c dev i = some r) :
    r.1.Timed (packetTimes is) := by
  have ⟨g', hg, hr'⟩ := stepAnytime_step hr
  replace h : g'.Timed (packetTimes (i :: is)) := h.of_samples hg
  cases i using Input.packet_cases
  case call     => exact call_timed hs (List.pairwise_cons.mp hp).left h hr'
  case other hi =>
    rw [packetTimes, List.filterMap_cons_none (packetTime_of_not_call hi)] at h
    exact step_timed hr' hi h

theorem state_timed (hs : 1 ≤ c.momentumscrollsamplesmin) (hp : (packetTimes is).Pairwise (· < ·))
    (h : g.Timed (packetTimes is)) (hg : (anytime c dev).state (some g) is = some g') : g'.Timed [] := by
  induction is generalizing g
  case nil =>
    cases hg
    exact h
  case cons i is hi =>
    rw [Mealy.state_cons] at hg
    cases hr : g.stepAnytime c dev i
    case none =>
      rw [anytime, Mealy.halting_step_none hr, Mealy.halting_state_none] at hg
      cases hg
    case some r =>
      rw [anytime, Mealy.halting_step_some hr] at hg
      have hp' : (packetTimes is).Pairwise (· < ·) :=
        hp.sublist ((List.sublist_cons_self i is).filterMap Input.packetTime)
      exact hi hp' (stepAnytime_timed hs hp h hr) hg

end Timed

end Gestures

-- There is an interval to divide by in every state with a momentum, however the timers and the packets
-- are ordered.
theorem anytime_interval (c : Settings) (dev : AlpsDevice) (g : Gestures) (is : List Input) {g' : Gestures}
    (hs : 1 ≤ c.momentumscrollsamplesmin) (hd : c.momentumscrolldivisor ≠ 0)
    (hc : g.momentumscrollcurrent = 0) (hy : g.dyHistory.Empty) (ht : g.timeHistory.Empty)
    (hp : (packetTimes is).Pairwise (· < ·)) (hg : (anytime c dev).state (some g) is = some g') :
    (g'.momentumscrollcurrent ≠ 0 → g'.momentumscrollinterval ≠ 0) ∧
      g'.dyHistory.count = g'.timeHistory.count ∧ (g'.onScrollTimer c).isSome := by
  have h : g'.Timed [] := Gestures.state_timed hs hp (Gestures.timed_of_empty (absurd hc) hy ht) hg
  exact ⟨h.interval, h.count, Gestures.onScrollTimer_isSome h.interval hd⟩

-- Two fingers are lifted while they scroll, and the timer is called after a key was pressed.
def scrollAndLift : List Input := [
  .call (.dispatchEventsWithInfo ⟨100, 50, 30, 2, 0⟩) 1000000000,
  .call (.dispatchEventsWithInfo ⟨100, 60, 30, 2, 0⟩) 1010000000,
  .call (.dispatchEventsWithInfo ⟨100, 72, 30, 2, 0⟩) 1020000000,
  .call (.dispatchEventsWithInfo ⟨100, 72, 0, 0, 0⟩) 1030000000,
  .notifyKeyPressed 0x38 true 1035000000,
  .scrollTimer]

theorem anytime_interval_lift :
    ∃ g', (anytime { momentumscrollsamplesmin := 1 } (setProtocol .v1 0 false 0)).state (some {})
        scrollAndLift = some g' ∧
      (g'.momentumscrollcurrent ≠ 0 → g'.momentumscrollinterval ≠ 0) ∧
      g'.dyHistory.count = g'.timeHistory.count ∧ (g'.onScrollTimer { momentumscrollsamplesmin := 1 }).isSome :=
  have hs : ((anytime { momentumscrollsamplesmin := 1 } (setProtocol .v1 0 false 0)).state (some {})
    scrollAndLift).isSome := by decide +kernel
  have ⟨g', hg⟩ := Option.isSome_iff_exists.mp hs
  ⟨g', hg, anytime_interval { momentumscrollsamplesmin := 1 } (setProtocol .v1 0 false 0) {} scrollAndLift
    (by decide) (by decide) rfl ⟨rfl, rfl⟩ ⟨rfl, rfl⟩ (by decide) hg⟩

end Touchpad
