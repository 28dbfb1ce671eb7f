import VoodooPS2.Touchpad.Gestures
import VoodooPS2.Touchpad.Theorems.MiddleButton

namespace Touchpad

-- A call of `middleButton`, or of `onButtonTimer`.
inductive ButtonCall
  | middleButton (buttons : UInt32) (now : UInt64) (source : MBComingFrom)
  | onButtonTimer (now : UInt64)

namespace ButtonCall

def now : ButtonCall → UInt64
  | middleButton _ now _ | onButtonTimer now => now

def source : ButtonCall → MBComingFrom
  | middleButton _ _ source => source
  | onButtonTimer _         => .fromTimer

end ButtonCall

def HidEvent.buttons? : HidEvent → Option UInt32
  | .relativePointer _ _ b => some b
  | _                      => none

-- The simulation of a middle button, with the last physical mask.
structure Simulation where
  middle      : MiddleButton := {}
  lastbuttons : UInt32       := 0

namespace Simulation

variable (c : Settings) (s : Simulation)

-- The physical mask of a call.
def mask : ButtonCall → UInt32
  | .middleButton buttons _ _ => buttons
  | .onButtonTimer _          => s.lastbuttons

-- The timer is not set any more when its action runs.
def found : ButtonCall → MiddleButton
  | .middleButton _ _ _ => s.middle
  | .onButtonTimer _    => { s.middle with buttonTimerSet := false }

def call (i : ButtonCall) : Pressed :=
  middleButton c false (s.found i) (s.mask i) i.now i.source

def dispatched (i : ButtonCall) : List UInt32 :=
  (s.call c i).events.filterMap HidEvent.buttons?

-- The masks that are dispatched by a call, and the one that is returned.
def emitted (i : ButtonCall) : List UInt32 :=
  s.dispatched c i ++ [(s.call c i).buttons]

-- Nobody sees what is returned to the timer.
def seen (i : ButtonCall) : List UInt32 :=
  match i with
  | .middleButton _ _ _ => s.emitted c i
  | .onButtonTimer _    => s.dispatched c i

end Simulation

def simulation (c : Settings) : Mealy Simulation ButtonCall UInt32 where
  step s i := (⟨(s.call c i).middle, s.mask i⟩, s.seen c i)

namespace MiddleButton

variable {c : Settings} {m : MiddleButton} {buttons : UInt32} {now : UInt64} {source : MBComingFrom}

-- A button is pending exactly during a delay.
def Pends (m : MiddleButton) : Prop :=
  m.pendingbuttons ≠ 0 ↔ m.Waiting

theorem pends_wait {state : MButtonState} (h : buttons ≠ 0)
    (hs : state = .wait4Two ∨ state = .wait4None) : (wait buttons now state).Pends :=
  iff_of_true h hs

theorem pends_settle {state : MButtonState} (h : state = .middle ∨ state = .noButtons ∨ state = .noOp) :
    (m.settle state).Pends := by
  rcases h with rfl | rfl | rfl <;> simp [Pends, Waiting, settle]

theorem Pends.leave {state : MButtonState} (hp : m.Pends) (hw : ¬m.Waiting)
    (h : state ≠ .wait4Two ∧ state ≠ .wait4None) : { m with mbuttonstate := state }.Pends :=
  iff_of_false (fun hn => hw (hp.mp hn)) fun hs => hs.elim h.left h.right

theorem nextState_pends (hp : m.Pends) : (m.nextState c buttons now source).1.Pends := by
  have h := @nextState_change c m buttons now source
  generalize (m.nextState c buttons now source).1 = m' at h
  cases h
  case none        => exact hp
  case leave hw hs => exact hp.leave hw hs
  case wait hb hs  => exact pends_wait hb hs
  case settle hs   => exact pends_settle hs

-- The delay of a button is over at the latest when no button is held.
theorem nextState_released (hp : m.Pends) :
    (m.nextState c 0 now source).1.mbuttonstate = .noButtons := by
  have hw (hm : m.Waiting) : (0 : UInt32) ≠ m.pendingbuttons := (hp.mpr hm).symm
  cases hm : m.mbuttonstate <;> simp only [nextState, hm]
  case noButtons => split_ifs <;> first | exact hm | exact absurd ‹_› (by decide)
  case wait4Two  => split_ifs <;> first | rfl | exact absurd (Or.inr (hw (.inl hm))) ‹_› | simp_all
  case middle    => rfl
  case wait4None => split_ifs <;> first | rfl | exact absurd (Or.inr (hw (.inr hm))) ‹_›
  case noOp      => rfl

end MiddleButton

namespace Simulation

variable {c : Settings} {s : Simulation} {i : ButtonCall} {is : List ButtonCall}

-- The action of the timer is a call of the simulation.
theorem onButtonTimer_eq {g : Gestures} {now : UInt64} (h : g.ignoreall = false) :
    g.onButtonTimer c now =
      ({ g with middle := (call c ⟨g.middle, g.lastbuttons⟩ (.onButtonTimer now)).middle },
        (call c ⟨g.middle, g.lastbuttons⟩ (.onButtonTimer now)).events) := by
  simp [Gestures.onButtonTimer, call, found, mask, ButtonCall.now, ButtonCall.source, h]

@[simp]
theorem found_mbuttonstate : (s.found i).mbuttonstate = s.middle.mbuttonstate := by
  cases i <;> rfl

@[simp]
theorem found_pendingbuttons : (s.found i).pendingbuttons = s.middle.pendingbuttons := by
  cases i <;> rfl

theorem found_dispatchPending {b : UInt32} :
    (s.found i).dispatchPending b = s.middle.dispatchPending b := by
  rw [MiddleButton.dispatchPending, MiddleButton.dispatchPending, found_pendingbuttons]

theorem found_pends (hp : s.middle.Pends) : (s.found i).Pends := by
  cases i <;> exact hp

-- The next state, if the simulation is enabled.
def next (c : Settings) (s : Simulation) (i : ButtonCall) : MiddleButton × List HidEvent :=
  (s.found i).nextState c (s.mask i) i.now i.source

theorem call_simulated (hc : c.simulatesMiddle) :
    s.call c i = ⟨(s.next c i).1, (s.next c i).1.modify (s.mask i), (s.next c i).2⟩ :=
  if_neg (by simp [hc])

theorem call_pends (hc : c.simulatesMiddle) (hp : s.middle.Pends) : (s.call c i).middle.Pends := by
  rw [call_simulated hc]
  exact MiddleButton.nextState_pends (found_pends hp)

theorem call_released (hc : c.simulatesMiddle) (hp : s.middle.Pends) (h : s.mask i = 0) :
    (s.call c i).middle.mbuttonstate = .noButtons ∧ (s.call c i).buttons = 0 := by
  have hs : (s.next c i).1.mbuttonstate = .noButtons := by
    rw [next, h]
    exact MiddleButton.nextState_released (found_pends hp)
  rw [call_simulated hc, h]
  exact ⟨hs, MiddleButton.modify_zero (by simp [hs])⟩

theorem invariant_pends (hc : c.simulatesMiddle) :
    (simulation c).Invariant (fun _ _ => True) (·.middle.Pends) where
  step hp _ := call_pends hc hp

-- No button is held.
structure Rests (s : Simulation) : Prop where
  state       : s.middle.mbuttonstate = .noButtons
  lastbuttons : s.lastbuttons = 0

-- A press that has not been reported yet.
structure Owes (s : Simulation) : Prop where
  state   : s.middle.mbuttonstate = .wait4Two
  pending : s.middle.pendingbuttons ≠ 0

def Reports (c : Settings) (s : Simulation) (i : ButtonCall) : Prop :=
  ∃ b ∈ s.seen c i, b ≠ 0

theorem reports_of_returned {buttons : UInt32} {now : UInt64} {source : MBComingFrom}
    (h : (s.call c (.middleButton buttons now source)).buttons ≠ 0) :
    s.Reports c (.middleButton buttons now source) :=
  ⟨_, List.mem_append_right _ (List.mem_singleton_self _), h⟩

theorem reports_of_dispatched (he : (s.call c i).events = s.middle.dispatchPending (s.mask i))
    (h : s.middle.pendingbuttons ≠ 0) : s.Reports c i := by
  have hd : s.mask i ||| s.middle.pendingbuttons ∈ s.dispatched c i := by
    simp [dispatched, he, MiddleButton.dispatchPending, HidEvent.buttons?]
  refine ⟨s.mask i ||| s.middle.pendingbuttons, ?_, or_ne_zero_of_right h⟩
  cases i
  case middleButton  => exact List.mem_append_left _ hd
  case onButtonTimer => exact hd

theorem Rests.press (hc : c.simulatesMiddle) (h : s.Rests) (hb : s.mask i ≠ 0) :
    s.Reports c i ∨ ((simulation c).step s i).1.Owes := by
  cases i
  case onButtonTimer => exact absurd h.lastbuttons hb
  case middleButton b now source =>
    have he := @call_simulated c s (.middleButton b now source) hc
    generalize hr : s.next c (.middleButton b now source) = r at he
    have hb : b ≠ 0 := hb
    simp only [next, found, mask, MiddleButton.nextState, h.state, ne_eq, ite_not, hb, if_false] at hr
    split_ifs at hr <;> cases hr
    · exact .inl (reports_of_returned (by simpa [he, MiddleButton.modify, h.state, mask] using hb))
    · exact .inl (reports_of_returned (by simp [he, MiddleButton.modify]))
    · refine .inr ⟨?_, ?_⟩
      · simp [simulation, he, MiddleButton.wait]
      · simpa [simulation, he, MiddleButton.wait] using hb
    · exact .inl (reports_of_returned (by simpa [he, MiddleButton.modify, mask] using hb))

-- Either a call reports the press, or it holds the same button.
theorem Owes.call (hc : c.simulatesMiddle) (h : s.Owes) :
    s.Reports c i ∨ s.mask i ≠ 0 ∧ ((simulation c).step s i).1.Owes := by
  have he := @call_simulated c s i hc
  generalize hr : s.next c i = r at he
  simp only [next, MiddleButton.nextState, found_mbuttonstate, found_pendingbuttons, h.state] at hr
  split_ifs at hr with h₁ h₂ h₃ <;> cases hr
  · cases i
    case onButtonTimer => exact absurd (by simp [MiddleButton.timeout, ButtonCall.source]) h₁.left
    case middleButton =>
      exact .inl (reports_of_returned (by simp [he, MiddleButton.modify, MiddleButton.settle]))
  · exact .inl (reports_of_dispatched (by simp [he, MiddleButton.dispatchPending]) h.pending)
  · cases i
    case onButtonTimer => exact absurd (.inl rfl) h₃
    case middleButton b now source =>
      have hb : b ≠ 0 := by
        rintro rfl
        exact h₃ (.inr (by simp [mask]))
      refine .inl (reports_of_returned ?_)
      simp [he, MiddleButton.modify, MiddleButton.settle, MiddleButton.released, mask, hb]
  · have hp : s.mask i = s.middle.pendingbuttons := not_not.mp (not_or.mp h₂).right
    refine .inr ⟨hp ▸ h.pending, ?_, ?_⟩
    · simp [simulation, he, h.state]
    · simpa [simulation, he] using h.pending

theorem rests_of_released (hc : c.simulatesMiddle) (hp : s.middle.Pends) (h : s.mask i = 0) :
    ((simulation c).step s i).1.Rests where
  state       := (call_released hc hp h).left
  lastbuttons := h

theorem reports_of_step (h : s.Reports c i) : ∃ b ∈ (simulation c).out s (i :: is), b ≠ 0 :=
  have ⟨b, hm, hb⟩ := h
  ⟨b, List.mem_append_left _ hm, hb⟩

theorem reports_of_rest (h : ∃ b ∈ (simulation c).out ((simulation c).step s i).1 is, b ≠ 0) :
    ∃ b ∈ (simulation c).out s (i :: is), b ≠ 0 :=
  have ⟨b, hm, hb⟩ := h
  ⟨b, List.mem_append_right _ hm, hb⟩

-- The press is reported at the latest when no button is held.
theorem Owes.run {j : ButtonCall} (hc : c.simulatesMiddle) (h : s.Owes)
    (hj : ((simulation c).state s is).mask j = 0) :
    ∃ b ∈ (simulation c).out s (is ++ [j]), b ≠ 0 := by
  induction is generalizing s
  case nil =>
    cases @Owes.call c s j hc h
    case inl hr => exact reports_of_step hr
    case inr hr => exact absurd hj hr.left
  case cons i is hi =>
    cases @Owes.call c s i hc h
    case inl hr => exact reports_of_step hr
    case inr hr => exact reports_of_rest (hi hr.right hj)

theorem Rests.run {pre post : List ButtonCall} {j : ButtonCall} (hc : c.simulatesMiddle) (h : s.Rests)
    (hp : s.middle.Pends) (hi : ((simulation c).state s pre).mask i ≠ 0)
    (hj : ((simulation c).state s (pre ++ i :: post)).mask j = 0) :
    ∃ b ∈ (simulation c).out s (pre ++ i :: post ++ [j]), b ≠ 0 := by
  induction pre generalizing s
  case nil =>
    cases h.press hc hi
    case inl hr => exact reports_of_step hr
    case inr ho => exact reports_of_rest (ho.run hc hj)
  case cons k pre hr =>
    by_cases hk : s.mask k = 0
    case pos => exact reports_of_rest (hr (rests_of_released hc hp hk) (call_pends hc hp) hi hj)
    case neg =>
      cases h.press hc hk
      case inl hr => exact reports_of_step hr
      case inr ho => exact reports_of_rest (ho.run hc hj)

end Simulation

-- No click is lost, and the simulation does not stick in a state.
theorem simulation_clicks (c : Settings) (s : Simulation) (hc : c.simulatesMiddle)
    (hs : s.middle.mbuttonstate = .noButtons) (hp : s.middle.pendingbuttons = 0) :
    (∀ calls i, ((simulation c).state s calls).mask i = 0 →
      ((simulation c).state s (calls ++ [i])).middle.mbuttonstate = .noButtons ∧
        (((simulation c).state s calls).call c i).buttons = 0) ∧
    (∀ calls, ((simulation c).state s calls).middle.pendingbuttons ≠ 0 ↔
      ((simulation c).state s calls).middle.mbuttonstate = .wait4Two ∨
        ((simulation c).state s calls).middle.mbuttonstate = .wait4None) ∧
    (∀ calls i pre k post j, ((simulation c).state s calls).mask i = 0 →
      ((simulation c).state s (calls ++ i :: pre)).mask k ≠ 0 →
      ((simulation c).state s (calls ++ i :: (pre ++ k :: post))).mask j = 0 →
      ∃ b ∈ (simulation c).out ((simulation c).state s (calls ++ [i])) (pre ++ k :: post ++ [j]),
        b ≠ 0) := by
  have hi : s.middle.Pends := iff_of_false (· hp) (by simp [MiddleButton.Waiting, hs])
  have hr (calls : List ButtonCall) : ((simulation c).state s calls).middle.Pends :=
    (Simulation.invariant_pends hc).run (.of_forall fun _ _ => trivial) hi
  refine ⟨fun calls i hz => ?_, fun calls => hr calls, fun calls i pre k post j hz hk hj => ?_⟩
  · rw [Mealy.state_append]
    exact Simulation.call_released hc (hr calls) hz
  · have he (is : List ButtonCall) : (simulation c).state s (calls ++ i :: is) =
        (simulation c).state ((simulation c).state s (calls ++ [i])) is := by
      rw [← Mealy.state_append, List.append_assoc, List.singleton_append]
    rw [he] at hk hj
    refine Simulation.Rests.run hc ?_ (hr _) hk hj
    rw [Mealy.state_append]
    exact Simulation.rests_of_released hc (hr calls) hz

-- A click that is shorter than the delay.
theorem simulation_clicks_short :
    ∃ b ∈ (simulation { fakemiddlebutton := true, buttonCount := 3 }).out
        ((simulation { fakemiddlebutton := true, buttonCount := 3 }).state {}
          ([] ++ [.middleButton 0 0 .fromTrackpad]))
        ([] ++ .middleButton 1 1 .fromTrackpad :: [] ++ [.middleButton 0 2 .fromTrackpad]), b ≠ 0 :=
  (simulation_clicks { fakemiddlebutton := true, buttonCount := 3 } {} (by decide) rfl rfl).right.right
    [] (.middleButton 0 0 .fromTrackpad) [] (.middleButton 1 1 .fromTrackpad) []
    (.middleButton 0 2 .fromTrackpad) rfl (by decide) rfl

section Chords

-- The left and the right button.
def Chord (buttons : UInt32) : Prop :=
  buttons &&& 0x3 = 0x3
  deriving Decidable

variable {c : Settings} {m : MiddleButton} {buttons : UInt32} {now : UInt64} {source : MBComingFrom}

theorem MiddleButton.chord_of_modify (h : Chord (m.modify buttons)) : Chord buttons := by
  have hw : ¬Chord (buttons &&& ~~~0x3) := by
    rw [Chord, UInt32.and_assoc]
    simp
  simp only [modify] at h
  split at h
  · exact absurd h (by decide)
  · exact absurd h hw
  · exact absurd h hw
  · exact h
  · exact h

-- A press that makes a chord with the buttons is another one.
theorem MiddleButton.nextState_chord (hp : m.Pends) (hb : ¬Chord buttons)
    (hc : Chord (buttons ||| m.pendingbuttons)) :
    (m.nextState c buttons now source).2 =
      if source = .fromTimer ∨ m.mbuttonstate = .wait4Two ∧ buttons &&& m.pendingbuttons = 0 then
        m.dispatchPending buttons
      else
        [] := by
  have h₃ : buttons ≠ 0x3 := by
    rintro rfl
    exact hb (by decide)
  have hn : buttons ≠ m.pendingbuttons := fun he => hb (by rwa [← he, UInt32.or_self] at hc)
  have h₀ : m.pendingbuttons ≠ 0 := fun he => hb (by rwa [he, UInt32.or_zero] at hc)
  rcases hp.mp h₀ with hm | hm
  case inl => simp [nextState, hm, h₃, hn]
  case inr =>
    simp only [nextState, hm, hn, ne_eq, not_false_iff, or_true, if_true]
    split
    case isFalse => simp
    case isTrue h =>
      have hs : source ≠ .fromTimer := by
        rintro rfl
        simp [timeout] at h
      simp [hs]

namespace Simulation

variable {s : Simulation} {i : ButtonCall}

-- A press of one of the two buttons is still pending when the mask of a call has the other one only, and
-- is dispatched together with it.
structure Joins (s : Simulation) (i : ButtonCall) : Prop where
  mask       : ¬Chord (s.mask i)
  joined     : Chord (s.mask i ||| s.middle.pendingbuttons)
  dispatched : i.source = .fromTimer ∨
    s.middle.mbuttonstate = .wait4Two ∧ s.mask i &&& s.middle.pendingbuttons = 0

theorem next_chord (hp : s.middle.Pends) (hb : ¬Chord (s.mask i))
    (hc : Chord (s.mask i ||| s.middle.pendingbuttons)) :
    (s.next c i).2 =
      if i.source = .fromTimer ∨
        s.middle.mbuttonstate = .wait4Two ∧ s.mask i &&& s.middle.pendingbuttons = 0 then
        s.middle.dispatchPending (s.mask i)
      else
        [] := by
  rw [← @found_dispatchPending s i]
  rw [← @found_pendingbuttons s i] at hc ⊢
  rw [← @found_mbuttonstate s i]
  exact MiddleButton.nextState_chord (found_pends hp) hb hc

-- What is emitted by a call comes from the mask, or is the pending press together with it.
theorem emitted_cases {b : UInt32} (hc : c.simulatesMiddle) (hb : b ∈ s.emitted c i) :
    b = (s.next c i).1.modify (s.mask i) ∨
      b = s.mask i ||| s.middle.pendingbuttons ∧ (s.next c i).2 ≠ [] := by
  rw [emitted, dispatched, call_simulated hc, List.mem_append] at hb
  rcases hb with hb | hb
  case inr => exact .inl (List.mem_singleton.mp hb)
  case inl =>
    rcases @MiddleButton.nextState_events c (s.found i) (s.mask i) i.now i.source with he | he
    case inl => simp [next, he] at hb
    case inr =>
      rw [found_dispatchPending] at he
      refine .inr ⟨?_, by simp [next, he, MiddleButton.dispatchPending]⟩
      simpa [next, he, MiddleButton.dispatchPending, HidEvent.buttons?] using hb

theorem call_chord_iff (hc : c.simulatesMiddle) (hp : s.middle.Pends) :
    (∀ b ∈ s.emitted c i, Chord b → Chord (s.mask i)) ↔ ¬s.Joins i := by
  constructor
  case mp =>
    intro h hj
    have he : (s.next c i).2 = s.middle.dispatchPending (s.mask i) := by
      rw [next_chord hp hj.mask hj.joined, if_pos hj.dispatched]
    refine hj.mask (h _ ?_ hj.joined)
    rw [emitted, dispatched, call_simulated hc, he]
    exact List.mem_append_left _ (List.mem_singleton_self _)
  case mpr =>
    intro hj b hb hb'
    by_contra hm
    rcases emitted_cases hc hb with rfl | ⟨rfl, hn⟩
    case inl => exact hm (MiddleButton.chord_of_modify hb')
    case inr =>
      rw [next_chord hp hm hb'] at hn
      exact hj ⟨hm, hb', by_contra fun hd => hn (if_neg hd)⟩

end Simulation

end Chords

-- Only a call that joins a pending press with the other button invents a chord.
theorem simulation_chords_iff (c : Settings) (s : Simulation) (calls : List ButtonCall)
    (hc : c.simulatesMiddle) (hs : s.middle.mbuttonstate = .noButtons)
    (hp : s.middle.pendingbuttons = 0) :
    (simulation c).Along (fun s i => ∀ b ∈ s.emitted c i, Chord b → Chord (s.mask i)) s calls ↔
      (simulation c).Along (fun s i => ¬s.Joins i) s calls :=
  (Simulation.invariant_pends hc).along_iff (fun _ _ => Simulation.call_chord_iff hc)
    (iff_of_false (· hp) (by simp [MiddleButton.Waiting, hs]))

-- A press of the left button that is not released before the right one is pressed, too.
theorem simulation_chords_middle :
    (simulation { fakemiddlebutton := true, buttonCount := 3 }).Along
      (fun s i => ∀ b ∈ s.emitted { fakemiddlebutton := true, buttonCount := 3 } i,
        Chord b → Chord (s.mask i)) {}
      [.middleButton 1 0 .fromTrackpad, .middleButton 3 0 .fromTrackpad] :=
  (simulation_chords_iff { fakemiddlebutton := true, buttonCount := 3 } {}
    [.middleButton 1 0 .fromTrackpad, .middleButton 3 0 .fromTrackpad] (by decide) rfl rfl).mpr
    ⟨fun h => absurd h.joined (by decide), fun h => absurd h.mask (by decide), trivial⟩

-- The left button is followed by the right one with no report in between.
theorem not_simulation_chords :
    ¬ ∀ (c : Settings) (s : Simulation) (calls : List ButtonCall), c.simulatesMiddle →
      s.middle.mbuttonstate = .noButtons → s.middle.pendingbuttons = 0 →
        (simulation c).Along (fun s i => ∀ b ∈ s.emitted c i, Chord b → Chord (s.mask i)) s calls := by
  intro h
  have := h { fakemiddlebutton := true, buttonCount := 3 } {}
    [.middleButton 1 0 .fromTrackpad, .middleButton 2 0 .fromTrackpad] (by decide) rfl rfl
  exact absurd (this.right.left 3 (by decide) (by decide)) (by decide)

end Touchpad
