import VoodooPS2.Touchpad.MiddleButton

namespace Touchpad

-- The mask of the last pointer event, if the mask was `b` before.
def buttonsAfter (b : UInt32) (events : List HidEvent) : UInt32 :=
  events.foldl (fun | _, .relativePointer _ _ b => b | b, _ => b) b

section Masks

variable {b : UInt32} {events events₁ events₂ : List HidEvent} {dx dy : Int} {buttons : UInt32}

@[simp]
theorem buttonsAfter_nil : buttonsAfter b [] = b :=
  rfl

@[simp]
theorem buttonsAfter_append :
    buttonsAfter b (events₁ ++ events₂) = buttonsAfter (buttonsAfter b events₁) events₂ :=
  List.foldl_append

@[simp]
theorem buttonsAfter_pointer : buttonsAfter b [.relativePointer dx dy buttons] = buttons :=
  rfl

@[simp]
theorem buttonsAfter_divideByZero : buttonsAfter b [.divideByZero] = b :=
  rfl

theorem or_ne_zero_of_right {m n : UInt32} (h : n ≠ 0) : m ||| n ≠ 0 := by
  intro he
  apply h
  have := congrArg UInt32.toNat he
  rw [UInt32.toNat_or, UInt32.toNat_zero, Nat.or_eq_zero_iff] at this
  exact UInt32.toNat_inj.mp this.right

end Masks

namespace MiddleButton

variable {c : Settings} {ignoreall : Bool} {m : MiddleButton} {buttons : UInt32} {now : UInt64}
variable {source : MBComingFrom}

def Waiting (m : MiddleButton) : Prop :=
  m.mbuttonstate = .wait4Two ∨ m.mbuttonstate = .wait4None

-- The timer is set during a delay, which is always one of a button.
structure Consistent (m : MiddleButton) : Prop where
  timer   : m.buttonTimerSet ↔ m.Waiting
  pending : m.Waiting → m.pendingbuttons ≠ 0

theorem consistent_init : Consistent {} where
  timer   := by simp [Waiting]
  pending := by simp [Waiting]

theorem consistent_wait {state : MButtonState} (h : buttons ≠ 0)
    (hs : state = .wait4Two ∨ state = .wait4None) : (wait buttons now state).Consistent where
  timer   := iff_of_true rfl hs
  pending := fun _ => h

theorem consistent_settle {state : MButtonState} (h : state = .middle ∨ state = .noButtons ∨ state = .noOp) :
    (m.settle state).Consistent := by
  rcases h with rfl | rfl | rfl <;> exact ⟨by simp [Waiting, settle], by simp [Waiting, settle]⟩

theorem released_cases : released buttons = .noButtons ∨ released buttons = .noOp := by
  simp only [released]
  split
  · exact .inl rfl
  · exact .inr rfl

theorem consistent_settle_released : (m.settle (released buttons)).Consistent :=
  consistent_settle (.inr released_cases)

-- The states that are not those of a delay keep the timer as it is.
theorem Consistent.leave {state : MButtonState} (hc : m.Consistent) (hw : ¬m.Waiting)
    (h : state ≠ .wait4Two ∧ state ≠ .wait4None) : { m with mbuttonstate := state }.Consistent where
  timer   := iff_of_false (fun ht => hw (hc.timer.mp ht)) (fun hs => hs.elim h.left h.right)
  pending := fun hs => (hs.elim h.left h.right).elim

-- What a call may change.
inductive Change (m : MiddleButton) : MiddleButton → Prop
  | none : Change m m
  | leave {state} :
    ¬m.Waiting → state ≠ .wait4Two ∧ state ≠ .wait4None → Change m { m with mbuttonstate := state }
  | wait {b t state} :
    b ≠ 0 → state = .wait4Two ∨ state = .wait4None → Change m (wait b t state)
  | settle {state} :
    state = .middle ∨ state = .noButtons ∨ state = .noOp → Change m (m.settle state)

theorem nextState_change : m.Change (m.nextState c buttons now source).1 := by
  cases hm : m.mbuttonstate <;> simp only [nextState, hm]
  case noButtons =>
    have hw : ¬m.Waiting := by simp [Waiting, hm]
    split_ifs
    · exact .none
    · exact .leave hw (by decide)
    · exact .leave hw (by decide)
    · exact .wait ‹_› (.inl rfl)
    · exact .none
  case wait4Two =>
    split_ifs
    · exact .settle (.inl rfl)
    · exact .settle (.inr released_cases)
    · exact .settle (.inr released_cases)
    · exact .none
  case middle =>
    have hw : ¬m.Waiting := by simp [Waiting, hm]
    split_ifs
    · exact .leave hw (by decide)
    · exact .wait ‹_› (.inr rfl)
    · exact .none
  case wait4None =>
    split_ifs
    · exact .settle (.inr (.inl rfl))
    · exact .settle (.inr released_cases)
    · exact .settle (.inr released_cases)
    · exact .none
  case noOp =>
    have hw : ¬m.Waiting := by simp [Waiting, hm]
    split_ifs
    · exact .leave hw (by decide)
    · exact .none

theorem nextState_consistent (hc : m.Consistent) : (m.nextState c buttons now source).1.Consistent := by
  have h := @nextState_change c m buttons now source
  generalize (m.nextState c buttons now source).1 = m' at h
  cases h
  case none        => exact hc
  case leave hw hs => exact hc.leave hw hs
  case wait hb hs  => exact consistent_wait hb hs
  case settle hs   => exact consistent_settle hs

theorem nextState_events : (m.nextState c buttons now source).2 = [] ∨
    (m.nextState c buttons now source).2 = m.dispatchPending buttons := by
  cases hm : m.mbuttonstate <;> simp only [nextState, hm] <;> split_ifs <;> simp

-- A middle button is only simulated while physical buttons are held.
theorem nextState_zero : (m.nextState c 0 now source).1.mbuttonstate ≠ .middle := by
  cases hm : m.mbuttonstate <;> simp [nextState, hm, released, settle] <;> split_ifs <;> simp [hm]

theorem modify_zero (h : m.mbuttonstate ≠ .middle) : m.modify 0 = 0 := by
  cases hm : m.mbuttonstate <;> first | exact absurd hm h | simp [modify, hm]

-- The timer of a button that is not simulated is never set.
structure Ok (c : Settings) (m : MiddleButton) : Prop extends Consistent m where
  simulated : m.buttonTimerSet → c.simulatesMiddle

theorem ok_init : Ok c {} where
  toConsistent := consistent_init
  simulated    := by simp

theorem Ok.of_consistent (h : c.simulatesMiddle) (hc : m.Consistent) : m.Ok c where
  toConsistent := hc
  simulated    := fun _ => h

end MiddleButton

section MiddleButton

variable {c : Settings} {ignoreall : Bool} {m : MiddleButton} {buttons : UInt32} {now : UInt64}
variable {source : MBComingFrom}

-- Disabled, the state is left alone by the packets of the touchpad.
theorem middleButton_ignoreall : middleButton c true m buttons now .fromTrackpad = ⟨m, buttons, []⟩ :=
  if_pos (.inr ⟨rfl, rfl⟩)

theorem middleButton_ok (h : m.Ok c) : (middleButton c ignoreall m buttons now source).middle.Ok c := by
  simp only [middleButton]
  split
  case isTrue    => exact h
  case isFalse hs =>
    exact .of_consistent (not_not.mp (not_or.mp hs).left)
      (MiddleButton.nextState_consistent h.toConsistent)

-- Without a physical button, none is left.
theorem middleButton_released : (middleButton c ignoreall m 0 now source).buttons = 0 := by
  simp only [middleButton]
  split
  case isTrue  => rfl
  case isFalse => exact MiddleButton.modify_zero MiddleButton.nextState_zero

-- When its time is over, the delayed button is reported.
theorem middleButton_timer (h : m.Ok c) (hs : m.buttonTimerSet) :
    (middleButton c ignoreall { m with buttonTimerSet := false } buttons now .fromTimer).middle =
        m.settle (MiddleButton.released buttons) ∧
      (middleButton c ignoreall { m with buttonTimerSet := false } buttons now .fromTimer).events =
        [.relativePointer 0 0 (buttons ||| m.pendingbuttons)] := by
  have hc : c.simulatesMiddle := h.simulated hs
  rcases h.timer.mp hs with hw | hw <;>
    simp [middleButton, MiddleButton.nextState, MiddleButton.timeout, MiddleButton.settle,
      MiddleButton.dispatchPending, hc, hw]

theorem middleButton_timer_ok (h : m.Ok c) (hs : m.buttonTimerSet) :
    (middleButton c ignoreall { m with buttonTimerSet := false } buttons now .fromTimer).middle.Ok c := by
  rw [(middleButton_timer h hs).left]
  exact .of_consistent (h.simulated hs) MiddleButton.consistent_settle_released

-- Without a delayed button there is nothing to report when no button is held.
theorem middleButton_quiet (h : m.Ok c) (hs : ¬m.buttonTimerSet) :
    (middleButton c ignoreall m 0 now source).events = [] ∧
      ¬(middleButton c ignoreall m 0 now source).middle.buttonTimerSet := by
  have hw : ¬m.Waiting := fun hw => hs (h.timer.mpr hw)
  simp only [middleButton]
  split
  case isTrue  => exact ⟨rfl, hs⟩
  case isFalse =>
    cases hm : m.mbuttonstate
    case wait4Two | wait4None => simp [MiddleButton.Waiting, hm] at hw
    all_goals
      simp only [MiddleButton.nextState, hm]
      split_ifs <;> simp_all

-- Buttons that are held are either reported, or will be when their time is over.
theorem middleButton_held (h : m.Ok c) (hb : buttons ≠ 0) :
    (middleButton c ignoreall m buttons now source).buttons ≠ 0 ∨
      (middleButton c ignoreall m buttons now source).middle.buttonTimerSet := by
  have ho := @middleButton_ok c ignoreall m buttons now source h
  simp only [middleButton] at ho ⊢
  split
  case isTrue    => exact .inl hb
  case isFalse hs =>
    rw [if_neg hs] at ho
    cases hm : (m.nextState c buttons now source).1.mbuttonstate
    case wait4Two | wait4None => exact .inr (ho.timer.mpr (by simp [MiddleButton.Waiting, hm]))
    case middle               => exact .inl (by simp [MiddleButton.modify, hm])
    case noButtons | noOp     => exact .inl (by simpa [MiddleButton.modify, hm] using hb)

end MiddleButton

end Touchpad
