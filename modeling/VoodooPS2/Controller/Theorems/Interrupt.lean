import Mathlib.Data.List.Perm.Basic
import VoodooPS2.Controller.Interrupt
import VoodooPS2.Controller.Theorems.Port

namespace Controller.Interrupt

variable {σ ω : PS2DeviceType → Type} {ds : Drivers σ ω} {s s' : System σ} {a : Action}
  {as : List Action} {x : (d : PS2DeviceType) → σ d} {d d' : PS2DeviceType} {data : UInt8}

-- The bytes of a device that were taken from the data port, those of them that were given to its driver,
-- those that a request has used up, and these two together.
def taken (d : PS2DeviceType) (as : List Action) : List UInt8 :=
  ofStream d (as.filterMap Action.taken?)

def dispatched (d : PS2DeviceType) (as : List Action) : List UInt8 :=
  ofStream d (as.filterMap Action.dispatched?)

def consumed (d : PS2DeviceType) (as : List Action) : List UInt8 :=
  ofStream d (as.filterMap Action.consumed?)

def left (d : PS2DeviceType) (as : List Action) : List UInt8 :=
  ofStream d (as.filterMap Action.left?)

-- What a run is to the driver of the device.
def driverActs (ds : Drivers σ ω) (d : PS2DeviceType) (as : List Action) : List Driver.Act :=
  as.filterMap (Action.act? ds d)

-- No byte of the device is taken while another one of the device waits.
def System.Exclusive (d : PS2DeviceType) (s : System σ) (a : Action) : Prop :=
  ∀ e ∈ a.taken?, e.1 = d → ofStream d s.held = []

theorem filterMap_concat {β : Type} {f : Action → Option β} :
    (as ++ [a]).filterMap f = as.filterMap f ++ (f a).toList := by
  rw [List.filterMap_append, List.filterMap_cons]
  cases f a <;> rfl

namespace Drivers

-- The dispatch of a byte is a step of the driver, if there is one, and nothing to the other driver.
theorem dispatch_self : (ds._dispatchDriverInterrupt x d data).1 d =
    if ds.installed d then ((ds.driver d).interruptAction (x d) data).1 else x d := by
  unfold _dispatchDriverInterrupt
  split
  · exact Function.update_self ..
  · rfl

theorem dispatch_ne (h : d' ≠ d) : (ds._dispatchDriverInterrupt x d data).1 d' = x d' := by
  unfold _dispatchDriverInterrupt
  split
  · exact Function.update_of_ne h ..
  · rfl

theorem dispatch_driver : (ds._dispatchDriverInterrupt x d data).1 d' =
    (ds.driver d').machine.state (x d') (Action.act? ds d' (.dispatchDriverInterrupt d data)).toList := by
  by_cases h : d' = d
  case neg => simp [dispatch_ne h, Action.act?, Ne.symm h]
  case pos =>
    subst h
    rw [dispatch_self]
    by_cases hi : ds.installed d' = true
    · simp [Action.act?, hi, Driver.machine]
    · simp [Action.act?, hi]

end Drivers

theorem WorkLoop.held_waking_or {c : Prop} [Decidable c] {l : List (PS2DeviceType × UInt8)} :
    (if c then waking d l else request l).held = l := by
  split <;> rfl

theorem Action.left?_count (a : Action) (e : PS2DeviceType × UInt8) :
    a.left?.toList.count e = a.dispatched?.toList.count e + a.consumed?.toList.count e := by
  cases a <;> simp [left?, dispatched?, consumed?]

namespace System

-- A byte enters with a read of the data port, and leaves with a dispatch or with its use by a request.
theorem Step.held_cases (h : s.Step ds a s') :
    (∃ e l₁ l₂, s.held = l₁ ++ l₂ ∧ s'.held = l₁ ++ e :: l₂ ∧ a.taken? = some e ∧ a.left? = none) ∨
    (∃ e l₁ l₂, s.held = l₁ ++ e :: l₂ ∧ s'.held = l₁ ++ l₂ ∧ a.taken? = none ∧ a.left? = some e) ∨
    s'.held = s.held ∧ a.taken? = none ∧ a.left? = none := by
  cases h
  case take status i hs₂ w q x data f hs₁ hr =>
    refine .inl ⟨(stream status, data), hs₁.flatMap (·.phase.held), hs₂.flatMap (·.phase.held) ++ w.held, ?_⟩
    simp [held, Phase.held, Action.taken?, Action.left?, Action.dispatched?, Action.consumed?]
  case takeRequest status i hs l q x data hr =>
    refine .inl ⟨(stream status, data), hs.flatMap (·.phase.held) ++ l, [], ?_⟩
    simp [held, WorkLoop.held, Action.taken?, Action.left?, Action.dispatched?, Action.consumed?]
  case dispatch i hs₂ w q x d data f hs₁ =>
    refine .inr <| .inl ⟨(d, data), hs₁.flatMap (·.phase.held), hs₂.flatMap (·.phase.held) ++ w.held, ?_⟩
    simp [held, Phase.held, Action.taken?, Action.left?, Action.dispatched?]
  case dispatchRequest i hs l₁ d data l₂ q x =>
    refine .inr <| .inl ⟨(d, data), hs.flatMap (·.phase.held) ++ l₁, l₂, ?_⟩
    simp only [held, WorkLoop.held_waking_or]
    simp [WorkLoop.held, Action.taken?, Action.left?, Action.dispatched?]
  case consume i hs d data l₂ q x l₁ =>
    refine .inr <| .inl ⟨(d, data), hs.flatMap (·.phase.held) ++ l₁, l₂, ?_⟩
    simp [held, WorkLoop.held, Action.taken?, Action.left?, Action.dispatched?, Action.consumed?]
  case packetReady =>
    refine .inr <| .inr ⟨?_, rfl, rfl⟩
    dsimp only [held]
    split <;> rfl
  all_goals
    refine .inr <| .inr ⟨?_, rfl, rfl⟩
    simp [held, Phase.held, WorkLoop.held]

-- Each driver makes the step that the action is to it.
theorem Step.driver_state (h : s.Step ds a s') (d : PS2DeviceType) :
    s'.driver d = (ds.driver d).machine.state (s.driver d) (a.act? ds d).toList := by
  cases h
  case dispatch        => exact Drivers.dispatch_driver
  case dispatchRequest => exact Drivers.dispatch_driver
  case packetAction d' _ r _ _ _ hr =>
    by_cases h : d = d'
    case neg => simp [Action.act?, Ne.symm h, Function.update_of_ne h]
    case pos =>
      subst h
      simp [Action.act?, Driver.machine, hr]
  case timerAction d' _ r _ _ _ hr =>
    by_cases h : d = d'
    case neg => simp [Action.act?, Ne.symm h, Function.update_of_ne h]
    case pos =>
      subst h
      simp [Action.act?, Driver.machine, hr]
  all_goals rfl

end System

-- All bytes that were taken are somewhere, and each driver has seen what was dispatched to it and its
-- passes, in the order of the run.
structure Conserves (ds : Drivers σ ω) (x : (d : PS2DeviceType) → σ d) (as : List Action) (s : System σ) :
    Prop where
  count  : ∀ e, (as.filterMap Action.taken?).count e =
    (as.filterMap Action.dispatched?).count e + (as.filterMap Action.consumed?).count e + s.held.count e
  driver : ∀ d, s.driver d = (ds.driver d).machine.state (x d) (driverActs ds d as)

namespace Conserves

theorem init : Conserves ds x [] (.init x) where
  count _  := rfl
  driver _ := rfl

theorem step (c : Conserves ds x as s) (h : s.Step ds a s') : Conserves ds x (as ++ [a]) s' where
  count e := by
    have hc := c.count e
    have hl := a.left?_count e
    simp only [filterMap_concat, List.count_append]
    obtain ⟨e', l₁, l₂, hs, hs', ht, hl'⟩ | ⟨e', l₁, l₂, hs, hs', ht, hl'⟩ | ⟨hs, ht, hl'⟩ := h.held_cases
    · simp [hs, hs', ht, hl', List.count_cons] at hc hl ⊢
      omega
    · simp [hs, hs', ht, hl', List.count_cons] at hc hl ⊢
      omega
    · simp [hs, ht, hl'] at hl ⊢
      omega
  driver d := by
    rw [h.driver_state d, c.driver d, driverActs, driverActs, filterMap_concat, Mealy.state_append]

theorem run (h : Run (System.Step ds) (.init x) as s) : Conserves ds x as s :=
  h.history (t := []) step init

end Conserves

section Order

variable {e : PS2DeviceType × UInt8} {l₁ l₂ : List (PS2DeviceType × UInt8)}

theorem ofStream_cons : ofStream d (e :: l₁) = ofStream d [e] ++ ofStream d l₁ :=
  @ofStream_append d [e] l₁

theorem ofStream_of_ne (h : e.1 ≠ d) : ofStream d [e] = [] := by
  simp [ofStream, h]

theorem ofStream_self : ofStream e.1 [e] = [e.2] := by
  simp [ofStream]

-- What waits alone may be put before or behind what belongs to others.
theorem ofStream_middle (h : (ofStream d (l₁ ++ e :: l₂)).length ≤ 1) :
    ofStream d (l₁ ++ e :: l₂) = ofStream d [e] ++ ofStream d (l₁ ++ l₂) := by
  rw [ofStream_append, ofStream_cons] at h ⊢
  rw [ofStream_append]
  by_cases he : e.1 = d
  case neg => simp [ofStream_of_ne he]
  case pos =>
    subst he
    simp only [ofStream_self, List.length_append, List.length_singleton] at h ⊢
    have h₁ : ofStream e.1 l₁ = [] := List.eq_nil_of_length_eq_zero (by omega)
    simp [h₁]

theorem System.Step.ordered (h : s.Step ds a s') (hx : s.Exclusive d a)
    (hl : (ofStream d s.held).length ≤ 1) :
    ofStream d s.held ++ ofStream d a.taken?.toList = ofStream d a.left?.toList ++ ofStream d s'.held ∧
    (ofStream d s'.held).length ≤ 1 := by
  obtain ⟨e, l₁, l₂, hs, hs', ht, hl'⟩ | ⟨e, l₁, l₂, hs, hs', ht, hl'⟩ | ⟨hs, ht, hl'⟩ := h.held_cases
  case inl =>
    have hx : e.1 = d → ofStream d s.held = [] := hx e ht
    have h₁ : (ofStream d s'.held).length ≤ 1 := by
      rw [hs', ofStream_append, ofStream_cons]
      rw [hs, ofStream_append] at hx hl
      by_cases he : e.1 = d
      · subst he
        have hx := List.append_eq_nil_iff.mp (hx rfl)
        simp [hx, ofStream_self]
      · simpa [ofStream_of_ne he] using hl
    refine ⟨?_, h₁⟩
    rw [hs'] at h₁
    rw [ht, hl', hs', ofStream_middle h₁, ← hs]
    by_cases he : e.1 = d
    · subst he
      simp [hx rfl]
    · simp [ofStream_of_ne he]
  case inr.inl =>
    rw [hs] at hl
    have hm := ofStream_middle hl
    rw [hs, hs', ht, hl', hm]
    refine ⟨by simp, ?_⟩
    rw [hm, List.length_append] at hl
    omega
  case inr.inr =>
    rw [hs, ht, hl']
    exact ⟨by simp, hl⟩

-- Bytes of a device do not pass each other as long as none of them is taken while another one waits.
theorem left_prefix (h : Run (fun s a s' => s.Step ds a s' ∧ s.Exclusive d a) (.init x) as s) :
    taken d as = left d as ++ ofStream d s.held := by
  have := h.history (t := [])
    (I := fun t s => taken d t = left d t ++ ofStream d s.held ∧ (ofStream d s.held).length ≤ 1)
    (fun ⟨hi, hl⟩ ⟨hs, hx⟩ => by
      have ⟨ho, hl'⟩ := hs.ordered hx hl
      refine ⟨?_, hl'⟩
      simp only [taken, left, filterMap_concat, ofStream_append] at hi ⊢
      rw [hi, List.append_assoc, ho, List.append_assoc])
    ⟨rfl, Nat.zero_le 1⟩
  exact this.left

end Order

section HandleInterrupt

open Scripted

variable {h : Handling σ} {is : List UInt8}

-- A pass either finds nothing and leaves the loop, or takes a byte and dispatches it.
theorem handleInterrupt_pass {o : Outcome UInt8 Access (Handling σ ⊕ Handling σ)}
    (hp : handleInterrupt.pass ds h is = some o) :
    (∃ status, status &&& kOutputReady = 0 ∧ o.val = .inr h ∧ o.log = [.poll status]) ∨
    ∃ status data, status &&& kOutputReady ≠ 0 ∧
      o.log = [.poll status, .take (stream status) data, .dispatchDriverInterrupt (stream status) data] ∧
      o.val =
        let r := ds._dispatchDriverInterrupt h.driver (stream status) data
        .inl ⟨r.1, if r.2 = .packetReady then Function.update h.wake (stream status) true else h.wake⟩ := by
  have ⟨o₁, o₂, h₁, h₂, ho⟩ := bind_eq_some.mp hp
  obtain ⟨status, is', rfl, rfl⟩ := inbCommandPort_eq_some h₁
  by_cases hs : status &&& kOutputReady = 0
  case pos =>
    rw [if_pos hs] at h₂
    obtain rfl := pure_eq_some.mp h₂
    exact .inl ⟨status, hs, by rw [ho], by rw [ho]; rfl⟩
  case neg =>
    rw [if_neg hs] at h₂
    have ⟨o₃, o₄, h₃, h₄, ho₂⟩ := bind_eq_some.mp h₂
    obtain ⟨data, is'', rfl, rfl⟩ := inbDataPort_eq_some h₃
    have ⟨o₅, o₆, h₅, h₆, ho₄⟩ := bind_eq_some.mp h₄
    obtain rfl := emit_eq_some.mp h₅
    obtain rfl := pure_eq_some.mp h₆
    exact .inr ⟨status, data, hs, by rw [ho, ho₂, ho₄]; rfl, by rw [ho, ho₂, ho₄]⟩

-- What the function does when nothing comes in between is a run of the system.
theorem handleInterrupt_run {o : Outcome UInt8 Access (Handling σ)} (ho : handleInterrupt ds x is = some o)
    (i : Int) (hs : List Handler) (w : WorkLoop) (q : PS2DeviceType → Bool) :
    ∃ as, Run (System.Step ds) ⟨i, {} :: hs, w, q, x⟩ as
        ⟨i, hs, w, System.signalIf (o.val.wake .keyboard) (System.signalIf (o.val.wake .mouse) q .mouse)
          .keyboard, o.val.driver⟩ ∧
      as.filterMap Action.taken? = Controller.taken o.log ∧
      as.filterMap Action.dispatched? = Controller.dispatched o.log := by
  refine loop_induction (P := fun h _ o =>
    ∃ as, Run (System.Step ds) ⟨i, ⟨.polling, h.wake⟩ :: hs, w, q, h.driver⟩ as
        ⟨i, hs, w, System.signalIf (o.val.wake .keyboard) (System.signalIf (o.val.wake .mouse) q .mouse)
          .keyboard, o.val.driver⟩ ∧
      as.filterMap Action.taken? = Controller.taken o.log ∧
      as.filterMap Action.dispatched? = Controller.dispatched o.log) ?leave ?again ho
  case leave =>
    intro h is o h' hp hv
    rcases handleInterrupt_pass hp with ⟨status, hs, hv', hl⟩ | ⟨status, data, _, _, hv'⟩
    case inr => simp [hv'] at hv
    case inl =>
      obtain rfl : h = h' := by simpa [hv'] using hv
      refine ⟨_, .cons (.breakLoop [] hs) <| .cons (.wakeMouse []) <|
        .single (.wakeKeyboard []), ?_, ?_⟩
      · rw [hl]; rfl
      · rw [hl]; rfl
  case again =>
    intro h is o h' o' hp hv hi
    rcases handleInterrupt_pass hp with ⟨status, hs, hv', hl⟩ | ⟨status, data, hs, hl, hv'⟩
    case inl => simp [hv'] at hv
    case inr =>
      have ⟨as, hr, ht, hd⟩ := hi
      obtain rfl := Sum.inl.inj (hv'.symm.trans hv)
      refine ⟨_, .cons (.take [] hs) <| .cons (.dispatch []) hr, ?_, ?_⟩
      · rw [hl, taken_append, ← ht]; rfl
      · rw [hl, dispatched_append, ← hd]; rfl

end HandleInterrupt
end Controller.Interrupt
