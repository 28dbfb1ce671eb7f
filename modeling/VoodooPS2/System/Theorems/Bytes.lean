import VoodooPS2.Keyboard.Theorems.Schedule
import VoodooPS2.System.Theorems.Settles

namespace Controller.Interrupt

section Drivers

variable {σ ω : PS2DeviceType → Type} {ds : Drivers σ ω} {as : List Action} {d : PS2DeviceType}

theorem driverActs_byte (as : List Action) (hi : ds.installed d = true) :
    (driverActs ds d as).filterMap Driver.Act.byte? = dispatched d as := by
  simp only [driverActs, dispatched, ofStream, List.filterMap_filterMap]
  congr 1
  funext a
  cases a
  case dispatchDriverInterrupt d' data =>
    simp only [Action.act?, Action.dispatched?, hi, and_true]
    by_cases h : d' = d
    case pos => simp [h, Driver.Act.byte?]
    case neg => simp [h]
  case packetAction d' =>
    simp only [Action.act?, Action.dispatched?]
    split <;> rfl
  case timerAction d' =>
    simp only [Action.act?, Action.dispatched?]
    split <;> rfl
  all_goals rfl

theorem left_of_not_consumed (h : consumed d as = []) : left d as = dispatched d as := by
  induction as
  case nil => rfl
  case cons a as hi =>
    simp only [left, dispatched, consumed, List.filterMap_cons] at h hi ⊢
    cases a
    case consume d' data =>
      by_cases hd : d' = d
      · simp [Action.consumed?, ofStream, hd] at h
      · simp only [Action.consumed?, ofStream_cons_ne hd] at h
        simpa [Action.left?, Action.dispatched?, Action.consumed?, ofStream_cons_ne hd] using hi h
    case dispatchDriverInterrupt d' data =>
      simp only [Action.consumed?] at h
      have hi := hi h
      show ofStream d ((d', data) :: as.filterMap Action.left?) =
        ofStream d ((d', data) :: as.filterMap Action.dispatched?)
      by_cases hd : d' = d
      · subst hd
        rw [ofStream_cons_self, ofStream_cons_self, hi]
      · rw [ofStream_cons_ne hd, ofStream_cons_ne hd, hi]
    all_goals exact hi h

end Drivers

variable {cfg : Keyboard.Config} {priv : Touchpad.AlpsData} {s : Keyboard.State} {t : Touchpad.Framer}
  {as : List Action} {sys : System DriverState}

-- No byte is lost, doubled or given to the wrong driver: a byte that was taken from the data port has
-- been dispatched to the driver of its device, or used up by a request, or it waits. Each driver is in the
-- state to which these bytes, its passes and its timer take it by themselves.
theorem system_conserves (cfg : Keyboard.Config) (priv : Touchpad.AlpsData) (s : Keyboard.State)
    (t : Touchpad.Framer) (h : Run (System.Step (drivers cfg priv)) (.init (driversInit s t)) as sys)
    (d : PS2DeviceType) :
    (taken d as).Perm (dispatched d as ++ consumed d as ++ ofStream d sys.held) ∧
    (driverActs (drivers cfg priv) d as).filterMap Driver.Act.byte? = dispatched d as ∧
    sys.driver d = ((drivers cfg priv).driver d).machine.state (driversInit s t d)
      (driverActs (drivers cfg priv) d as) := by
  have c := Conserves.run h
  refine ⟨?_, driverActs_byte as rfl, c.driver d⟩
  have hp : (as.filterMap Action.taken?).Perm
      (as.filterMap Action.dispatched? ++ as.filterMap Action.consumed? ++ sys.held) := by
    rw [List.perm_iff_count]
    intro e
    rw [c.count e, List.count_append, List.count_append]
  have hp := hp.filterMap fun p => if p.1 = d then some p.2 else none
  simpa [taken, dispatched, consumed, ofStream] using hp

-- Two handlers, of which the later one is the first to dispatch its byte.
theorem system_conserves_nested :
    let as := [.interruptHandler, .take 0x01 0x1e, .interruptHandler, .take 0x01 0x9e,
      .dispatchDriverInterrupt .keyboard 0x9e, .dispatchDriverInterrupt .keyboard 0x1e]
    ∃ sys : System DriverState, (taken .keyboard as).Perm
        (dispatched .keyboard as ++ consumed .keyboard as ++ ofStream .keyboard sys.held) ∧
      (driverActs (drivers {} Touchpad.privV3) .keyboard as).filterMap Driver.Act.byte? =
        dispatched .keyboard as ∧
      sys.driver .keyboard = ((drivers {} Touchpad.privV3).driver .keyboard).machine.state
        (driversInit ⟨⟨{}, ⟨fun _ => 0, 0, 0⟩⟩, {}⟩ .zero .keyboard)
        (driverActs (drivers {} Touchpad.privV3) .keyboard as) :=
  ⟨_, system_conserves {} Touchpad.privV3 ⟨⟨{}, ⟨fun _ => 0, 0, 0⟩⟩, {}⟩ .zero
    (.cons (.interruptHandler rfl) <| .cons (.take [] (by decide)) <|
      .cons (.interruptHandler rfl) <| .cons (.take [] (by decide)) <|
      .cons (.dispatch []) <| .single (.dispatch [_])) .keyboard⟩

-- The packets of the keyboard are handled as if each byte were dealt with at once.
theorem machine_eq :
    (Keyboard.actions cfg).machine.step s = fun a => (Keyboard.keyboard cfg).step s (.ofDriver a) := by
  funext a
  cases a
  case byte data => rfl
  case pass      =>
    simp only [Driver.machine, Keyboard.actions, Keyboard.keyboard, Keyboard.Act.ofDriver]
    split <;> rfl
  case timer     =>
    simp only [Driver.machine, Keyboard.actions, Keyboard.keyboard, Keyboard.Act.ofDriver]
    split <;> rfl

theorem machine_run {acts : List Driver.Act} : (Keyboard.actions cfg).machine.run s acts =
    (Keyboard.keyboard cfg).run s (acts.map .ofDriver) := by
  induction acts generalizing s
  case nil => rfl
  case cons a acts hi => simp only [Mealy.run, List.map_cons, machine_eq, hi]

theorem byte?_ofDriver (acts : List Driver.Act) :
    (acts.map Keyboard.Act.ofDriver).filterMap Keyboard.Act.byte? = acts.filterMap Driver.Act.byte? := by
  rw [List.filterMap_map]
  congr 1
  funext a
  cases a <;> rfl

theorem timer_notMem (ds : Drivers DriverState DriverEffect) (ht : .timerAction .keyboard ∉ as) :
    .timer ∉ (driverActs ds .keyboard as).map Keyboard.Act.ofDriver := by
  intro hm
  obtain ⟨a, ha, he⟩ := List.mem_map.mp hm
  obtain ⟨b, hb, he'⟩ := List.mem_filterMap.mp ha
  cases a
  case byte  => simp [Keyboard.Act.ofDriver] at he
  case pass  => simp [Keyboard.Act.ofDriver] at he
  case timer =>
    apply ht
    cases b
    case timerAction d =>
      obtain rfl : d = .keyboard := by simpa [Action.act?] using he'
      exact hb
    all_goals simp [Action.act?] at he'

-- What the keyboard sends to the HID system in a run.
def sent (cfg : Keyboard.Config) (priv : Touchpad.AlpsData) (s : Keyboard.State) (as : List Action) :
    List Keyboard.Effect :=
  (Keyboard.keyboard cfg).out { s with receiver := { s.receiver with ringBuffer := s.receiver.ringBuffer.reset } }
    ((driverActs (drivers cfg priv) .keyboard as).map .ofDriver)

-- What the bytes mean, without interrupts, wake-ups and buffers.
def meant (cfg : Keyboard.Config) (s : Keyboard.State) (bytes : List UInt8) : List Keyboard.Effect :=
  (Keyboard.dispatching cfg).out s.dispatcher ((Keyboard.scanning cfg.ps2flags).out s.receiver.scanner bytes)

theorem meant_append {l₁ l₂ : List UInt8} : meant cfg s l₁ <+: meant cfg s (l₁ ++ l₂) := by
  simp [meant, Mealy.out_append]

theorem quiescent_held (hq : sys.Quiescent) : sys.held = [] := by
  rw [System.held, hq.handlers, hq.workLoop]
  rfl

end Controller.Interrupt
