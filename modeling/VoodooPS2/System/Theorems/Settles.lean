import VoodooPS2.Controller.Theorems.WakeUps
import VoodooPS2.RingBuffer.Slots
import VoodooPS2.System.Drivers
import VoodooPS2.Touchpad.Theorems.Framer

namespace Controller.Interrupt.Driver

variable {σ ω T : Type} {N : Nat} {driver : Driver σ ω} {ring : σ → RingBuffer T N} {size : Nat} {s : σ}
  {data : UInt8} {n : Nat}

-- A driver that keeps its packets in a ring buffer. Its interrupt action may write to any cell, but moves
-- the ends only by closing the slot at the head, which it reports.
structure Buffered (driver : Driver σ ω) (ring : σ → RingBuffer T N) (size : Nat) : Prop where
  two_le    : 2 * size ≤ N
  interrupt : ∀ s data, ∃ r : RingBuffer T N, r.head = (ring s).head ∧ r.tail = (ring s).tail ∧
    ring (driver.interruptAction s data).1 =
      match (driver.interruptAction s data).2 with
      | .packetBuffering => r
      | .packetReady     => r.advanceHead size
  packet    : ∀ s, if size ≤ (ring s).count then
      ∃ r, driver.packetAction s = some r ∧ ring r.1 = (ring s).advanceTail size
    else driver.packetAction s = none
  timer     : ∀ {s r}, driver.timerAction s = some r → ring r.1 = ring s

namespace Buffered

theorem pending_iff (b : driver.Buffered ring size) (h : (ring s).Slotted size n) :
    driver.Pending s ↔ n ≠ 0 := by
  rw [← h.size_le_count_iff]
  have hp := b.packet s
  split at hp
  case isTrue hc =>
    have ⟨r, hr, _⟩ := hp
    simp [Pending, hr, hc]
  case isFalse hc => simp [Pending, hp, hc]

-- A reported packet is there, even if it is not the one that has just been completed.
theorem interrupt_slotted (b : driver.Buffered ring size) (data : UInt8) (h : (ring s).Slotted size n) :
    ∃ m ≤ n + 1, (ring (driver.interruptAction s data).1).Slotted size m ∧
      match (driver.interruptAction s data).2 with
      | .packetBuffering => m = n
      | .packetReady     => m ≠ 0 := by
  have ⟨r, hh, ht, he⟩ := b.interrupt s data
  have hr := h.of_ends hh ht
  rw [he]
  cases (driver.interruptAction s data).2
  case packetBuffering => exact ⟨n, Nat.le_succ n, hr, rfl⟩
  case packetReady =>
    rcases hr.advanceHead b.two_le with h' | ⟨hn, h'⟩
    · exact ⟨n + 1, Nat.le_refl _, h', Nat.succ_ne_zero n⟩
    · exact ⟨n, Nat.le_succ n, h', hn⟩

theorem lawful (b : driver.Buffered ring size) :
    driver.Lawful (fun s => ∃ n, (ring s).Slotted size n) fun s => (ring s).count / size where
  interrupt := by
    rintro s data ⟨n, h⟩
    have ⟨m, hm, h', _⟩ := b.interrupt_slotted data h
    exact ⟨⟨m, h'⟩, by rwa [h.count_div, h'.count_div]⟩
  packet := by
    rintro s r ⟨n, h⟩ hr
    have hp := b.packet s
    split at hp
    case isFalse => simp [hr] at hp
    case isTrue hc =>
      obtain ⟨r', hr', he⟩ := hp
      obtain rfl := Option.some.inj (hr.symm.trans hr')
      obtain ⟨n, rfl⟩ := Nat.exists_eq_succ_of_ne_zero (h.size_le_count_iff.mp hc)
      have h' := h.advanceTail
      rw [← he] at h'
      exact ⟨⟨n, h'⟩, by rw [h.count_div, h'.count_div]; exact Nat.lt_succ_self n⟩
  timer := by
    rintro s r ⟨n, h⟩ hr
    have h' : (ring r.1).Slotted size n := b.timer hr ▸ h
    exact ⟨⟨n, h'⟩, fun hp => (b.pending_iff h).mpr ((b.pending_iff h').mp hp)⟩
  buffering := by
    rintro s data ⟨n, h⟩ hr hp
    have ⟨m, _, h', hm⟩ := b.interrupt_slotted data h
    rw [hr] at hm
    subst hm
    exact (b.pending_iff h).mpr ((b.pending_iff h').mp hp)

end Buffered
end Controller.Interrupt.Driver

namespace Keyboard

theorem actions_buffered (cfg : Config) :
    (actions cfg).Buffered (·.receiver.ringBuffer) kPacketLength where
  two_le := by decide
  interrupt s data := by
    simp only [actions, interruptOccurred]
    cases (s.receiver.scanner.scan cfg.ps2flags data).2
    case none   => exact ⟨_, rfl, rfl, rfl⟩
    case some p =>
      exact ⟨(s.receiver.ringBuffer.setHeadCell 0 p.1).setHeadCell 1 p.2, rfl, rfl, rfl⟩
  packet s := by
    simp only [actions]
    split
    case isTrue  => exact ⟨_, rfl, rfl⟩
    case isFalse => rfl
  timer hr := by
    simp only [actions] at hr
    split at hr
    case isFalse => nomatch hr
    case isTrue  =>
      obtain rfl := Option.some.inj hr
      rfl

end Keyboard

namespace Touchpad

variable {priv : AlpsData} {s : Framer} {data : UInt8}

theorem saveFirst_ends : (s.saveFirst data).ringBuffer.head = s.ringBuffer.head ∧
    (s.saveFirst data).ringBuffer.tail = s.ringBuffer.tail := by
  unfold Framer.saveFirst
  split
  · exact ⟨rfl, rfl⟩
  · exact ⟨rfl, rfl⟩

theorem actions_buffered (priv : AlpsData) : (actions priv).Buffered Framer.ringBuffer priv.pktsize where
  two_le := by
    have := priv.pktsize_le_eight
    omega
  interrupt s data := by
    have ⟨hh, ht⟩ := @saveFirst_ends s data
    simp only [actions]
    by_cases hr : s.Rejects priv data
    case pos =>
      rw [interruptOccurred_of_rejects hr]
      exact ⟨_, hh, ht, rfl⟩
    case neg =>
      by_cases hc : s.Completes priv data
      case pos =>
        rw [interruptOccurred_of_completes hc]
        exact ⟨(s.kept data).ringBuffer, hh, ht, rfl⟩
      case neg =>
        rw [interruptOccurred_of_buffers hr hc]
        exact ⟨(s.kept data).ringBuffer, hh, ht, rfl⟩
  packet s := by
    simp only [actions]
    split
    case isTrue  => exact ⟨_, rfl, rfl⟩
    case isFalse => rfl
  timer hr := nomatch hr

-- The loop of `packetReady` consists of passes.
theorem drain_succ {fuel : Nat} : drain priv (fuel + 1) s =
    match (actions priv).packetAction s with
    | none   => (s, [])
    | some r => ((drain priv fuel r.1).1, r.2 ++ (drain priv fuel r.1).2) := by
  simp only [actions, drain]
  split <;> rfl

end Touchpad

namespace Controller.Interrupt

variable {cfg : Keyboard.Config} {priv : Touchpad.AlpsData} {s : Keyboard.State} {t : Touchpad.Framer}

-- The state of a driver is valid if its buffer is divided into slots, and its packets are counted.
def DriverValid (priv : Touchpad.AlpsData) : (d : PS2DeviceType) → DriverState d → Prop
  | .keyboard, s => ∃ n, s.receiver.ringBuffer.Slotted Keyboard.kPacketLength n
  | .mouse,    t => ∃ n, t.ringBuffer.Slotted priv.pktsize n

def driverBacklog (priv : Touchpad.AlpsData) : (d : PS2DeviceType) → DriverState d → Nat
  | .keyboard, s => s.receiver.ringBuffer.count / Keyboard.kPacketLength
  | .mouse,    t => t.ringBuffer.count / priv.pktsize

theorem drivers_lawful :
    ∀ d, ((drivers cfg priv).driver d).Lawful (DriverValid priv d) (driverBacklog priv d)
  | .keyboard => (Keyboard.actions_buffered cfg).lawful
  | .mouse    => (Touchpad.actions_buffered priv).lawful

theorem driversInit_keyboard : (driversInit s t .keyboard).receiver.ringBuffer.Slotted Keyboard.kPacketLength 0 :=
  .reset (by decide) (by decide) (by decide)

theorem driversInit_mouse : (driversInit s t .mouse).ringBuffer.Slotted priv.pktsize 0 :=
  .reset priv.pktsize_pos priv.pktsize_dvd (by decide)

theorem driversInit_valid : ∀ d, DriverValid priv d (driversInit s t d)
  | .keyboard => ⟨0, driversInit_keyboard⟩
  | .mouse    => ⟨0, driversInit_mouse⟩

theorem driversInit_not_pending :
    ∀ d, ¬((drivers cfg priv).driver d).Pending (driversInit s t d)
  | .keyboard => fun h => ((Keyboard.actions_buffered cfg).pending_iff driversInit_keyboard).mp h rfl
  | .mouse    => fun h => ((Touchpad.actions_buffered priv).pending_iff driversInit_mouse).mp h rfl

-- When there is nothing to do, no packet waits.
theorem quiescent_count {as : List Action} {sys : System DriverState}
    (h : Run (System.Step (drivers cfg priv)) (.init (driversInit s t)) as sys) (hq : sys.Quiescent) :
    (sys.driver .keyboard).receiver.ringBuffer.count = 0 ∧ (sys.driver .mouse).ringBuffer.count = 0 := by
  have ⟨hv, ha⟩ := System.Awake.run drivers_lawful driversInit_valid driversInit_not_pending h
  constructor
  case left =>
    obtain ⟨n, hn⟩ := hv .keyboard
    have hn₀ : n = 0 := by
      simpa using ((Keyboard.actions_buffered cfg).pending_iff hn).not.mp (ha.not_pending (d := .keyboard) hq rfl)
    rw [hn.count, hn₀, Nat.mul_zero]
  case right =>
    obtain ⟨n, hn⟩ := hv .mouse
    have hn₀ : n = 0 := by
      simpa using ((Touchpad.actions_buffered priv).pending_iff hn).not.mp (ha.not_pending (d := .mouse) hq rfl)
    rw [hn.count, hn₀, Nat.mul_zero]

-- No wake-up is lost, however the interrupts, the work loop and the requests are interleaved: once
-- nothing more comes from outside, the system stops after finitely many steps, and it does not stop before
-- the buffers of both drivers are empty.
theorem system_settles (cfg : Keyboard.Config) (priv : Touchpad.AlpsData) (s : Keyboard.State)
    (t : Touchpad.Framer) {as : List Action} {sys : System DriverState}
    (h : Run (System.Step (drivers cfg priv)) (.init (driversInit s t)) as sys) :
    (∃ bound, ∀ as' sys', Run (System.Step (drivers cfg priv)) sys as' sys' → (∀ a ∈ as', ¬a.External) →
      as'.length ≤ bound) ∧
    ((∀ a sys', sys.Step (drivers cfg priv) a sys' → a.External) →
      (sys.driver .keyboard).receiver.ringBuffer.count = 0 ∧ (sys.driver .mouse).ringBuffer.count = 0) := by
  constructor
  case left =>
    have ⟨hv, _⟩ := System.Awake.run drivers_lawful driversInit_valid driversInit_not_pending h
    refine ⟨sys.work (driverBacklog priv), fun as' sys' hr he => ?_⟩
    have := (System.work_add_length_le drivers_lawful hv hr he).right
    omega
  case right =>
    intro hs
    apply quiescent_count h
    by_contra hq
    obtain ⟨a, sys', he, hs'⟩ := System.step_of_not_quiescent (drivers cfg priv) hq
    exact he (hs a sys' hs')

-- The key A has been pressed, and its packet waits.
theorem system_settles_pressedA : ∃ sys : System DriverState,
    (∃ bound, ∀ as' sys', Run (System.Step (drivers {} Touchpad.privV3)) sys as' sys' →
      (∀ a ∈ as', ¬a.External) → as'.length ≤ bound) ∧
    ((∀ a sys', sys.Step (drivers {} Touchpad.privV3) a sys' → a.External) →
      (sys.driver .keyboard).receiver.ringBuffer.count = 0 ∧ (sys.driver .mouse).ringBuffer.count = 0) :=
  have h : Run (System.Step (drivers {} Touchpad.privV3)) (.init (driversInit ⟨⟨{}, ⟨fun _ => 0, 0, 0⟩⟩, {}⟩ .zero))
      [.interruptHandler, .take 0x01 0x1e, .dispatchDriverInterrupt .keyboard 0x1e, .breakLoop 0,
        .interruptOccurred .mouse, .interruptOccurred .keyboard] _ :=
    .cons (.interruptHandler rfl) <| .cons (.take [] (by decide)) <| .cons (.dispatch []) <|
      .cons (.breakLoop [] (by decide)) <| .cons (.wakeMouse []) <| .single (.wakeKeyboard [])
  ⟨_, system_settles {} Touchpad.privV3 ⟨⟨{}, ⟨fun _ => 0, 0, 0⟩⟩, {}⟩ .zero h⟩

end Controller.Interrupt
