import VoodooPS2.Controller.Power
import VoodooPS2.Controller.Theorems.Request

namespace Controller

open Scripted

-- The part of the registers that the power states are about.
structure Power where
  current : UInt32
  offline : Bool
  ignored : Int

def State.power (s : State) : Power where
  current := s.currentPowerState
  offline := s.hardwareOffline
  ignored := s.ignoreInterrupts

-- What a call of `setPowerStateGated` does to them.
def Power.next (p : Power) (powerState : UInt32) : Power :=
  if p.current = powerState then
    p
  else if powerState = kPS2PowerStateSleep then
    ⟨powerState, true, p.ignored + 1⟩
  else if powerState = kPS2PowerStateDoze ∨ powerState = kPS2PowerStateNormal then
    if p.current = kPS2PowerStateSleep then ⟨powerState, false, p.ignored - 1⟩
    else { p with current := powerState }
  else
    { p with current := powerState }

section Services

variable {s : State}

theorem setCommandByte_ensures {setBits clearBits : UInt8} :
    (setCommandByte s setBits clearBits).Ensures fun a => a.1 = s := by
  refine .skip fun _ => .skip fun oldCommandByte => ?_
  dsimp only
  split
  case isTrue  => exact .skip fun _ => .skip fun _ => .pure (by simp)
  case isFalse => exact .pure (by simp)

theorem processRequest_ensures {r : PS2Request} :
    ((processRequest s r).label Prod.snd).Ensures fun p => p.state = s :=
  .label fun _ _ => processRequest_state

theorem processRequests_ensures {rs : List PS2Request} :
    (processRequests s rs).Ensures fun s' => s' = s := by
  induction rs generalizing s
  case nil          => exact .pure rfl
  case cons r rs hi => exact .bind processRequest_ensures fun p hp => hp ▸ hi

-- No driver can change the registers of the controller, whatever it does with its services.
theorem PowerAction.run_ensures {action : PowerAction} :
    (action.run s).Ensures fun s' => s' = s := by
  induction action generalizing s
  case done => exact .pure rfl
  case submitRequestAndBlock hi =>
    refine .bind processRequests_ensures fun s' hs => hs ▸ ?_
    exact .bind processRequest_ensures fun p hp => hp ▸ hi _
  case setCommandByte hi =>
    exact .bind setCommandByte_ensures fun a ha => ha ▸ hi _
  case sleep hi => exact .skip fun _ => hi

theorem dispatchDriverPowerControl_ensures {drivers : Drivers} {whatToDo : PowerControl}
    {d : PS2DeviceType} : (dispatchDriverPowerControl s drivers whatToDo d).Ensures fun s' => s' = s := by
  cases d
  case keyboard =>
    cases h : drivers.keyboard
    case none        => simpa [dispatchDriverPowerControl, h] using .pure rfl
    case some action => simpa [dispatchDriverPowerControl, h] using PowerAction.run_ensures
  case mouse =>
    cases h : drivers.mouse
    case none        => simpa [dispatchDriverPowerControl, h] using .pure rfl
    case some action => simpa [dispatchDriverPowerControl, h] using PowerAction.run_ensures

theorem resetController_ensures :
    (resetController s).Ensures fun s' => s' = { s with suppressTimeout := false } := by
  repeat refine .skip fun _ => ?_
  exact .pure rfl

theorem sleepTransition_ensures {drivers : Drivers} :
    (sleepTransition s drivers).Ensures fun s' =>
      s' = { s with ignoreInterrupts := s.ignoreInterrupts + 1, hardwareOffline := true } := by
  refine .bind setCommandByte_ensures fun a ha => ?_
  refine .bind dispatchDriverPowerControl_ensures fun s₁ h₁ => ?_
  refine .bind dispatchDriverPowerControl_ensures fun s₂ h₂ => ?_
  refine .bind setCommandByte_ensures fun b hb => ?_
  exact .pure (by rw [hb, h₂, h₁, ha])

theorem wakeTransition_ensures {drivers : Drivers} :
    (wakeTransition s drivers).Ensures fun s' => s'.power =
      { s.power with ignored := s.ignoreInterrupts - 1, offline := false } := by
  unfold wakeTransition
  split
  case' isTrue => refine .skip fun _ => ?_
  all_goals
    refine .bind resetController_ensures fun s' hs => ?_
    refine .bind setCommandByte_ensures fun a ha => ?_
    refine .bind dispatchDriverPowerControl_ensures fun s₁ h₁ => ?_
    refine .bind dispatchDriverPowerControl_ensures fun s₂ h₂ => ?_
    refine .bind setCommandByte_ensures fun b hb => ?_
    exact .pure (by rw [hb, h₂, h₁, ha, hs]; rfl)

theorem setPowerStateGated_ensures {drivers : Drivers} {powerState : UInt32} :
    (setPowerStateGated s drivers powerState).Ensures fun s' =>
      s'.power = s.power.next powerState := by
  unfold setPowerStateGated Power.next
  by_cases hc : s.currentPowerState = powerState
  case pos =>
    rw [if_neg (by simpa using hc), if_pos (show s.power.current = powerState from hc)]
    exact .pure rfl
  case neg =>
    rw [if_pos hc, if_neg (show ¬s.power.current = powerState from hc)]
    by_cases hs : powerState = kPS2PowerStateSleep
    case pos =>
      rw [if_pos hs, if_pos hs]
      exact .bind sleepTransition_ensures fun s' h => .pure (by rw [h]; rfl)
    case neg =>
      rw [if_neg hs, if_neg hs]
      by_cases hw : powerState = kPS2PowerStateDoze ∨ powerState = kPS2PowerStateNormal
      case neg =>
        rw [if_neg hw, if_neg hw]
        exact .bind (.pure (P := (· = s)) rfl) fun s' h => .pure (by rw [h]; rfl)
      case pos =>
        rw [if_pos hw, if_pos hw]
        by_cases hs' : s.currentPowerState = kPS2PowerStateSleep
        case pos =>
          rw [if_neg (by simpa using hs'), if_pos (show s.power.current = kPS2PowerStateSleep from hs')]
          refine .bind wakeTransition_ensures fun s' h => .pure ?_
          have ho := congrArg Power.offline h
          have hi := congrArg Power.ignored h
          simp only [State.power] at ho hi
          simp [State.power, ho, hi]
        case neg =>
          rw [if_pos hs', if_neg (show ¬s.power.current = kPS2PowerStateSleep from hs')]
          exact .bind (.pure (P := (· = s)) rfl) fun s' h => .pure (by rw [h]; rfl)

end Services

-- The power states after each of a sequence of requests.
def Power.states (p : Power) : List UInt32 → List Power
  | []      => []
  | v :: vs => p.next v :: (p.next v).states vs

@[simp]
theorem Power.states_length {p : Power} {vs : List UInt32} : (p.states vs).length = vs.length := by
  induction vs generalizing p
  case nil          => rfl
  case cons v vs hi => simp [states, hi]

theorem setPowerStates_ensures {s : State} {calls : List PowerCall} :
    (setPowerStates s calls).Ensures fun ss =>
      ss.map State.power = s.power.states (calls.map PowerCall.powerState) := by
  induction calls generalizing s
  case nil => exact .pure rfl
  case cons c calls hi =>
    refine .bind setPowerStateGated_ensures fun s' hs => ?_
    exact .bind hi fun ss hss => .pure (by simp [Power.states, hs, hss])

section Usable

-- The power states that can be requested.
def Valid (powerState : UInt32) : Prop :=
  powerState = kPS2PowerStateSleep ∨ powerState = kPS2PowerStateDoze ∨
  powerState = kPS2PowerStateNormal

instance : DecidablePred Valid :=
  fun _ => inferInstanceAs (Decidable (_ ∨ _))

def mostRecentValid (requests : List UInt32) : Option UInt32 :=
  (requests.filter Valid).getLast?

-- The port is offline, and interrupts are ignored, exactly while the controller has been told to sleep.
structure Usable (requests : List UInt32) (p : Power) : Prop where
  offline : p.offline = true ↔ mostRecentValid requests = some kPS2PowerStateSleep
  ignored : p.ignored = if p.offline then 1 else 0

-- A valid request that comes right after a bad one, which came while the controller was asleep.
def Missed (requests : List UInt32) (v : UInt32) : Prop :=
  ∃ pre b, requests = pre ++ [b] ∧ ¬Valid b ∧ Valid v ∧
    mostRecentValid pre = some kPS2PowerStateSleep

variable {requests vs : List UInt32} {v : UInt32} {p : Power}

theorem mostRecentValid_concat :
    mostRecentValid (requests ++ [v]) = if Valid v then some v else mostRecentValid requests := by
  unfold mostRecentValid
  split
  case isTrue h  => simp [h]
  case isFalse h => simp [h]

-- As long as no request was missed, the recorded power state is the last request.
structure InStep (requests : List UInt32) (p : Power) : Prop where
  current : p.current = requests.getLast?.getD kPS2PowerStateNormal
  usable  : Usable requests p

namespace InStep

theorem mostRecentValid_iff (i : InStep requests p) (h : Valid p.current) :
    mostRecentValid requests = some kPS2PowerStateSleep ↔ p.current = kPS2PowerStateSleep := by
  rcases requests.eq_nil_or_concat with rfl | ⟨pre, b, rfl⟩
  case inl =>
    rw [i.current]
    decide
  case inr =>
    have hc := i.current
    simp only [List.concat_eq_append, List.getLast?_concat, Option.getD_some] at hc
    rw [List.concat_eq_append, mostRecentValid_concat, if_pos (hc ▸ h), Option.some_inj, hc]

theorem missed_iff (i : InStep requests p) : Missed requests v ↔
    Valid v ∧ ¬Valid p.current ∧ mostRecentValid requests = some kPS2PowerStateSleep := by
  constructor
  case mp =>
    rintro ⟨pre, b, rfl, hb, hv, hm⟩
    have hc : p.current = b := by simpa using i.current
    exact ⟨hv, hc ▸ hb, by rwa [mostRecentValid_concat, if_neg hb]⟩
  case mpr =>
    rintro ⟨hv, hb, hm⟩
    rcases requests.eq_nil_or_concat with rfl | ⟨pre, b, rfl⟩
    case inl => simp [mostRecentValid] at hm
    case inr =>
      have hc : p.current = b := by simpa using i.current
      rw [hc] at hb
      rw [List.concat_eq_append, mostRecentValid_concat, if_neg hb] at hm
      exact ⟨pre, b, List.concat_eq_append, hb, hv, hm⟩

theorem next_current : (p.next v).current = v := by
  unfold Power.next
  split
  case isTrue h => exact h
  case isFalse  =>
    repeat' split
    all_goals rfl

-- The recorded state is what goes wrong: the bad request is recorded like any other.
theorem next_usable_iff (i : InStep requests p) :
    Usable (requests ++ [v]) (p.next v) ↔ ¬Missed requests v := by
  have ⟨ho, hi⟩ := i.usable
  have hm := i.mostRecentValid_iff
  have hv : mostRecentValid (requests ++ [v]) = some kPS2PowerStateSleep ↔
      if Valid v then v = kPS2PowerStateSleep
      else mostRecentValid requests = some kPS2PowerStateSleep := by
    rw [mostRecentValid_concat]
    split <;> simp
  rw [i.missed_iff]
  constructor
  case mp =>
    rintro ⟨ho', hi'⟩ ⟨h₁, h₂, h₃⟩
    rw [hv, if_pos h₁] at ho'
    simp only [Power.next] at ho' hi'
    grind [Valid]
  case mpr =>
    intro hn
    constructor
    case offline =>
      rw [hv]
      simp only [Power.next]
      grind [Valid]
    case ignored =>
      simp only [Power.next]
      grind [Valid]

theorem next (i : InStep requests p) (hm : ¬Missed requests v) : InStep (requests ++ [v]) (p.next v) where
  current := by simp [next_current]
  usable  := i.next_usable_iff.mpr hm

theorem states_usable_iff (i : InStep requests p) (vs : List UInt32) :
    (∀ k p', (p.states vs)[k]? = some p' → Usable (requests ++ vs.take (k + 1)) p') ↔
    ∀ pre v post, vs = pre ++ v :: post → ¬Missed (requests ++ pre) v := by
  induction vs generalizing requests p
  case nil => simp [Power.states]
  case cons v vs hi =>
    have hr (k : Nat) : requests ++ (v :: vs).take (k + 1) = requests ++ [v] ++ vs.take k := by simp
    constructor
    case mp =>
      intro h pre w post hp
      have hm : ¬Missed requests v := i.next_usable_iff.mp (by simpa using h 0 (p.next v) rfl)
      cases pre
      case nil =>
        obtain ⟨rfl, rfl⟩ : v = w ∧ vs = post := by simpa using hp
        simpa using hm
      case cons v' pre =>
        obtain ⟨rfl, rfl⟩ : v = v' ∧ vs = pre ++ w :: post := by simpa using hp
        have := (hi (i.next hm)).mp (fun k p' hk => hr (k + 1) ▸ h (k + 1) p' hk) pre w post rfl
        simpa using this
    case mpr =>
      intro h k p' hk
      have hm : ¬Missed requests v := by simpa using h [] v vs rfl
      cases k
      case zero =>
        obtain rfl : p.next v = p' := by simpa [Power.states] using hk
        simpa using i.next_usable_iff.mpr hm
      case succ k =>
        rw [hr]
        refine (hi (i.next hm)).mpr (fun pre w post hp => ?_) k p' hk
        simpa using h (v :: pre) w post (by simp [hp])

end InStep

end Usable

-- After each of a sequence of calls, the port is offline exactly if the most recent valid request was
-- to sleep: if and only if no valid request comes right behind a bad one while the controller is asleep.
theorem setPowerStates_usable_iff {s : State} {calls : List PowerCall} {is : List UInt8}
    {o : Outcome UInt8 Access (List State)} (hc : s.currentPowerState = kPS2PowerStateNormal)
    (ho : s.hardwareOffline = false) (hi : s.ignoreInterrupts = 0)
    (h : setPowerStates s calls is = some o) :
    o.val.length = calls.length ∧
    ((∀ k s', o.val[k]? = some s' →
        Usable ((calls.map PowerCall.powerState).take (k + 1)) s'.power) ↔
      ∀ pre b v post, calls.map PowerCall.powerState = pre ++ b :: v :: post →
        ¬Valid b → Valid v → mostRecentValid pre ≠ some kPS2PowerStateSleep) := by
  have hs := setPowerStates_ensures _ _ h
  have i : InStep [] s.power := by
    constructor
    case current => exact hc
    case usable  => exact ⟨by simp [State.power, ho, mostRecentValid], by simp [State.power, hi, ho]⟩
  refine ⟨?length, ?usable⟩
  case length => simpa using congrArg List.length hs
  case usable =>
    have hu := i.states_usable_iff (calls.map PowerCall.powerState)
    rw [← hs] at hu
    constructor
    case mp =>
      intro hg pre b v post hp hb hv hm
      refine hu.mp (fun k p' hk => ?_) (pre ++ [b]) v post (by simp [hp]) ⟨pre, b, rfl, hb, hv, hm⟩
      rw [List.getElem?_map] at hk
      obtain ⟨s', hs', rfl⟩ := Option.map_eq_some_iff.mp hk
      exact hg k s' hs'
    case mpr =>
      intro hn k s' hk
      refine hu.mpr ?_ k s'.power (by rw [List.getElem?_map, hk]; rfl)
      rintro _ v post hp ⟨pre, b, rfl, hb, hv, hm⟩
      exact hn pre b v post (by simpa using hp) hb hv hm

-- The state of a controller that sleeps, and what it takes to get there without any drivers.
def asleep : State where
  currentPowerState := kPS2PowerStateSleep
  hardwareOffline   := true
  ignoreInterrupts  := 1

def sleepLog : List Access :=
  [.poll 0, .outb .command 0x20, .poll 1, .take .keyboard 0x00,
   .poll 0, .outb .command 0x20, .poll 1, .take .keyboard 0x30]

theorem setPowerStates_usable_doze_sleep : Usable [kPS2PowerStateDoze, kPS2PowerStateSleep] asleep.power :=
  have h : setPowerStates {} [{ powerState := kPS2PowerStateDoze }, { powerState := kPS2PowerStateSleep }]
      [0, 1, 0x00, 0, 1, 0x30] =
      some ⟨[{ currentPowerState := kPS2PowerStateDoze }, asleep], [], sleepLog⟩ := by decide +kernel
  (setPowerStates_usable_iff rfl rfl rfl h).right.mpr (fun pre b v post hp hb => by
    rcases pre with _ | ⟨_, _ | ⟨_, _⟩⟩
    all_goals simp_all [Valid]) 1 asleep rfl

-- The request to leave the sleep state is ignored if a bad one came between.
theorem not_setPowerStates_usable : ¬∀ (s : State) (calls : List PowerCall) (is : List UInt8)
    (o : Outcome UInt8 Access (List State)), s.currentPowerState = kPS2PowerStateNormal →
    s.hardwareOffline = false → s.ignoreInterrupts = 0 → setPowerStates s calls is = some o →
    ∀ k s', o.val[k]? = some s' →
      Usable ((calls.map PowerCall.powerState).take (k + 1)) s'.power := by
  intro h
  have hu := h {}
    [{ powerState := kPS2PowerStateSleep }, { powerState := 7 }, { powerState := kPS2PowerStateNormal }]
    [0, 1, 0x00, 0, 1, 0x30]
    ⟨[asleep, { asleep with currentPowerState := 7 },
      { asleep with currentPowerState := kPS2PowerStateNormal }], [], sleepLog⟩
    rfl rfl rfl (by decide +kernel) 2 _ rfl
  exact absurd hu.offline (by decide)

end Controller
