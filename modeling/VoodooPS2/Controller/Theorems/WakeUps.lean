import VoodooPS2.Controller.Theorems.Interrupt

namespace Controller.Interrupt

variable {σ ω : PS2DeviceType → Type} {ds : Drivers σ ω} {s s' : System σ} {a : Action}
  {as : List Action} {x : (d : PS2DeviceType) → σ d} {d d' : PS2DeviceType} {data : UInt8}

-- The handler has seen a complete packet of the device, and is going to wake the work loop for it.
def Handler.WillWake (h : Handler) (d : PS2DeviceType) : Prop :=
  h.wake d = true ∧ (h.phase = .wakingKeyboard → d = .keyboard)

namespace System

-- Somebody is going to look at the packets of the device.
inductive Announced (s : System σ) (d : PS2DeviceType) : Prop
  | source (h : s.interruptSource d = true)
  | handler (mem : h ∈ s.handlers) (will : h.WillWake d)
  | packetAction (h : s.workLoop = .packetAction d)
  | waking (h : s.workLoop = .waking d l)

theorem signalIf_mono {wake : Bool} {q : PS2DeviceType → Bool} (h : q d = true) :
    signalIf wake q d' d = true := by
  unfold signalIf
  split
  · by_cases hd : d = d'
    · simp [hd]
    · simpa [hd] using h
  · exact h

theorem signalIf_self {q : PS2DeviceType → Bool} : signalIf true q d d = true := by
  simp [signalIf]

variable {i : Int} {hs hs₁ hs₂ : List Handler} {h h' : Handler} {w w' : WorkLoop}
  {q q' : PS2DeviceType → Bool} {y : (d : PS2DeviceType) → σ d}

namespace Announced

-- A handler that goes on either keeps what it is going to do or has done it.
theorem replace (a : Announced ⟨i, hs₁ ++ h :: hs₂, w, q, x⟩ d) (hq : ∀ d, q d = true → q' d = true)
    (hw : h.WillWake d → h'.WillWake d ∨ q' d = true) : Announced ⟨i, hs₁ ++ h' :: hs₂, w, q', y⟩ d := by
  cases a
  case source hs       => exact .source (hq d hs)
  case packetAction hl => exact .packetAction hl
  case waking hl       => exact .waking hl
  case handler k mem will =>
    simp only [List.mem_append, List.mem_cons] at mem
    rcases mem with mem | rfl | mem
    · exact .handler (List.mem_append_left _ mem) will
    · rcases hw will with will | hq
      · exact .handler (List.mem_append_right _ List.mem_cons_self) will
      · exact .source hq
    · exact .handler (List.mem_append_right _ (List.mem_cons_of_mem _ mem)) will

theorem remove (a : Announced ⟨i, hs₁ ++ h :: hs₂, w, q, x⟩ d) (hq : ∀ d, q d = true → q' d = true)
    (hw : h.WillWake d → q' d = true) : Announced ⟨i, hs₁ ++ hs₂, w, q', x⟩ d := by
  cases a
  case source hs       => exact .source (hq d hs)
  case packetAction hl => exact .packetAction hl
  case waking hl       => exact .waking hl
  case handler k mem will =>
    simp only [List.mem_append, List.mem_cons] at mem
    rcases mem with mem | rfl | mem
    · exact .handler (List.mem_append_left _ mem) will
    · exact .source (hw will)
    · exact .handler (List.mem_append_right _ mem) will

theorem of_driver (a : Announced ⟨i, hs, w, q, x⟩ d) : Announced ⟨i, hs, w, q, y⟩ d := by
  cases a
  case source h         => exact .source h
  case handler mem will => exact .handler mem will
  case packetAction h   => exact .packetAction h
  case waking h         => exact .waking h

-- The work loop may go on if it does not owe the device anything.
theorem leave {i' : Int} (a : Announced ⟨i, hs, w, q, x⟩ d) (hp : w ≠ .packetAction d)
    (hl : ∀ l, w ≠ .waking d l) (hq : ∀ d, q d = true → q' d = true) :
    Announced ⟨i', hs, w', q', y⟩ d := by
  cases a
  case source h         => exact .source (hq d h)
  case handler mem will => exact .handler mem will
  case packetAction h   => exact absurd h hp
  case waking h         => exact absurd h (hl _)

end Announced

-- Every installed driver with a packet is going to be asked for it.
def Awake (ds : Drivers σ ω) (s : System σ) : Prop :=
  ∀ d, ds.installed d = true → (ds.driver d).Pending (s.driver d) → s.Announced d

end System

section Lawful

variable {Valid : (d : PS2DeviceType) → σ d → Prop} {backlog : (d : PS2DeviceType) → σ d → Nat}

-- A driver that has a packet after a dispatch has had one before, or it has reported it.
theorem Drivers.dispatch_pending (hl : (ds.driver d').Lawful (Valid d') (backlog d')) (hv : Valid d' (x d'))
    (hi : ds.installed d' = true)
    (hp : (ds.driver d').Pending ((ds._dispatchDriverInterrupt x d data).1 d')) :
    (d' = d ∧ (ds._dispatchDriverInterrupt x d data).2 = .packetReady) ∨ (ds.driver d').Pending (x d') := by
  by_cases h : d' = d
  case neg =>
    have he : (ds._dispatchDriverInterrupt x d data).1 d' = x d' := dispatch_ne h
    exact .inr (he ▸ hp)
  case pos =>
    subst h
    rw [dispatch_self, if_pos hi] at hp
    cases hr : ((ds.driver d').interruptAction (x d') data).2
    case packetReady     => exact .inl ⟨rfl, by simp [_dispatchDriverInterrupt, hi, hr]⟩
    case packetBuffering => exact .inr (hl.buffering hv hr hp)

theorem forall_update {P : (d : PS2DeviceType) → σ d → Prop} {y : σ d} (hx : ∀ d, P d (x d)) (hy : P d y) :
    ∀ d', P d' (Function.update x d y d') :=
  Function.forall_update_iff x P |>.mpr ⟨hy, fun d' _ => hx d'⟩

theorem Drivers.dispatch_valid (hl : ∀ d, (ds.driver d).Lawful (Valid d) (backlog d))
    (hv : ∀ d, Valid d (x d)) : ∀ d', Valid d' ((ds._dispatchDriverInterrupt x d data).1 d') := by
  unfold _dispatchDriverInterrupt
  split
  · exact forall_update hv ((hl d).interrupt (hv d)).left
  · exact hv

theorem System.Step.valid (hl : ∀ d, (ds.driver d).Lawful (Valid d) (backlog d)) (h : s.Step ds a s')
    (hv : ∀ d, Valid d (s.driver d)) : ∀ d, Valid d (s'.driver d) := by
  cases h
  case dispatch        => exact Drivers.dispatch_valid hl hv
  case dispatchRequest => exact Drivers.dispatch_valid hl hv
  case packetAction hr => exact forall_update hv ((hl _).packet (hv _) hr).left
  case timerAction hr  => exact forall_update hv ((hl _).timer (hv _) hr).left
  all_goals exact hv

theorem System.Awake.step (hl : ∀ d, (ds.driver d).Lawful (Valid d) (backlog d))
    (hv : ∀ d, Valid d (s.driver d)) (ha : s.Awake ds) (h : s.Step ds a s') : s'.Awake ds := by
  intro d hi hp
  cases h
  case ignored => exact ha d hi hp
  case interruptHandler =>
    cases ha d hi hp
    case source h           => exact .source h
    case handler h mem will => exact .handler (List.mem_cons_of_mem _ mem) will
    case packetAction h     => exact .packetAction h
    case waking h           => exact .waking h
  case take =>
    exact (ha d hi hp).replace (fun _ => id) fun h => .inl ⟨h.left, fun h => Phase.noConfusion h⟩
  case breakLoop =>
    exact (ha d hi hp).replace (fun _ => id) fun h => .inl ⟨h.left, fun h => Phase.noConfusion h⟩
  case dispatch i hs₂ w q x d' data f hs₁ =>
    rcases Drivers.dispatch_pending (hl d) (hv d) hi hp with ⟨rfl, hr⟩ | hp
    · refine .handler (List.mem_append_right _ List.mem_cons_self) ⟨?_, fun h => Phase.noConfusion h⟩
      simp [hr]
    · refine (ha d hi hp).replace (fun _ => id) fun h => .inl ⟨?_, fun h => Phase.noConfusion h⟩
      have hw := h.left
      dsimp only
      split
      · by_cases hd : d = d'
        · simp [hd]
        · simpa [hd] using hw
      · exact hw
  case wakeMouse =>
    refine (ha d hi hp).replace (fun _ => signalIf_mono) fun h => ?_
    cases d
    case keyboard => exact .inl ⟨h.left, fun _ => rfl⟩
    case mouse    => exact .inr (h.left ▸ signalIf_self)
  case wakeKeyboard =>
    refine (ha d hi hp).remove (fun _ => signalIf_mono) fun h => ?_
    obtain rfl := h.right rfl
    exact h.left ▸ signalIf_self
  case packetReady q i hs x d' hq =>
    cases ha d hi hp
    case handler h mem will => exact .handler mem will
    case packetAction h     => cases h
    case waking h           => cases h
    case source h =>
      by_cases hd : d = d'
      case pos =>
        subst hd
        exact .packetAction (if_pos hi)
      case neg => exact .source (by simpa [hd] using h)
  case packetAction d' x r i hs q hr =>
    by_cases hd : d = d'
    case pos =>
      subst hd
      exact .packetAction rfl
    case neg =>
      simp only [Function.update_of_ne hd] at hp
      exact (ha d hi hp).of_driver
  case packetActionDone d' x i hs q hn =>
    have hd : d' ≠ d := by
      rintro rfl
      simp [Driver.Pending, hn] at hp
    exact (ha d hi hp).leave (fun h => hd (WorkLoop.packetAction.inj h)) (fun _ h => WorkLoop.noConfusion h)
      fun _ => id
  case timerAction d' x r i hs q hr =>
    have hp : (ds.driver d).Pending (x d) := by
      by_cases hd : d = d'
      case pos =>
        subst hd
        exact ((hl d).timer (hv d) hr).right (by simpa using hp)
      case neg => simpa [hd] using hp
    exact (ha d hi hp).of_driver
  case dispatchRequest i hs l₁ d' data l₂ q x =>
    rcases Drivers.dispatch_pending (hl d) (hv d) hi hp with ⟨rfl, hr⟩ | hp
    · exact .waking (if_pos hr)
    · exact (ha d hi hp).leave (fun h => WorkLoop.noConfusion h) (fun _ h => WorkLoop.noConfusion h) fun _ => id
  case wakeRequest i hs d' l q x =>
    by_cases hd : d = d'
    case pos => exact .source (by simp [hd])
    case neg =>
      refine (ha d hi hp).leave (fun h => WorkLoop.noConfusion h) (fun _ h => ?_) fun _ h =>
        (signalIf_mono h : signalIf true q d' _ = true)
      exact hd (WorkLoop.waking.inj h).left.symm
  all_goals
    exact (ha d hi hp).leave (fun h => WorkLoop.noConfusion h) (fun _ h => WorkLoop.noConfusion h) fun _ => id

-- A bound on the steps that the system makes by itself: every byte that waits may complete a packet, every
-- wake-up may lead to a call of the packet action, and every packet takes a pass.
def Phase.work : Phase → Nat
  | holding _ _    => 9
  | polling        => 7
  | wakingMouse    => 6
  | wakingKeyboard => 3

def WorkLoop.work : WorkLoop → Nat
  | idle           => 0
  | packetAction _ => 1
  | request l      => 5 * l.length + 1
  | waking _ l     => 5 * l.length + 4

def both (f : PS2DeviceType → Nat) : Nat :=
  f .keyboard + f .mouse

def System.work (backlog : (d : PS2DeviceType) → σ d → Nat) (s : System σ) : Nat :=
  (s.handlers.map (·.phase.work)).sum + s.workLoop.work +
    both (fun d => if s.interruptSource d then 2 else 0) + both fun d => backlog d (s.driver d)

theorem both_update {y : σ d} (f : (d : PS2DeviceType) → σ d → Nat) :
    both (fun d' => f d' (Function.update x d y d')) + f d (x d) = both (fun d' => f d' (x d')) + f d y := by
  cases d
  all_goals
    simp [both]
    omega

theorem Drivers.dispatch_backlog (hl : ∀ d, (ds.driver d).Lawful (Valid d) (backlog d))
    (hv : ∀ d, Valid d (x d)) (d : PS2DeviceType) (data : UInt8) :
    both (fun d' => backlog d' ((ds._dispatchDriverInterrupt x d data).1 d')) ≤
      both (fun d' => backlog d' (x d')) + 1 := by
  unfold _dispatchDriverInterrupt
  split
  · have hb : backlog d ((ds.driver d).interruptAction (x d) data).1 ≤ _ := ((hl d).interrupt (hv d)).right
    have hu := both_update (x := x) (y := ((ds.driver d).interruptAction (x d) data).1) backlog
    dsimp only
    omega
  · exact Nat.le_succ _

theorem both_signal_le (wake : Bool) (q : PS2DeviceType → Bool) (d : PS2DeviceType) :
    both (fun d' => if System.signalIf wake q d d' then 2 else 0) ≤ both (fun d' => if q d' then 2 else 0) + 2 := by
  cases d <;> cases wake
  all_goals
    simp [both, System.signalIf]
    try (split <;> omega)

theorem System.Step.work_lt (hl : ∀ d, (ds.driver d).Lawful (Valid d) (backlog d))
    (hv : ∀ d, Valid d (s.driver d)) (h : s.Step ds a s') (he : ¬a.External) :
    s'.work backlog < s.work backlog := by
  cases h
  case ignored          => exact absurd trivial he
  case interruptHandler => exact absurd trivial he
  case take             => exact absurd trivial he
  case takeRequest      => exact absurd trivial he
  case timerAction      => exact absurd trivial he
  case processRequest   => exact absurd trivial he
  case dispatch i hs₂ w q x d data f hs₁ =>
    have hb := Drivers.dispatch_backlog hl hv d data
    simp only [work, List.map_append, List.map_cons, List.sum_append, List.sum_cons, Phase.work]
    dsimp only at hb ⊢
    omega
  case breakLoop =>
    simp only [work, List.map_append, List.map_cons, List.sum_append, List.sum_cons, Phase.work]
    omega
  case wakeMouse i hs₂ w q x f hs₁ =>
    have hs := both_signal_le (f .mouse) q .mouse
    simp only [work, List.map_append, List.map_cons, List.sum_append, List.sum_cons, Phase.work]
    omega
  case wakeKeyboard i hs₂ w q x f hs₁ =>
    have hs := both_signal_le (f .keyboard) q .keyboard
    simp only [work, List.map_append, List.map_cons, List.sum_append, List.sum_cons, Phase.work]
    omega
  case packetReady q i hs x d hq =>
    have hs := both_update (x := q) (y := false) (d := d) fun _ b => if b then 2 else 0
    have hw : (if ds.installed d then WorkLoop.packetAction d else .idle).work ≤ 1 := by
      split
      · exact Nat.le_refl 1
      · exact Nat.zero_le 1
    simp only [hq, if_true, Bool.false_eq_true, if_false] at hs
    simp only [work]
    omega
  case packetAction d x r i hs q hr =>
    have hb := both_update (x := x) (y := r.1) backlog
    have hr : backlog d r.1 < backlog d (x d) := ((hl d).packet (hv d) hr).right
    simp only [work]
    omega
  case packetActionDone =>
    simp only [work, WorkLoop.work]
    omega
  case consume =>
    simp only [work, WorkLoop.work, List.length_append, List.length_cons]
    omega
  case dispatchRequest i hs l₁ d data l₂ q x =>
    have hb := Drivers.dispatch_backlog hl hv d data
    have hw {c : Prop} [Decidable c] : (if c then WorkLoop.waking d (l₁ ++ l₂) else .request (l₁ ++ l₂)).work ≤
        5 * (l₁.length + l₂.length) + 4 := by
      split <;> simp [WorkLoop.work]
    have hw := hw (c := (ds._dispatchDriverInterrupt x d data).2 = .packetReady)
    have hl : (WorkLoop.request (l₁ ++ (d, data) :: l₂)).work = 5 * (l₁.length + l₂.length) + 6 := by
      simp +arith [WorkLoop.work]
    simp only [work, hl]
    dsimp only at hb ⊢
    omega
  case wakeRequest i hs d l q x =>
    have hs := both_signal_le true q d
    simp only [signalIf, if_true] at hs
    simp only [work, WorkLoop.work]
    omega
  case requestDone =>
    simp only [work, WorkLoop.work]
    omega

theorem System.Awake.run (hl : ∀ d, (ds.driver d).Lawful (Valid d) (backlog d)) (hv : ∀ d, Valid d (x d))
    (hp : ∀ d, ¬(ds.driver d).Pending (x d)) (h : Run (System.Step ds) (.init x) as s) :
    (∀ d, Valid d (s.driver d)) ∧ s.Awake ds :=
  h.history (t := []) (I := fun _ s => (∀ d, Valid d (s.driver d)) ∧ s.Awake ds)
    (fun ⟨hv, ha⟩ hs => ⟨hs.valid hl hv, ha.step hl hv hs⟩) ⟨hv, fun d _ h => absurd h (hp d)⟩

theorem System.work_add_length_le (hl : ∀ d, (ds.driver d).Lawful (Valid d) (backlog d))
    (hv : ∀ d, Valid d (s.driver d)) (h : Run (System.Step ds) s as s') (he : ∀ a ∈ as, ¬a.External) :
    (∀ d, Valid d (s'.driver d)) ∧ s'.work backlog + as.length ≤ s.work backlog := by
  induction h
  case nil => exact ⟨hv, Nat.le_refl _⟩
  case snoc as s₂ a s₃ hr hs hi =>
    have ⟨hv', hw⟩ := hi fun a ha => he a (List.mem_append_left _ ha)
    have := hs.work_lt hl hv' (he a (by simp))
    refine ⟨hs.valid hl hv', ?_⟩
    simp only [List.length_append, List.length_singleton]
    omega

end Lawful

-- As long as something is left to do, the system can do it by itself.
theorem System.step_of_not_quiescent (ds : Drivers σ ω) (h : ¬s.Quiescent) :
    ∃ a s', ¬Action.External a ∧ s.Step ds a s' := by
  obtain ⟨i, hs, w, q, x⟩ := s
  cases hs
  case cons k hs =>
    obtain ⟨phase, f⟩ := k
    cases phase
    case polling          => exact ⟨.breakLoop 0, _, id, .breakLoop [] rfl⟩
    case holding d data   => exact ⟨_, _, id, .dispatch []⟩
    case wakingMouse      => exact ⟨_, _, id, .wakeMouse []⟩
    case wakingKeyboard   => exact ⟨_, _, id, .wakeKeyboard []⟩
  case nil =>
    cases w
    case packetAction d =>
      cases hr : (ds.driver d).packetAction (x d)
      case none   => exact ⟨_, _, id, .packetActionDone hr⟩
      case some r => exact ⟨_, _, id, .packetAction hr⟩
    case request l =>
      cases l
      case nil      => exact ⟨_, _, id, .requestDone⟩
      case cons e l => exact ⟨_, _, id, .consume []⟩
    case waking d l => exact ⟨_, _, id, .wakeRequest⟩
    case idle =>
      have hq : ∃ d, q d = true := by
        by_contra hq
        exact h ⟨rfl, rfl, fun d => by simpa using fun hd => hq ⟨d, hd⟩⟩
      have ⟨d, hq⟩ := hq
      exact ⟨_, _, id, .packetReady hq⟩

theorem System.Awake.not_pending (ha : s.Awake ds) (hq : s.Quiescent) (hi : ds.installed d = true) :
    ¬(ds.driver d).Pending (s.driver d) := by
  intro hp
  cases ha d hi hp
  case source h         => simp [hq.source] at h
  case handler mem _    => simp [hq.handlers] at mem
  case packetAction h   => simp [hq.workLoop] at h
  case waking h         => simp [hq.workLoop] at h

end Controller.Interrupt
