import VoodooPS2.Controller.Theorems.Interrupt
import VoodooPS2.Controller.Theorems.Traffic
import VoodooPS2.System.Drivers

namespace Controller.Interrupt

open Scripted

variable {σ ω : PS2DeviceType → Type} {ds : Drivers σ ω} {d : PS2DeviceType} {data : UInt8} {i : Int}
  {hs : List Handler} {q : PS2DeviceType → Bool} {x : (d : PS2DeviceType) → σ d}
  {l h h' : List (PS2DeviceType × UInt8)} {log : List Access}

-- The system gets from one state to the other, and the bytes on the way are those of the log.
def Reaches (ds : Drivers σ ω) (s : System σ) (log : List Access) (s' : System σ) : Prop :=
  ∃ as, Run (System.Step ds) s as s' ∧ as.filterMap Action.taken? = Controller.taken log ∧
    as.filterMap Action.dispatched? = Controller.dispatched log

namespace Reaches

variable {s s₁ s₂ : System σ} {l₁ l₂ : List Access}

theorem refl : Reaches ds s [] s :=
  ⟨[], .nil, rfl, rfl⟩

theorem trans (h₁ : Reaches ds s l₁ s₁) (h₂ : Reaches ds s₁ l₂ s₂) : Reaches ds s (l₁ ++ l₂) s₂ := by
  obtain ⟨as, hr, ht, hd⟩ := h₁
  obtain ⟨bs, hr', ht', hd'⟩ := h₂
  refine ⟨as ++ bs, hr.trans hr', ?_, ?_⟩
  · rw [List.filterMap_append, Controller.taken_append, ht, ht']
  · rw [List.filterMap_append, Controller.dispatched_append, hd, hd']

theorem step {a : Action} (h : s.Step ds a s₁) (ht : a.taken?.toList = Controller.taken log)
    (hd : a.dispatched?.toList = Controller.dispatched log) : Reaches ds s log s₁ :=
  ⟨[a], .single h, by rw [← ht]; cases a <;> rfl, by rw [← hd]; cases a <;> rfl⟩

-- A byte that a request dispatches completes a packet or does not.
theorem dispatch (ds : Drivers σ ω) (i : Int) (hs : List Handler) (q : PS2DeviceType → Bool)
    (x : (d : PS2DeviceType) → σ d) (hl : (d, data) ∈ l) : ∃ q' x', Reaches ds ⟨i, hs, .request l, q, x⟩
    [.dispatchDriverInterrupt d data] ⟨i, hs, .request (l.erase (d, data)), q', x'⟩ := by
  obtain ⟨l₁, l₂, _, rfl, he⟩ := List.exists_erase_eq hl
  rw [he]
  have h : System.Step ds ⟨i, hs, .request (l₁ ++ (d, data) :: l₂), q, x⟩ (.dispatchDriverInterrupt d data) _ :=
    .dispatchRequest
  by_cases hr : (ds._dispatchDriverInterrupt x d data).2 = .packetReady
  case pos =>
    simp only [if_pos hr] at h
    have hw : Reaches ds ⟨i, hs, .waking d (l₁ ++ l₂), q, (ds._dispatchDriverInterrupt x d data).1⟩ []
        ⟨i, hs, .request (l₁ ++ l₂), Function.update q d true, (ds._dispatchDriverInterrupt x d data).1⟩ :=
      step .wakeRequest rfl rfl
    have ht : Reaches ds _ [.dispatchDriverInterrupt d data] _ := step h rfl rfl
    exact ⟨_, _, ht.trans hw⟩
  case neg =>
    simp only [if_neg hr] at h
    exact ⟨_, _, step h rfl rfl⟩

theorem request (ds : Drivers σ ω) (i : Int) (hs : List Handler) (q : PS2DeviceType → Bool)
    (x : (d : PS2DeviceType) → σ d) (hl : log.foldlM hold h = some h') (hp : l.Perm h) : ∃ l' q' x',
    Reaches ds ⟨i, hs, .request l, q, x⟩ log ⟨i, hs, .request l', q', x'⟩ := by
  induction log generalizing h l q x
  case nil => exact ⟨l, q, x, refl⟩
  case cons a log hi =>
    obtain ⟨h₁, h₂, hl⟩ := Option.bind_eq_some_iff.mp (List.foldlM_cons (m := Option) ▸ hl)
    have again {l₁ q₁ x₁} (hr : Reaches ds ⟨i, hs, .request l, q, x⟩ [a] ⟨i, hs, .request l₁, q₁, x₁⟩)
        (hp : l₁.Perm h₁) : ∃ l' q' x',
        Reaches ds ⟨i, hs, .request l, q, x⟩ (a :: log) ⟨i, hs, .request l', q', x'⟩ := by
      obtain ⟨l', q', x', hr'⟩ := hi q₁ x₁ hl hp
      exact ⟨l', q', x', hr.trans hr'⟩
    cases a
    case take d b =>
      obtain rfl : (d, b) :: h = h₁ := Option.some.inj h₂
      have hp : (l ++ [(d, b)]).Perm ((d, b) :: h) := List.perm_append_comm.trans (hp.cons _)
      cases d
      · exact again (step (.takeRequest (show (0x01 : UInt8) &&& kOutputReady ≠ 0 by decide)) rfl rfl) hp
      · exact again (step (.takeRequest (show (0x21 : UInt8) &&& kOutputReady ≠ 0 by decide)) rfl rfl) hp
    case dispatchDriverInterrupt d b =>
      by_cases hb : (d, b) ∈ h
      · obtain rfl : h.erase (d, b) = h₁ := by simpa [hold, hb] using h₂
        obtain ⟨q', x', hr⟩ := dispatch ds i hs q x (hp.mem_iff.mpr hb)
        exact again hr (hp.erase _)
      · simp [hold, hb] at h₂
    all_goals
      obtain rfl : h = h₁ := Option.some.inj h₂
      exact again ⟨[], .nil, rfl, rfl⟩ hp

-- What is left is used up.
theorem consume : Reaches ds ⟨i, hs, .request l, q, x⟩ [] ⟨i, hs, .request [], q, x⟩ := by
  induction l
  case nil         => exact refl
  case cons e l hi =>
    have h : Reaches ds ⟨i, hs, .request (e :: l), q, x⟩ [] ⟨i, hs, .request l, q, x⟩ :=
      step (show System.Step ds ⟨i, hs, .request ([] ++ e :: l), q, x⟩ (.consume e.1 e.2) _ from .consume []) rfl rfl
    exact h.trans hi

end Reaches

-- Whatever the commands of a request are and whatever the controller answers, what `processRequest` does
-- is a run of the work loop in the system of interrupts.
theorem processRequest_run {s : State} {r : PS2Request} {is : List UInt8}
    {o : Outcome UInt8 (Nat × Access) Processed} (h : processRequest s r is = some o) (ds : Drivers σ ω)
    (i : Int) (hs : List Handler) (q : PS2DeviceType → Bool) (x : (d : PS2DeviceType) → σ d) :
    ∃ q' x', Reaches ds ⟨i, hs, .idle, q, x⟩ (o.log.map Prod.snd) ⟨i, hs, .idle, q', x'⟩ := by
  obtain ⟨h', hl, _⟩ := processRequest_hold (h := []) is o h
  rw [← foldlM_map_snd] at hl
  obtain ⟨l', q', x', hr⟩ := Reaches.request ds (i + 1) hs q x hl (List.Perm.refl [])
  have hb : Reaches ds ⟨i, hs, .idle, q, x⟩ [] ⟨i + 1, hs, .request [], q, x⟩ :=
    .step .processRequest rfl rfl
  have he : Reaches ds ⟨i + 1, hs, .request [], q', x'⟩ [] ⟨i, hs, .idle, q', x'⟩ := by
    have h : System.Step ds ⟨i + 1, hs, .request [], q', x'⟩ .requestDone ⟨i + 1 - 1, hs, .idle, q', x'⟩ :=
      .requestDone
    rw [Int.add_sub_cancel] at h
    exact .step h rfl rfl
  refine ⟨q', x', ?_⟩
  simpa using hb.trans (hr.trans (Reaches.consume.trans he))

-- The key A is pressed while the mouse is being enabled.
theorem processRequest_run_enableMouse :
    let x := driversInit ⟨⟨{}, ⟨fun _ => 0, 0, 0⟩⟩, {}⟩ .zero
    ∃ q x', Reaches (drivers {} Touchpad.privV3) ⟨0, [], .idle, fun _ => false, x⟩
      [.poll 0, .outb .command 0xd4, .poll 0, .outb .data 0xf4, .poll 0x01, .take .keyboard 0x1e,
        .dispatchDriverInterrupt .keyboard 0x1e, .poll 0x21, .take .mouse 0xfa] ⟨0, [], .idle, q, x'⟩ :=
  have h : processRequest {} enableMouse [0, 0, 0x01, 0x1e, 0x21, 0xfa] = some ⟨_, [], _⟩ := rfl
  processRequest_run h (drivers {} Touchpad.privV3) 0 [] _ (driversInit ⟨⟨{}, ⟨fun _ => 0, 0, 0⟩⟩, {}⟩ .zero)

end Controller.Interrupt
