import VoodooPS2.Controller.Wire
import VoodooPS2.Machine.Partner

namespace Controller

open Scripted

variable {δ : Type} {receive : δ → UInt8 → δ × List UInt8} {w w' : Wire δ} {d : δ} {bytes : List UInt8}
  {s : State} {m : Mode} {c : PS2Command} {b status : UInt8} {n : Nat}

namespace Wire

-- A poll leaves the mouse as it is.
structure Kept (w w' : Wire δ) : Prop where
  device   : w'.device = w.device
  outgoing : w'.outgoing = w.outgoing
  transmit : w'.transmit = w.transmit

theorem Kept.refl : w.Kept w :=
  ⟨rfl, rfl, rfl⟩

theorem Kept.trans {w₁ w₂ w₃ : Wire δ} (h : w₁.Kept w₂) (h' : w₂.Kept w₃) : w₁.Kept w₃ :=
  ⟨h'.device.trans h.device, h'.outgoing.trans h.outgoing, h'.transmit.trans h.transmit⟩

theorem poll_ready (hr : status &&& kOutputReady ≠ 0) (h : w.poll status = some w') :
    w.Kept w' ∧ w'.announced = some (stream status) ∧ (stream status = .mouse → w.outgoing ≠ []) ∧
      w'.waited = w.waited := by
  simp only [poll, if_pos hr, Option.ite_none_left_eq_some] at h
  obtain ⟨hm, h⟩ := h
  obtain rfl := Option.some.inj h
  exact ⟨⟨rfl, rfl, rfl⟩, rfl, fun hs ho => hm ⟨hs, ho⟩, rfl⟩

theorem poll_notReady (hr : ¬status &&& kOutputReady ≠ 0) (h : w.poll status = some w') :
    w.Kept w' ∧ if w.outgoing = [] then w'.waited = w.waited
      else w'.waited = w.waited + 1 ∧ w'.waited < timeout := by
  simp only [poll, if_neg hr] at h
  split at h
  case isTrue ho =>
    obtain rfl := Option.some.inj h
    exact ⟨⟨rfl, rfl, rfl⟩, by rw [if_pos ho]⟩
  case isFalse ho =>
    rw [Option.ite_none_right_eq_some] at h
    obtain ⟨ht, h⟩ := h
    obtain rfl := Option.some.inj h
    exact ⟨⟨rfl, rfl, rfl⟩, by rw [if_neg ho]; exact ⟨rfl, ht⟩⟩

theorem poll_kept (h : w.poll status = some w') : w.Kept w' := by
  by_cases hr : status &&& kOutputReady ≠ 0
  case pos => exact (poll_ready hr h).left
  case neg => exact (poll_notReady hr h).left

theorem poll_busy (h : w.poll status = some w') : w'.busy = decide (status &&& kInputBusy ≠ 0) := by
  simp only [poll] at h
  split at h
  case isTrue =>
    obtain ⟨-, h⟩ := Option.ite_none_left_eq_some.mp h
    obtain rfl := Option.some.inj h
    rfl
  case isFalse =>
    split at h
    case isTrue =>
      obtain rfl := Option.some.inj h
      rfl
    case isFalse =>
      obtain ⟨-, h⟩ := Option.ite_none_right_eq_some.mp h
      obtain rfl := Option.some.inj h
      rfl

-- The driver waits for what the mouse has to send, and may find it missing for `n` times more.
structure Waiting (w : Wire δ) (d : δ) (bytes : List UInt8) (n : Nat) : Prop where
  device   : w.device = d
  outgoing : w.outgoing = bytes
  silent   : bytes = [] → w.waited = 0
  inTime   : bytes ≠ [] → w.waited + n = timeout ∧ 0 < n

-- There is nothing to wait for any more but what can be read.
structure Ready (w : Wire δ) (d : δ) (bytes : List UInt8) : Prop where
  device   : w.device = d
  outgoing : w.outgoing = bytes
  waited   : w.waited = 0

theorem Ready.waiting (h : w.Ready d bytes) : w.Waiting d bytes timeout where
  device   := h.device
  outgoing := h.outgoing
  silent _ := h.waited
  inTime _ := ⟨by rw [h.waited, Nat.zero_add], by decide⟩

theorem Waiting.ready {n : Nat} (h : w.Waiting d [] n) : w.Ready d [] :=
  ⟨h.device, h.outgoing, h.silent rfl⟩

end Wire

theorem inbCommandPort_against : Against (Wire.step receive) w inbCommandPort fun status w' =>
    w.poll status = some w' :=
  .bind (.input fun _ => rfl) fun _ _ h₁ => .bind (.emit fun _ h₂ => h₁ ▸ h₂) fun _ _ h₂ => .pure h₂

theorem waitInput_against : Against (Wire.step receive) w waitInput fun _ w' =>
    w.Kept w' ∧ w'.busy = false := by
  refine .loop (fun _ w' => w.Kept w') (fun _ w₁ hk => ?_) .refl
  refine inbCommandPort_against.bind fun status w₂ h => .pure ?_
  split
  case isTrue          => exact hk.trans (Wire.poll_kept h)
  case isFalse hb      => exact ⟨hk.trans (Wire.poll_kept h), (Wire.poll_busy h).trans (decide_eq_false hb)⟩

theorem writeCommandPort_against : Against (Wire.step receive) w (writeCommandPort b) fun _ w' =>
    w'.device = w.device ∧ w'.transmit = decide (b = kCP_TransmitToMouse) := by
  refine waitInput_against.bind fun _ w₁ ⟨hk, hb⟩ => .emit fun w₂ h => ?_
  obtain rfl := Option.some.inj h
  simp [Wire.outb, hb, hk.device]

theorem writeDataPort_against (ht : w.transmit = true) :
    Against (Wire.step receive) w (writeDataPort b) fun _ w' =>
      w'.Ready (receive w.device b).1 (kSC_Acknowledge :: (receive w.device b).2) := by
  refine waitInput_against.bind fun _ w₁ ⟨hk, hb⟩ => .emit fun w₂ h => ?_
  obtain rfl := Option.some.inj h
  have ht : w₁.transmit = true := hk.transmit.trans ht
  simp only [Wire.outb, hb, ht, hk.device]
  exact ⟨rfl, rfl, rfl⟩

theorem waitOutput_against (h : w.Waiting d bytes n) :
    Against (Wire.step receive) w (waitOutput n) fun r w' => w'.Waiting d bytes r.2 ∧
      match r.1 with
      | some status => w'.announced = some (stream status)
      | none        => bytes = [] := by
  induction n generalizing w
  case zero       => exact .pure ⟨h, by_contra fun hb => Nat.lt_irrefl 0 (h.inTime hb).right⟩
  case succ n hi  =>
    refine inbCommandPort_against.bind fun status w₁ hp => ?_
    split
    case isTrue hr  =>
      have ⟨hk, ha, _, hw⟩ := Wire.poll_ready hr hp
      refine .pure ⟨⟨hk.device.trans h.device, hk.outgoing.trans h.outgoing, fun hb => ?_, fun hb => ?_⟩, ha⟩
      · exact hw.trans (h.silent hb)
      · exact hw ▸ h.inTime hb
    case isFalse hr =>
      have ⟨hk, hw⟩ := Wire.poll_notReady hr hp
      rw [h.outgoing] at hw
      refine hi ⟨hk.device.trans h.device, hk.outgoing.trans h.outgoing, fun hb => ?_, fun hb => ?_⟩
      · rw [if_pos hb] at hw
        exact hw.trans (h.silent hb)
      · rw [if_neg hb] at hw
        have := h.inTime hb
        omega

-- What is taken is the next byte of the mouse, or a byte of the keyboard.
theorem inbDataPort_against (h : w.Waiting d bytes n) (ha : w.announced = some (stream status)) :
    Against (Wire.step receive) w (inbDataPort status) fun byte w' =>
      if stream status = .mouse then bytes.head? = some byte ∧ w'.Ready d bytes.tail
      else w'.Waiting d bytes n := by
  refine .bind (P := fun _ w' => w = w') (.input fun _ => rfl) ?_
  rintro byte _ rfl
  refine .bind (.emit (Q := fun _ w' => w.take (stream status) byte = some w') fun _ h => h) ?_
  intro _ w₁ hw
  refine .pure ?_
  cases hs : stream status
  case keyboard =>
    simp only [hs] at hw ha
    simp only [Wire.take, if_pos ha] at hw
    obtain rfl := Option.some.inj hw
    exact ⟨h.device, h.outgoing, h.silent, h.inTime⟩
  case mouse    =>
    simp only [hs] at hw ha
    simp only [Wire.take, if_pos ha] at hw
    obtain ⟨hb, hw⟩ := Option.ite_none_right_eq_some.mp hw
    obtain rfl := Option.some.inj hw
    rw [if_pos rfl]
    exact ⟨h.outgoing ▸ hb, h.device, h.outgoing ▸ rfl, rfl⟩

theorem readDataPort_against (hs : s.suppressTimeout = false) (h : w.Ready d bytes) :
    Against (Wire.step receive) w (readDataPort s .mouse) fun byte w' =>
      byte = bytes.headD 0 ∧ w'.Ready d bytes.tail := by
  refine .loop (fun n w => w.Waiting d bytes n) (fun n w₁ h₁ => ?_) h.waiting
  refine (waitOutput_against h₁).bind fun ⟨status?, n'⟩ w₂ ⟨h₂, ha⟩ => ?_
  cases status?
  case none        =>
    obtain rfl : bytes = [] := ha
    exact .pure ⟨rfl, h₂.ready⟩
  case some status =>
    refine (inbDataPort_against h₂ ha).bind fun byte w₃ h₃ => ?_
    simp only [hs, Bool.false_eq_true, if_false]
    split
    case isTrue hm  =>
      rw [if_pos hm] at h₃
      obtain ⟨hb, h₃⟩ := h₃
      refine .pure ⟨?_, h₃⟩
      rw [List.headD_eq_head?_getD, hb]
      rfl
    case isFalse hm =>
      rw [if_neg hm] at h₃
      refine .bind (.emit fun w₄ h₄ => ?_) fun _ _ h => .pure h
      exact Option.some.inj h₄ ▸ h₃

-- The byte that is expected is the next one of the mouse.
theorem readDataPortExpecting_against (h : w.Ready d (b :: bytes)) :
    Against (Wire.step receive) w (readDataPortExpecting s .mouse b) fun byte w' =>
      byte = b ∧ w'.Ready d bytes := by
  refine .loop (fun r w => r.firstByte = none ∧ w.Waiting d (b :: bytes) r.timeoutCounter) ?_ ⟨rfl, h.waiting⟩
  rintro ⟨n, firstByte⟩ w₁ ⟨hf, h₁⟩
  obtain rfl : firstByte = none := hf
  refine (waitOutput_against h₁).bind fun ⟨status?, n'⟩ w₂ ⟨h₂, ha⟩ => ?_
  cases status?
  case none        => exact absurd ha (List.cons_ne_nil _ _)
  case some status =>
    refine (inbDataPort_against h₂ ha).bind fun byte w₃ h₃ => ?_
    split
    case isTrue hm  =>
      rw [if_pos hm] at h₃
      obtain ⟨hb, h₃⟩ := h₃
      obtain rfl : b = byte := Option.some.inj hb
      rw [if_pos rfl]
      exact .pure ⟨rfl, h₃⟩
    case isFalse hm =>
      rw [if_neg hm] at h₃
      refine .bind (P := fun _ w => w.Waiting d (b :: bytes) n') ?_ fun _ _ h => .pure ⟨rfl, h⟩
      unfold dispatchUnlessIgnored
      split
      · exact .emit fun w₄ h₄ => Option.some.inj h₄ ▸ h₃
      · exact .pure h₃

section Prompt

-- The hardware may be as fast as that.
theorem inbCommandPort_possibly (h : w.poll status = some w') :
    Possibly (Wire.step receive) w inbCommandPort fun status' w'' => status' = status ∧ w'' = w' := by
  refine .bind (.input (Q := fun i s => i = status ∧ s = w) status ⟨rfl, rfl⟩) ?_
  rintro _ _ ⟨rfl, rfl⟩
  exact .bind (.emit (Q := fun _ s => s = w') h rfl) fun _ _ hs => .pure ⟨rfl, hs⟩

theorem waitInput_possibly : Possibly (Wire.step receive) w waitInput fun _ _ => True := by
  have hp : w.poll 0x01 = some { w with announced := some .keyboard, busy := false } := rfl
  refine .loop <| (inbCommandPort_possibly hp).bind ?_
  rintro _ w₁ ⟨rfl, -⟩
  exact .pure trivial

theorem writeCommandPort_possibly : Possibly (Wire.step receive) w (writeCommandPort b) fun _ _ => True :=
  waitInput_possibly.bind fun _ _ _ => .emit rfl trivial

theorem writeDataPort_possibly : Possibly (Wire.step receive) w (writeDataPort b) fun _ _ => True :=
  waitInput_possibly.bind fun _ _ _ => .emit rfl trivial

-- There is a byte at once, if there is any.
theorem waitOutput_possibly (hn : 0 < n) : Possibly (Wire.step receive) w (waitOutput n) fun r w' =>
    w'.outgoing = w.outgoing ∧ if w.outgoing = [] then r.1 = none
      else r.1 = some 0x21 ∧ w'.announced = some .mouse := by
  by_cases ho : w.outgoing = []
  case neg =>
    obtain ⟨n, rfl⟩ := Nat.exists_eq_succ_of_ne_zero hn.ne'
    have hp : w.poll 0x21 = some { w with announced := some .mouse, busy := false } := if_neg fun h => ho h.right
    refine (inbCommandPort_possibly hp).bind ?_
    rintro _ _ ⟨rfl, rfl⟩
    exact .pure ⟨rfl, by rw [if_neg ho]; exact ⟨rfl, rfl⟩⟩
  case pos =>
    suffices ∀ n w, w.outgoing = [] → Possibly (Wire.step receive) w (waitOutput n) fun r w' =>
        w'.outgoing = [] ∧ r.1 = none from
      (this n w ho).mono fun r w' ⟨ho', hr⟩ => ⟨ho'.trans ho.symm, by rw [if_pos ho]; exact hr⟩
    intro n
    induction n
    case zero      => exact fun w ho => .pure ⟨ho, rfl⟩
    case succ n hi =>
      intro w ho
      have hp : w.poll 0 = some { w with announced := none, busy := false } := if_pos ho
      refine (inbCommandPort_possibly hp).bind ?_
      rintro _ _ ⟨rfl, rfl⟩
      exact hi _ ho

theorem inbDataPort_possibly (ho : w.outgoing = b :: bytes) (ha : w.announced = some .mouse) :
    Possibly (Wire.step receive) w (inbDataPort 0x21) fun byte _ => byte = b := by
  refine .bind (.input (Q := fun i s => b = i ∧ w = s) b ⟨rfl, rfl⟩) ?_
  rintro _ _ ⟨rfl, rfl⟩
  have ht : w.take .mouse b = some { w with announced := none, outgoing := bytes, waited := 0 } := by
    simp [Wire.take, ha, ho]
  exact .bind (.emit (Q := fun _ _ => True) ht trivial) fun _ _ _ => .pure rfl

theorem readDataPort_possibly (hs : s.suppressTimeout = false) :
    Possibly (Wire.step receive) w (readDataPort s .mouse) fun _ _ => True := by
  refine .loop <| (waitOutput_possibly (by decide)).bind fun ⟨status?, n'⟩ w₁ ⟨ho, hr⟩ => ?_
  split at hr
  case isTrue         =>
    obtain rfl : status? = none := hr
    exact .pure trivial
  case isFalse hb     =>
    obtain ⟨rfl, ha⟩ : status? = some 0x21 ∧ w₁.announced = some .mouse := hr
    obtain ⟨b, bytes, hb⟩ := List.exists_cons_of_ne_nil hb
    refine (inbDataPort_possibly (ho.trans hb) ha).bind fun byte w₂ _ => ?_
    rw [hs]
    exact .pure trivial

theorem readDataPortExpecting_possibly (ho : w.outgoing = b :: bytes) :
    Possibly (Wire.step receive) w (readDataPortExpecting s .mouse b) fun _ _ => True := by
  refine .loop <| (waitOutput_possibly (by decide)).bind fun ⟨status?, n'⟩ w₁ ⟨ho', hr⟩ => ?_
  rw [if_neg (ho ▸ List.cons_ne_nil _ _)] at hr
  obtain ⟨rfl, ha⟩ : status? = some 0x21 ∧ w₁.announced = some .mouse := hr
  refine (inbDataPort_possibly (ho'.trans ho) ha).bind ?_
  rintro byte w₂ rfl
  simp only [if_pos (show stream 0x21 = .mouse from rfl), if_true]
  exact .pure trivial

end Prompt

section Command

theorem respond_sends {cs : List PS2Command} (hc : c.command = .sendMouseCommandAndCompareAck) :
    (respond receive).run (d, bytes) (c :: cs) = (((respond receive).run (receive d c.byte₀) cs).1,
      c.read :: ((respond receive).run (receive d c.byte₀) cs).2) := by
  simp [Mealy.run, respond, PS2Command.read, hc]

theorem respond_reads {cs : List PS2Command} (hc : c.command = .readDataPort) :
    (respond receive).run (d, bytes) (c :: cs) = (((respond receive).run (d, bytes.tail) cs).1,
      (c.setInOrOut (bytes.headD 0)).read :: ((respond receive).run (d, bytes.tail) cs).2) := by
  simp [Mealy.run, respond, PS2Command.read, PS2Command.setInOrOut, PS2Command.inOrOut, hc]

theorem sendMouse_completes (hc : c.command = .sendMouseCommandAndCompareAck) :
    Completes (Wire.step receive) w (processCommand s m c) fun r w' => r = (c, false) ∧
      w'.Ready (receive w.device c.byte₀).1 (receive w.device c.byte₀).2 := by
  simp only [processCommand, hc]
  refine .bind ⟨writeCommandPort_against, writeCommandPort_possibly⟩ fun _ w₁ ⟨hd, ht⟩ => ?_
  refine .bind ⟨writeDataPort_against ht, writeDataPort_possibly⟩ fun _ w₂ h₂ => ?_
  refine .bind ⟨readDataPortExpecting_against h₂, readDataPortExpecting_possibly h₂.outgoing⟩ ?_
  rintro _ w₃ ⟨rfl, h₃⟩
  exact .pure ⟨rfl, hd ▸ h₃⟩

theorem readByte_completes (hs : s.suppressTimeout = false) (hm : m.deviceMode = .mouse)
    (hc : c.command = .readDataPort) (h : w.Ready d bytes) :
    Completes (Wire.step receive) w (processCommand s m c) fun r w' => r = (c.setInOrOut (bytes.headD 0), false) ∧
      w'.Ready d bytes.tail := by
  simp only [processCommand, hc, hm]
  refine .bind ⟨readDataPort_against hs h, readDataPort_possibly hs⟩ ?_
  rintro _ w₁ ⟨rfl, h₁⟩
  exact .pure ⟨rfl, h₁⟩

theorem processCommands_completes {cs : List PS2Command} {index : Nat} (hs : s.suppressTimeout = false)
    (hc : ∀ c ∈ cs, c.command = .sendMouseCommandAndCompareAck ∨ c.command = .readDataPort)
    (hm : m.deviceMode = .mouse) (h : w.Ready d bytes) :
    Completes (fun w a => Wire.step receive w a.2) w (processCommands s index m cs) fun r w' => r.1 = none ∧
      r.2.map (·.read) = ((respond receive).run (d, bytes) cs).2 ∧
        w'.device = ((respond receive).run (d, bytes) cs).1.1 := by
  induction cs generalizing w d bytes m index
  case nil          => exact .pure ⟨rfl, rfl, h.device⟩
  case cons c cs hi =>
    rw [List.forall_mem_cons] at hc
    obtain ⟨hc | hc, hcs⟩ := hc
    · refine .bind (.label (fun _ _ => rfl) (sendMouse_completes hc)) ?_
      rintro _ w₁ ⟨rfl, h₁⟩
      rw [h.device] at h₁
      refine .bind (hi hcs (m := m.next c) (by simp [Mode.next, hc]) h₁) ?_
      rintro ⟨failed, cs'⟩ w₂ ⟨hf, hr, hd⟩
      obtain rfl : failed = none := hf
      rw [respond_sends hc]
      exact .pure ⟨rfl, congrArg (c.read :: ·) hr, hd⟩
    · refine .bind (.label (fun _ _ => rfl) (readByte_completes hs hm hc h)) ?_
      rintro _ w₁ ⟨rfl, h₁⟩
      refine .bind (hi hcs (m := m.next c) (by simp [Mode.next, hc, hm]) h₁) ?_
      rintro ⟨failed, cs'⟩ w₂ ⟨hf, hr, hd⟩
      obtain rfl : failed = none := hf
      rw [respond_reads hc]
      exact .pure ⟨rfl, congrArg (_ :: ·) hr, hd⟩

-- The request is complete, with the answers of the mouse.
theorem processRequest_completes {cs : List PS2Command} (ho : s.hardwareOffline = false)
    (hs : s.suppressTimeout = false) (hc : PS2Request.ToMouse cs) :
    Completes (fun w a => Wire.step receive w a.2) w (processRequest s (.ofCommands cs)) fun o w' =>
      o.request.commandsCount = .ofNat cs.length ∧
        o.request.commands.map (·.read) = ((respond receive).run (w.device, []) cs).2 ∧
          w'.device = ((respond receive).run (w.device, []) cs).1.1 := by
  have hn : (UInt8.ofNat cs.length).toNat = cs.length := UInt8.toNat_ofNat_of_lt' hc.counted
  rw [processRequest, if_neg (Bool.not_eq_true _ ▸ ho)]
  simp only [PS2Request.ofCommands, hn, List.take_length, List.drop_length, List.append_nil]
  suffices Completes (fun w a => Wire.step receive w a.2) w
      (processCommands { s with ignoreInterrupts := s.ignoreInterrupts + 1 } 0 .init cs) fun r w' => r.1 = none ∧
        r.2.map (·.read) = ((respond receive).run (w.device, []) cs).2 ∧
          w'.device = ((respond receive).run (w.device, []) cs).1.1 by
    refine this.bind ?_
    rintro ⟨failed, cs'⟩ w₁ ⟨hf, hr, hd⟩
    obtain rfl : failed = none := hf
    exact .pure ⟨rfl, hr, hd⟩
  obtain ⟨-, hk, ha⟩ := hc
  cases cs
  case nil       => exact .pure ⟨rfl, rfl, rfl⟩
  case cons c cs =>
    have hc : c.command = .sendMouseCommandAndCompareAck := ha c rfl
    refine .bind (.label (fun _ _ => rfl) (sendMouse_completes hc)) ?_
    rintro _ w₁ ⟨rfl, h₁⟩
    refine .bind (processCommands_completes (m := Mode.init.next c) hs (fun c hc => hk c (.tail _ hc))
      (by simp [Mode.next, hc]) h₁) ?_
    rintro ⟨failed, cs'⟩ w₂ ⟨hf, hr, hd⟩
    obtain rfl : failed = none := hf
    rw [respond_sends hc]
    exact .pure ⟨rfl, congrArg (c.read :: ·) hr, hd⟩

end Command

end Controller
