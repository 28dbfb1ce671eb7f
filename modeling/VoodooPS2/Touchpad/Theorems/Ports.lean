import VoodooPS2.Controller.Theorems.Wire
import VoodooPS2.Touchpad.Theorems.Power
import VoodooPS2.Touchpad.Theorems.Requests

namespace Touchpad

open Controller Dialogue

variable {fw : Firmware} {w w' : Wire Device} {d' : Device} {x : Exchange} {xs : List Exchange}
  {request : List PS2Command}

section Fields

-- A command may have been given what it has read, and nothing else.
def Filled (c c' : PS2Command) : Prop :=
  c'.command = c.command ∧ (c.command ≠ .readDataPort → c' = c)

-- All commands before the one that fails have been filled, and the others are left as they are.
def Processing (index : Nat) (cs : List PS2Command) (r : Option Nat × List PS2Command) : Prop :=
  ∃ cs₁ cs₁' cs₂, cs = cs₁ ++ cs₂ ∧ r.2 = cs₁' ++ cs₂ ∧ List.Forall₂ Filled cs₁ cs₁' ∧
    match r.1 with
    | none   => cs₂ = []
    | some k => cs₂ ≠ [] ∧ k = index + cs₁.length

theorem processCommand_filled {s : State} {m : Mode} {c : PS2Command}
    (hc : c.command = .sendMouseCommandAndCompareAck ∨ c.command = .readDataPort) :
    (processCommand s m c).Ensures fun r => Filled c r.1 ∧ (r.2 = true → r.1 = c) := by
  obtain hc | hc := hc
  · simp only [processCommand, hc]
    exact .skip fun _ => .skip fun _ => .skip fun _ => .pure ⟨⟨rfl, fun _ => rfl⟩, fun _ => rfl⟩
  · simp only [processCommand, hc]
    exact .skip fun _ => .pure ⟨⟨rfl, fun h => absurd hc h⟩, fun h => Bool.noConfusion h⟩

theorem processCommands_processing {s : State} {m : Mode} {cs : List PS2Command} {index : Nat}
    (hc : ∀ c ∈ cs, c.command = .sendMouseCommandAndCompareAck ∨ c.command = .readDataPort) :
    (processCommands s index m cs).Ensures (Processing index cs) := by
  induction cs generalizing index m
  case nil          => exact .pure ⟨[], [], [], rfl, rfl, .nil, rfl⟩
  case cons c cs hi =>
    rw [List.forall_mem_cons] at hc
    refine .bind (.label (processCommand_filled hc.left)) ?_
    rintro ⟨c', failed⟩ ⟨hf, hk⟩
    cases failed
    case true  =>
      obtain rfl : c' = c := hk rfl
      exact .pure ⟨[], [], c' :: cs, rfl, rfl, .nil, List.cons_ne_nil _ _, rfl⟩
    case false =>
      refine .bind (hi hc.right) ?_
      rintro ⟨failed, cs'⟩ ⟨cs₁, cs₁', cs₂, rfl, rfl, hcs, hr⟩
      refine .pure ⟨c :: cs₁, c' :: cs₁', cs₂, rfl, rfl, .cons hf hcs, ?_⟩
      cases failed
      case none   => exact hr
      case some k => exact ⟨hr.left, by rw [hr.right, List.length_cons]; omega⟩

theorem shows_of_filled {cs₁ cs₁' cs₂ : List PS2Command} {r : PS2Request} (hf : List.Forall₂ Filled cs₁ cs₁')
    (hc : r.commands = cs₁' ++ cs₂) (hn : r.commandsCount.toNat = cs₁.length) :
    Exchange.Shows ⟨cs₁ ++ cs₂, .ofRequest (cs₁ ++ cs₂) r⟩ r := by
  have hcount : Exchange.commandsCount ⟨cs₁ ++ cs₂, .ofRequest (cs₁ ++ cs₂) r⟩ = cs₁.length := by
    simp only [Exchange.commandsCount, Response.ofRequest, hn, List.length_append]
    cases cs₂
    case nil  => simp
    case cons => simp
  refine ⟨hcount.trans hn.symm, fun i => ?_⟩
  simp only [Exchange.inOrOut, hcount]
  simp only [hc, Response.ofRequest, List.getD_eq_getElem?_getD, List.getElem?_map]
  by_cases hi : i < cs₁.length
  case neg =>
    have hl := hf.length_eq
    rw [List.getElem?_append_right (by omega), List.getElem?_append_right (by omega), hl]
    rw [hl] at hi
    cases cs₂[i - cs₁'.length]?
    case none => rfl
    case some => simp [hi]
  case pos =>
    have hi' : i < cs₁'.length := hf.length_eq ▸ hi
    rw [List.getElem?_append_left hi, List.getElem?_append_left hi', List.getElem?_eq_getElem hi,
      List.getElem?_eq_getElem hi']
    obtain ⟨hk, hs⟩ := hf.get hi hi'
    simp only [List.get_eq_getElem] at hk hs
    by_cases hr : cs₁[i].command = .readDataPort
    case pos => simp [hr, hi, PS2Command.read, hk]
    case neg => simp [hr, hs hr]

-- Whatever the hardware answers, the model of the exchange shows what is in the request.
theorem processRequest_shows {s : State} (h : PS2Request.ToMouse request) :
    (processRequest s (.ofCommands request)).Ensures fun o =>
      Exchange.Shows ⟨request, .ofRequest request o.request⟩ o.request := by
  have hn : (UInt8.ofNat request.length).toNat = request.length := UInt8.toNat_ofNat_of_lt' h.counted
  unfold processRequest
  split
  case isTrue  => exact .pure (@shows_of_filled [] [] request _ .nil rfl rfl)
  case isFalse =>
    simp only [PS2Request.ofCommands, hn, List.take_length, List.drop_length, List.append_nil]
    refine .bind (processCommands_processing h.known) ?_
    rintro ⟨failed, cs'⟩ ⟨cs₁, cs₁', cs₂, hc, rfl, hf, hr⟩
    have hl := h.counted
    subst hc
    refine .pure (shows_of_filled hf rfl ?_)
    cases failed
    case none   =>
      obtain rfl : cs₂ = [] := hr
      simpa using hn
    case some k =>
      obtain rfl : k = cs₁.length := hr.right.trans (Nat.zero_add _)
      rw [List.length_append] at hl
      exact UInt8.toNat_ofNat_of_lt' (Nat.lt_of_le_of_lt (Nat.le_add_right _ _) hl)

theorem processRequest_shows_reset : (processRequest {} (.ofCommands [sendMouse kDP_Reset, readByte])).Ensures
    fun o => Exchange.Shows ⟨[sendMouse kDP_Reset, readByte],
      .ofRequest [sendMouse kDP_Reset, readByte] o.request⟩ o.request :=
  processRequest_shows (toMouse_cons (by decide) (by decide))

end Fields

section Session

-- A request that is processed is an exchange with the device, whatever the keyboard sends meanwhile.
theorem Exchange.Served.answer (h : x.Served fw w w') (hx : x.ToMouse) : w.device.answer fw x = some w'.device := by
  obtain ⟨s, is, o, ho, hs, hp, hl, hr⟩ := h
  have ⟨hn, hb, hd⟩ := (processRequest_completes ho hs hx).always is o w' hp hl
  have hc : o.val.request.commandsCount.toNat = x.request.length := hn ▸ UInt8.toNat_ofNat_of_lt' hx.counted
  have hr' : x.response = ⟨none, ((respond (Device.receive fw)).run (w.device, []) x.request).2⟩ := by
    rw [hr, Response.ofRequest, hc, hb, if_neg (Nat.lt_irrefl _)]
  rw [Device.answer, hr', if_pos ⟨rfl, rfl⟩, hd]

theorem exists_served (hx : x.ToMouse) (h : w.device.answer fw x = some d') :
    ∃ w', x.Served fw w w' ∧ w'.device = d' := by
  have hp := @processRequest_completes _ (Device.receive fw) w {} _ rfl rfl hx
  obtain ⟨is, a, l, w', hl, hi, -, hn, hb, hd⟩ := hp.possibly.and hp.always
  obtain ⟨⟨hs, hr⟩, hd'⟩ := Option.ite_none_right_eq_some.mp h
  have hc : a.request.commandsCount.toNat = x.request.length := hn ▸ UInt8.toNat_ofNat_of_lt' hx.counted
  have hr' : x.response = .ofRequest x.request a.request := by
    rw [Response.ofRequest, hc, hb, if_neg (Nat.lt_irrefl _), ← hs, ← hr]
  exact ⟨w', ⟨{}, _, _, rfl, rfl, hi [], hl, hr'⟩, hd.trans (Option.some.inj hd')⟩

theorem served_answers (h : Run (fun w x w' => x.Served fw w w') w xs w') (hx : ∀ x ∈ xs, x.ToMouse) :
    xs.foldlM (Device.answer fw) w.device = some w'.device := by
  induction h
  case nil              => rfl
  case snoc hr hs hi =>
    rw [List.forall_mem_append, List.forall_mem_singleton] at hx
    rw [List.foldlM_append, hi hx.left]
    simpa using hs.answer hx.right

theorem stoppedAt_of_answer {d : Device} (h : d.answer fw x = some d') : x.response.stoppedAt = none :=
  (Option.ite_none_right_eq_some.mp h).left.left

theorem served_complete (h : Run (fun w x w' => x.Served fw w w') w xs w') (hx : ∀ x ∈ xs, x.ToMouse) :
    ∀ x ∈ xs, x.response.stoppedAt = none := by
  induction h
  case nil           => simp
  case snoc hr hs hi =>
    rw [List.forall_mem_append, List.forall_mem_singleton] at hx ⊢
    exact ⟨hi hx.left, stoppedAt_of_answer (hs.answer hx.right)⟩

theorem exists_served_all (hx : ∀ x ∈ xs, x.ToMouse) (h : xs.foldlM (Device.answer fw) w.device = some d') :
    ∃ w', Run (fun w x w' => x.Served fw w w') w xs w' ∧ w'.device = d' := by
  induction xs generalizing w
  case nil          => exact ⟨w, .nil, Option.some.inj h⟩
  case cons x xs hi =>
    rw [List.forall_mem_cons] at hx
    obtain ⟨d₁, h₁, h₂⟩ := Option.bind_eq_some_iff.mp (List.foldlM_cons (m := Option) ▸ h)
    obtain ⟨w₁, hw, rfl⟩ := exists_served hx.left h₁
    obtain ⟨w', hr, hd⟩ := hi hx.right h₂
    exact ⟨w', .cons hw hr, hd⟩

theorem foldlM_exchangesOf {l : List InitEvent} {d : Device} :
    (exchangesOf l).foldlM (Device.answer fw) d = l.foldlM (Device.answerInit fw) d := by
  induction l generalizing d
  case nil         => rfl
  case cons e l hi =>
    rw [exchangesOf, List.flatMap_cons, List.foldlM_append, List.foldlM_cons]
    exact Option.bind_congr fun _ _ => hi

-- The driver reaches the device through the ports of the controller, at which the keyboard may send bytes at
-- any time and the hardware may be slow. No request fails, the device is still left as it should be, and the
-- driver may return.
theorem session_served (fw : Firmware) (w : Wire Device) (cmds : List PowerCommand) (h : w.device.pending = []) :
    (∀ answers w', Run (fun w x w' => x.Served fw w w') w (exchangesOf (session cmds answers).log) w' →
      (∀ x ∈ exchangesOf (session cmds answers).log, x.response.stoppedAt = none) ∧
        (session cmds answers).val = fw.identified? fw.defaults ∧
        w'.device.regs = (fw.identified? fw.defaults).elim fw.defaults (·.powered fw.defaults cmds)) ∧
    ∃ answers w', Run (fun w x w' => x.Served fw w w') w (exchangesOf (session cmds answers).log) w' ∧
      ∀ x ∈ exchangesOf (session cmds answers).log, x.response.stoppedAt = none := by
  have ht (answers : Nat → Response) : ∀ x ∈ exchangesOf (session cmds answers).log, x.ToMouse := by
    intro x hx
    obtain ⟨e, he, hx⟩ := List.mem_flatMap.mp hx
    exact session_toMouse answers e he x hx
  obtain ⟨dev, d', hd, hdev, hi⟩ : Achieves (Device.answerInit fw) w.device (session cmds) _ := session_idle h
  constructor
  case left  =>
    intro answers w' hr
    have ha := served_answers hr (ht answers)
    rw [foldlM_exchangesOf] at ha
    obtain ⟨hv, hw⟩ := hd.only answers w'.device ha
    refine ⟨served_complete hr (ht answers), ?_⟩
    rw [hv, hw, ← hdev]
    exact ⟨rfl, congrArg Registers.regs hi.registers⟩
  case right =>
    obtain ⟨answers, l, ho, hl⟩ := hd.run fun _ => {}
    obtain rfl : (session cmds answers).log = l := congrArg (·.log) ho
    rw [← foldlM_exchangesOf] at hl
    obtain ⟨w', hr, -⟩ := exists_served_all (ht answers) hl
    exact ⟨answers, w', hr, served_complete hr (ht answers)⟩

theorem session_served_rushmore :
    let w : Wire Device := { device := { regs := fun _ => 0xff } }
    (∀ answers w', Run (fun w x w' => x.Served rushmore w w') w
        (exchangesOf (session [.disableDevice] answers).log) w' →
      (∀ x ∈ exchangesOf (session [.disableDevice] answers).log, x.response.stoppedAt = none) ∧
        (session [.disableDevice] answers).val = rushmore.identified? rushmore.defaults ∧
        w'.device.regs = (rushmore.identified? rushmore.defaults).elim rushmore.defaults
          (·.powered rushmore.defaults [.disableDevice])) ∧
    ∃ answers w', Run (fun w x w' => x.Served rushmore w w') w
        (exchangesOf (session [.disableDevice] answers).log) w' ∧
      ∀ x ∈ exchangesOf (session [.disableDevice] answers).log, x.response.stoppedAt = none :=
  session_served rushmore { device := { regs := fun _ => 0xff } } [.disableDevice] rfl

end Session
end Touchpad
