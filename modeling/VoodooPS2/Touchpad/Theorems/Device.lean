import VoodooPS2.Machine.Drives
import VoodooPS2.Touchpad.Device

namespace Touchpad

open Controller Dialogue

theorem v3_decodable : PrefixFree (· ∈ DeviceCommand.all) (DeviceCommand.code .v3) := by
  have h : ∀ a ∈ DeviceCommand.all, ∀ b ∈ DeviceCommand.all,
      DeviceCommand.code .v3 a <+: DeviceCommand.code .v3 b → a = b := by decide +kernel
  exact fun a b ha hb => h a ha b hb

theorem v4_decodable : PrefixFree (· ∈ DeviceCommand.all) (DeviceCommand.code .v4) := by
  have h : ∀ a ∈ DeviceCommand.all, ∀ b ∈ DeviceCommand.all,
      DeviceCommand.code .v4 a <+: DeviceCommand.code .v4 b → a = b := by decide +kernel
  exact fun a b ha hb => h a ha b hb

variable {fw : Firmware} {d : Device} {s : Registers} {bytes : List UInt8} {as : List DeviceCommand}
  {request : List PS2Command}

theorem Firmware.mode_cases : fw.mode = .v3 ∨ fw.mode = .v4 := by
  unfold mode
  cases fw.protocol?
  case none   => exact .inl rfl
  case some v => cases v <;> simp [Protocol.mode]

theorem Firmware.decodable : PrefixFree (· ∈ DeviceCommand.all) (DeviceCommand.code fw.mode) := by
  rcases fw.mode_cases with h | h
  · exact h ▸ v3_decodable
  · exact h ▸ v4_decodable

-- The bytes are a sequence of commands, up to some that mean nothing.
def CommandMode.Decodes (m : CommandMode) (bytes : List UInt8) (as : List DeviceCommand) : Prop :=
  (wordDecoder DeviceCommand.all (DeviceCommand.code m)).run [] bytes = ([], as)
  deriving Decidable

theorem decodes_word {a : DeviceCommand} (ha : a ∈ DeviceCommand.all) : fw.mode.Decodes (a.code fw.mode) [a] :=
  fw.decodable.decoder_word ha (by cases a <;> exact List.cons_ne_nil _ _)

namespace Device

-- All that it has received is dealt with.
structure Ready (d : Device) (s : Registers) : Prop where
  pending   : d.pending = []
  registers : d.toRegisters = s

variable (fw d) in
def after (bytes : List UInt8) : Device :=
  bytes.foldl (fun d b => (d.receive fw b).1) d

theorem after_run : (d.after fw bytes).pending =
      ((wordDecoder DeviceCommand.all (DeviceCommand.code fw.mode)).run d.pending bytes).1 ∧
    (d.after fw bytes).toRegisters =
      ((wordDecoder DeviceCommand.all (DeviceCommand.code fw.mode)).run d.pending bytes).2.foldl
        (Registers.execute · fw) d.toRegisters := by
  induction bytes generalizing d
  case nil             => exact ⟨rfl, rfl⟩
  case cons b bytes hi =>
    have ⟨hp, hr⟩ := @hi (d.receive fw b).1
    refine ⟨hp, hr.trans ?_⟩
    rw [Mealy.run, List.foldl_append]
    rfl

theorem Ready.after (h : d.Ready s) (hd : fw.mode.Decodes bytes as) :
    (d.after fw bytes).Ready (as.foldl (Registers.execute · fw) s) := by
  have ⟨hp, hr⟩ := @after_run fw d bytes
  rw [h.pending, hd] at hp hr
  exact ⟨hp, by rw [hr, h.registers]⟩

theorem respond_after {o : List UInt8} :
    ((respond (receive fw)).run (d, o) request).1.1 = d.after fw (mouseBytes request) := by
  induction request generalizing d o
  case nil               => rfl
  case cons c request hi =>
    have hi' := @hi ((respond (receive fw)).step (d, o) c).1.1 ((respond (receive fw)).step (d, o) c).1.2
    refine hi'.trans ?_
    cases hc : c.command
    all_goals simp [respond, mouseBytes, after, hc]

-- Nothing is read while bytes are sent.
theorem respond_sends {o : List UInt8} {request' : List PS2Command} : ∃ o',
    ((respond (receive fw)).run (d, o) (bytes.map sendMouse ++ request')).2 =
      List.replicate bytes.length 0 ++ ((respond (receive fw)).run (d.after fw bytes, o') request').2 := by
  induction bytes generalizing d o
  case nil             => exact ⟨o, rfl⟩
  case cons b bytes hi =>
    have ⟨o', h⟩ := @hi (d.receive fw b).1 (d.receive fw b).2
    exact ⟨o', congrArg ((0 : UInt8) :: ·) h⟩

theorem receive_information (h : d.pending = []) : (d.receive fw kDP_GetMouseInformation).2 =
    [(d.information fw).1, (d.information fw).2.1, (d.information fw).2.2] := by
  have hs := (fw.decodable.decoder_last (s := []) (a := .information) (by decide) rfl)
  simp [receive, h, hs, output]

theorem receive_reset (h : d.pending = []) : (d.receive fw kDP_Reset).2 = [kSC_Reset, kSC_ID] := by
  have hs := (fw.decodable.decoder_last (s := []) (a := .reset) (by decide) rfl)
  simp [receive, h, hs, output]

-- The three bytes that are read after others have been sent.
theorem respond_query (h : (d.after fw bytes).pending = []) :
    ((respond (receive fw)).run (d, []) (bytes.map sendMouse ++ mouseInformation)).2 =
      List.replicate bytes.length 0 ++ [0, ((d.after fw bytes).information fw).1,
        ((d.after fw bytes).information fw).2.1, ((d.after fw bytes).information fw).2.2] := by
  obtain ⟨o, ho⟩ := @respond_sends fw d bytes [] mouseInformation
  rw [ho]
  congr 1
  change 0 :: ((respond (receive fw)).run ((d.after fw bytes).receive fw kDP_GetMouseInformation)
    [readByte, readByte, readByte]).2 = _
  simp only [Mealy.run, respond, readByte, receive_information h]
  rfl

theorem submit_drives : Drives (answer fw) d (submitRequestAndBlock request)
    ⟨request, none, ((respond (receive fw)).run (d, []) request).2⟩ (d.after fw (mouseBytes request)) := by
  refine .bind (.ask fun r d' => ?_) .pure
  obtain ⟨stoppedAt, bytes⟩ := r
  rw [answer, Option.ite_none_right_eq_some, Response.mk.injEq, Option.some.injEq, respond_after, eq_comm (b := d')]

theorem submit_achieves {P : Exchange → Device → Prop}
    (h : P ⟨request, none, ((respond (receive fw)).run (d, []) request).2⟩ (d.after fw (mouseBytes request))) :
    Achieves (answer fw) d (submitRequestAndBlock request) P :=
  ⟨_, _, submit_drives, h⟩

theorem submitted_achieves (h : d.Ready s) (hd : fw.mode.Decodes (mouseBytes request) as) :
    Achieves (answer fw) d (submitted request) fun ok d' =>
      ok = true ∧ d'.Ready (as.foldl (Registers.execute · fw) s) := by
  refine (submit_achieves (P := fun x d' => x.Complete ∧ d'.Ready (as.foldl (Registers.execute · fw) s))
    ⟨rfl, h.after hd⟩).bind fun x d' ⟨hc, hr⟩ => ?_
  exact .pure ⟨decide_eq_true hc, hr⟩

end Device

section Registers

open Device

variable {nibble addr : UInt32} {value : UInt8}

theorem nibble_mem (hn : IsNibble nibble) : .nibble nibble.toNat ∈ DeviceCommand.all := by
  rw [DeviceCommand.all, List.mem_append, List.mem_map]
  exact .inl ⟨_, List.mem_range.mpr hn, rfl⟩

theorem sendNibble_achieves (h : d.Ready s) (hn : IsNibble nibble) :
    Achieves (answer fw) d (alpsCommandModeSendNibble fw.mode nibble) fun ok d' =>
      ok = true ∧ d'.Ready (s.shift nibble.toNat) := by
  rw [sendNibble_eq]
  exact submitted_achieves h (decodes_word (nibble_mem hn))

theorem setAddr_achieves (h : d.Ready s) : Achieves (answer fw) d (alpsCommandModeSetAddr fw.mode addr)
    fun ok d' => ok = true ∧ d'.Ready (s.select addr) := by
  have hd : fw.mode.Decodes (mouseBytes [sendMouse fw.mode.addrCommand]) [.address] :=
    decodes_word (show .address ∈ DeviceCommand.all by decide)
  have ha : Achieves (answer fw) d (submitted [sendMouse fw.mode.addrCommand]) fun ok d' =>
      ok = true ∧ d'.Ready { s with nibbles := some [] } := submitted_achieves h hd
  have hn (i : UInt32) (d s) (h : Ready d s) :
      Achieves (answer fw) d (alpsCommandModeSendNibble fw.mode (addr.shiftRight i &&& 0xf)) fun ok d' =>
        ok = true ∧ d'.Ready (s.shift (addr.shiftRight i &&& 0xf).toNat) :=
    sendNibble_achieves h and_isNibble
  refine ha.andThen fun d' h' => ?_
  refine (Achieves.all (.cons (hn 12) (.cons (hn 8) (.cons (hn 4) (.cons (hn 0) .nil)))) h').mono
    fun ok d'' ⟨ho, hr⟩ => ⟨ho, ?_⟩
  have hs : [12, 8, 4, 0].foldl (fun s i => Registers.shift s (addr.shiftRight i &&& 0xf).toNat)
      { s with nibbles := some [] } = s.select addr := by
    simp only [List.foldl, Registers.shift, List.nil_append, List.cons_append, Registers.select,
      Registers.addrNibbles]
    rw [toNat_nibble (by decide), toNat_nibble (by decide), toNat_nibble (by decide), toNat_nibble (by decide)]
    simp
  exact hs ▸ hr

theorem number_addrNibbles {addr : Nat} (h : addr < 2 ^ 16) :
    Registers.number (Registers.addrNibbles addr) = addr := by
  simp only [Registers.number, Registers.addrNibbles, List.foldl]
  omega

theorem select_selected? (h : addr.toNat < 2 ^ 16) : (s.select addr).selected? =
    some (UInt8.ofNat (addr.toNat / 256), UInt8.ofNat addr.toNat, s.regs addr.toNat) := by
  have hn := number_addrNibbles h
  simp only [Registers.addrNibbles] at hn
  simp only [Registers.selected?, Registers.select, Registers.addrNibbles, hn]

theorem address_bytes (h : addr.toNat < 2 ^ 16) :
    (UInt8.ofNat (addr.toNat / 256)).toUInt32.shiftLeft 8 ||| (UInt8.ofNat addr.toNat).toUInt32 = addr := by
  apply UInt32.toNat_inj.mp
  have hl (n : UInt8) : (n.toUInt32.shiftLeft 8).toNat = n.toNat <<< 8 := by
    have hn : (n.toUInt32.shiftLeft 8).toNat = n.toUInt32.toNat <<< 8 % 2 ^ 32 :=
      UInt32.toNat_shiftLeft _ _
    have hb := n.toNat_lt
    rw [hn, UInt8.toNat_toUInt32, Nat.shiftLeft_eq]
    omega
  rw [UInt32.toNat_or, hl, UInt8.toNat_toUInt32, UInt8.toNat_ofNat', UInt8.toNat_ofNat',
    ← Nat.shiftLeft_add_eq_or_of_lt (Nat.mod_lt _ (by decide)), Nat.shiftLeft_eq]
  omega

-- The status bytes of the register that is selected.
theorem information_achieves (h : d.Ready (s.select addr)) (ha : addr.toNat < 2 ^ 16) :
    Achieves (answer fw) d (submitRequestAndBlock mouseInformation) fun x d' =>
      x.Complete ∧ x.address = addr ∧ x.inOrOut 3 = s.regs addr.toNat ∧ d'.Ready (s.select addr) := by
  have hd : fw.mode.Decodes (mouseBytes mouseInformation) [.information] :=
    decodes_word (show .information ∈ DeviceCommand.all by decide)
  have hi : d.information fw =
      (UInt8.ofNat (addr.toNat / 256), UInt8.ofNat addr.toNat, s.regs addr.toNat) := by
    rw [information, h.registers, select_selected? ha]
    rfl
  have hr := @respond_query fw d [] h.pending
  simp only [after, List.foldl, hi, List.map_nil, List.length_nil, List.replicate_zero, List.nil_append] at hr
  apply submit_achieves
  rw [hr]
  exact ⟨rfl, address_bytes ha, rfl, h.after hd⟩

theorem readReg_achieves (h : d.Ready s) (ha : addr.toNat < 2 ^ 16) :
    Achieves (answer fw) d (alpsCommandModeReadReg fw.mode addr) fun regVal d' =>
      regVal = some (s.regs addr.toNat) ∧ d'.Ready (s.select addr) := by
  refine (setAddr_achieves h).bind ?_
  rintro ok d' ⟨rfl, h'⟩
  refine (information_achieves h' ha).bind fun x d'' ⟨hc, hx, hv, hr⟩ => ?_
  rw [if_pos ⟨hc, hx.symm⟩, hv]
  exact .pure ⟨rfl, hr⟩

theorem writeReg_achieves (h : d.Ready (s.select addr)) (ha : addr.toNat < 2 ^ 16) :
    Achieves (answer fw) d (alpsCommandModeWriteReg fw.mode value) fun ok d' =>
      ok = true ∧ d'.Ready (Registers.select ⟨Function.update s.regs addr.toNat value, none⟩ addr) := by
  refine (sendNibble_achieves h and_isNibble).andThen fun d' h' => ?_
  refine (sendNibble_achieves h' and_isNibble).mono fun ok d'' ⟨ho, hr⟩ => ⟨ho, ?_⟩
  have hn := number_addrNibbles ha
  have hv : UInt8.ofNat (Registers.number [(value.toUInt32.shiftRight 4 &&& 0xf).toNat,
      (value.toUInt32 &&& 0xf).toNat]) = value := by
    have hb := value.toNat_lt
    rw [toNat_nibble (by decide), toNat_lowNibble, UInt8.toNat_toUInt32]
    apply UInt8.toNat_inj.mp
    simp only [Registers.number, List.foldl, UInt8.toNat_ofNat', show UInt32.toNat 4 = 4 from rfl]
    omega
  simp only [Registers.addrNibbles] at hn
  simpa only [Registers.select, Registers.shift, Registers.addrNibbles, hn, hv, List.nil_append,
    List.cons_append] using hr

theorem writeRegAt_achieves (h : d.Ready s) (ha : addr.toNat < 2 ^ 16) :
    Achieves (answer fw) d (alpsCommandModeWriteRegAt fw.mode addr value) fun ok d' =>
      ok = true ∧ d'.Ready (Registers.select ⟨Function.update s.regs addr.toNat value, none⟩ addr) :=
  (setAddr_achieves h).andThen fun _ h' => writeReg_achieves h' ha

end Registers
end Touchpad
