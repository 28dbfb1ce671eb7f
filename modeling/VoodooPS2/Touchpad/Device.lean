import Mathlib.Logic.Function.Basic
import VoodooPS2.Controller.Wire
import VoodooPS2.Machine.Decoder
import VoodooPS2.Machine.Steps
import VoodooPS2.Touchpad.Power
import VoodooPS2.Touchpad.Theorems.Nibbles

namespace Touchpad

open Controller

-- What a touchpad makes of the bytes that it is sent, when it decodes them by the tables of the driver.
inductive DeviceCommand
  | nibble (n : Nat)
  | address
  | information
  | streamMode
  | reset
  deriving DecidableEq

namespace DeviceCommand

def all : List DeviceCommand :=
  (List.range 16).map nibble ++ [address, information, streamMode, reset]

def code (m : CommandMode) : DeviceCommand → List UInt8
  | nibble n    => mouseBytes (m.nibbleCommands.getD n (noData 0)).request
  | address     => [m.addrCommand]
  | information => [kDP_GetMouseInformation]
  | streamMode  => [kDP_SetMouseStreamMode]
  | reset       => [kDP_Reset]

end DeviceCommand

def Report.acknowledged (i : UInt8 × UInt8 × UInt8) : Report :=
  ⟨true, i.1, i.2.1, i.2.2⟩

-- How the registers of a touchpad are accessed.
def Protocol.mode (v : Protocol) : CommandMode :=
  if v = .v4 then .v4 else .v3

-- What is known of a model: what it says about itself, and what its registers are after a reset.
structure Firmware where
  e7       : UInt8 × UInt8 × UInt8
  ec       : UInt8 × UInt8 × UInt8
  status   : UInt8 × UInt8 × UInt8
  id       : UInt8
  defaults : Nat → UInt8

namespace Firmware

variable (fw : Firmware)

-- What it says about itself depends on the bytes before.
def about (recent : List UInt8) : UInt8 × UInt8 × UInt8 :=
  if recent = [kDP_SetMouseScaling2To1, kDP_SetMouseScaling2To1, kDP_SetMouseScaling2To1] then fw.e7
  else if recent = [kDP_MouseResetWrap, kDP_MouseResetWrap, kDP_MouseResetWrap] then fw.ec
  else fw.status

def report (repeated : UInt8) : Report :=
  .acknowledged (fw.about [repeated, repeated, repeated])

def protocol? : Option Protocol :=
  let e7 := fw.report kDP_SetMouseScaling2To1
  let ec := fw.report kDP_MouseResetWrap
  ((matchTable e7 ec).map (·.protoVersion)).or (matchReports e7 ec)

def mode : CommandMode :=
  fw.protocol?.elim .v3 Protocol.mode

end Firmware

-- The registers, and the nibbles since the last command that introduces an address.
structure Registers where
  regs    : Nat → UInt8
  nibbles : Option (List Nat) := none

namespace Registers

variable (s : Registers)

def number (nibbles : List Nat) : Nat :=
  nibbles.foldl (16 * · + ·) 0

-- The nibbles of an address, the highest one first.
def addrNibbles (addr : Nat) : List Nat :=
  [addr / 2 ^ 12 % 16, addr / 2 ^ 8 % 16, addr / 2 ^ 4 % 16, addr % 16]

def select (addr : UInt32) : Registers :=
  { s with nibbles := some (addrNibbles addr.toNat) }

-- Four nibbles are an address, and two more are a value for its register.
def shift (n : Nat) : Registers :=
  match s.nibbles with
  | some [a, b, c, d]    => { s with nibbles := some [a, b, c, d, n] }
  | some [a, b, c, d, h] =>
    { regs    := Function.update s.regs (number [a, b, c, d]) (UInt8.ofNat (number [h, n]))
      nibbles := some [a, b, c, d] }
  | some l               => { s with nibbles := some (l ++ [n]) }
  | none                 => s

def execute (fw : Firmware) : DeviceCommand → Registers
  | .nibble n    => s.shift n
  | .address     => { s with nibbles := some [] }
  | .information => s
  | .streamMode  => { s with nibbles := none }
  | .reset       => { regs := fw.defaults }

-- The address and the value of the register that is selected.
def selected? : Option (UInt8 × UInt8 × UInt8) :=
  match s.nibbles with
  | some [a, b, c, d] =>
    let addr := number [a, b, c, d]
    some (UInt8.ofNat (addr / 256), UInt8.ofNat addr, s.regs addr)
  | _                 => none

end Registers

structure Device extends Registers where
  pending : List UInt8 := []
  -- the last bytes, up to three
  recent  : List UInt8 := []

namespace Device

variable (fw : Firmware) (d : Device)

def information : UInt8 × UInt8 × UInt8 :=
  d.selected?.getD (fw.about d.recent)

-- What can be read after a command.
def output : DeviceCommand → List UInt8
  | .nibble n    => if n = 10 then [fw.id] else []
  | .information => [(d.information fw).1, (d.information fw).2.1, (d.information fw).2.2]
  | .reset       => [kSC_Reset, kSC_ID]
  | _            => []

def receive (b : UInt8) : Device × List UInt8 :=
  let r := (wordDecoder DeviceCommand.all (DeviceCommand.code fw.mode)).step d.pending b
  ({ toRegisters := r.2.foldl (Registers.execute · fw) d.toRegisters
     pending     := r.1
     recent      := (b :: d.recent).take 3 },
   r.2.flatMap (d.output fw))

-- The device acknowledges every byte.
def answer (x : Exchange) : Option Device :=
  let r := (respond (receive fw)).run (d, []) x.request
  if x.response.stoppedAt = none ∧ x.response.bytes = r.2 then some r.1.1 else none

end Device

-- The request that leaves the command mode is not in the log with its answer, which nobody looks at.
def InitEvent.exchanges : InitEvent → List Exchange
  | access _ _ xs   => xs
  | exitCommandMode => [⟨[sendMouse kDP_SetMouseStreamMode], { bytes := [0] }⟩]
  | submit x        => [x]

def Device.answerInit (fw : Firmware) (d : Device) (e : InitEvent) : Option Device :=
  e.exchanges.foldlM (answer fw) d

section Configuration

-- A change of a register, as a function of its old value.
abbrev Change : Type :=
  Nat × (UInt8 → UInt8)

def Change.apply (regs : Nat → UInt8) (c : Change) : Nat → UInt8 :=
  Function.update regs c.1 (c.2 (regs c.1))

def trackstickChanges (regBase : Nat) (flags : UInt32) : List Change :=
  if flags &&& alpsDualpoint ≠ 0 then [(regBase + 8, fun _ => 0x82)] else []

-- What the registers of a touchpad need.
def Protocol.changes (flags : UInt32) : Protocol → List Change
  | v1 | v2 | v5 => []
  | v3           => trackstickChanges 0 flags ++ [(0x0004, (· ||| 0x06)), (0x0006, (· ||| 0x01)),
    (0x0007, (· ||| 0x01)), (0x0144, fun _ => 0x04), (0x0159, fun _ => 0x03), (0x0163, fun _ => 0x03),
    (0x0162, fun _ => 0x04)]
  | v3Rushmore   => trackstickChanges 0xc2c0 flags ++ [(0xc2cb, fun _ => 0x00), (0xc2c6, (· &&& 0xfd)),
    (0xc2c9, fun _ => 0x64), (0xc2c4, (· ||| 0x02))]
  | v4           => [(0x0004, (· ||| 0x02)), (0x0007, fun _ => 0x8c), (0x0149, fun _ => 0x03),
    (0x0160, fun _ => 0x03), (0x017f, fun _ => 0x15), (0x0151, fun _ => 0x01), (0x0168, fun _ => 0x03),
    (0x014a, fun _ => 0x03), (0x0161, fun _ => 0x03)]
  | v7           => [(0xc2c9, fun _ => 0x64), (0xc2c4, (· ||| 0x02))]
  | v8           => [(0x001d, fun _ => 0x20)]

def Protocol.configured (v : Protocol) (flags : UInt32) (regs : Nat → UInt8) : Nat → UInt8 :=
  (v.changes flags).foldl Change.apply regs

end Configuration

section Identification

-- Where the trackstick is looked for.
def Protocol.trackstickBase : Protocol → Nat
  | v3 => 0
  | _  => 0xc2c0

-- What is installed for a version. The queries are answered by two of the registers.
def Protocol.described (v : Protocol) (fwVer : UInt8) (regs : Nat → UInt8) : AlpsDevice :=
  setProtocol v fwVer (regs (v.trackstickBase + 8) &&& 0x80 = 0) (regs 0x0033)

-- The touchpad that the model is, if it is known.
def Firmware.identified? (fw : Firmware) (regs : Nat → UInt8) : Option AlpsDevice :=
  let e7 := fw.report kDP_SetMouseScaling2To1
  let ec := fw.report kDP_MouseResetWrap
  match matchTable e7 ec with
  | some model => some (model.override (model.protoVersion.described 0 regs))
  | none       => (matchReports e7 ec).map fun v => v.described ec.byte₁ regs

def AlpsDevice.configured (dev : AlpsDevice) (regs : Nat → UInt8) : Nat → UInt8 :=
  match Protocol.all.find? (·.version = dev.protoVersion) with
  | some v => v.configured dev.flags regs
  | none   => regs

end Identification

-- What the driver can find out from a request that has been processed.
def Response.ofRequest (request : List PS2Command) (r : PS2Request) : Response where
  stoppedAt := if r.commandsCount.toNat < request.length then some r.commandsCount.toNat else none
  bytes     := r.commands.map (·.read)

-- The fields of the request, as `submitRequestAndBlock` leaves them.
structure Exchange.Shows (x : Exchange) (r : PS2Request) : Prop where
  commandsCount : x.commandsCount = r.commandsCount.toNat
  inOrOut       : ∀ i, x.inOrOut i = (r.commands[i]?.map PS2Command.inOrOut).getD 0

-- The controller processes the request at its ports. Its driver may be in any state in which there is
-- hardware, and in which it waits for it.
def Exchange.Served (fw : Firmware) (w : Wire Device) (x : Exchange) (w' : Wire Device) : Prop :=
  ∃ s is o, s.hardwareOffline = false ∧ s.suppressTimeout = false ∧
    processRequest s (.ofCommands x.request) is = some o ∧
    o.log.foldlM (fun w a => Wire.step (Device.receive fw) w a.2) w = some w' ∧
    x.response = .ofRequest x.request o.val.request

def exchangesOf (log : List InitEvent) : List Exchange :=
  log.flatMap InitEvent.exchanges

end Touchpad
