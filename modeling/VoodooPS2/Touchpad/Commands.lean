import VoodooPS2.Controller.Request
import VoodooPS2.Machine.Dialogue

namespace Touchpad

open Controller

abbrev kDP_SetMouseScaling1To1   : UInt8 := 0xe6
abbrev kDP_SetMouseScaling2To1   : UInt8 := 0xe7
abbrev kDP_SetMouseResolution    : UInt8 := 0xe8
abbrev kDP_GetMouseInformation   : UInt8 := 0xe9
abbrev kDP_SetMouseStreamMode    : UInt8 := 0xea
abbrev kDP_MouseResetWrap        : UInt8 := 0xec
abbrev kDP_MouseSetPoll          : UInt8 := 0xf0
abbrev kDP_GetId                 : UInt8 := 0xf2
abbrev kDP_SetMouseSampleRate    : UInt8 := 0xf3
abbrev kDP_Enable                : UInt8 := 0xf4
abbrev kDP_SetDefaultsAndDisable : UInt8 := 0xf5
abbrev kDP_SetDefaults           : UInt8 := 0xf6
abbrev kDP_CommandNibble10       : UInt8 := 0xf2

-- What the device makes of a request: the command at which the processing stops, if any, and the bytes
-- that are read by those before it.
structure Response where
  stoppedAt : Option Nat := none
  bytes     : List UInt8 := []

structure Exchange where
  request  : List PS2Command
  response : Response

namespace Exchange

variable (x : Exchange)

-- The value of `commandsCount` afterwards.
def commandsCount : Nat :=
  match x.response.stoppedAt with
  | some k => min k x.request.length
  | none   => x.request.length

-- The value of `commands[i].inOrOut` afterwards. A field that has not been read keeps its value.
def inOrOut (i : Nat) : UInt8 :=
  match x.request[i]? with
  | some c =>
    if c.command = .readDataPort ∧ i < x.commandsCount then x.response.bytes.getD i 0 else c.inOrOut
  | none => 0

def Complete : Prop :=
  x.commandsCount = x.request.length
  deriving Decidable

end Exchange

abbrev Talk : Type → Type :=
  Dialogue Response Exchange

def submitRequestAndBlock (request : List PS2Command) : Talk Exchange := do
  let r ← Dialogue.ask fun r => ⟨request, r⟩
  pure ⟨request, r⟩

-- A request that has no other result than that it is complete.
def submitted (request : List PS2Command) : Talk Bool := do
  let x ← submitRequestAndBlock request
  pure x.Complete

def sendMouse (byte : UInt8) : PS2Command :=
  { command := .sendMouseCommandAndCompareAck, byte₀ := byte }

def readByte : PS2Command :=
  { command := .readDataPort }

def ps2Command (value command : UInt8) : Talk Bool :=
  submitted [sendMouse command, sendMouse value]

def ps2CommandShort (command : UInt8) : Talk Bool :=
  submitted [sendMouse command]

structure NibbleCommand where
  command : UInt32
  data    : UInt8

namespace NibbleCommand

def send (c : NibbleCommand) : Nat :=
  (c.command.shiftRight 12 &&& 0xf).toNat

def receive (c : NibbleCommand) : Nat :=
  (c.command.shiftRight 8 &&& 0xf).toNat

-- There is room for two commands.
def Fits (c : NibbleCommand) : Prop :=
  ¬(c.send > 1 ∨ c.send + c.receive + 1 > 2)
  deriving Decidable

def request (c : NibbleCommand) : List PS2Command :=
  sendMouse c.command.toUInt8 :: (if c.send > 0 then [sendMouse c.data] else []) ++
    List.replicate c.receive readByte

end NibbleCommand

def noData (command : UInt8) : NibbleCommand :=
  ⟨command.toUInt32, 0⟩

def withData (command data : UInt8) : NibbleCommand :=
  ⟨command.toUInt32 ||| 0x1000, data⟩

-- The two tables differ in the first entry only.
def alpsNibbleCommands (first : UInt8) : List NibbleCommand := [
  noData first,
  noData kDP_SetDefaults,
  noData kDP_SetMouseScaling2To1,
  withData kDP_SetMouseSampleRate 0x0a,
  withData kDP_SetMouseSampleRate 0x14,
  withData kDP_SetMouseSampleRate 0x28,
  withData kDP_SetMouseSampleRate 0x3c,
  withData kDP_SetMouseSampleRate 0x50,
  withData kDP_SetMouseSampleRate 0x64,
  withData kDP_SetMouseSampleRate 0xc8,
  ⟨kDP_CommandNibble10.toUInt32 ||| 0x0100, 0⟩,
  withData kDP_SetMouseResolution 0x00,
  withData kDP_SetMouseResolution 0x01,
  withData kDP_SetMouseResolution 0x02,
  withData kDP_SetMouseResolution 0x03,
  noData kDP_SetMouseScaling1To1]

def alpsV3NibbleCommands : List NibbleCommand :=
  alpsNibbleCommands kDP_MouseSetPoll

def alpsV4NibbleCommands : List NibbleCommand :=
  alpsNibbleCommands kDP_Enable

-- How the registers of a device are accessed.
structure CommandMode where
  nibbleCommands : List NibbleCommand
  addrCommand    : UInt8
  fits           : ∀ c ∈ nibbleCommands, c.Fits

def CommandMode.v3 : CommandMode where
  nibbleCommands := alpsV3NibbleCommands
  addrCommand    := kDP_MouseResetWrap
  fits           := by decide

def CommandMode.v4 : CommandMode where
  nibbleCommands := alpsV4NibbleCommands
  addrCommand    := kDP_SetDefaultsAndDisable
  fits           := by decide

section Registers

variable (m : CommandMode)

def alpsCommandModeSendNibble (nibble : UInt32) : Talk Bool :=
  let c := m.nibbleCommands.getD nibble.toNat (noData 0)
  if c.send > 1 ∨ c.send + c.receive + 1 > 2 then pure false else submitted c.request

def alpsCommandModeSetAddr (addr : UInt32) : Talk Bool :=
  .andThen (submitted [sendMouse m.addrCommand]) <|
    .all <| [12, 8, 4, 0].map fun i => alpsCommandModeSendNibble m (addr.shiftRight i &&& 0xf)

-- The request for the status bytes.
def mouseInformation : List PS2Command :=
  [sendMouse kDP_GetMouseInformation, readByte, readByte, readByte]

-- The address that is returned in the first two status bytes.
def Exchange.address (x : Exchange) : UInt32 :=
  (x.inOrOut 1).toUInt32.shiftLeft 8 ||| (x.inOrOut 2).toUInt32

-- The register, unless the access fails, which is the result -1 of the source.
def alpsCommandModeReadReg (addr : UInt32) : Talk (Option UInt8) := do
  if ← alpsCommandModeSetAddr m addr then
    let x ← submitRequestAndBlock mouseInformation
    if x.Complete ∧ addr = x.address then pure (some (x.inOrOut 3)) else pure none
  else
    pure none

-- Writes the register whose address is set.
def alpsCommandModeWriteReg (value : UInt8) : Talk Bool :=
  (alpsCommandModeSendNibble m (value.toUInt32.shiftRight 4 &&& 0xf)).andThen
    (alpsCommandModeSendNibble m (value.toUInt32 &&& 0xf))

def alpsCommandModeWriteRegAt (addr : UInt32) (value : UInt8) : Talk Bool :=
  (alpsCommandModeSetAddr m addr).andThen (alpsCommandModeWriteReg m value)

end Registers

structure Report where
  complete : Bool
  byte₀    : UInt8
  byte₁    : UInt8
  byte₂    : UInt8

-- The commands of `alps_rpt_cmd`. If there is a command to begin with it is always the one that sets the
-- resolution.
def reportRequest (hasInit : Bool) (initArg repeated : UInt8) : List PS2Command :=
  (if hasInit then [sendMouse kDP_SetMouseResolution, sendMouse initArg] else []) ++
    [sendMouse repeated, sendMouse repeated, sendMouse repeated] ++ mouseInformation

def alpsRptCmd (hasInit : Bool) (initArg repeated : UInt8) : Talk Report := do
  let x ← submitRequestAndBlock (reportRequest hasInit initArg repeated)
  let byte0 := if hasInit then 6 else 4
  pure ⟨x.Complete, x.inOrOut byte0, x.inOrOut (byte0 + 1), x.inOrOut (byte0 + 2)⟩

def alpsEnterCommandMode : Talk Bool := do
  let r ← alpsRptCmd false 0 kDP_MouseResetWrap
  pure r.complete

-- The result is not looked at.
def alpsExitCommandMode : Talk Bool := do
  let _ ← submitted [sendMouse kDP_SetMouseStreamMode]
  pure true

end Touchpad
