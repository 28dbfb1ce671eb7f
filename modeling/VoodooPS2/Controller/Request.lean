import VoodooPS2.Controller.Port

namespace Controller

open Scripted

inductive PS2CommandEnum
  | readDataPort
  | readDataPortAndCompare
  | writeDataPort
  | writeCommandPort
  | sendMouseCommandAndCompareAck
  | readMouseDataPort
  | readMouseDataPortAndCompare
  | flushDataPort
  | sleepMS
  | modifyCommandByte
  deriving DecidableEq

-- The four bytes of the union are shared by its members: `inOrOut` and `setBits` are the first one,
-- `clearBits` is the second one and `oldBits` the third one.
structure PS2Command where
  command : PS2CommandEnum
  byte₀   : UInt8 := 0
  byte₁   : UInt8 := 0
  byte₂   : UInt8 := 0
  byte₃   : UInt8 := 0
  deriving DecidableEq

namespace PS2Command

def inOrOut (c : PS2Command) : UInt8 :=
  c.byte₀

def setInOrOut (c : PS2Command) (byte : UInt8) : PS2Command :=
  { c with byte₀ := byte }

def setBits (c : PS2Command) : UInt8 :=
  c.byte₀

def clearBits (c : PS2Command) : UInt8 :=
  c.byte₁

def setOldBits (c : PS2Command) (byte : UInt8) : PS2Command :=
  { c with byte₂ := byte }

def inOrOut32 (c : PS2Command) : UInt32 :=
  c.byte₀.toUInt32 ||| c.byte₁.toUInt32 <<< 8 ||| c.byte₂.toUInt32 <<< 16 ||| c.byte₃.toUInt32 <<< 24

def setInOrOut32 (c : PS2Command) (n : UInt32) : PS2Command where
  command := c.command
  byte₀   := n.toUInt8
  byte₁   := (n >>> 8).toUInt8
  byte₂   := (n >>> 16).toUInt8
  byte₃   := (n >>> 24).toUInt8

end PS2Command

inductive CompletionTarget
  | null
  | stack
  | object

-- Callers assert that the commands that are counted are no more than the ones that are allocated.
structure PS2Request where
  commands         : List PS2Command
  commandsCount    : UInt8
  completionTarget : CompletionTarget := .stack
  completionAction : Bool := false

-- What becomes of a request that has been processed.
inductive Completion
  | actionInvoked
  | freed
  | leftToCaller

def PS2Request.completion (r : PS2Request) : Completion :=
  match r.completionTarget, r.completionAction with
  | .object, true => .actionInvoked
  | .stack, _     => .leftToCaller
  | _, _          => .freed

-- Which stream the next read is made from.
structure Mode where
  deviceMode      : PS2DeviceType
  transmitToMouse : Bool

def Mode.init : Mode where
  deviceMode      := .keyboard
  transmitToMouse := false

-- What a command changes about that.
def Mode.next (m : Mode) (c : PS2Command) : Mode :=
  match c.command with
  | .writeDataPort =>
    if m.transmitToMouse then ⟨.mouse, false⟩ else { m with deviceMode := .keyboard }
  | .writeCommandPort =>
    if c.inOrOut = kCP_TransmitToMouse then { m with transmitToMouse := true } else m
  | .sendMouseCommandAndCompareAck | .readMouseDataPort | .readMouseDataPortAndCompare =>
    { m with deviceMode := .mouse }
  | _ => m

-- One case of the `switch`: the command with its out field, and whether it has failed.
def processCommand (s : State) (m : Mode) (c : PS2Command) : Hardware (PS2Command × Bool) :=
  match c.command with
  | .readDataPort => do
    let byte ← readDataPort s m.deviceMode
    pure (c.setInOrOut byte, false)
  | .readDataPortAndCompare => do
    let byte ← readDataPortExpecting s m.deviceMode c.inOrOut
    pure (c.setInOrOut byte, byte ≠ c.inOrOut)
  | .writeDataPort => do
    writeDataPort c.inOrOut
    pure (c, false)
  | .writeCommandPort => do
    writeCommandPort c.inOrOut
    pure (c, false)
  | .sendMouseCommandAndCompareAck => do
    writeCommandPort kCP_TransmitToMouse
    writeDataPort c.inOrOut
    let byte ← readDataPortExpecting s .mouse kSC_Acknowledge
    pure (c, byte ≠ kSC_Acknowledge)
  | .readMouseDataPort => do
    let byte ← readDataPort s .mouse
    pure (c.setInOrOut byte, false)
  | .readMouseDataPortAndCompare => do
    let byte ← readDataPortExpecting s .mouse c.inOrOut
    pure (c, byte ≠ c.inOrOut)
  | .flushDataPort => do
    let n ← flushDataPort
    pure (c.setInOrOut32 n, false)
  | .sleepMS => do
    emit (.sleep c.inOrOut32)
    pure (c, false)
  | .modifyCommandByte => do
    writeCommandPort kCP_GetCommandByte
    let commandByte ← readDataPort s .keyboard
    writeCommandPort kCP_SetCommandByte
    writeDataPort ((commandByte ||| c.setBits) &&& ~~~c.clearBits)
    pure (c.setOldBits commandByte, false)

-- The loop over the commands from `index` on: the index of the command that failed, if any, and the
-- commands with their out fields. Every access is marked with the index of the command that makes it.
def processCommands (s : State) : Nat → Mode → List PS2Command →
    Scripted UInt8 (Nat × Access) (Option Nat × List PS2Command)
  | _, _, []          => pure (none, [])
  | index, m, c :: cs => do
    let (c', failed) ← label (index, ·) (processCommand s m c)
    if failed then
      pure (some index, c' :: cs)
    else do
      let (failed, cs') ← processCommands s (index + 1) (m.next c) cs
      pure (failed, c' :: cs')

structure Processed where
  state      : State
  request    : PS2Request
  completion : Completion

def processRequest (s : State) (r : PS2Request) : Scripted UInt8 (Nat × Access) Processed :=
  if s.hardwareOffline then
    pure ⟨s, { r with commandsCount := 0 }, r.completion⟩
  else do
    let n := r.commandsCount.toNat
    let s := { s with ignoreInterrupts := s.ignoreInterrupts + 1 }
    let (failed, cs) ← processCommands s 0 .init (r.commands.take n)
    let s := { s with ignoreInterrupts := s.ignoreInterrupts - 1 }
    let r := { r with
      commands      := cs ++ r.commands.drop n
      commandsCount := match failed with
        | none       => r.commandsCount
        | some index => .ofNat index }
    pure ⟨s, r, r.completion⟩

end Controller
