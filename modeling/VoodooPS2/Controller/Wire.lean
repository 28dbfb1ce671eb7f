import VoodooPS2.Controller.Request
import VoodooPS2.Machine.Mealy

namespace Controller

-- The mouse behind the ports of the controller. The keyboard may send bytes at any time, so that nothing
-- is kept of it.
structure Wire (δ : Type) where
  device    : δ
  -- the bytes of the mouse that have not been taken
  outgoing  : List UInt8 := []
  -- the next byte that is written to the data port is for the mouse
  transmit  : Bool := false
  -- how often the mouse has made the driver wait for its next byte
  waited    : Nat := 0
  -- what the last status has said
  announced : Option PS2DeviceType := none
  busy      : Bool := true

section Wire

variable {δ : Type} (receive : δ → UInt8 → δ × List UInt8) (w : Wire δ)

namespace Wire

-- The mouse sends nothing that it has not been asked for, and it is in time.
def poll (status : UInt8) : Option (Wire δ) :=
  let w := { w with busy := status &&& kInputBusy ≠ 0, announced := none }
  if status &&& kOutputReady ≠ 0 then
    if stream status = .mouse ∧ w.outgoing = [] then none
    else some { w with announced := some (stream status) }
  else if w.outgoing = [] then some w
  else if w.waited + 1 < timeout then some { w with waited := w.waited + 1 }
  else none

def take (deviceType : PS2DeviceType) (byte : UInt8) : Option (Wire δ) :=
  if w.announced = some deviceType then
    match deviceType with
    | .keyboard => some { w with announced := none }
    | .mouse    =>
      if w.outgoing.head? = some byte then
        some { w with announced := none, outgoing := w.outgoing.tail, waited := 0 }
      else
        none
  else
    none

-- A byte that is written while the input buffer is full is lost. The mouse acknowledges the others, and
-- forgets what it still had to send.
def outb (byte : UInt8) : Port → Wire δ
  | .command => if w.busy then w else { w with transmit := byte = kCP_TransmitToMouse, busy := true }
  | .data    =>
    if w.busy then w
    else if w.transmit then
      let r := receive w.device byte
      { w with
        device := r.1, outgoing := kSC_Acknowledge :: r.2, transmit := false, waited := 0, busy := true }
    else
      { w with busy := true }

def step : Access → Option (Wire δ)
  | .poll status                 => w.poll status
  | .take deviceType byte        => w.take deviceType byte
  | .outb port byte              => some (w.outb receive byte port)
  | .dispatchDriverInterrupt _ _ => some w
  | .sleep _                     => some w

end Wire

-- What the mouse makes of a command, with what it has ready to be read. Each command leaves a byte.
def respond : Mealy (δ × List UInt8) PS2Command UInt8 where
  step s c :=
    match c.command with
    | .sendMouseCommandAndCompareAck => (receive s.1 c.byte₀, [0])
    | .readDataPort                  => ((s.1, s.2.tail), [s.2.headD 0])
    | _                              => (s, [0])

end Wire

-- What a command has read.
def PS2Command.read (c : PS2Command) : UInt8 :=
  if c.command = .readDataPort then c.inOrOut else 0

namespace PS2Request

-- All of the commands that have been allocated are to be processed.
def ofCommands (commands : List PS2Command) : PS2Request where
  commands      := commands
  commandsCount := .ofNat commands.length

-- A request that speaks to the mouse: bytes are sent to it, and what it says is read.
structure ToMouse (commands : List PS2Command) : Prop where
  counted   : commands.length < 256
  known     : ∀ c ∈ commands, c.command = .sendMouseCommandAndCompareAck ∨ c.command = .readDataPort
  addressed : ∀ c ∈ commands.head?, c.command = .sendMouseCommandAndCompareAck

end PS2Request

end Controller
