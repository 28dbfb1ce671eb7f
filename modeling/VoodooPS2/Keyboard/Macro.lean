import VoodooPS2.Keyboard.Dispatch
import VoodooPS2.Machine.Halting

namespace Keyboard

-- The format of the data of a macro.
abbrev kIgnoreBytes : Nat := 2
abbrev kOutputBytes : Nat := 2
abbrev kModifierBytes : Nat := 4
abbrev kOutputBytesOffset : Nat := kIgnoreBytes + 0
abbrev kModifierBytesOffset : Nat := kIgnoreBytes + kOutputBytes + 0
abbrev kPrefixBytes : Nat := kIgnoreBytes + kOutputBytes + kModifierBytes
abbrev kSequenceBytesOffset : Nat := kPrefixBytes + 0
abbrev kMinMacroInversion : Nat := kPrefixBytes + 2

abbrev kPacketKeyDataLength : Nat := 2

-- The bytes of a packet that are used.
structure Packet where
  byte₀ : UInt8
  byte₁ : UInt8
  time  : UInt64
  deriving DecidableEq

def Packet.keyData (p : Packet) : List UInt8 :=
  [p.byte₀, p.byte₁]

-- The entries of the configuration that `loadMacroData` keeps.
structure Macro where
  data   : List UInt8
  long   : data.length ≥ kMinMacroInversion
  even   : data.length &&& 0x01 = 0
  marked : data.getD 0 0 = 0xff ∧ data.getD 1 0 = 0xff

namespace Macro

def load (data : List UInt8) : Option Macro :=
  if h : data.length ≥ kMinMacroInversion ∧ data.length &&& 0x01 = 0 then
    if h' : data.getD 0 0 = 0xff ∧ data.getD 1 0 = 0xff then some ⟨data, h.left, h.right, h'⟩ else none
  else
    none

variable (m : Macro)

def sequence : List UInt8 :=
  m.data.drop kSequenceBytesOffset

def output : List UInt8 :=
  [m.data.getD (kOutputBytesOffset + 0) 0, m.data.getD (kOutputBytesOffset + 1) 0]

-- The two bytes of a number, the high one first.
def modifierBytes (offset : Nat) : UInt16 :=
  ((m.data.getD (kModifierBytesOffset + offset) 0).toUInt16 <<< 8) +
    (m.data.getD (kModifierBytesOffset + offset + 1) 0).toUInt16

-- The modifiers that are pressed are those that the macro asks for.
def Allows (ps2modifierState : UInt16) : Prop :=
  let mask := m.modifierBytes 0
  let compare := m.modifierBytes 2
  (0xffff = compare ∧ ps2modifierState &&& mask ≠ 0) ∨ ps2modifierState &&& mask = compare

instance (ps2modifierState : UInt16) : Decidable (m.Allows ps2modifierState) :=
  inferInstanceAs (Decidable (_ ∨ _))

end Macro

-- The valid entries of an array, some of whose objects may not even be data. There is no result if there
-- is no array, or no valid entry.
def loadMacroData (array : Option (List (Option (List UInt8)))) : Option (List Macro) :=
  match array with
  | none         => none
  | some objects =>
    let macros := objects.filterMap fun object => object.bind Macro.load
    if macros.length = 0 then none else some macros

-- What the inversion of macros depends on and never changes.
structure Inversion where
  array        : Option (List (Option (List UInt8))) := none
  -- whether the timer and the buffer could be allocated
  macroTimer   : Bool := true
  macroMaxTime : UInt64 := 25000000
  absolutetimeToNanoseconds : UInt64 → UInt64 := id

namespace Inversion

variable (c : Inversion)

def macroInversion : Option (List Macro) :=
  loadMacroData c.array

-- The macro buffer has room for that many packets.
def macroMax : Nat :=
  match c.macroInversion with
  | none        => 0
  | some macros => macros.foldl (fun max m => if m.sequence.length > max then m.sequence.length else max) 0

-- More time has passed than is allowed between the keys of a macro.
def Expired (now prev : UInt64) : Prop :=
  c.absolutetimeToNanoseconds now - c.absolutetimeToNanoseconds prev > c.macroMaxTime

instance (now prev : UInt64) : Decidable (c.Expired now prev) :=
  inferInstanceAs (Decidable (_ > _))

end Inversion

-- What is seen of the handling of packets: those that are passed to `dispatchKeyboardEventWithPacket`,
-- what it does for them, and the packets for a reset. A copy beyond the end of the macro buffer is an
-- overrun.
inductive Event
  | packet (p : Packet)
  | effect (e : Effect)
  | reset
  | overrun
  deriving DecidableEq

structure Inverter where
  dispatcher   : Dispatcher
  macroBuffer  : Nat → Packet
  macroCurrent : Nat

namespace Inverter

-- The packets `_macroBuffer[0 .. _macroCurrent)`.
def buffered (s : Inverter) : List Packet :=
  (List.range s.macroCurrent).map s.macroBuffer

-- The packets that are compared with the macros.
def compared (s : Inverter) : List Packet :=
  (List.range (s.macroCurrent + 1)).map s.macroBuffer

variable (cfg : Config) (c : Inversion) (v : KeyBits)

def dispatch (d : Dispatcher) (p : Packet) : Dispatcher × List Event :=
  let r := dispatchKeyboardEventWithPacket cfg v d p.keyData
  (r.1, .packet p :: r.2.map .effect)

def dispatchAll : Dispatcher → List Packet → Dispatcher × List Event
  | d, []      => (d, [])
  | d, p :: ps =>
    let r := dispatch cfg v d p
    let t := dispatchAll r.1 ps
    (t.1, r.2 ++ t.2)

def dispatchPacket (s : Inverter) (p : Packet) : Inverter × List Event :=
  let r := dispatch cfg v s.dispatcher p
  ({ s with dispatcher := r.1 }, r.2)

def dispatchInvertBuffer (s : Inverter) : Inverter × List Event :=
  let r := dispatchAll cfg v s.dispatcher s.buffered
  ({ s with dispatcher := r.1, macroCurrent := 0 }, r.2)

-- The packets in the buffer are given up if the time for the next one is over.
def dispatchExpired (s : Inverter) (now : UInt64) : Inverter × List Event :=
  if s.macroCurrent > 0 ∧ c.Expired now (s.macroBuffer (s.macroCurrent - 1)).time then
    s.dispatchInvertBuffer cfg v
  else
    (s, [])

-- The copy behind the packets in the buffer.
def copy (s : Inverter) (p : Packet) : Option Inverter :=
  if s.macroCurrent < c.macroMax then
    some { s with macroBuffer := Function.update s.macroBuffer s.macroCurrent p }
  else
    none

def compareMacro : List Packet → List UInt8 → Bool
  | [], _                       => true
  | p :: buffer, d₀ :: d₁ :: data => p.byte₀ = d₀ && p.byte₁ = d₁ && compareMacro buffer data
  | _ :: _, _                   => false

-- What the loop over the macros ends with.
inductive Found
  | exact (m : Macro)
  | begun
  | nothing

def find (ps2modifierState : UInt16) (buffer : List Packet) : List Macro → Found
  | []          => .nothing
  | m :: macros =>
    let total := buffer.length * kPacketKeyDataLength
    if total ≤ m.sequence.length ∧ compareMacro buffer m.sequence then
      if total = m.sequence.length then
        if m.Allows ps2modifierState then .exact m else find ps2modifierState buffer macros
      else
        .begun
    else
      find ps2modifierState buffer macros

-- The first packet in the buffer, with the output of the macro.
def inverted (s : Inverter) (m : Macro) : Packet :=
  { s.macroBuffer 0 with byte₀ := m.output.getD 0 0, byte₁ := m.output.getD 1 0 }

-- What is done with a packet that has been copied, and whether it is dealt with.
def finish (s : Inverter) : Found → Inverter × List Event × Bool
  | .exact m =>
    let macroBuffer := Function.update s.macroBuffer 0 (s.inverted m)
    let r := { s with macroBuffer := macroBuffer }.dispatchPacket cfg v (s.inverted m)
    ({ r.1 with macroCurrent := 0 }, r.2, true)
  | .begun   => ({ s with macroCurrent := s.macroCurrent + 1 }, [], true)
  | .nothing =>
    let r := if s.macroCurrent > 0 then s.dispatchInvertBuffer cfg v else (s, [])
    (r.1, r.2, false)

def invertMacros (macros : List Macro) (s : Inverter) (p : Packet) :
    Option (Inverter × List Event × Bool) :=
  if c.macroTimer then
    let r := s.dispatchExpired cfg c v p.time
    match r.1.copy c p with
    | none   => none
    | some s =>
      let t := s.finish cfg v (find s.dispatcher.ps2modifierState s.compared macros)
      some (t.1, r.2 ++ t.2.1, t.2.2)
  else
    some (s, [], false)

-- What `packetReady` does with a packet that is not for a reset.
def invert (s : Inverter) (p : Packet) : Option (Inverter × List Event) :=
  match c.macroInversion with
  | none        => some (s.dispatchPacket cfg v p)
  | some macros =>
    match s.invertMacros cfg c v macros p with
    | none                   => none
    | some (s, es, true)     => some (s, es)
    | some (s, es, false)    =>
      let r := s.dispatchPacket cfg v p
      some (r.1, es ++ r.2)

def handle (s : Inverter) (p : Packet) : Option (Inverter × List Event) :=
  if p.byte₀ ≠ 0x00 then s.invert cfg c v p else some (s, [.reset])

end Inverter

-- A packet that `packetReady` handles, or a call of `onMacroTimer`, which has handled all packets that are
-- there by calling `packetReady` first. The keys that are down may change at any time.
inductive MacroAct
  | packet (v : KeyBits) (p : Packet)
  | timer (v : KeyBits) (now : UInt64)

def inverter (cfg : Config) (c : Inversion) : Mealy (Option Inverter) MacroAct Event :=
  .halting (fun s a =>
    match a with
    | .packet v p  => s.handle cfg c v p
    | .timer v now => some (s.dispatchExpired cfg c v now)) .overrun

end Keyboard
