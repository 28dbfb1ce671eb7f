import VoodooPS2.Touchpad.Commands
import VoodooPS2.Touchpad.Protocol

namespace Touchpad

-- The part of the initialisation that an access to a register belongs to.
inductive Owner
  | routine
  | resolution
  | trackstick
  deriving DecidableEq

inductive Access
  | read (addr : UInt32)
  | write
  deriving DecidableEq

-- What is seen of an initialisation: the accesses to registers with what was exchanged for each of them,
-- and all other requests.
inductive InitEvent
  | access (owner : Owner) (access : Access) (exchanges : List Exchange)
  | exitCommandMode
  | submit (x : Exchange)

abbrev Init : Type → Type :=
  Dialogue Response InitEvent

def Talk.submit {α : Type} (p : Talk α) : Init α :=
  p.report (List.map .submit)

def enterCommandMode : Init Bool :=
  Talk.submit alpsEnterCommandMode

def exitCommandMode : Init Bool :=
  alpsExitCommandMode.report fun _ => [.exitCommandMode]

section Registers

variable (m : CommandMode) (owner : Owner)

def readReg (addr : UInt32) : Init (Option UInt8) :=
  (alpsCommandModeReadReg m addr).report fun xs => [.access owner (.read addr) xs]

def writeReg (value : UInt8) : Init Bool :=
  (alpsCommandModeWriteReg m value).report fun xs => [.access owner .write xs]

def writeRegAt (addr : UInt32) (value : UInt8) : Init Bool :=
  (alpsCommandModeWriteRegAt m addr value).report fun xs => [.access owner .write xs]

-- A register that is read before anything else happens.
def checkReg (addr : UInt32) : Init Bool := do
  let regVal ← readReg m owner addr
  pure regVal.isSome

-- A register that is read, and written in command mode with a value that depends on the old one.
def modifyReg (addr : UInt32) (f : UInt8 → UInt8) : Init Bool := do
  match ← readReg m owner addr with
  | none        => pure false
  | some regVal => writeReg m owner (f regVal)

end Registers

section Trackstick

variable (m : CommandMode) (regBase : UInt32)

inductive IOReturn
  | success
  | ioError
  | noDevice
  -- `-kIOReturnIOError`, which is none of the codes
  | negativeIOError
  deriving DecidableEq

-- The command mode is always left.
def alpsPassthroughModeV3 (enable : Bool) : Init Bool := do
  if ← enterCommandMode then
    let ret ← modifyReg m .trackstick (regBase + 0x0008) fun regVal =>
      if enable then regVal ||| 0x01 else regVal &&& ~~~0x01
    let _ ← exitCommandMode
    pure ret
  else
    pure false

-- The format of the trackstick's packets is set.
def setTrackstickFormat : Init IOReturn := do
  if ← Talk.submit (submitted (List.replicate 3 (sendMouse kDP_SetMouseScaling1To1))) then
    if ← Talk.submit ((alpsCommandModeSendNibble m 0x9).andThen (alpsCommandModeSendNibble m 0x4)) then
      if ← (enterCommandMode.andThen (writeRegAt m .trackstick (regBase + 0x0008) 0x82)).andThen
          exitCommandMode
      then pure .success
      else pure .negativeIOError
    else
      pure .ioError
  else
    pure .ioError

-- Without a report there is no trackstick after all.
def setupReported (complete : Bool) : Init IOReturn :=
  if complete then setTrackstickFormat m regBase else pure .noDevice

def alpsSetupTrackstickV3 : Init IOReturn := do
  if ← alpsPassthroughModeV3 m regBase true then
    let report ← Talk.submit (alpsRptCmd false 0 kDP_SetMouseScaling2To1)
    let ret ← setupReported m regBase report.complete
    if ← alpsPassthroughModeV3 m regBase false then pure ret else pure .ioError
  else
    pure .ioError

-- Only one of the failures of the set-up ends the initialisation.
def setupTrackstick (flags : UInt32) : Init Bool := do
  if flags &&& alpsDualpoint ≠ 0 then
    let ret ← alpsSetupTrackstickV3 m regBase
    pure (ret ≠ .ioError)
  else
    pure true

end Trackstick

def alpsAbsoluteModeV3 (m : CommandMode) : Init Bool :=
  modifyReg m .routine 0x0004 (· ||| 0x06)

def alpsAbsoluteModeV4 (m : CommandMode) : Init Bool :=
  modifyReg m .routine 0x0004 (· ||| 0x02)

-- The code -1 of a register that cannot be read is returned as a `bool`, which makes it `true`.
def alpsGetV3V7Resolution (m : CommandMode) (regPitch : UInt32) : Init Bool := do
  match ← readReg m .resolution regPitch with
  | none   => pure true
  | some _ => do
    let _ ← readReg m .resolution (regPitch + 1)
    pure true

-- The command mode is left on both paths, and the reports are enabled after the successful one.
def finishInit (steps : List (Init Bool)) (enable : List (Talk Bool)) : Init Bool := do
  if ← Dialogue.all steps then
    let _ ← exitCommandMode
    Dialogue.each (enable.map Talk.submit)
    pure true
  else
    let _ ← exitCommandMode
    pure false

abbrev alpsRegBasePinnacle : UInt32 := 0x0000
abbrev alpsRegBaseRushmore : UInt32 := 0xc2c0

def alpsHwInitV3 (flags : UInt32) : Init Bool :=
  let m := CommandMode.v3
  finishInit [
    setupTrackstick m alpsRegBasePinnacle flags,
    enterCommandMode,
    alpsAbsoluteModeV3 m,
    modifyReg m .routine 0x0006 (· ||| 0x01),
    modifyReg m .routine 0x0007 (· ||| 0x01),
    modifyReg m .routine 0x0144 fun _ => 0x04,
    modifyReg m .routine 0x0159 fun _ => 0x03,
    checkReg m .routine 0x0163,
    writeRegAt m .routine 0x0163 0x03,
    checkReg m .routine 0x0162,
    writeRegAt m .routine 0x0162 0x04]
    [ps2Command 0x28 kDP_SetMouseSampleRate, ps2CommandShort kDP_Enable]

def alpsHwInitRushmoreV3 (flags : UInt32) : Init Bool :=
  let m := CommandMode.v3
  finishInit [
    setupTrackstick m alpsRegBaseRushmore flags,
    enterCommandMode,
    checkReg m .routine 0xc2d9,
    writeRegAt m .routine 0xc2cb 0x00,
    modifyReg m .routine 0xc2c6 (· &&& 0xfd),
    writeRegAt m .routine 0xc2c9 0x64,
    modifyReg m .routine 0xc2c4 (· ||| 0x02)]
    [ps2CommandShort kDP_Enable]

def alpsHwInitV4 : Init Bool :=
  let m := CommandMode.v4
  finishInit [
    enterCommandMode,
    alpsAbsoluteModeV4 m,
    writeRegAt m .routine 0x0007 0x8c,
    writeRegAt m .routine 0x0149 0x03,
    writeRegAt m .routine 0x0160 0x03,
    writeRegAt m .routine 0x017f 0x15,
    writeRegAt m .routine 0x0151 0x01,
    writeRegAt m .routine 0x0168 0x03,
    writeRegAt m .routine 0x014a 0x03,
    writeRegAt m .routine 0x0161 0x03]
    -- this changes the output to packets of 8 bytes
    [ps2Command 0xc8 kDP_SetMouseSampleRate, ps2Command 0x64 kDP_SetMouseSampleRate,
      ps2Command 0x50 kDP_SetMouseSampleRate, ps2CommandShort kDP_GetId,
      ps2Command 0x64 kDP_SetMouseSampleRate, ps2CommandShort kDP_Enable]

def alpsHwInitV7 : Init Bool :=
  let m := CommandMode.v3
  finishInit [
    enterCommandMode,
    checkReg m .routine 0xc2d9,
    alpsGetV3V7Resolution m 0xc397,
    writeRegAt m .routine 0xc2c9 0x64,
    modifyReg m .routine 0xc2c4 (· ||| 0x02)]
    [ps2Command 0x28 kDP_SetMouseSampleRate, ps2CommandShort kDP_Enable]

inductive InitRoutine
  | v3 (flags : UInt32)
  | rushmoreV3 (flags : UInt32)
  | v4
  | v7

def InitRoutine.hwInit : InitRoutine → Init Bool
  | v3 flags         => alpsHwInitV3 flags
  | rushmoreV3 flags => alpsHwInitRushmoreV3 flags
  | v4               => alpsHwInitV4
  | v7               => alpsHwInitV7

end Touchpad
