import VoodooPS2.Touchpad.Identify

namespace Touchpad

abbrev kDP_Reset : UInt8 := 0xff

abbrev kSC_Reset : UInt8 := 0xaa
abbrev kSC_ID    : UInt8 := 0x00

-- The failure is only noticed if both of the bytes are wrong.
def resetMouse : Talk Bool := do
  let x ← submitRequestAndBlock [sendMouse kDP_Reset, readByte, readByte]
  pure ¬(x.inOrOut 1 ≠ kSC_Reset ∧ x.inOrOut 2 ≠ kSC_ID)

section V1V2

def alpsPassthroughModeV2 (enable : Bool) : Talk Bool :=
  let cmd := if enable then kDP_SetMouseScaling2To1 else kDP_SetMouseScaling1To1
  submitted [sendMouse cmd, sendMouse cmd, sendMouse cmd, sendMouse kDP_SetDefaultsAndDisable]

-- None of the requests is checked.
def alpsAbsoluteModeV1V2 : Talk Bool := do
  Dialogue.each [ps2CommandShort kDP_SetDefaultsAndDisable, ps2CommandShort kDP_SetDefaultsAndDisable,
    ps2CommandShort kDP_SetDefaultsAndDisable, ps2CommandShort kDP_SetDefaultsAndDisable,
    ps2CommandShort kDP_Enable, ps2CommandShort kDP_MouseSetPoll]
  pure true

def alpsGetStatus : Talk Report :=
  alpsRptCmd false 0 kDP_SetDefaultsAndDisable

def alpsTapMode (enable : Bool) : Talk Bool := do
  let cmd := if enable then kDP_SetMouseSampleRate else kDP_SetMouseResolution
  let tapArg := if enable then 0x0a else 0x00
  if ← submitted (mouseInformation ++ [sendMouse kDP_SetDefaultsAndDisable,
      sendMouse kDP_SetDefaultsAndDisable, sendMouse cmd, sendMouse tapArg]) then
    let status ← alpsGetStatus
    pure status.complete
  else
    pure false

def alpsHwInitV1V2 (flags : UInt32) : Talk Bool := do
  let passthroughMode enable := if flags &&& alpsPass ≠ 0 then alpsPassthroughModeV2 enable else pure true
  if ← Dialogue.all [passthroughMode true, alpsTapMode true, alpsAbsoluteModeV1V2, passthroughMode false] then
    -- without the stream mode nothing is reported
    let _ ← ps2CommandShort kDP_SetMouseStreamMode
    pure true
  else
    pure false

end V1V2

def alpsHwInitDolphinV1 : Talk Bool := do
  Dialogue.each [ps2CommandShort kDP_SetMouseStreamMode, ps2Command 0x64 kDP_SetMouseSampleRate,
    ps2Command 0x28 kDP_SetMouseSampleRate, ps2CommandShort kDP_Enable]
  pure true

-- None of the results is looked at.
def alpsHwInitSS4V2 : Init Bool := do
  Dialogue.each [Talk.submit (ps2CommandShort kDP_SetMouseStreamMode),
    Talk.submit (ps2CommandShort kDP_SetMouseStreamMode),
    Talk.submit (ps2Command 0x64 kDP_SetMouseSampleRate),
    Talk.submit (ps2Command 0x28 kDP_SetMouseSampleRate),
    exitCommandMode,
    enterCommandMode,
    writeRegAt .v3 .routine 0x001d 0x20,
    exitCommandMode,
    Talk.submit (ps2CommandShort kDP_Enable)]
  pure true

-- The routine that `set_protocol` installs as `hw_init`.
def Protocol.hwInit (flags : UInt32) : Protocol → Init Bool
  | v1 | v2    => Talk.submit (alpsHwInitV1V2 flags)
  | v3         => alpsHwInitV3 flags
  | v3Rushmore => alpsHwInitRushmoreV3 flags
  | v4         => alpsHwInitV4
  | v5         => Talk.submit alpsHwInitDolphinV1
  | v7         => alpsHwInitV7
  | v8         => alpsHwInitSS4V2

def Protocol.all : List Protocol :=
  [v1, v2, v3, v3Rushmore, v4, v5, v7, v8]

-- It is installed together with the version.
def AlpsDevice.hwInit (dev : AlpsDevice) : Init Bool :=
  match Protocol.all.find? (·.version = dev.protoVersion) with
  | some v => v.hwInit dev.flags
  | none   => pure false

def AlpsDevice.deviceSpecificInit (dev : AlpsDevice) : Init Bool := do
  if ← dev.hwInit then
    pure true
  else
    let _ ← Talk.submit resetMouse
    pure false

def AlpsDevice.probe : Talk (Option AlpsDevice) := do
  let _ ← resetMouse
  identify

-- A driver that has been found is started.
def start : Init (Option AlpsDevice) := do
  match ← Talk.submit AlpsDevice.probe with
  | some dev => do
    let started ← dev.deviceSpecificInit
    pure (if started then some dev else none)
  | none     => pure none

inductive PowerCommand
  | disableDevice
  | enableDevice
  deriving DecidableEq

-- The part of `setDevicePowerState` that the device sees.
def AlpsDevice.setDevicePowerState (dev : AlpsDevice) : PowerCommand → Init Bool
  | .disableDevice => Talk.submit resetMouse
  | .enableDevice  => dev.deviceSpecificInit

-- The driver is started, and then the system sleeps and wakes up.
def session (cmds : List PowerCommand) : Init (Option AlpsDevice) := do
  match ← start with
  | some dev => do
    Dialogue.each (cmds.map dev.setDevicePowerState)
    pure (some dev)
  | none     => pure none

end Touchpad
