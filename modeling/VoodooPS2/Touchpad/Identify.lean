import VoodooPS2.Touchpad.HwInit

namespace Touchpad

abbrev alpsPass        : UInt32 := 0x04
abbrev alpsFwBk1       : UInt32 := 0x10
abbrev alpsFourButtons : UInt32 := 0x40

abbrev alpsRegBaseV7 : UInt32 := 0xc2c0

-- An entry of the table of touchpads. A response of zero is not compared.
structure AlpsModelInfo where
  signature       : UInt8 × UInt8 × UInt8
  commandModeResp : UInt8
  protoVersion    : Protocol
  byte0           : UInt8
  mask0           : UInt8
  flags           : UInt32

def alpsModelData : List AlpsModelInfo := [
  ⟨(0x32, 0x02, 0x14), 0x00, .v2, 0xf8, 0xf8, alpsPass ||| alpsDualpoint⟩,
  ⟨(0x33, 0x02, 0x0a), 0x00, .v1, 0x88, 0xf8, 0⟩,
  ⟨(0x53, 0x02, 0x0a), 0x00, .v2, 0xf8, 0xf8, 0⟩,
  ⟨(0x53, 0x02, 0x14), 0x00, .v2, 0xf8, 0xf8, 0⟩,
  ⟨(0x60, 0x03, 0xc8), 0x00, .v2, 0xf8, 0xf8, 0⟩,
  ⟨(0x63, 0x02, 0x0a), 0x00, .v2, 0xf8, 0xf8, 0⟩,
  ⟨(0x63, 0x02, 0x14), 0x00, .v2, 0xf8, 0xf8, 0⟩,
  ⟨(0x63, 0x02, 0x28), 0x00, .v2, 0xf8, 0xf8, alpsFwBk2⟩,
  ⟨(0x63, 0x02, 0x3c), 0x00, .v2, 0x8f, 0x8f, alpsWheel⟩,
  ⟨(0x63, 0x02, 0x50), 0x00, .v2, 0xef, 0xef, alpsFwBk1⟩,
  ⟨(0x63, 0x02, 0x64), 0x00, .v2, 0xf8, 0xf8, 0⟩,
  ⟨(0x63, 0x03, 0xc8), 0x00, .v2, 0xf8, 0xf8, alpsPass ||| alpsDualpoint⟩,
  ⟨(0x73, 0x00, 0x0a), 0x00, .v2, 0xf8, 0xf8, alpsDualpoint⟩,
  ⟨(0x73, 0x02, 0x0a), 0x00, .v2, 0xf8, 0xf8, 0⟩,
  ⟨(0x73, 0x02, 0x14), 0x00, .v2, 0xf8, 0xf8, alpsFwBk2⟩,
  ⟨(0x20, 0x02, 0x0e), 0x00, .v2, 0xf8, 0xf8, alpsPass ||| alpsDualpoint⟩,
  ⟨(0x22, 0x02, 0x0a), 0x00, .v2, 0xf8, 0xf8, alpsPass ||| alpsDualpoint⟩,
  ⟨(0x22, 0x02, 0x14), 0x00, .v2, 0xff, 0xff, alpsPass ||| alpsDualpoint⟩,
  ⟨(0x62, 0x02, 0x14), 0x00, .v2, 0xcf, 0xcf, alpsPass ||| alpsDualpoint ||| alpsPS2Interleaved⟩,
  ⟨(0x73, 0x02, 0x50), 0x00, .v2, 0xcf, 0xcf, alpsFourButtons⟩,
  ⟨(0x52, 0x01, 0x14), 0x00, .v2, 0xff, 0xff, alpsPass ||| alpsDualpoint ||| alpsPS2Interleaved⟩,
  ⟨(0x73, 0x02, 0x64), 0x8a, .v4, 0x8f, 0x8f, 0⟩,
  ⟨(0x73, 0x03, 0x0a), 0x1d, .v3Rushmore, 0x00, 0x00, 0⟩]

section Queries

-- The probe fails if there is no trackstick, or if its register cannot be read.
def alpsProbeTrackstickV3V7 (m : CommandMode) (regBase : UInt32) : Talk Bool := do
  if ← alpsEnterCommandMode then
    let regVal ← alpsCommandModeReadReg m (regBase + 0x08)
    let _ ← alpsExitCommandMode
    pure (regVal.all fun regVal => regVal &&& 0x80 = 0)
  else
    let _ ← alpsExitCommandMode
    pure true

-- The status byte that is left of the query for the area. None of the requests is checked.
def alpsDolphinGetDeviceArea : Talk UInt8 := do
  let _ ← alpsEnterCommandMode
  let _ ← ps2CommandShort kDP_MouseResetWrap
  let _ ← ps2CommandShort kDP_MouseSetPoll
  let _ ← ps2CommandShort kDP_MouseSetPoll
  let _ ← ps2Command 0x0a kDP_SetMouseSampleRate
  let _ ← ps2Command 0x0a kDP_SetMouseSampleRate
  let x ← submitRequestAndBlock mouseInformation
  let _ ← alpsExitCommandMode
  pure (x.inOrOut 3)

-- What is read is not used.
def alpsGetOtpValuesSS4V2 (command : UInt8) : Talk Unit := do
  let _ ← ps2CommandShort command
  let _ ← ps2CommandShort command
  let _ ← submitRequestAndBlock mouseInformation

def alpsSetDefaultsSS4V2 : Talk Unit := do
  alpsGetOtpValuesSS4V2 kDP_SetMouseStreamMode
  alpsGetOtpValuesSS4V2 kDP_MouseSetPoll

end Queries

-- The function `set_protocol` with what it asks the device.
def querySetProtocol (v : Protocol) (fwVer : UInt8) : Talk AlpsDevice :=
  match v with
  | .v3         => do
    let noTrackstick ← alpsProbeTrackstickV3V7 .v3 alpsRegBasePinnacle
    pure (setProtocol .v3 fwVer noTrackstick 0)
  | .v3Rushmore => do
    let noTrackstick ← alpsProbeTrackstickV3V7 .v3 alpsRegBaseRushmore
    pure (setProtocol .v3Rushmore fwVer noTrackstick 0)
  | .v5         => do
    let status ← alpsDolphinGetDeviceArea
    pure (setProtocol .v5 fwVer false status)
  | .v7         => do
    let noTrackstick ← alpsProbeTrackstickV3V7 .v3 alpsRegBaseV7
    pure (setProtocol .v7 fwVer noTrackstick 0)
  | .v8         => do
    alpsSetDefaultsSS4V2
    pure (setProtocol .v8 fwVer false 0)
  | v           => pure (setProtocol v fwVer false 0)

section Reports

variable (e7 ec : Report)

def matchTable : Option AlpsModelInfo :=
  alpsModelData.find? fun model =>
    (e7.byte₀, e7.byte₁, e7.byte₂) = model.signature ∧
      (model.commandModeResp = 0 ∨ model.commandModeResp = ec.byte₂)

-- The version of a touchpad that is not in the table.
def matchReports : Option Protocol :=
  if e7.byte₀ = 0x73 ∧ e7.byte₁ = 0x03 ∧ e7.byte₂ = 0x50 ∧
    ec.byte₀ = 0x73 ∧ (ec.byte₁ = 0x01 ∨ ec.byte₁ = 0x02)
  then some .v5
  else if ec.byte₀ = 0x88 ∧ (ec.byte₁ &&& 0xf0 = 0xb0 ∨ ec.byte₁ &&& 0xf0 = 0xc0) then some .v7
  else if ec.byte₀ = 0x88 ∧ ec.byte₁ = 0x08 then some .v3Rushmore
  else if ec.byte₀ = 0x88 ∧ ec.byte₁ = 0x07 ∧ ec.byte₂ ≥ 0x90 ∧ ec.byte₂ ≤ 0x9d then some .v3
  else if e7.byte₀ = 0x73 ∧ e7.byte₁ = 0x03 ∧ e7.byte₂ = 0x14 ∧ ec.byte₁ = 0x02 then some .v8
  else if e7.byte₀ = 0x73 ∧ e7.byte₁ = 0x03 ∧ e7.byte₂ = 0x28 ∧ ec.byte₁ = 0x01 then some .v8
  else none

end Reports

def AlpsModelInfo.override (model : AlpsModelInfo) (dev : AlpsDevice) : AlpsDevice :=
  let priv := dev.toAlpsData
  { dev with toAlpsData := { priv with flags := model.flags, byte0 := model.byte0, mask0 := model.mask0 } }

-- An entry of the table overrides what is installed for its version, whose firmware is not known yet.
def AlpsModelInfo.install (model : AlpsModelInfo) : Talk AlpsDevice := do
  let dev ← querySetProtocol model.protoVersion 0
  pure (model.override dev)

def installReported (e7 ec : Report) : Talk (Option AlpsDevice) :=
  match matchTable e7 ec with
  | some model => do
    let dev ← model.install
    pure (some dev)
  | none       =>
    match matchReports e7 ec with
    | some v => do
      let dev ← querySetProtocol v ec.byte₁
      pure (some dev)
    | none   => pure none

-- There is no device if one of the two reports fails, or if they are not known.
def identify : Talk (Option AlpsDevice) := do
  -- the result is only written to the log
  let _ ← alpsRptCmd true 0 kDP_SetMouseScaling1To1
  let e7 ← alpsRptCmd true 0 kDP_SetMouseScaling2To1
  if e7.complete then
    let ec ← alpsRptCmd true 0 kDP_MouseResetWrap
    if ec.complete then
      let _ ← alpsExitCommandMode
      installReported e7 ec
    else
      pure none
  else
    pure none

end Touchpad
