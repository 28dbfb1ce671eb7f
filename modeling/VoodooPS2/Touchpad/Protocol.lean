import VoodooPS2.Touchpad.Packets

namespace Touchpad

abbrev alpsProtoV2         : UInt16 := 0x200
abbrev alpsProtoV3Rushmore : UInt16 := 0x310

abbrev alpsDualpointWithPressure : UInt32 := 0x400

-- The protocol versions that an ALPS device may be identified with.
inductive Protocol
  | v1
  | v2
  | v3
  | v3Rushmore
  | v4
  | v5
  | v7
  | v8
  deriving DecidableEq

def Protocol.version : Protocol → UInt16
  | v1         => alpsProtoV1
  | v2         => alpsProtoV2
  | v3         => alpsProtoV3
  | v3Rushmore => alpsProtoV3Rushmore
  | v4         => alpsProtoV4
  | v5         => alpsProtoV5
  | v7         => alpsProtoV7
  | v8         => alpsProtoV8

def Protocol.processPacket : Protocol → ProcessPacket
  | v1 | v2    => .v1V2
  | v3         => .v3 .pinnacle
  | v3Rushmore => .v3 .rushmore
  | v4         => .v4
  | v5         => .touchpadV3V5 .dolphin
  | v7         => .v7
  | v8         => .ss4V2

-- The values that `set_protocol` starts from, with the packet size that `deviceSpecificInit` chooses.
def Protocol.defaults (v : Protocol) : AlpsDevice where
  protoVersion  := v.version
  byte0         := 0x8f
  mask0         := 0x8f
  flags         := alpsDualpoint
  pktsize       := if v.version = alpsProtoV4 then 8 else 6
  pktsize_eq    := by split <;> simp
  xMax          := 2000
  yMax          := 1400
  xBits         := 15
  yBits         := 11
  processPacket := v.processPacket

-- The results of `alps_dolphin_get_device_area`, for the last status byte of the device.
def AlpsDevice.setDeviceArea (dev : AlpsDevice) (status : UInt8) : AlpsDevice :=
  let numXElectrode : Int := 8 + (status &&& 0x0f).toNat
  let numYElectrode : Int := 1 + (status.shiftRight 4 &&& 0x0f).toNat
  { dev with
    xBits := numXElectrode
    yBits := numYElectrode
    xMax  := (numXElectrode - 1) * 64
    yMax  := (numYElectrode - 1) * 64 }

def AlpsDevice.clearDualpoint (dev : AlpsDevice) (absent : Bool) : AlpsDevice :=
  if absent then { dev with flags := dev.flags &&& ~~~alpsDualpoint } else dev

-- What `set_protocol` installs. It depends on the firmware version, on whether the probe for a trackstick
-- has failed, and on the answer to the query for the area.
def setProtocol (v : Protocol) (fwVer : UInt8) (noTrackstick : Bool) (status : UInt8) : AlpsDevice :=
  let dev := v.defaults
  match v with
  | .v1 | .v2    => { dev with xMax := 1023, yMax := 767 }
  | .v3          => dev.clearDualpoint noTrackstick
  | .v3Rushmore  => { dev with xBits := 16, yBits := 12 }.clearDualpoint noTrackstick
  | .v4          => dev
  | .v5          =>
    { dev with byte0 := 0xc8, mask0 := 0xc8, flags := 0, xBits := 23, yBits := 12 }.setDeviceArea status
  | .v7          =>
    let dev := { dev with byte0 := 0x48, mask0 := 0x48, xMax := 0xfff, yMax := 0x7ff }
    let dev := if fwVer ≠ 0xba then { dev with flags := dev.flags ||| alpsButtonpad } else dev
    dev.clearDualpoint noTrackstick
  | .v8          =>
    let dev := { dev with byte0 := 0x18, mask0 := 0x18, flags := 0 }
    if fwVer = 0x1 then
      { dev with xMax := 8160, yMax := 4080, flags := alpsDualpoint ||| alpsDualpointWithPressure }
    else
      { dev with xMax := 8176, yMax := 4088, flags := alpsButtonpad }

end Touchpad
