import VoodooPS2.Touchpad.Bitmap

namespace Touchpad

-- The configuration that the event functions read, with the values that `init` and the default profile
-- give it. `setParamPropertiesGated` replaces a divisor of zero.
structure Settings where
  zFinger                  : Int    := 5
  divisorx                 : Int    := 5
  divisory                 : Int    := 5
  wvdivisor                : Int    := 5
  whdivisor                : Int    := 5
  zlimit                   : Int    := 255
  tapthreshx               : Int    := 50
  tapthreshy               : Int    := 50
  dblthreshx               : Int    := 100
  dblthreshy               : Int    := 100
  zonel                    : Int    := 567
  zoner                    : Int    := 1733
  zonet                    : Int    := 99999
  zoneb                    : Int    := 0
  swipedx                  : Int    := 400
  swipedy                  : Int    := 400
  buttonCount              : Int    := 0
  draglocktempmask         : UInt32 := 0x100010
  momentumscrollthreshy    : Int    := 7
  momentumscrollmultiplier : Int    := 98
  momentumscrolldivisor    : Int    := 100
  momentumscrollsamplesmin : Int    := 3
  ignoredeltasstart        : Int    := 1
  bogusdxthresh            : Int    := 0x7fffffff
  bogusdythresh            : Int    := 0x7fffffff
  xupmm                    : Int    := 50
  yupmm                    : Int    := 50
  scrolldxthresh           : Int    := 0
  scrolldythresh           : Int    := 0
  clickpadtype             : Int    := 0
  threefingervertswipe     : Bool   := false
  threefingerhorizswipe    : Bool   := false
  wsticky                  : Bool   := false
  smoothinput              : Bool   := true
  unsmoothinput            : Bool   := false
  swapdoubletriple         : Bool   := false
  immediateclick           : Bool   := false
  fakemiddlebutton         : Bool   := false
  clicking                 : Bool   := true
  dragging                 : Bool   := true
  rtap                     : Bool   := false
  draglock                 : Bool   := false
  hscroll                  : Bool   := true
  outzoneWt                : Bool   := false
  palm                     : Bool   := false
  palmWt                   : Bool   := false
  momentumscroll           : Bool   := true
  usbMouseStopsTrackpad    : Bool   := true
  maxdragtime              : UInt64 := 180000000
  maxtaptime               : UInt64 := 130000000
  maxdbltaptime            : UInt64 := 0
  maxaftertyping           : UInt64 := 0
  momentumscrolltimer      : UInt64 := 10000000
  maxmiddleclicktime       : UInt64 := 0
  dragexitdelay            : UInt64 := 1000000000
  scrollexitdelay          : UInt64 := 10000
  divisorx_ne_zero         : divisorx ≠ 0 := by decide
  divisory_ne_zero         : divisory ≠ 0 := by decide

end Touchpad
