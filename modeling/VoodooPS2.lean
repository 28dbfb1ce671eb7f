import VoodooPS2.Touchpad.Theorems.Delivery
import VoodooPS2.Touchpad.Theorems.Bare
import VoodooPS2.Touchpad.Theorems.Fingers
import VoodooPS2.Touchpad.Theorems.Stale
import VoodooPS2.Controller.Theorems.RequestQueue
import VoodooPS2.Controller.Theorems.ReadDataPort
import VoodooPS2.Controller.Theorems.Power
import VoodooPS2.Keyboard.Theorems.Stuck
import VoodooPS2.Touchpad.Theorems.Disable
import VoodooPS2.Touchpad.Theorems.Clicks
import VoodooPS2.Touchpad.Theorems.HwInit
import VoodooPS2.Keyboard.Theorems.Macro
import VoodooPS2.Keyboard.Theorems.Reset
import VoodooPS2.Keyboard.Theorems.Layout
import VoodooPS2.Touchpad.Theorems.Identify
import VoodooPS2.Touchpad.Theorems.Relative
import VoodooPS2.Touchpad.Theorems.Swipes
import VoodooPS2.Touchpad.Theorems.Momentum
import VoodooPS2.Touchpad.Theorems.Buttons
import VoodooPS2.Touchpad.Theorems.BitmapV4
import VoodooPS2.Touchpad.Theorems.SecondTouch
import VoodooPS2.Touchpad.Theorems.Codec
import VoodooPS2.Touchpad.Theorems.Nibbles
import VoodooPS2.Controller.Theorems.Composite
import VoodooPS2.Controller.Theorems.Configuration
import VoodooPS2.Keyboard.Theorems.Parse
import VoodooPS2.Keyboard.Theorems.Action
import VoodooPS2.Keyboard.Theorems.Brightness
import VoodooPS2.Keyboard.Theorems.Modifiers
import VoodooPS2.Keyboard.Theorems.Footprint
import VoodooPS2.RingBuffer.Fifo
import VoodooPS2.Touchpad.Theorems.Window
import VoodooPS2.Touchpad.Theorems.Unsmooth
import VoodooPS2.Touchpad.Theorems.BitmapRuns
import VoodooPS2.System.Theorems.Settles
import VoodooPS2.System.Theorems.Bytes
import VoodooPS2.System.Theorems.Requests
import VoodooPS2.Touchpad.Theorems.Ports
import VoodooPS2.Keyboard.Theorems.Service
import VoodooPS2.Touchpad.Theorems.Reports
