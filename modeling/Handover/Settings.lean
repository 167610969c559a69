import Handover.Bundle
import Handover.Decimal.Binary64

/-! Where a session listens, what it advertises, and how long its steps may take. -/

set_option autoImplicit false

namespace Handover

/-- A number of seconds. -/
abbrev Timeout := Binary64

structure Settings where
  /-- Zero leaves the choice of the port to the system. -/
  port : Int
  bindHost : String
  /-- The host put into the bundle; without one, an address of this device is looked up. -/
  advertiseHost : Option String
  scheme : String
  /-- How long one wait for the first line of a frame lasts. -/
  readTimeout : Timeout
  /-- How long writing a frame, or one wait inside a frame, may last. -/
  frameTimeout : Timeout
  connectTimeout : Timeout
  handshakeTimeout : Timeout
  deriving DecidableEq, Repr

namespace Settings

def defaultPort : Nat := 1336

/-- Half a second. -/
def defaultReadTimeout : Timeout := ⟨0x3fe0000000000000⟩

/-- Two seconds. -/
def defaultFrameTimeout : Timeout := ⟨0x4000000000000000⟩

def tenSeconds : Timeout := ⟨0x4024000000000000⟩

def default : Settings where
  port := defaultPort
  bindHost := "0.0.0.0"
  advertiseHost := none
  scheme := Bundle.defaultScheme
  readTimeout := defaultReadTimeout
  frameTimeout := defaultFrameTimeout
  connectTimeout := tenSeconds
  handshakeTimeout := tenSeconds

instance : Inhabited Settings := ⟨default⟩

/-- Both peers on this device, on a port of the system's choice. -/
def localTesting : Settings :=
  { default with port := 0, bindHost := "127.0.0.1", advertiseHost := some "127.0.0.1" }

/-- A timeout that is not given stays as it is. -/
def withTimeouts (s : Settings) (read frame : Option Timeout) : Settings :=
  { s with readTimeout := read.getD s.readTimeout, frameTimeout := frame.getD s.frameTimeout }

/-- The host to advertise when it is given; an empty one counts as not given. -/
def advertised (s : Settings) : Option String := s.advertiseHost.filter (· ≠ "")

end Settings

end Handover
