/-!
# Sizes on the wire

A frame is a length of two bytes and a body of that many bytes. The body of a frame in steady state
opens with a checksum slot; behind it comes an encrypted region that opens with the length of the
payload.
-/

namespace Gatehouse.Wire

def headerLength : Nat := 2

def checksumLength : Nat := 4

def maxBody : Nat := 24 * 1024

def maxLoginBody : Nat := 1024

/-- The greeting is what one read of this many bytes brings. -/
def greetingLength : Nat := 256

/-- The longest payload of one outgoing frame. -/
def maxPayload : Nat := 24 * 1024

/-- Header, checksum slot and payload length. -/
def prefixLength : Nat := headerLength + checksumLength + 2

/-- The identifier that a login request carries behind its checksum. -/
def loginRequest : UInt8 := 0x01

end Gatehouse.Wire
