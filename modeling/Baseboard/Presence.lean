import Baseboard.Rmcp

/-! Presence messages: a ping finds out whether a controller listens, and the
pong that answers it says what the controller supports. -/
namespace Baseboard.Presence

def enterprise : UInt32 := 0x000011BE

def pingType : UInt8 := 0x80

def pongType : UInt8 := 0x40

/-- The datagram that asks for a pong with the same tag. -/
def ping (tag : UInt8) : Bytes :=
  Rmcp.datagram .asf (Bytes.bigEndian 4 enterprise.toNat ++ [pingType, tag, 0x00, 0x00])

/-- What a controller says about itself. -/
structure Pong where
  tag : UInt8
  enterprise : UInt32
  oem : UInt32
  entities : UInt8
  interactions : UInt8
  deriving DecidableEq, Repr

namespace Pong

def supportsSessions (p : Pong) : Bool := p.entities &&& 0x80 != 0

/-- The pong in a datagram, or `none` when a well-formed datagram is no pong. -/
def parse (b : Bytes) : Except Error (Option Pong) := do
  let header ← Rmcp.Header.parse b
  if !header.carries .asf then return none
  let message ← Reading.suffix b Rmcp.headerLength
  if message.length < 8 then throw .tooShort
  if (← Reading.byteAt message 4) ≠ pongType then return none
  let data ← Reading.suffix message 8
  if data.length < 16 then throw .tooShort
  return some {
    tag := ← Reading.byteAt message 5
    enterprise := ← Reading.bigWordAt data 0
    oem := ← Reading.bigWordAt data 4
    entities := ← Reading.byteAt data 8
    interactions := ← Reading.byteAt data 9 }

end Pong
end Baseboard.Presence
