import Baseboard.Reading

/-! The remote management control protocol: a four-byte header that tells what
a datagram carries. -/
namespace Baseboard.Rmcp

/-- What a datagram carries: a presence message or a session packet. -/
inductive MessageClass where
  | asf
  | ipmi
  deriving DecidableEq, Repr

def MessageClass.code : MessageClass → UInt8
  | asf => 0x06
  | ipmi => 0x07

/-- The header, with the byte that holds the class as it stands on the wire. -/
structure Header where
  version : UInt8
  sequence : UInt8
  classByte : UInt8
  deriving DecidableEq, Repr

def headerLength : Nat := 4

namespace Header

/-- The header of an outgoing datagram, which asks for no acknowledgement. -/
def ofClass (c : MessageClass) : Header := ⟨0x06, 0xFF, c.code⟩

def encode (h : Header) : Bytes := [h.version, 0x00, h.sequence, h.classByte]

/-- The number of the class, without the acknowledgement bit. -/
def messageClass (h : Header) : UInt8 := h.classByte &&& 0x1F

def carries (h : Header) (c : MessageClass) : Bool := h.messageClass == c.code

def parse (b : Bytes) : Except Error Header := do
  if b.length < headerLength then throw .tooShort
  return ⟨← Reading.byteAt b 0, ← Reading.byteAt b 2, ← Reading.byteAt b 3⟩

end Header

/-- The lengths at which some controllers misread a session datagram. A datagram
of such a length is sent one byte longer. -/
def paddedLengths : List Nat := [56, 84, 112, 128, 156]

/-- A session datagram with its pad byte, if it needs one. -/
def pad (datagram : Bytes) : Bytes :=
  if datagram.length ∈ paddedLengths then datagram ++ [0x00] else datagram

/-- The datagram of class `c` with a given body. Only session datagrams are padded. -/
def datagram (c : MessageClass) (body : Bytes) : Bytes :=
  let bytes := (Header.ofClass c).encode ++ body
  match c with
  | .asf => bytes
  | .ipmi => pad bytes

end Baseboard.Rmcp
