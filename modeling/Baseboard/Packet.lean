import Baseboard.Rmcp

/-! Session packets: a header that names the session and authenticates the
message which follows it. -/
namespace Baseboard

/-- The session header. The authentication type is kept as it stands on the wire. -/
structure SessionHeader where
  authType : UInt8
  sequence : UInt32
  sessionId : UInt32
  authCode : Option Field
  payloadLength : UInt8
  deriving DecidableEq, Repr

namespace SessionHeader

/-- A header without authentication code, for a message of a given length. -/
def make (authType : AuthType) (sequence sessionId : UInt32) (length : Nat) :
    Except Error SessionHeader :=
  if length ≤ 255 then
    .ok ⟨authType.code, sequence, sessionId, none, UInt8.ofNat length⟩
  else .error (.messageTooLong length)

def isAuthenticated (h : SessionHeader) : Bool := h.authType != AuthType.none.code

def length (h : SessionHeader) : Nat :=
  match h.authCode with
  | some _ => 26
  | none => 10

def encode (h : SessionHeader) : Bytes :=
  h.authType :: Bytes.littleEndian 4 h.sequence.toNat ++ Bytes.littleEndian 4 h.sessionId.toNat ++
    (match h.authCode with
      | some code => code.bytes
      | none => []) ++ [h.payloadLength]

@[simp] theorem length_encode (h : SessionHeader) : h.encode.length = h.length := by
  cases hc : h.authCode <;> simp [encode, length, hc, Field.length_eq]

end SessionHeader

/-- A session header and the message it carries. -/
structure Packet where
  header : SessionHeader
  payload : Bytes
  deriving DecidableEq, Repr

namespace Packet

/-- The packet without the datagram's header. -/
def toBytes (p : Packet) : Bytes := p.header.encode ++ p.payload

def encode (p : Packet) : Bytes := Rmcp.datagram .ipmi p.toBytes

def shortestMessage : Nat := 6

/-- The header at the start of a packet. Its layout follows the authentication
type that the sender used: only an authenticated frame has a code. -/
def parseHeader (b : Bytes) : Except Error SessionHeader := do
  if b.length < 10 then throw .tooShort
  let authType ← Reading.byteAt b 0
  let sequence ← Reading.wordAt b 1
  let sessionId ← Reading.wordAt b 5
  if authType = AuthType.none.code then
    return ⟨authType, sequence, sessionId, none, ← Reading.byteAt b 9⟩
  if b.length < 26 then throw .tooShort
  return ⟨authType, sequence, sessionId, some (← Reading.fieldAt b 9), ← Reading.byteAt b 25⟩

/-- A packet without the datagram's header. Bytes past the message are ignored:
they are padding. -/
def parse (b : Bytes) : Except Error Packet := do
  let header ← parseHeader b
  if b.length < header.length + shortestMessage then throw .tooShort
  if b.length < header.length + header.payloadLength.toNat then throw .badLength
  return ⟨header, ← Reading.slice b header.length header.payloadLength.toNat⟩

/-- The packet in a whole datagram. -/
def decode (b : Bytes) : Except Error Packet := do
  let header ← Rmcp.Header.parse b
  if !header.carries .ipmi then throw (.unexpectedClass header.messageClass)
  parse (← Reading.suffix b Rmcp.headerLength)

end Packet
end Baseboard
