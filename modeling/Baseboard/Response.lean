import Baseboard.Request

/-! Responses: the messages that answer requests. -/
namespace Baseboard

/-- A response. As in a request, `function` and `sequenceByte` hold two things
each. -/
structure Response where
  requester : UInt8
  function : UInt8
  responder : UInt8
  sequenceByte : UInt8
  command : UInt8
  code : CompletionCode
  data : Option Bytes
  deriving DecidableEq, Repr

namespace Response

def reply (r : Request) (code : CompletionCode) (data : Option Bytes) : Response where
  requester := r.requester
  function := ((r.netFn ||| 0x01) <<< 2) ||| r.unit
  responder := r.responder
  sequenceByte := r.sequence <<< 2
  command := r.command
  code := code
  data := data

def netFn (r : Response) : UInt8 := r.function >>> 2

def sequence (r : Response) : UInt8 := r.sequenceByte >>> 2

/-- The data, empty when there is none. -/
def payload (r : Response) : Bytes := r.data.getD []

/-- The addressing bytes, which have a checksum of their own. -/
def head (r : Response) : Bytes := [r.requester, r.function]

def body (r : Response) : Bytes :=
  r.responder :: r.sequenceByte :: r.command :: r.code.value :: r.payload

def encode (r : Response) : Bytes :=
  r.head ++ [checksum r.head] ++ r.body ++ [checksum r.body]

/-- The length of a response without data. -/
def shortest : Nat := 8

/-- The response written by a whole message. -/
def parse (b : Bytes) : Except Error Response := do
  if b.length < shortest then throw .tooShort
  if checksum (← Reading.slice b 0 3) ≠ 0 ∨ checksum (← Reading.suffix b 3) ≠ 0 then
    throw .badChecksum
  return {
    requester := ← Reading.byteAt b 0
    function := ← Reading.byteAt b 1
    responder := ← Reading.byteAt b 3
    sequenceByte := ← Reading.byteAt b 4
    command := ← Reading.byteAt b 5
    code := ⟨← Reading.byteAt b 6⟩
    data := ← if b.length > shortest then
        (Reading.slice b 7 (b.length - shortest)).map some
      else pure none }

/-- The response itself when it reports completion, else a rejection. -/
def accepted (r : Response) : Except Error Response :=
  if r.code = .completed then .ok r else .error (.rejected r.code)

end Response
end Baseboard
