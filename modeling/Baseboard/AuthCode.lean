import Baseboard.Digest.Md2
import Baseboard.Digest.Md5
import Baseboard.Error

/-! Authentication codes: what proves that the sender of a frame knows the
password. -/
namespace Baseboard

/-- The bytes that a keyed digest runs over: the message with its session and
sequence number, between two copies of the password. -/
def signedBytes (password : Field) (sessionId : UInt32) (message : Bytes) (sequence : UInt32) :
    Bytes :=
  password.bytes ++ Bytes.littleEndian 4 sessionId.toNat ++ message ++
    Bytes.littleEndian 4 sequence.toNat ++ password.bytes

/-- The code of a frame, or `none` for a type that uses no code. Codes of the
manufacturer's own type cannot be computed. -/
def authCode (t : AuthType) (password : Field) (sessionId : UInt32) (message : Bytes)
    (sequence : UInt32) : Except Error (Option Field) :=
  match t with
  | .none => .ok none
  | .password => .ok (some password)
  | .md5 => .ok (some (Digest.Md5.digest (signedBytes password sessionId message sequence)))
  | .md2 => .ok (some (Digest.Md2.digest (signedBytes password sessionId message sequence)))
  | .oem => .error (.unsupportedAuthType t)

end Baseboard
