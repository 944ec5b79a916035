import Baseboard.Capabilities
import Baseboard.Digest.Md5

/-! The challenge that starts a session, and the answer that activates it. -/
namespace Baseboard

/-- A temporary session id with the challenge to be returned under it. -/
structure Challenge where
  sessionId : UInt32
  bytes : Field
  deriving DecidableEq, Repr

def Challenge.parse (data : Bytes) : Except Error Challenge := do
  if data.length < 20 then throw .badLength
  return ⟨← Reading.wordAt data 0, ← Reading.fieldAt data 4⟩

/-- What is done to the challenge before it is returned. -/
inductive ChallengeTransform where
  | standard
  | xorPasswordDigest
  deriving DecidableEq, Repr

namespace ChallengeTransform

/-- The transform for a manufacturer. The firmware of some expects the challenge
combined with the digest of the password; `vendors` lists them. -/
def forVendor (enterprise : UInt32) (vendors : List UInt32) : ChallengeTransform :=
  if enterprise ∈ vendors then xorPasswordDigest else standard

def forCapabilities (c : Capabilities) (vendors : List UInt32) : ChallengeTransform :=
  forVendor c.oemEnterprise vendors

def apply (t : ChallengeTransform) (challenge password : Field) : Field :=
  match t with
  | standard => challenge
  | xorPasswordDigest => challenge.xor (Digest.Md5.digest password.bytes)

end ChallengeTransform

/-- What a controller says of the session that it has activated. -/
structure Activation where
  typeNibble : UInt8
  sessionId : UInt32
  inboundSequence : UInt32
  levelNibble : UInt8
  deriving DecidableEq, Repr

namespace Activation

def authType? (a : Activation) : Option AuthType := AuthType.ofCode? a.typeNibble

def maxLevel? (a : Activation) : Option Privilege := Privilege.ofCode? a.levelNibble

def parse (data : Bytes) : Except Error Activation := do
  if data.length < 10 then throw .badLength
  return {
    typeNibble := (← Reading.byteAt data 0) &&& 0x0F
    sessionId := ← Reading.wordAt data 1
    inboundSequence := ← Reading.wordAt data 5
    levelNibble := (← Reading.byteAt data 9) &&& 0x0F }

end Activation
end Baseboard
