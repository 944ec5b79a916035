import Baseboard.Bridge
import Baseboard.Proofs.Codec.RoundTrip

/-! Frames that say the same but for a secret. Two byte strings are compared place by place, from
the data of a request up to the datagram that carries it, so that it can be said where in a frame
the secret shows. -/
namespace Baseboard

/-- Two byte strings are of the same length, and differ at most in places that are `hidden`. -/
structure Bytes.SameBut (hidden : Nat → Prop) (a b : Bytes) : Prop where
  length_eq : a.length = b.length
  getElem?_eq : ∀ i, ¬ hidden i → a[i]? = b[i]?

namespace Bytes.SameBut

variable {hidden wider : Nat → Prop} {a a' b b' : Bytes}

theorem refl (hidden : Nat → Prop) (a : Bytes) : SameBut hidden a a := ⟨rfl, fun _ _ => rfl⟩

theorem mono (h : SameBut hidden a b) (hwider : ∀ i, hidden i → wider i) : SameBut wider a b :=
  ⟨h.length_eq, fun i hi => h.getElem?_eq i fun hhidden => hi (hwider i hhidden)⟩

/-- Of bytes that are all hidden only the number shows. -/
theorem of_hidden (hlength : a.length = b.length) (h : ∀ i, i < a.length → hidden i) :
    SameBut hidden a b := by
  refine ⟨hlength, fun i hi => ?_⟩
  have hpast : a.length ≤ i := Nat.le_of_not_lt fun hlt => hi (h i hlt)
  rw [List.getElem?_eq_none hpast, List.getElem?_eq_none (hlength ▸ hpast)]

theorem append (h : SameBut hidden a b) (h' : SameBut (fun i => hidden (a.length + i)) a' b') :
    SameBut hidden (a ++ a') (b ++ b') := by
  refine ⟨by simp only [List.length_append, h.length_eq, h'.length_eq], fun i hi => ?_⟩
  by_cases hlt : i < a.length
  · rw [List.getElem?_append_left hlt, List.getElem?_append_left (h.length_eq ▸ hlt)]
    exact h.getElem?_eq i hi
  · have hle := Nat.le_of_not_lt hlt
    rw [List.getElem?_append_right hle, List.getElem?_append_right (h.length_eq ▸ hle),
      ← h.length_eq]
    refine h'.getElem?_eq _ ?_
    rwa [Nat.add_sub_cancel' hle]

end Bytes.SameBut

open Bytes (SameBut)

namespace Request

/-- A secret in the data of a request shows in its data and in its last checksum only. -/
theorem encode_sameBut {secret : Nat → Prop} (r : Request) {data data' : Bytes}
    (h : SameBut (fun i => secret (6 + i)) data data') (hsum : secret (6 + data.length)) :
    SameBut secret ({ r with data := some data } : Request).encode
      ({ r with data := some data' } : Request).encode := by
  have hbody : SameBut (fun i => secret (3 + i))
      (r.requester :: r.sequenceByte :: r.command :: data)
      (r.requester :: r.sequenceByte :: r.command :: data') :=
    SameBut.append (.refl _ [r.requester, r.sequenceByte, r.command])
      (h.mono fun i hi => by rwa [← Nat.add_assoc])
  refine SameBut.append (SameBut.append (.refl _ _) hbody) (.of_hidden rfl fun i hi => ?_)
  obtain rfl : i = 0 := Nat.lt_one_iff.mp hi
  simpa [head, body, payload, Nat.add_comm, Nat.add_left_comm] using hsum

/-- The places of the challenge in the message of a request for activation, and of the last
checksum, which covers it. -/
def ReturnsChallenge (k : Nat) : Prop := 8 ≤ k ∧ k < 24 ∨ k = 28

theorem activateSession_sameBut (t : AuthType) (level : Privilege) (challenge challenge' : Field)
    (initial : UInt32) (controller n : UInt8) :
    SameBut ReturnsChallenge
      ((Route.direct controller).enclose
        ((activateSession t level challenge initial).numbered n))
      ((Route.direct controller).enclose
        ((activateSession t level challenge' initial).numbered n)) := by
  have hdirect (request : Request) :
      (Route.direct controller).enclose request = (request.addressedTo controller).encode := by
    simp [Route.enclose, Route.envelopes, Route.addressed, Route.direct, Route.depth]
  rw [hdirect, hdirect]
  have hlength := challenge.length_eq
  refine encode_sameBut (((activateSession t level challenge initial).numbered n).addressedTo
    controller) (SameBut.append (SameBut.append (.refl _ [t.code, level.code]) ?_) (.refl _ _)) ?_
  · refine .of_hidden (hlength.trans challenge'.length_eq.symm) fun i hi => .inl ?_
    rw [hlength] at hi
    simp only [List.length_cons, List.length_nil]
    omega
  · refine .inr ?_
    simp only [List.length_append, List.length_cons, Bytes.length_littleEndian, hlength]

end Request

/-- The pad byte follows the length of the body, which is no secret. -/
theorem Rmcp.datagram_sameBut {hidden : Nat → Prop} {body body' : Bytes}
    (h : SameBut (fun i => hidden (4 + i)) body body') :
    SameBut hidden (datagram .ipmi body) (datagram .ipmi body') := by
  rw [datagram_eq, datagram_eq, ← h.length_eq]
  exact SameBut.append (SameBut.append (.refl _ _) h) (.refl _ _)

namespace Packet

/-- Where the message of a session packet starts in the datagram. -/
def messageStart (frame : Bytes) : Nat := if frame[4]? = some AuthType.none.code then 14 else 30

/-- The places in the datagram of a session packet that are taken up by a code, if the frame is
authenticated, and those in its message that are `secret`. -/
def Conceals (secret : Nat → Prop) (frame : Bytes) (i : Nat) : Prop :=
  frame[4]? ≠ some AuthType.none.code ∧ 13 ≤ i ∧ i < 29 ∨
    ∃ k, i = messageStart frame + k ∧ secret k

theorem authType_encode (p : Packet) : p.encode[4]? = some p.header.authType := by
  rw [encode, Rmcp.datagram_eq]
  rfl

theorem messageStart_of_authType {b : Bytes} {h : SessionHeader} (hfits : h.CodeFits)
    (htype : b[4]? = some h.authType) : messageStart b = 4 + h.length := by
  simp only [messageStart, htype, Option.some_inj, SessionHeader.length]
  cases hcode : h.authCode with
  | none =>
    have hplain : h.authType = AuthType.none.code := Decidable.byContradiction fun hsigned =>
      absurd (hfits.mpr hsigned) (by rw [hcode]; exact Bool.false_ne_true)
    exact if_pos hplain
  | some code => exact if_neg (hfits.mp (by rw [hcode]; rfl))

theorem messageStart_encode {p : Packet} (hfits : p.header.CodeFits) :
    messageStart p.encode = 4 + p.header.length :=
  messageStart_of_authType hfits (authType_encode p)

/-- Another code in a header takes up the place of the one before it. -/
private theorem header_sameBut {h : SessionHeader} {code : Option Field} (hfits : h.CodeFits)
    (hcode : h.authCode.isSome = code.isSome) :
    SameBut (fun i => h.authType ≠ AuthType.none.code ∧ 9 ≤ i ∧ i < 25) h.encode
      ({ h with authCode := code } : SessionHeader).encode := by
  obtain ⟨t, sequence, id, own, length⟩ := h
  cases own with
  | none =>
    cases code with
    | none => exact .refl _ _
    | some code => cases hcode
  | some own =>
  cases code with
  | none => cases hcode
  | some code =>
    refine SameBut.append (SameBut.append (.refl _ _) ?_) (.refl _ _)
    refine .of_hidden (own.length_eq.trans code.length_eq.symm) fun i hi => ⟨hfits.mp rfl, ?_⟩
    rw [own.length_eq] at hi
    simp only [List.length_append, List.length_cons, Bytes.length_littleEndian]
    omega

/-- Packets that differ in their codes, and in secret places of their messages, differ in no other
places of the datagrams. -/
theorem encode_sameBut {secret : Nat → Prop} {h : SessionHeader} {code : Option Field}
    {message message' : Bytes} (hfits : h.CodeFits) (hcode : h.authCode.isSome = code.isSome)
    (hmessage : SameBut secret message message') :
    SameBut (Conceals secret (encode ⟨h, message⟩)) (encode ⟨h, message⟩)
      (encode ⟨{ h with authCode := code }, message'⟩) := by
  have hstart : messageStart (encode ⟨h, message⟩) = 4 + h.length := messageStart_encode hfits
  have htype : (encode ⟨h, message⟩)[4]? = some h.authType := authType_encode _
  have hbody : SameBut (fun i => Conceals secret (encode ⟨h, message⟩) (4 + i))
      (toBytes ⟨h, message⟩) (toBytes ⟨{ h with authCode := code }, message'⟩) := by
    refine SameBut.append ((header_sameBut hfits hcode).mono fun i hi => .inl ?_)
      (hmessage.mono fun i hi => .inr ⟨i, ?_, hi⟩)
    · obtain ⟨hsigned, hi⟩ := hi
      rw [htype, Ne, Option.some_inj]
      exact ⟨hsigned, by omega⟩
    · rw [hstart, SessionHeader.length_encode, Nat.add_assoc]
  exact Rmcp.datagram_sameBut hbody

end Packet
end Baseboard
