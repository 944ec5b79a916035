import Baseboard.Proofs.Codec.Grammar

/-! Which session packets come back from the wire as they were. The sizes at which a datagram
is padded belong to long messages only, so the pad byte never makes up for a missing one. -/
namespace Baseboard

namespace Packet

/-- A packet has a code exactly when it claims to be authenticated, whatever it is read from. -/
theorem codeFits_of_decode {b : Bytes} {p : Packet} (h : decode b = .ok p) :
    p.header.CodeFits := by
  obtain ⟨-, padding, hp⟩ := decode_eq_ok_iff.mp h
  exact hp.code_fits

end Packet

namespace Rmcp

/-- A padded datagram has none of the lengths that are misread. -/
theorem length_datagram_notMem (body : Bytes) :
    (datagram .ipmi body).length ∉ paddedLengths := by
  simp only [datagram, pad]
  split
  next hmem =>
    simp only [paddedLengths, List.mem_cons, List.not_mem_nil, or_false, List.length_append,
      List.length_singleton] at hmem ⊢
    omega
  next hnot => exact hnot

/-- A datagram of a length that is misread is one byte longer than its header and body. -/
theorem datagram_eq (body : Bytes) :
    datagram .ipmi body = [0x06, 0x00, 0xFF, 0x07] ++ body ++
      (if 4 + body.length ∈ paddedLengths then [0x00] else []) := by
  have hlength : ((Header.ofClass .ipmi).encode ++ body).length = 4 + body.length := by
    simp [Header.encode]
    omega
  simp only [datagram, pad, hlength]
  split
  · rfl
  · rw [List.append_nil]
    rfl

end Rmcp

namespace Packet

variable {p : Packet}

/-- A header is at most 26 bytes long, so a message that a pad byte is put after is a long one. -/
private theorem long_of_padded (h : 4 + p.toBytes.length ∈ Rmcp.paddedLengths) :
    shortestMessage ≤ p.payload.length := by
  have hheader := p.header.length_le
  simp only [toBytes, List.length_append, SessionHeader.length_encode, Rmcp.paddedLengths,
    List.mem_cons, List.not_mem_nil, or_false] at h
  change 6 ≤ _
  omega

/-- A packet comes back only if it is as a sender makes it. -/
theorem wellFormed_of_decode_encode (h : decode p.encode = .ok p) : p.WellFormed := by
  obtain ⟨-, padding, hp⟩ := decode_eq_ok_iff.mp h
  refine ⟨hp.code_fits, hp.length_eq, ?_⟩
  by_cases hpadded : 4 + p.toBytes.length ∈ Rmcp.paddedLengths
  · exact long_of_padded hpadded
  have hbody : p.encode.drop 4 = p.toBytes := by
    rw [encode, Rmcp.datagram_eq, if_neg hpadded, List.append_nil]
    rfl
  have hnone : padding = [] := List.append_right_eq_self.mp (hp.eq.symm.trans hbody)
  have hlong := hp.long
  rw [hnone] at hlong
  exact hlong

/-- A packet comes back from the wire as it was exactly when it bears a code just in case it
claims to be authenticated, declares the length that its message has, and its message is one of
at least six bytes. That holds of packets that are sent with a pad byte as well, and with it no
datagram has a length that is misread. -/
theorem decode_encode_iff (p : Packet) :
    (decode p.encode = .ok p ↔
      (p.header.authCode.isSome ↔ p.header.authType ≠ 0) ∧
      p.header.payloadLength.toNat = p.payload.length ∧ 6 ≤ p.payload.length) ∧
    p.encode = [0x06, 0x00, 0xFF, 0x07] ++ p.toBytes ++
      (if 4 + p.toBytes.length ∈ [56, 84, 112, 128, 156] then [0x00] else []) ∧
    p.encode.length ∉ [56, 84, 112, 128, 156] := by
  refine ⟨⟨fun h => ?_, fun ⟨hcode, hlength, hlong⟩ => ?_⟩, Rmcp.datagram_eq _,
    Rmcp.length_datagram_notMem _⟩
  · obtain ⟨hcode, hlength, hlong⟩ := wellFormed_of_decode_encode h
    exact ⟨hcode, hlength, hlong⟩
  · exact decode_encode ⟨hcode, hlength, hlong⟩

/-- A message of 42 bytes is sent with a pad byte. -/
example : (plain (List.replicate 42 0)).encode.length = 57 := by decide

end Packet
end Baseboard
