import Baseboard.Packet
import Mathlib.Algebra.Group.Nat.Defs

/-! Session packets on the wire. A reader gets back the packet that was written, if it
bears an authentication code exactly when it claims to be authenticated, and ignores
whatever follows its message. -/
namespace Baseboard

namespace Bytes

/-- A number that was written is read back modulo what its bytes can hold. -/
theorem ofLittleEndian_littleEndian (width n : Nat) :
    ofLittleEndian (littleEndian width n) = n % 256 ^ width := by
  induction width generalizing n with
  | zero => simp [littleEndian, ofLittleEndian, Nat.mod_one]
  | succ width ih =>
    rw [littleEndian, ofLittleEndian, ih, Nat.pow_succ', Nat.mod_mul]
    simp

end Bytes

namespace Reading

/-- A slice is the part that stands between what is before it and what is after it. -/
theorem slice_append (before part rest : Bytes) {start length : Nat}
    (hs : before.length = start) (hl : part.length = length) :
    slice (before ++ (part ++ rest)) start length = .ok part := by
  subst hs hl
  rw [slice_of_le (by simp)]
  simp

theorem wordAt_append (before rest : Bytes) (w : UInt32) {start : Nat}
    (hs : before.length = start) :
    wordAt (before ++ (Bytes.littleEndian 4 w.toNat ++ rest)) start = .ok w := by
  rw [wordAt, slice_append before _ rest hs (Bytes.length_littleEndian 4 _)]
  simp only [Except.map]
  have hw : UInt32.ofNat (Bytes.ofLittleEndian (Bytes.littleEndian 4 w.toNat)) = w := by
    rw [Bytes.ofLittleEndian_littleEndian]
    apply UInt32.toNat_inj.mp
    simp
  rw [hw]

theorem fieldAt_append (before rest : Bytes) (f : Field) {start : Nat}
    (hs : before.length = start) :
    fieldAt (before ++ (f.bytes ++ rest)) start = .ok f := by
  rw [fieldAt, slice_append before _ rest hs f.length_eq]
  exact congrArg Except.ok (Field.fit_bytes f)

theorem byteAt_append (before rest : Bytes) (x : UInt8) {i : Nat} (hi : before.length = i) :
    byteAt (before ++ (x :: rest)) i = .ok x := by
  subst hi
  simp [byteAt]

end Reading

namespace SessionHeader

theorem length_le (h : SessionHeader) : h.length ≤ 26 := by
  unfold length
  split <;> decide

/-- A header has an authentication code exactly when it claims to be authenticated. -/
def CodeFits (h : SessionHeader) : Prop := h.authCode.isSome ↔ h.authType ≠ AuthType.none.code

end SessionHeader

namespace Packet

/-- What stands at the start of every header, whatever comes after the session id. -/
private theorem reads_start (authType : UInt8) (sequence sessionId : UInt32) (tail : Bytes) :
    let b := authType :: (Bytes.littleEndian 4 sequence.toNat ++
      (Bytes.littleEndian 4 sessionId.toNat ++ tail))
    Reading.byteAt b 0 = .ok authType ∧ Reading.wordAt b 1 = .ok sequence ∧
      Reading.wordAt b 5 = .ok sessionId := by
  intro b
  refine ⟨rfl, Reading.wordAt_append [authType] _ sequence rfl, ?_⟩
  have h : Reading.wordAt ((authType :: Bytes.littleEndian 4 sequence.toNat) ++
      (Bytes.littleEndian 4 sessionId.toNat ++ tail)) 5 = .ok sessionId :=
    Reading.wordAt_append _ _ _ (by simp)
  exact h

theorem parseHeader_plain (sequence sessionId : UInt32) (length : UInt8) (rest : Bytes) :
    parseHeader (SessionHeader.encode ⟨0, sequence, sessionId, none, length⟩ ++ rest) =
      .ok ⟨0, sequence, sessionId, none, length⟩ := by
  let first : Bytes := 0 :: (Bytes.littleEndian 4 sequence.toNat ++
    Bytes.littleEndian 4 sessionId.toNat)
  have hb : SessionHeader.encode ⟨0, sequence, sessionId, none, length⟩ ++ rest =
      0 :: (Bytes.littleEndian 4 sequence.toNat ++ (Bytes.littleEndian 4 sessionId.toNat ++
        (length :: rest))) := by
    simp [SessionHeader.encode]
  have hlong : ¬ (0 :: (Bytes.littleEndian 4 sequence.toNat ++
      (Bytes.littleEndian 4 sessionId.toNat ++ (length :: rest)))).length < 10 := by
    simp
    omega
  have hlength : Reading.byteAt (first ++ (length :: rest)) 9 = .ok length :=
    Reading.byteAt_append first rest length (by simp [first])
  obtain ⟨h0, h1, h5⟩ := reads_start 0 sequence sessionId (length :: rest)
  simp only [first, List.cons_append, List.append_assoc] at hlength
  rw [hb, parseHeader, if_neg hlong, h0, h1, h5, hlength]
  rfl

theorem parseHeader_signed {authType : UInt8} (h : authType ≠ 0) (sequence sessionId : UInt32)
    (code : Field) (length : UInt8) (rest : Bytes) :
    parseHeader (SessionHeader.encode ⟨authType, sequence, sessionId, some code, length⟩ ++ rest) =
      .ok ⟨authType, sequence, sessionId, some code, length⟩ := by
  let first : Bytes := authType :: (Bytes.littleEndian 4 sequence.toNat ++
    Bytes.littleEndian 4 sessionId.toNat)
  have hb : SessionHeader.encode ⟨authType, sequence, sessionId, some code, length⟩ ++ rest =
      authType :: (Bytes.littleEndian 4 sequence.toNat ++
        (Bytes.littleEndian 4 sessionId.toNat ++ (code.bytes ++ (length :: rest)))) := by
    simp [SessionHeader.encode]
  have hlong : ¬ (authType :: (Bytes.littleEndian 4 sequence.toNat ++
      (Bytes.littleEndian 4 sessionId.toNat ++ (code.bytes ++ (length :: rest))))).length < 26 := by
    simp [code.length_eq]
    omega
  have hcode : Reading.fieldAt (first ++ (code.bytes ++ (length :: rest))) 9 = .ok code :=
    Reading.fieldAt_append first _ code (by simp [first])
  have hlength : Reading.byteAt ((first ++ code.bytes) ++ (length :: rest)) 25 = .ok length :=
    Reading.byteAt_append _ rest length (by simp [first, code.length_eq])
  obtain ⟨h0, h1, h5⟩ := reads_start authType sequence sessionId (code.bytes ++ (length :: rest))
  simp only [first, List.cons_append, List.append_assoc] at hcode hlength
  rw [hb, parseHeader, if_neg (by omega), h0, h1, h5]
  simp only [Reading.ok_bind, AuthType.code, if_neg h, if_neg hlong, hcode, hlength]
  rfl

/-- A header that was written is read back, whatever follows it. -/
theorem parseHeader_encode {h : SessionHeader} (hc : h.CodeFits) (rest : Bytes) :
    parseHeader (h.encode ++ rest) = .ok h := by
  obtain ⟨authType, sequence, sessionId, code, length⟩ := h
  cases code with
  | none =>
    have h0 : authType = 0 :=
      Decidable.byContradiction fun hne => absurd (hc.mpr hne) (by simp)
    subst h0
    exact parseHeader_plain sequence sessionId length rest
  | some code => exact parseHeader_signed (hc.mp rfl) sequence sessionId code length rest

/-- A packet as a sender makes it. -/
structure WellFormed (p : Packet) : Prop where
  code_fits : p.header.CodeFits
  length_eq : p.header.payloadLength.toNat = p.payload.length
  long : shortestMessage ≤ p.payload.length

/-- What is left after the header is held against the shortest message first, and then against
the length that the header declares. -/
theorem parse_encode_append {header : SessionHeader} (hc : header.CodeFits) (rest : Bytes) :
    parse (header.encode ++ rest) =
      if rest.length < shortestMessage then .error .tooShort
      else if rest.length < header.payloadLength.toNat then .error .badLength
      else .ok ⟨header, rest.take header.payloadLength.toNat⟩ := by
  rw [parse, parseHeader_encode hc, Reading.ok_bind]
  simp only [List.length_append, SessionHeader.length_encode, Nat.add_lt_add_iff_left]
  split
  · rfl
  split
  · rfl
  next hpresent =>
  have hslice : Reading.slice (header.encode ++ rest) header.length header.payloadLength.toNat =
      .ok (rest.take header.payloadLength.toNat) := by
    rw [Reading.slice_of_le (by simp; omega), List.drop_left' (SessionHeader.length_encode header)]
  rw [hslice]
  rfl

/-- A packet that was written is read back. What follows its message is padding, which makes up
for a short message. -/
theorem parse_toBytes {p : Packet} {padding : Bytes} (hcode : p.header.CodeFits)
    (hlength : p.header.payloadLength.toNat = p.payload.length)
    (hlong : shortestMessage ≤ p.payload.length + padding.length) :
    parse (p.toBytes ++ padding) = .ok p := by
  rw [toBytes, List.append_assoc, parse_encode_append hcode, List.length_append, hlength,
    if_neg (by omega), if_neg (by omega), List.take_left]

end Packet

namespace Rmcp

/-- A session datagram is its header and body, and one more byte at most. -/
theorem exists_datagram_eq (body : Bytes) :
    ∃ padding : Bytes, datagram .ipmi body =
      (Header.ofClass .ipmi).encode ++ (body ++ padding) := by
  unfold datagram
  by_cases h : ((Header.ofClass .ipmi).encode ++ body).length ∈ paddedLengths
  · refine ⟨[0], ?_⟩
    simp only [pad, if_pos h, List.append_assoc]
  · refine ⟨[], ?_⟩
    simp only [pad, if_neg h, List.append_nil]

end Rmcp

namespace Packet

/-- What follows the header of a session datagram is a packet. -/
theorem decode_datagram (body : Bytes) :
    decode ((Rmcp.Header.ofClass .ipmi).encode ++ body) = parse body := rfl

/-- A reader gets back the packet that was sent to it, pad byte or not. -/
theorem decode_encode {p : Packet} (h : p.WellFormed) : decode p.encode = .ok p := by
  obtain ⟨padding, hp⟩ := Rmcp.exists_datagram_eq p.toBytes
  rw [encode, hp, decode_datagram]
  exact parse_toBytes h.code_fits h.length_eq (Nat.le_add_right_of_le h.long)

/-- A packet that says nothing of a session. -/
def plain (message : Bytes) : Packet := ⟨⟨0, 0, 0, none, UInt8.ofNat message.length⟩, message⟩

theorem wellFormed_plain {message : Bytes} (hlong : shortestMessage ≤ message.length)
    (hshort : message.length ≤ 255) : (plain message).WellFormed where
  code_fits := by simp [SessionHeader.CodeFits, plain, AuthType.code]
  length_eq := UInt8.toNat_ofNat_of_lt (by change _ < 256; omega)
  long := hlong

end Packet
end Baseboard
