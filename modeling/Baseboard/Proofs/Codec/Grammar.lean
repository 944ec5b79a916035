import Baseboard.Proofs.Codec.Packet

/-! The datagrams that are session packets. One is read exactly when the encoding of what is
read stands in it, with enough after it, and what is said of every other datagram depends on
its length, its class and the length that its header declares. -/
namespace Baseboard

namespace Bytes

theorem ofLittleEndian_lt (b : Bytes) : ofLittleEndian b < 256 ^ b.length := by
  induction b with
  | nil => exact Nat.one_pos
  | cons x rest ih =>
    have hx := x.toNat_lt
    rw [ofLittleEndian, List.length_cons, Nat.pow_succ]
    omega

/-- Any four bytes are those of a word. -/
theorem exists_word {b : Bytes} (h : b.length = 4) : ∃ w : UInt32, b = littleEndian 4 w.toNat := by
  refine ⟨UInt32.ofNat (ofLittleEndian b), ?_⟩
  have hlt := ofLittleEndian_lt b
  rw [h] at hlt
  rw [UInt32.toNat_ofNat_of_lt' hlt, ← h, littleEndian_ofLittleEndian]

/-- What is long enough has a first part of a given length. -/
theorem exists_append {b : Bytes} {n : Nat} (h : n ≤ b.length) :
    ∃ first rest : Bytes, b = first ++ rest ∧ first.length = n :=
  ⟨b.take n, b.drop n, (List.take_append_drop n b).symm, List.length_take_of_le h⟩

end Bytes

namespace SessionHeader

variable {b rest : Bytes} {h : SessionHeader}

/-- The encoding of `h` stands at the start of `b`, with `rest` after it. -/
structure Opens (h : SessionHeader) (b rest : Bytes) : Prop where
  code_fits : h.CodeFits
  eq : b = h.encode ++ rest

/-- Whatever is long enough for a header starts with one. Its first byte says how long that is. -/
theorem exists_opens (hlong : 10 ≤ b.length) (hsigned : b[0]? ≠ some 0 → 26 ≤ b.length) :
    ∃ h rest, Opens h b rest := by
  -- The fields are split off one by one, and the lengths say that there is enough for the next.
  obtain ⟨authType, tail, rfl⟩ := List.exists_cons_of_length_pos (show 0 < b.length by omega)
  rw [List.length_cons] at hlong hsigned
  obtain ⟨number, tail, rfl, hnumber⟩ := Bytes.exists_append (show 4 ≤ tail.length by omega)
  rw [List.length_append, hnumber] at hlong hsigned
  obtain ⟨id, tail, rfl, hid⟩ := Bytes.exists_append (show 4 ≤ tail.length by omega)
  rw [List.length_append, hid] at hlong hsigned
  obtain ⟨sequence, rfl⟩ := Bytes.exists_word hnumber
  obtain ⟨sessionId, rfl⟩ := Bytes.exists_word hid
  by_cases hplain : authType = 0
  · obtain ⟨length, rest, rfl⟩ := List.exists_cons_of_length_pos (show 0 < tail.length by omega)
    refine ⟨⟨authType, sequence, sessionId, none, length⟩, rest, ?_, ?_⟩
    · exact iff_of_false nofun (not_not_intro hplain)
    · simp [encode]
  · have hcoded : 17 ≤ tail.length := by
      have hne : (authType :: (Bytes.littleEndian 4 sequence.toNat ++
          (Bytes.littleEndian 4 sessionId.toNat ++ tail)))[0]? ≠ some 0 := by simpa using hplain
      have hlength := hsigned hne
      omega
    obtain ⟨code, tail, rfl, hcode⟩ := Bytes.exists_append (show 16 ≤ tail.length by omega)
    rw [List.length_append, hcode] at hcoded
    obtain ⟨length, rest, rfl⟩ := List.exists_cons_of_length_pos (show 0 < tail.length by omega)
    refine ⟨⟨authType, sequence, sessionId, some ⟨code, hcode⟩, length⟩, rest, ?_, ?_⟩
    · exact iff_of_true rfl hplain
    · simp [encode]

end SessionHeader

namespace Packet

variable {b rest : Bytes} {header : SessionHeader} {p : Packet} {e : Error}

/-- Too few bytes for a header are refused. -/
private theorem parseHeader_of_short (h : b.length < 10 ∨ b.length < 26 ∧ b[0]? ≠ some 0) :
    parseHeader b = .error .tooShort := by
  by_cases hshort : b.length < 10
  · rw [parseHeader, if_pos hshort]
    rfl
  obtain ⟨hcoded, hfirst⟩ := h.resolve_left hshort
  have hsigned : b[0] ≠ AuthType.none.code := by
    intro hplain
    rw [List.getElem?_eq_getElem (by omega)] at hfirst
    exact hfirst (congrArg some hplain)
  rw [parseHeader, if_neg hshort, Reading.byteAt_of_lt (by omega), Reading.wordAt_of_le (by omega),
    Reading.wordAt_of_le (by omega)]
  simp only [Reading.ok_bind, if_neg hsigned, if_pos hcoded]
  rfl

/-- Either a header stands at the start of the bytes, or they are said to be too short. -/
theorem parseHeader_cases (b : Bytes) :
    (∃ header rest, SessionHeader.Opens header b rest) ∨ parseHeader b = .error .tooShort := by
  by_cases hshort : b.length < 10 ∨ b.length < 26 ∧ b[0]? ≠ some 0
  · exact .inr (parseHeader_of_short hshort)
  · rw [not_or, not_and'] at hshort
    obtain ⟨hlong, hsigned⟩ := hshort
    exact .inl (SessionHeader.exists_opens (Nat.le_of_not_lt hlong)
      fun hfirst => Nat.le_of_not_lt (hsigned hfirst))

theorem parse_of_opens (ho : header.Opens b rest) :
    parse b =
      if rest.length < shortestMessage then .error .tooShort
      else if rest.length < header.payloadLength.toNat then .error .badLength
      else .ok ⟨header, rest.take header.payloadLength.toNat⟩ := by
  rw [ho.eq]
  exact parse_encode_append ho.code_fits rest

/-- The bytes are the encoding of `p` with `padding` after it, as a reader takes them. The least
length is asked of the message and what follows it. -/
structure Written (p : Packet) (b padding : Bytes) : Prop where
  eq : b = p.toBytes ++ padding
  code_fits : p.header.CodeFits
  length_eq : p.header.payloadLength.toNat = p.payload.length
  long : shortestMessage ≤ p.payload.length + padding.length

theorem Written.parse {padding : Bytes} (h : p.Written b padding) : parse b = .ok p := by
  rw [h.eq]
  exact parse_toBytes h.code_fits h.length_eq h.long

/-- The header of a packet is there, and so is as much after it as the shortest message has. -/
def Begun (b : Bytes) : Prop :=
  ∃ header rest, SessionHeader.Opens header b rest ∧ shortestMessage ≤ rest.length

/-- A packet is begun whose header declares a longer message than there is. -/
def CutShort (b : Bytes) : Prop :=
  ∃ header rest, SessionHeader.Opens header b rest ∧ shortestMessage ≤ rest.length ∧
    rest.length < header.payloadLength.toNat

theorem parse_of_not_begun (h : ¬ Begun b) : parse b = .error .tooShort := by
  rcases parseHeader_cases b with ⟨header, rest, ho⟩ | hshort
  · have hlt : rest.length < shortestMessage := Nat.lt_of_not_le fun hle => h ⟨_, _, ho, hle⟩
    rw [parse_of_opens ho, if_pos hlt]
  · rw [parse, hshort]
    rfl

theorem CutShort.parse (h : CutShort b) : parse b = .error .badLength := by
  obtain ⟨header, rest, ho, hlong, hcut⟩ := h
  rw [parse_of_opens ho, if_neg (Nat.not_lt_of_le hlong), if_pos hcut]

/-- What is begun and not cut short is the encoding of a packet. -/
theorem exists_written (hbegun : Begun b) (hcut : ¬ CutShort b) :
    ∃ p padding, Written p b padding := by
  obtain ⟨header, rest, ho, hlong⟩ := hbegun
  have hpresent : header.payloadLength.toNat ≤ rest.length :=
    Nat.le_of_not_lt fun hlt => hcut ⟨header, rest, ho, hlong, hlt⟩
  refine ⟨⟨header, rest.take header.payloadLength.toNat⟩, rest.drop header.payloadLength.toNat,
    ?_, ho.code_fits, (List.length_take_of_le hpresent).symm, ?_⟩
  · rw [toBytes, List.append_assoc, List.take_append_drop, ho.eq]
  · rw [← List.length_append, List.take_append_drop]
    exact hlong

/-- A packet is read exactly from its encoding, whatever stands after that. -/
theorem parse_eq_ok_iff : parse b = .ok p ↔ ∃ padding, p.Written b padding := by
  refine ⟨fun h => ?_, fun ⟨_, hp⟩ => hp.parse⟩
  have hbegun : Begun b := by
    refine Classical.byContradiction fun hnot => ?_
    cases h.symm.trans (parse_of_not_begun hnot)
  have hcut : ¬ CutShort b := by
    intro hcut
    cases h.symm.trans hcut.parse
  obtain ⟨found, padding, hp⟩ := exists_written hbegun hcut
  cases h.symm.trans hp.parse
  exact ⟨padding, hp⟩

theorem parse_eq_error_iff :
    parse b = .error e ↔ (e = .tooShort ∧ ¬ Begun b) ∨ (e = .badLength ∧ CutShort b) := by
  constructor
  · intro h
    by_cases hbegun : Begun b
    · by_cases hcut : CutShort b
      · cases h.symm.trans hcut.parse
        exact .inr ⟨rfl, hcut⟩
      · obtain ⟨p, padding, hp⟩ := exists_written hbegun hcut
        cases h.symm.trans hp.parse
    · cases h.symm.trans (parse_of_not_begun hbegun)
      exact .inl ⟨rfl, hbegun⟩
  · rintro (⟨rfl, hbegun⟩ | ⟨rfl, hcut⟩)
    · exact parse_of_not_begun hbegun
    · exact hcut.parse

/-- A datagram of fewer than four bytes has no class. -/
theorem decode_of_length_lt (h : b.length < Rmcp.headerLength) : decode b = .error .tooShort := by
  rw [decode, Rmcp.Header.parse, if_pos h]
  rfl

theorem length_le_of_classByte {classByte : UInt8} (h : b[3]? = some classByte) :
    Rmcp.headerLength ≤ b.length :=
  (List.getElem?_eq_some_iff.mp h).1

/-- A datagram that is long enough for a class has a header. -/
theorem exists_header_of_classByte {classByte : UInt8} (h : b[3]? = some classByte) :
    ∃ version sequence, Rmcp.Header.parse b = .ok ⟨version, sequence, classByte⟩ := by
  have hlong := length_le_of_classByte h
  have hclass : Reading.byteAt b 3 = .ok classByte := by rw [Reading.byteAt, h]
  obtain ⟨version, hversion⟩ : ∃ version, Reading.byteAt b 0 = .ok version :=
    ⟨_, Reading.byteAt_of_lt (Nat.lt_of_lt_of_le (by decide) hlong)⟩
  obtain ⟨sequence, hsequence⟩ : ∃ sequence, Reading.byteAt b 2 = .ok sequence :=
    ⟨_, Reading.byteAt_of_lt (Nat.lt_of_lt_of_le (by decide) hlong)⟩
  refine ⟨version, sequence, ?_⟩
  rw [Rmcp.Header.parse, if_neg (Nat.not_lt_of_le hlong), hversion, hsequence, hclass]
  rfl

/-- Of the first four bytes only the class byte counts. -/
theorem decode_of_classByte {classByte : UInt8} (h : b[3]? = some classByte) :
    decode b = if classByte &&& 0x1F = 0x07 then parse (b.drop 4)
      else .error (.unexpectedClass (classByte &&& 0x1F)) := by
  have hlong := length_le_of_classByte h
  obtain ⟨version, sequence, hheader⟩ := exists_header_of_classByte h
  rw [decode, hheader, Reading.ok_bind, Reading.suffix_of_le hlong]
  by_cases hsession : classByte &&& 0x1F = 0x07 <;>
    simp [Rmcp.Header.carries, Rmcp.Header.messageClass, Rmcp.MessageClass.code,
      Rmcp.headerLength, hsession]

theorem decode_eq_ok_iff :
    decode b = .ok p ↔ (∃ classByte, b[3]? = some classByte ∧ classByte &&& 0x1F = 0x07) ∧
      ∃ padding, p.Written (b.drop 4) padding := by
  cases hbyte : b[3]? with
  | none =>
    rw [decode_of_length_lt (Nat.lt_succ_of_le (List.getElem?_eq_none_iff.mp hbyte))]
    exact iff_of_false nofun fun ⟨⟨_, h, _⟩, _⟩ => nomatch h
  | some classByte =>
    rw [decode_of_classByte hbyte, ← parse_eq_ok_iff]
    by_cases hsession : classByte &&& 0x1F = 0x07
    · rw [if_pos hsession]
      exact ⟨fun h => ⟨⟨classByte, rfl, hsession⟩, h⟩, fun h => h.2⟩
    · rw [if_neg hsession]
      refine iff_of_false nofun fun ⟨⟨_, h, hclass⟩, _⟩ => ?_
      cases h
      exact hsession hclass

theorem decode_eq_error_iff :
    decode b = .error e ↔
      (b.length < 4 ∧ e = .tooShort) ∨
      (∃ classByte, b[3]? = some classByte ∧
        ((classByte &&& 0x1F ≠ 0x07 ∧ e = .unexpectedClass (classByte &&& 0x1F)) ∨
        (classByte &&& 0x1F = 0x07 ∧ ¬ Begun (b.drop 4) ∧ e = .tooShort) ∨
        (classByte &&& 0x1F = 0x07 ∧ CutShort (b.drop 4) ∧ e = .badLength))) := by
  cases hbyte : b[3]? with
  | none =>
    have hshort : b.length < 4 := Nat.lt_succ_of_le (List.getElem?_eq_none_iff.mp hbyte)
    simp [decode_of_length_lt hshort, hshort, eq_comm]
  | some classByte =>
    have hlong : ¬ b.length < 4 := Nat.not_lt_of_le (length_le_of_classByte hbyte)
    rw [decode_of_classByte hbyte]
    by_cases hsession : classByte &&& 0x1F = 0x07
    · simp [hsession, hlong, parse_eq_error_iff, and_comm]
    · simp [hsession, hlong, @eq_comm _ e]

/-- What is read stays the same when other bytes, and enough of them, come after it. -/
theorem decode_take_append {padding : Bytes} (h : decode b = .ok p)
    (hlong : shortestMessage ≤ p.payload.length + padding.length) :
    decode (b.take (4 + p.toBytes.length) ++ padding) = .ok p := by
  obtain ⟨⟨classByte, hbyte, hclass⟩, before, hp⟩ := decode_eq_ok_iff.mp h
  have hfour : 4 ≤ b.length := length_le_of_classByte hbyte
  have hb : b.take (4 + p.toBytes.length) = b.take 4 ++ p.toBytes := by
    rw [List.take_add, hp.eq, List.take_left]
  have hstart : (b.take 4).length = 4 := List.length_take_of_le hfour
  rw [decode_eq_ok_iff, hb, List.append_assoc, List.drop_left' hstart]
  refine ⟨⟨classByte, ?_, hclass⟩, padding, rfl, hp.code_fits, hp.length_eq, hlong⟩
  rw [List.getElem?_append_left (by omega), List.getElem?_take_of_lt (by omega), hbyte]

/-- A session packet is read exactly from a datagram of the session class in which, after the
first four bytes, its plain encoding stands: with a code just in case it claims to be
authenticated, the length of its message declared, and at least six bytes from the start of the
message on. Any other datagram is too short for a class, of another class, too short for a
packet, or shorter than its header declares, and is refused for that. What comes after the
message makes no difference to what is read. -/
theorem decode_exact (b : Bytes) :
    (∀ p, decode b = .ok p ↔
      4 ≤ b.length ∧ (∃ classByte, b[3]? = some classByte ∧ classByte &&& 0x1F = 7) ∧
      ∃ padding, b.drop 4 = p.toBytes ++ padding ∧
        (p.header.authCode.isSome ↔ p.header.authType ≠ 0) ∧
        p.header.payloadLength.toNat = p.payload.length ∧
        6 ≤ p.payload.length + padding.length) ∧
    (∀ e, decode b = .error e ↔
      (b.length < 4 ∧ e = .tooShort) ∨
      (∃ classByte, b[3]? = some classByte ∧
        ((classByte &&& 0x1F ≠ 7 ∧ e = .unexpectedClass (classByte &&& 0x1F)) ∨
        (classByte &&& 0x1F = 7 ∧ ¬ Begun (b.drop 4) ∧ e = .tooShort) ∨
        (classByte &&& 0x1F = 7 ∧ CutShort (b.drop 4) ∧ e = .badLength)))) ∧
    (∀ p padding, decode b = .ok p → 6 ≤ p.payload.length + padding.length →
      decode (b.take (4 + p.toBytes.length) ++ padding) = .ok p) := by
  refine ⟨fun p => ?_, fun e => decode_eq_error_iff, fun p padding => decode_take_append⟩
  rw [decode_eq_ok_iff]
  constructor
  · rintro ⟨⟨classByte, hbyte, hclass⟩, padding, hp⟩
    exact ⟨length_le_of_classByte hbyte, ⟨classByte, hbyte, hclass⟩, padding, hp.eq, hp.code_fits,
      hp.length_eq, hp.long⟩
  · rintro ⟨-, hsession, padding, heq, hcode, hlength, hlong⟩
    exact ⟨hsession, padding, heq, hcode, hlength, hlong⟩

/-- A message of three bytes is read if three more follow, whatever they are. -/
theorem decode_exact_short_message :
    let b : Bytes := [0x06, 0x00, 0xFF, 0x07] ++ (plain [1, 2, 3]).toBytes ++ [4, 5, 6]
    decode b = .ok (plain [1, 2, 3]) ∧ 6 ≤ (plain [1, 2, 3]).payload.length + [9, 9, 9, 9].length ∧
      decode (b.take 17 ++ [9, 9, 9, 9]) = .ok (plain [1, 2, 3]) :=
  ⟨rfl, by decide, (decode_exact _).2.2 (plain [1, 2, 3]) [9, 9, 9, 9] rfl (by decide)⟩

end Packet
end Baseboard
