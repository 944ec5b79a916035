import Baseboard.Proofs.Codec.Difference
import Baseboard.Proofs.Session.Answer

/-! Messages of which one byte arrives as another. Every byte of a message counts in one of its two
checksums, so the message is refused whatever it holds, and a datagram that carries it is taken for
no answer, whichever request is waited for. -/
namespace Baseboard

/-- When one byte is put in the place of another, the sum changes by the difference of the two. -/
theorem byteSum_set (b : Bytes) {i : Nat} (h : i < b.length) (x : UInt8) :
    byteSum (b.set i x) + b[i] = byteSum b + x := by
  induction b generalizing i with
  | nil => cases h
  | cons first rest ih =>
    cases i with
    | zero =>
      rw [List.set_cons_zero, List.getElem_cons_zero, byteSum_cons, byteSum_cons]
      ac_rfl
    | succ i =>
      rw [List.set_cons_succ, List.getElem_cons_succ, byteSum_cons, byteSum_cons, UInt8.add_assoc,
        ih (Nat.lt_of_succ_lt_succ h), UInt8.add_assoc]

/-- A run of bytes that sums to zero no longer does when one of them is changed. -/
theorem byteSum_set_ne_zero {b : Bytes} (hsum : byteSum b = 0) {i : Nat} (h : i < b.length)
    {x : UInt8} (hx : x ≠ b[i]) : byteSum (b.set i x) ≠ 0 := by
  intro hzero
  have hchange := byteSum_set b h x
  rw [hzero, hsum, UInt8.zero_add, UInt8.zero_add] at hchange
  exact hx hchange.symm

/-- Of checked bytes, one of the two parts no longer sums to zero when a byte is changed. -/
theorem Checked.sums_set {shortest : Nat} {b : Bytes} (hb : Checked shortest b) {i : Nat}
    (h : i < b.length) {x : UInt8} (hx : x ≠ b[i]) :
    byteSum ((b.set i x).take 3) ≠ 0 ∨ byteSum ((b.set i x).drop 3) ≠ 0 := by
  by_cases hhead : i < 3
  · left
    rw [List.take_set]
    exact byteSum_set_ne_zero hb.head_sum (by simp; omega) (by simpa using hx)
  · right
    rw [List.drop_set, if_neg hhead]
    refine byteSum_set_ne_zero hb.body_sum (by simp; omega) ?_
    simpa [Nat.add_sub_cancel' (Nat.le_of_not_lt hhead)] using hx

/-- A reader that looks at the length and at both sums first finds a sum that is wrong. -/
theorem badChecksum_of_reading {shortest : Nat} {b : Bytes} {e : Error} {rest : Except Error α}
    (hthree : 3 ≤ shortest) (hlong : shortest ≤ b.length)
    (hsums : byteSum (b.take 3) ≠ 0 ∨ byteSum (b.drop 3) ≠ 0) :
    (do
      if b.length < shortest then throw e
      if checksum (← Reading.slice b 0 3) ≠ 0 ∨ checksum (← Reading.suffix b 3) ≠ 0 then
        throw Error.badChecksum
      rest : Except Error α) = .error .badChecksum := by
  have hwrong : checksum (b.take 3) ≠ 0 ∨ checksum (b.drop 3) ≠ 0 := by
    rwa [Ne, Ne, checksum_eq_zero_iff, checksum_eq_zero_iff]
  dsimp only
  rw [if_neg (Nat.not_lt_of_le hlong), Reading.slice_of_le (by omega),
    Reading.suffix_of_le (by omega)]
  simp only [Reading.ok_bind, List.drop_zero]
  rw [if_pos hwrong]
  rfl

/-- A message that can be read is refused when one of its bytes is changed, if its reader refuses
what has a wrong sum. -/
theorem Codec.parse_set {Message : Type} {shortest : Nat} {encode : Message → Bytes}
    {parse : Bytes → Except Error Message} {asRead : Message → Message}
    (hcodec : Codec shortest encode parse asRead)
    (hrefuses : ∀ b : Bytes, shortest ≤ b.length →
      byteSum (b.take 3) ≠ 0 ∨ byteSum (b.drop 3) ≠ 0 → parse b = .error .badChecksum)
    {b : Bytes} {m : Message} (hread : parse b = .ok m) {i : Nat} (h : i < b.length) {x : UInt8}
    (hx : x ≠ b[i]) : parse (b.set i x) = .error .badChecksum := by
  have hchecked : Checked shortest b := hcodec.checked_of_parse hread
  refine hrefuses _ ?_ (hchecked.sums_set h hx)
  rw [List.length_set]
  exact hchecked.long

theorem Request.parse_of_wrongSum (b : Bytes) (hlong : shortest ≤ b.length)
    (hsums : byteSum (b.take 3) ≠ 0 ∨ byteSum (b.drop 3) ≠ 0) :
    parse b = .error .badChecksum :=
  badChecksum_of_reading (by decide) hlong hsums

theorem Response.parse_of_wrongSum (b : Bytes) (hlong : shortest ≤ b.length)
    (hsums : byteSum (b.take 3) ≠ 0 ∨ byteSum (b.drop 3) ≠ 0) :
    parse b = .error .badChecksum :=
  badChecksum_of_reading (by decide) hlong hsums

namespace Packet

theorem messageStart_of_decode {b : Bytes} {p : Packet} (hb : decode b = .ok p) :
    messageStart b = 4 + p.header.length := by
  obtain ⟨-, padding, hp⟩ := decode_eq_ok_iff.mp hb
  refine messageStart_of_authType hp.code_fits ?_
  have hfirst : b[4]? = (b.drop 4)[0]? := by rw [List.getElem?_drop]
  rw [hfirst, hp.eq]
  rfl

/-- A byte of the message that is changed in the datagram is changed in what is read, and nothing
else is. -/
theorem decode_set {b : Bytes} {p : Packet} (hb : decode b = .ok p) {i : Nat}
    (h : i < p.payload.length) (x : UInt8) :
    decode (b.set (messageStart b + i) x) = .ok ⟨p.header, p.payload.set i x⟩ := by
  have hstart := messageStart_of_decode hb
  obtain ⟨⟨classByte, hbyte, hclass⟩, padding, hp⟩ := decode_eq_ok_iff.mp hb
  have hplace : messageStart b + i - 4 = p.header.encode.length + i := by
    rw [hstart, SessionHeader.length_encode]
    omega
  have hrest : (b.set (messageStart b + i) x).drop 4 =
      p.header.encode ++ (p.payload.set i x ++ padding) := by
    rw [List.drop_set, if_neg (by omega), hp.eq, hplace, toBytes, List.append_assoc,
      List.set_append_right _ _ (Nat.le_add_right _ _), Nat.add_sub_cancel_left,
      List.set_append_left _ _ h]
  refine decode_eq_ok_iff.mpr ⟨⟨classByte, ?_, hclass⟩, padding, ?_, hp.code_fits, ?_, ?_⟩
  · rw [List.getElem?_set_ne (by omega), hbyte]
  · rw [hrest, toBytes, List.append_assoc]
  · rw [List.length_set]
    exact hp.length_eq
  · rw [List.length_set]
    exact hp.long

end Packet

/-- A packet whose message cannot be read is turned down, or it is passed over. -/
theorem Expectation.accept_of_unreadable {b : Bytes} {p : Packet} {error : Error} (e : Expectation)
    (hdecode : Packet.decode b = .ok p) (hparse : Response.parse p.payload = .error error) :
    e.accept b = if e.rejects p then .error .unauthenticatedReply else .ok none := by
  have hdisclosed : e.disclosed p = .error error := by
    rw [disclosed, hparse]
    rfl
  rw [accept_eq, hdecode]
  dsimp only
  rw [hdisclosed]

/-- A request or a response of which any one byte is changed is refused for its checksum. So when
one byte is changed of the message of a reply, its envelopes included, the datagram is taken for no
answer, whatever is waited for: it is passed over, unless it is turned down for want of
authentication, as it was before. -/
theorem changed_byte_detected :
    (∀ (r : Request) (i : Nat) (h : i < r.encode.length) (x : UInt8), x ≠ r.encode[i] →
      Request.parse (r.encode.set i x) = .error .badChecksum) ∧
    (∀ (r : Response) (i : Nat) (h : i < r.encode.length) (x : UInt8), x ≠ r.encode[i] →
      Response.parse (r.encode.set i x) = .error .badChecksum) ∧
    ∀ (e : Expectation) (b : Bytes) (p : Packet) (outer : Response), Packet.decode b = .ok p →
      Response.parse p.payload = .ok outer →
      ∀ (i : Nat) (h : i < p.payload.length) (x : UInt8), x ≠ p.payload[i] →
        e.accept (b.set (Packet.messageStart b + i) x) =
          if e.rejects p then .error .unauthenticatedReply else .ok none := by
  refine ⟨fun r i h x hx => ?_, fun r i h x hx => ?_, fun e b p outer hb hparse i h x hx => ?_⟩
  · exact Request.codec.parse_set Request.parse_of_wrongSum r.parse_encode h hx
  · exact Response.codec.parse_set Response.parse_of_wrongSum r.parse_encode h hx
  · -- The outermost message is refused, so what stands inside it is never looked at.
    have hrefused : Response.parse (p.payload.set i x) = .error .badChecksum :=
      Response.codec.parse_set Response.parse_of_wrongSum hparse h hx
    exact e.accept_of_unreadable (p := ⟨p.header, p.payload.set i x⟩) (Packet.decode_set hb h x)
      hrefused

/-- The completion code of a target behind two controllers is changed on the way. As it was, in its
two envelopes, the reply is the answer, and now it is passed over. -/
theorem changed_byte_detected_bridged :
    let request := Request.deviceId.numbered 4
    let inner := Response.reply request .completed (some [0x20, 1])
    let onward := [Route.sealed 4 [] ⟨0x2C, 0x20, 7⟩, Route.sealed 4 [] ⟨0x20, 0x81, 6⟩]
    let p := Packet.plain (inner.nestedIn onward).encode
    let e : Expectation := ⟨.none, true, 2, AppCommand.deviceId.code, 4⟩
    Request.parse (request.encode.set 5 2) = .error .badChecksum ∧
      Response.parse (inner.encode.set 6 0xC1) = .error .badChecksum ∧
      e.accept p.encode = .ok (some (inner, 0)) ∧ Packet.messageStart p.encode = 14 ∧
      p.payload[20]? = some 0 ∧ e.accept (p.encode.set 34 0xC1) = .ok none := by
  intro request inner onward p e
  obtain ⟨hrequest, hresponse, hframe⟩ := changed_byte_detected
  have hsend : ∀ q ∈ onward, q.isSendMessage = true := by decide
  have hread : (inner.nestedIn onward).asRead = inner.nestedIn onward :=
    Response.asRead_nestedIn rfl onward
  have hdecode : Packet.decode p.encode = .ok p :=
    Packet.decode_encode (Packet.wellFormed_plain (by decide) (by decide))
  have hparse : Response.parse p.payload = .ok (inner.nestedIn onward) :=
    (inner.nestedIn onward).parse_encode.trans (congrArg _ hread)
  have hdisclose : (inner.nestedIn onward).disclose 2 = .ok (.answer inner) := by
    rw [← hread]
    exact Response.disclose_nestedIn hsend inner 0
  have hanswer : e.accept p.encode = .ok (some (inner, 0)) :=
    (e.accept_eq_some_iff ..).mpr ⟨p, _, hdecode, rfl, hparse, hdisclose, by decide, rfl⟩
  have hstart : Packet.messageStart p.encode = 14 := Packet.messageStart_of_decode hdecode
  have hpassed := hframe e p.encode p _ hdecode hparse 20 (by decide) 0xC1 (by decide)
  rw [hstart] at hpassed
  exact ⟨hrequest request 5 (by decide) 2 (by decide), hresponse inner 6 (by decide) 0xC1 (by decide),
    hanswer, hstart, rfl, hpassed⟩

end Baseboard
