import Baseboard.Response

/-! Messages on the wire. A reader accepts the bytes of a message whose two checksums
are right, and reads back what was written. Empty data cannot be told from no data. -/
namespace Baseboard

/-- The bytes that hold two things each keep the first in their six high bits. -/
theorem toNat_packed (high low : UInt8) (h : low.toNat < 4) :
    ((high <<< 2) ||| low).toNat = 4 * (high.toNat % 64) + low.toNat := by
  have hs : (high <<< 2).toNat = (high.toNat % 64) <<< 2 := by
    rw [UInt8.toNat_shiftLeft]
    simp [Nat.shiftLeft_eq]
    omega
  have hl : low.toNat < 2 ^ 2 := h
  rw [UInt8.toNat_or, hs, ← Nat.shiftLeft_add_eq_or_of_lt hl, Nat.shiftLeft_eq]
  omega

theorem toNat_high (b : UInt8) : (b >>> 2).toNat = b.toNat / 4 := by
  rw [UInt8.toNat_shiftRight]
  simp [Nat.shiftRight_eq_div_pow]

theorem toNat_low (b : UInt8) : (b &&& 0x03).toNat = b.toNat % 4 := by
  rw [UInt8.toNat_and]
  exact Nat.and_two_pow_sub_one_eq_mod b.toNat 2

theorem toNat_sixBits (b : UInt8) : (b &&& 0x3F).toNat = b.toNat % 64 := by
  rw [UInt8.toNat_and]
  exact Nat.and_two_pow_sub_one_eq_mod b.toNat 6

private theorem toNat_low_lt (b : UInt8) : (b &&& 0x03).toNat < 4 := by
  rw [toNat_low]
  omega

/-- What was packed into the high bits is read back, as far as it fits. -/
theorem high_packed (high low : UInt8) : ((high <<< 2) ||| (low &&& 0x03)) >>> 2 = high &&& 0x3F := by
  apply UInt8.toNat_inj.mp
  have hl := toNat_low_lt low
  rw [toNat_high, toNat_packed _ _ hl, toNat_sixBits]
  omega

theorem low_packed (high low : UInt8) : ((high <<< 2) ||| (low &&& 0x03)) &&& 0x03 = low &&& 0x03 := by
  apply UInt8.toNat_inj.mp
  have hl := toNat_low_lt low
  rw [toNat_low, toNat_packed _ _ hl]
  omega

theorem sixBits_of_lt {b : UInt8} (h : b.toNat < 64) : b &&& 0x3F = b := by
  apply UInt8.toNat_inj.mp
  rw [toNat_sixBits, Nat.mod_eq_of_lt h]

/-- What was read from the high bits of a byte needs no more than six bits. -/
theorem high_sixBits (b : UInt8) : (b >>> 2) &&& (0x3F : UInt8) = b >>> 2 := by
  have hb := b.toNat_lt
  apply sixBits_of_lt
  rw [toNat_high]
  omega

namespace Request

@[simp] theorem sequence_numbered (r : Request) (n : UInt8) :
    (r.numbered n).sequence = n &&& 0x3F := by
  rw [sequence, numbered, high_packed]
  apply sixBits_of_lt
  rw [toNat_sixBits]
  omega

theorem sequence_numbered_of_lt (r : Request) {n : UInt8} (h : n.toNat < 64) :
    (r.numbered n).sequence = n := by
  rw [sequence_numbered, sixBits_of_lt h]

/-- No data and empty data say the same. -/
theorem payload_raw (netFn unit command : UInt8) (data : Bytes) :
    (raw netFn unit command (if data.isEmpty then none else some data)).payload = data := by
  cases data <;> rfl

theorem netFn_raw (netFn unit command : UInt8) (data : Option Bytes) :
    (raw netFn unit command data).netFn = netFn % 64 := by
  rw [Request.netFn, raw, high_packed]
  apply UInt8.toNat_inj.mp
  rw [toNat_sixBits, UInt8.toNat_mod]
  rfl

theorem unit_raw (netFn unit command : UInt8) (data : Option Bytes) :
    (raw netFn unit command data).unit = unit % 4 := by
  rw [Request.unit, raw, low_packed]
  apply UInt8.toNat_inj.mp
  rw [toNat_low, UInt8.toNat_mod]
  rfl

theorem netFn_ofFunction (f : NetworkFunction) (command : UInt8) (data : Option Bytes) :
    (ofFunction f command data).netFn = f.request := by
  rw [ofFunction, netFn_raw]
  cases f <;> rfl

/-- The request as a reader sees it: empty data count as none. -/
def asRead (r : Request) : Request :=
  { r with data := if r.payload = [] then none else some r.payload }

@[simp] theorem asRead_payload (r : Request) : r.asRead.payload = r.payload := by
  unfold asRead payload
  split <;> simp_all

/-- What a reader makes of the bytes of a message, none of which is missing. -/
theorem parse_cons (responder function sum requester sequence command : UInt8) (rest : Bytes)
    (h : rest ≠ []) :
    parse (responder :: function :: sum :: requester :: sequence :: command :: rest) =
      if byteSum [responder, function, sum] ≠ 0 ∨
          byteSum (requester :: sequence :: command :: rest) ≠ 0 then .error .badChecksum
      else .ok ⟨responder, function, requester, sequence, command,
        if rest.dropLast = [] then none else some rest.dropLast⟩ := by
  have hpos : 0 < rest.length := List.length_pos_iff.mpr h
  have hlength : (responder :: function :: sum :: requester :: sequence :: command :: rest).length =
      rest.length + 6 := rfl
  have hshort : ¬ rest.length + 6 < shortest := by simp only [shortest]; omega
  have hdata : Reading.slice (responder :: function :: sum :: requester :: sequence :: command ::
      rest) 6 (rest.length + 6 - shortest) = .ok rest.dropLast := by
    rw [show rest.length + 6 - shortest = rest.length - 1 by simp only [shortest]; omega,
      Reading.slice_of_le (by rw [hlength]; omega), List.dropLast_eq_take]
    rfl
  have hsome : rest.length + 6 > shortest ↔ rest.dropLast ≠ [] := by
    rw [← List.length_pos_iff, List.length_dropLast, shortest]
    omega
  rw [parse, hlength, if_neg hshort, hdata]
  simp only [Reading.slice, Reading.suffix, Reading.byteAt, hlength, hsome]
  simp [checksum_eq_zero_iff]
  split
  · rfl
  · split <;> rfl

/-- Reading back what was written. -/
theorem parse_encode (r : Request) : parse r.encode = .ok r.asRead := by
  have h : r.encode = r.responder :: r.function :: checksum r.head :: r.requester ::
      r.sequenceByte :: r.command :: (r.payload ++ [checksum r.body]) := rfl
  have hhead : byteSum [r.responder, r.function, checksum r.head] = 0 :=
    byteSum_append_checksum r.head
  have hbody : byteSum (r.requester :: r.sequenceByte :: r.command ::
      (r.payload ++ [checksum r.body])) = 0 := byteSum_append_checksum r.body
  rw [h, parse_cons _ _ _ _ _ _ _ (by simp), hhead, hbody]
  simp [asRead]

@[simp] theorem length_encode (r : Request) : r.encode.length = r.payload.length + 7 := by
  simp [encode, head, body]

end Request

namespace Response

/-- The response as a reader sees it: empty data count as none. -/
def asRead (r : Response) : Response :=
  { r with data := if r.payload = [] then none else some r.payload }

@[simp] theorem asRead_payload (r : Response) : r.asRead.payload = r.payload := by
  unfold asRead payload
  split <;> simp_all

/-- What a reader makes of the bytes of a message, none of which is missing. -/
theorem parse_cons (requester function sum responder sequence command code : UInt8) (rest : Bytes)
    (h : rest ≠ []) :
    parse (requester :: function :: sum :: responder :: sequence :: command :: code :: rest) =
      if byteSum [requester, function, sum] ≠ 0 ∨
          byteSum (responder :: sequence :: command :: code :: rest) ≠ 0 then .error .badChecksum
      else .ok ⟨requester, function, responder, sequence, command, ⟨code⟩,
        if rest.dropLast = [] then none else some rest.dropLast⟩ := by
  have hpos : 0 < rest.length := List.length_pos_iff.mpr h
  have hlength : (requester :: function :: sum :: responder :: sequence :: command :: code ::
      rest).length = rest.length + 7 := rfl
  have hshort : ¬ rest.length + 7 < shortest := by simp only [shortest]; omega
  have hdata : Reading.slice (requester :: function :: sum :: responder :: sequence :: command ::
      code :: rest) 7 (rest.length + 7 - shortest) = .ok rest.dropLast := by
    rw [show rest.length + 7 - shortest = rest.length - 1 by simp only [shortest]; omega,
      Reading.slice_of_le (by rw [hlength]; omega), List.dropLast_eq_take]
    rfl
  have hsome : rest.length + 7 > shortest ↔ rest.dropLast ≠ [] := by
    rw [← List.length_pos_iff, List.length_dropLast, shortest]
    omega
  rw [parse, hlength, if_neg hshort, hdata]
  simp only [Reading.slice, Reading.suffix, Reading.byteAt, hlength, hsome]
  simp [checksum_eq_zero_iff]
  split
  · rfl
  · split <;> rfl

/-- Reading back what was written. -/
theorem parse_encode (r : Response) : parse r.encode = .ok r.asRead := by
  have h : r.encode = r.requester :: r.function :: checksum r.head :: r.responder ::
      r.sequenceByte :: r.command :: r.code.value :: (r.payload ++ [checksum r.body]) := rfl
  have hhead : byteSum [r.requester, r.function, checksum r.head] = 0 :=
    byteSum_append_checksum r.head
  have hbody : byteSum (r.responder :: r.sequenceByte :: r.command :: r.code.value ::
      (r.payload ++ [checksum r.body])) = 0 := byteSum_append_checksum r.body
  rw [h, parse_cons _ _ _ _ _ _ _ _ (by simp), hhead, hbody]
  simp [asRead]

@[simp] theorem length_encode (r : Response) : r.encode.length = r.payload.length + 8 := by
  simp [encode, head, body]

end Response
end Baseboard
