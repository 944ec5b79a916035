import Baseboard.Proofs.Codec.Message

/-! Which bytes are a message. Those whose two parts sum to zero are, as long as none is missing,
and then they are the bytes that the message is written as: no message is read from two strings
of bytes, and none is written as two. -/
namespace Baseboard

/-- Only the checksum brings a run of bytes to the sum zero. -/
theorem byteSum_append_singleton_eq_zero_iff (b : Bytes) (x : UInt8) :
    byteSum (b ++ [x]) = 0 ↔ x = checksum b := by
  refine ⟨fun h => ?_, fun h => h ▸ byteSum_append_checksum b⟩
  rw [byteSum_append, byteSum_cons, byteSum_nil, UInt8.add_zero] at h
  calc
    x = -byteSum b + (byteSum b + x) := by rw [← UInt8.add_assoc, UInt8.add_left_neg, UInt8.zero_add]
    _ = checksum b := by rw [h, UInt8.add_zero, checksum]

/-- Bytes that pass for a message of at least `shortest` bytes: the first three and the others
each sum to zero. -/
structure Checked (shortest : Nat) (b : Bytes) : Prop where
  long : shortest ≤ b.length
  head_sum : byteSum (b.take 3) = 0
  body_sum : byteSum (b.drop 3) = 0

theorem checked_iff {shortest : Nat} {b : Bytes} :
    Checked shortest b ↔
      shortest ≤ b.length ∧ byteSum (b.take 3) = 0 ∧ byteSum (b.drop 3) = 0 :=
  ⟨fun h => ⟨h.long, h.head_sum, h.body_sum⟩, fun h => ⟨h.1, h.2.1, h.2.2⟩⟩

/-- A reader that looks at the length and at both sums first reads checked bytes only. -/
theorem checked_of_reading {shortest : Nat} {b : Bytes} {e : Error} {rest : Except Error α} {a : α}
    (hthree : 3 ≤ shortest)
    (h : (do
        if b.length < shortest then throw e
        if checksum (← Reading.slice b 0 3) ≠ 0 ∨ checksum (← Reading.suffix b 3) ≠ 0 then
          throw Error.badChecksum
        rest : Except Error α) = .ok a) :
    Checked shortest b := by
  dsimp only at h
  split at h
  · cases h
  next hlong =>
  rw [Reading.slice_of_le (by omega), Reading.suffix_of_le (by omega)] at h
  simp only [Reading.ok_bind, List.drop_zero] at h
  split at h
  · cases h
  next hsums =>
  simp only [not_or, Decidable.not_not, checksum_eq_zero_iff] at hsums
  exact ⟨Nat.le_of_not_lt hlong, hsums.1, hsums.2⟩

/-- The addressing bytes and the others, each with their checksum after them. -/
def framed (head body : Bytes) : Bytes := head ++ [checksum head] ++ body ++ [checksum body]

/-- Checked bytes are addressing bytes and others, each with their checksum. -/
theorem Checked.exists_framed {shortest : Nat} {b : Bytes} (h : Checked shortest b)
    (hfour : 4 ≤ shortest) :
    ∃ head body : Bytes, head.length = 2 ∧ shortest ≤ body.length + 4 ∧ b = framed head body := by
  obtain ⟨hlong, hhead, hbody⟩ := h
  have htake : (b.take 3).length = 3 := List.length_take_of_le (by omega)
  have hdrop : (b.drop 3).length = b.length - 3 := List.length_drop
  rcases List.eq_nil_or_concat (b.take 3) with hnil | ⟨head, x, hx⟩
  · rw [hnil] at htake
    cases htake
  rcases List.eq_nil_or_concat (b.drop 3) with hnil | ⟨body, y, hy⟩
  · rw [hnil, List.length_nil] at hdrop
    omega
  rw [hx, List.concat_eq_append] at hhead htake
  rw [hy, List.concat_eq_append] at hbody hdrop
  rw [List.length_append, List.length_singleton] at htake hdrop
  refine ⟨head, body, by omega, by omega, ?_⟩
  calc
    b = b.take 3 ++ b.drop 3 := (List.take_append_drop 3 b).symm
    _ = (head ++ [x]) ++ (body ++ [y]) := by
      rw [hx, hy, List.concat_eq_append, List.concat_eq_append]
    _ = framed head body := by
      rw [(byteSum_append_singleton_eq_zero_iff head x).mp hhead,
        (byteSum_append_singleton_eq_zero_iff body y).mp hbody, framed, List.append_assoc,
        List.append_assoc, List.append_assoc]

/-- A way to write messages and to read them back. Exactly the checked bytes are read; `asRead`
is what a reader makes of a message, and reading loses nothing that was written. -/
structure Codec {Message : Type} (shortest : Nat) (encode : Message → Bytes)
    (parse : Bytes → Except Error Message) (asRead : Message → Message) : Prop where
  checked_of_parse {b : Bytes} {m : Message} : parse b = .ok m → Checked shortest b
  exists_encode_eq {b : Bytes} : Checked shortest b → ∃ m, encode m = b
  parse_encode (m : Message) : parse (encode m) = .ok (asRead m)
  encode_asRead (m : Message) : encode (asRead m) = encode m

namespace Codec

variable {Message : Type} {shortest : Nat} {encode : Message → Bytes}
  {parse : Bytes → Except Error Message} {asRead : Message → Message}

/-- Which bytes are read as a message. -/
theorem exists_parse_iff (h : Codec shortest encode parse asRead) (b : Bytes) :
    (∃ m, parse b = .ok m) ↔ Checked shortest b := by
  constructor
  · rintro ⟨m, hm⟩
    exact h.checked_of_parse hm
  · intro hb
    obtain ⟨m, rfl⟩ := h.exists_encode_eq hb
    exact ⟨asRead m, h.parse_encode m⟩

/-- The message that is read from bytes is the one that is written as them. -/
theorem parse_eq_ok_iff (h : Codec shortest encode parse asRead) (b : Bytes) (m : Message) :
    parse b = .ok m ↔ encode m = b ∧ asRead m = m := by
  have hread {b : Bytes} {m : Message} (hm : encode m = b) : parse b = .ok (asRead m) :=
    hm ▸ h.parse_encode m
  constructor
  · intro hm
    obtain ⟨q, hq⟩ := h.exists_encode_eq (h.checked_of_parse hm)
    obtain rfl := Except.ok.inj ((hread hq).symm.trans hm)
    have hb : encode (asRead q) = b := (h.encode_asRead q).trans hq
    exact ⟨hb, Except.ok.inj ((hread hb).symm.trans (hread hq))⟩
  · rintro ⟨hb, hm⟩
    rw [hread hb, hm]

end Codec

namespace Request

/-- Checked bytes are a request that was written out. -/
private theorem exists_encode_eq {b : Bytes} (h : Checked shortest b) :
    ∃ r : Request, r.encode = b := by
  obtain ⟨first, rest, hfirst, hrest, rfl⟩ := h.exists_framed (by decide)
  unfold shortest at hrest
  match first, rest with
  | [responder, function], requester :: sequence :: command :: data =>
    exact ⟨⟨responder, function, requester, sequence, command, some data⟩, rfl⟩

theorem codec : Codec shortest encode parse asRead where
  checked_of_parse := checked_of_reading (show 3 ≤ shortest by decide)
  exists_encode_eq := exists_encode_eq
  parse_encode := parse_encode
  encode_asRead r := by
    have hbody : r.asRead.body = r.body := by
      rw [body, asRead_payload]
      rfl
    rw [encode, encode, hbody]
    rfl

theorem asRead_eq (r : Request) : r.asRead = { r with data := r.data.filter (· ≠ []) } := by
  obtain ⟨responder, function, requester, sequenceByte, command, data⟩ := r
  rcases data with _ | _ | _ <;> rfl

theorem asRead_eq_self_iff (r : Request) : r.asRead = r ↔ r.data ≠ some [] := by
  rw [asRead_eq]
  obtain ⟨responder, function, requester, sequenceByte, command, data⟩ := r
  rcases data with _ | _ | _ <;> simp

end Request

namespace Response

/-- Checked bytes are a response that was written out. -/
private theorem exists_encode_eq {b : Bytes} (h : Checked shortest b) :
    ∃ r : Response, r.encode = b := by
  obtain ⟨first, rest, hfirst, hrest, rfl⟩ := h.exists_framed (by decide)
  unfold shortest at hrest
  match first, rest with
  | [requester, function], responder :: sequence :: command :: code :: data =>
    exact ⟨⟨requester, function, responder, sequence, command, ⟨code⟩, some data⟩, rfl⟩

theorem codec : Codec shortest encode parse asRead where
  checked_of_parse := checked_of_reading (show 3 ≤ shortest by decide)
  exists_encode_eq := exists_encode_eq
  parse_encode := parse_encode
  encode_asRead r := by
    have hbody : r.asRead.body = r.body := by
      rw [body, asRead_payload]
      rfl
    rw [encode, encode, hbody]
    rfl

theorem asRead_eq (r : Response) : r.asRead = { r with data := r.data.filter (· ≠ []) } := by
  obtain ⟨requester, function, responder, sequenceByte, command, code, data⟩ := r
  rcases data with _ | _ | _ <;> rfl

theorem asRead_eq_self_iff (r : Response) : r.asRead = r ↔ r.data ≠ some [] := by
  rw [asRead_eq]
  obtain ⟨requester, function, responder, sequenceByte, command, code, data⟩ := r
  rcases data with _ | _ | _ <;> simp

end Response

/-- A request is read from exactly the bytes that pass for a message of at least seven bytes, a
response from those that pass for one of at least eight. The message that is read is the one that
is written as these bytes, and whatever is written is read back, with empty data as none. -/
theorem message_codecs_exact :
    (∀ b, (∃ r, Request.parse b = .ok r) ↔
      7 ≤ b.length ∧ byteSum (b.take 3) = 0 ∧ byteSum (b.drop 3) = 0) ∧
    (∀ b, (∃ r, Response.parse b = .ok r) ↔
      8 ≤ b.length ∧ byteSum (b.take 3) = 0 ∧ byteSum (b.drop 3) = 0) ∧
    (∀ b r, Request.parse b = .ok r ↔ r.encode = b ∧ r.data ≠ some []) ∧
    (∀ b r, Response.parse b = .ok r ↔ r.encode = b ∧ r.data ≠ some []) ∧
    (∀ r : Request, Request.parse r.encode = .ok { r with data := r.data.filter (· ≠ []) }) ∧
    ∀ r : Response, Response.parse r.encode = .ok { r with data := r.data.filter (· ≠ []) } := by
  refine ⟨fun b => ?_, fun b => ?_, fun b r => ?_, fun b r => ?_, fun r => ?_, fun r => ?_⟩
  · exact (Request.codec.exists_parse_iff b).trans checked_iff
  · exact (Response.codec.exists_parse_iff b).trans checked_iff
  · rw [Request.codec.parse_eq_ok_iff, Request.asRead_eq_self_iff]
  · rw [Response.codec.parse_eq_ok_iff, Response.asRead_eq_self_iff]
  · rw [Request.parse_encode, Request.asRead_eq]
  · rw [Response.parse_encode, Response.asRead_eq]

end Baseboard
