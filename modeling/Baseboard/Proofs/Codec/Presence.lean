import Baseboard.Presence
import Baseboard.Proofs.Codec.Grammar
import Mathlib.Logic.Basic

/-! The datagrams that hold presence messages, and those of them that are taken for pongs. What
type a message has hangs on the enterprise that it names, but a pong is told by its type alone. -/
namespace Baseboard

/-- Any four bytes are those of a word, with the most significant one first as well. -/
theorem Bytes.exists_bigWord {b : Bytes} (h : b.length = 4) :
    ∃ w : UInt32, b = bigEndian 4 w.toNat := by
  obtain ⟨w, hw⟩ := exists_word (b := b.reverse) (by rw [List.length_reverse, h])
  exact ⟨w, by rw [bigEndian, ← hw, List.reverse_reverse]⟩

theorem Reading.bigWordAt_append (before rest : Bytes) (w : UInt32) {start : Nat}
    (hs : before.length = start) :
    bigWordAt (before ++ (Bytes.bigEndian 4 w.toNat ++ rest)) start = .ok w := by
  have hw : UInt32.ofNat (Bytes.ofBigEndian (Bytes.bigEndian 4 w.toNat)) = w := by
    rw [Bytes.ofBigEndian, Bytes.bigEndian, List.reverse_reverse,
      Bytes.ofLittleEndian_littleEndian]
    apply UInt32.toNat_inj.mp
    simp
  rw [bigWordAt, slice_append before _ rest hs (Bytes.length_bigEndian 4 _)]
  exact congrArg Except.ok hw

namespace Presence

/-- What a presence message says. The type is one of those of the enterprise. -/
structure Message where
  enterprise : UInt32
  type : UInt8
  tag : UInt8
  data : Bytes
  deriving DecidableEq, Repr

namespace Message

/-- What stands of a message after the header: the enterprise, the type, the tag, two bytes that
nothing looks at, and the data. -/
def body (m : Message) (reserved length : UInt8) : Bytes :=
  Bytes.bigEndian 4 m.enterprise.toNat ++ (m.type :: m.tag :: reserved :: length :: m.data)

/-- The message stands in a datagram of the class of presence messages. -/
def StandsIn (m : Message) (b : Bytes) : Prop :=
  ∃ version unused sequence classByte reserved length : UInt8, classByte &&& 0x1F = 0x06 ∧
    b = version :: unused :: sequence :: classByte :: m.body reserved length

/-- The message has the type of pongs, and data enough for one. -/
def IsPong (m : Message) : Prop := m.type = pongType ∧ 16 ≤ m.data.length

variable {m m' : Message} {b : Bytes}

theorem length_body (m : Message) (reserved length : UInt8) :
    (m.body reserved length).length = 8 + m.data.length := by
  rw [body, List.length_append, Bytes.length_bigEndian]
  simp only [List.length_cons]
  omega

/-- Whatever is long enough is what stands of a message. -/
theorem exists_body {b : Bytes} (h : 8 ≤ b.length) :
    ∃ (m : Message) (reserved length : UInt8), b = m.body reserved length := by
  obtain ⟨first, tail, rfl, hfirst⟩ := Bytes.exists_append (show 4 ≤ b.length by omega)
  obtain ⟨enterprise, rfl⟩ := Bytes.exists_bigWord hfirst
  rw [List.length_append, Bytes.length_bigEndian] at h
  match tail, h with
  | type :: tag :: reserved :: length :: data, _ =>
    exact ⟨⟨enterprise, type, tag, data⟩, reserved, length, rfl⟩
  | [], h | [_], h | [_, _], h | [_, _, _], h => simp at h

/-- A datagram holds one message at most. -/
theorem StandsIn.unique (h : m.StandsIn b) (h' : m'.StandsIn b) : m = m' := by
  obtain ⟨_, _, _, _, reserved, length, -, rfl⟩ := h
  obtain ⟨_, _, _, _, reserved', length', -, heq⟩ := h'
  simp only [List.cons.injEq] at heq
  obtain ⟨-, -, -, -, heq⟩ := heq
  obtain ⟨hword, hrest⟩ := List.append_inj heq (by rw [Bytes.length_bigEndian, Bytes.length_bigEndian])
  simp only [List.cons.injEq] at hrest
  obtain ⟨htype, htag, -, -, hdata⟩ := hrest
  have henterprise : m.enterprise = m'.enterprise := by
    have hread := Reading.bigWordAt_append [] [] m.enterprise rfl
    rw [hword, Reading.bigWordAt_append [] [] m'.enterprise rfl] at hread
    exact (Except.ok.inj hread).symm
  cases m
  cases m'
  simp_all

/-- What is read off the body of a message. -/
theorem reads_body (m : Message) (reserved length : UInt8) :
    Reading.byteAt (m.body reserved length) 4 = .ok m.type ∧
      Reading.byteAt (m.body reserved length) 5 = .ok m.tag ∧
      Reading.suffix (m.body reserved length) 8 = .ok m.data := by
  have hfour : (Bytes.bigEndian 4 m.enterprise.toNat).length = 4 := Bytes.length_bigEndian 4 _
  refine ⟨Reading.byteAt_append _ _ _ hfour, ?_, ?_⟩
  · have hfive : (Bytes.bigEndian 4 m.enterprise.toNat ++ [m.type]).length = 5 := by
      rw [List.length_append, hfour, List.length_singleton]
    rw [body, List.append_cons]
    exact Reading.byteAt_append _ _ _ hfive
  · have height : (Bytes.bigEndian 4 m.enterprise.toNat ++
        [m.type, m.tag, reserved, length]).length = 8 := by
      rw [List.length_append, hfour]
      rfl
    have hsplit : m.body reserved length =
        (Bytes.bigEndian 4 m.enterprise.toNat ++ [m.type, m.tag, reserved, length]) ++ m.data := by
      rw [List.append_assoc]
      rfl
    rw [Reading.suffix_of_le (by rw [length_body]; omega), hsplit, List.drop_left' height]

end Message

/-- The datagram has a header, and is no presence message. -/
def OtherClass (b : Bytes) : Prop := ∃ classByte, b[3]? = some classByte ∧ classByte &&& 0x1F ≠ 0x06

/-- A datagram without fault: it has a header, and if that announces a presence message, there is
one, and a pong is not cut short. -/
def Formed (b : Bytes) : Prop :=
  OtherClass b ∨
    ∃ m : Message, m.StandsIn b ∧ (m.enterprise = enterprise → m.type = pongType → m.IsPong)

/-- The datagram holds a presence pong. Its type is one of the enterprise that the type of pongs
belongs to. -/
def Genuine (b : Bytes) : Prop :=
  ∃ m : Message, m.StandsIn b ∧ m.IsPong ∧ m.enterprise = enterprise

/-- The datagram holds a message of another enterprise, under the number that pongs have with the
one they belong to. -/
def Foreign (b : Bytes) : Prop :=
  ∃ m : Message, m.StandsIn b ∧ m.type = pongType ∧ m.enterprise ≠ enterprise

namespace Pong

variable {b : Bytes} {m : Message} {p : Pong} {e : Error}

/-- The pong says what stands in the data of a message, and has its tag. -/
def ReadFrom (p : Pong) (m : Message) : Prop :=
  p.tag = m.tag ∧ ∃ rest : Bytes, 6 ≤ rest.length ∧
    m.data = Bytes.bigEndian 4 p.enterprise.toNat ++
      (Bytes.bigEndian 4 p.oem.toNat ++ (p.entities :: p.interactions :: rest))

theorem exists_readFrom (h : 16 ≤ m.data.length) : ∃ p : Pong, p.ReadFrom m := by
  obtain ⟨first, tail, hdata, hfirst⟩ := Bytes.exists_append (show 4 ≤ m.data.length by omega)
  obtain ⟨enterprise, rfl⟩ := Bytes.exists_bigWord hfirst
  rw [hdata, List.length_append, Bytes.length_bigEndian] at h
  obtain ⟨second, tail, rfl, hsecond⟩ := Bytes.exists_append (show 4 ≤ tail.length by omega)
  obtain ⟨oem, rfl⟩ := Bytes.exists_bigWord hsecond
  rw [List.length_append, Bytes.length_bigEndian] at h
  match tail, h with
  | entities :: interactions :: rest, h =>
    simp only [List.length_cons] at h
    exact ⟨⟨m.tag, enterprise, oem, entities, interactions⟩, rfl, rest, by omega, hdata⟩
  | [], h | [_], h => simp at h

theorem ReadFrom.length_le (h : p.ReadFrom m) : 16 ≤ m.data.length := by
  obtain ⟨-, rest, hrest, hdata⟩ := h
  rw [hdata]
  simp only [List.length_append, Bytes.length_bigEndian, List.length_cons]
  omega

/-- What is read off the data of a pong. -/
theorem ReadFrom.reads_data (h : p.ReadFrom m) :
    Reading.bigWordAt m.data 0 = .ok p.enterprise ∧ Reading.bigWordAt m.data 4 = .ok p.oem ∧
      Reading.byteAt m.data 8 = .ok p.entities ∧ Reading.byteAt m.data 9 = .ok p.interactions := by
  obtain ⟨-, rest, -, hdata⟩ := h
  have hfour (w : UInt32) : (Bytes.bigEndian 4 w.toNat).length = 4 := Bytes.length_bigEndian 4 _
  have height : (Bytes.bigEndian 4 p.enterprise.toNat ++ Bytes.bigEndian 4 p.oem.toNat).length = 8 := by
    rw [List.length_append, hfour, hfour]
  rw [hdata]
  refine ⟨Reading.bigWordAt_append [] _ _ rfl, Reading.bigWordAt_append _ _ _ (hfour _), ?_, ?_⟩
  · rw [← List.append_assoc]
    exact Reading.byteAt_append _ _ _ height
  · rw [← List.append_assoc, List.append_cons]
    refine Reading.byteAt_append _ _ _ ?_
    rw [List.length_append, height, List.length_singleton]

theorem parse_of_otherClass (h : OtherClass b) : parse b = .ok none := by
  obtain ⟨classByte, hbyte, hclass⟩ := h
  obtain ⟨version, sequence, hheader⟩ := Packet.exists_header_of_classByte hbyte
  rw [parse, hheader, Reading.ok_bind]
  simp [Rmcp.Header.carries, Rmcp.Header.messageClass, Rmcp.MessageClass.code, hclass]
  rfl

/-- Once the class is right, what is read depends on the bytes after the header. -/
private theorem parse_of_class {version unused sequence classByte : UInt8} {body : Bytes}
    (hclass : classByte &&& 0x1F = 0x06) :
    parse (version :: unused :: sequence :: classByte :: body) =
      if body.length < 8 then .error .tooShort
      else do
        if (← Reading.byteAt body 4) ≠ pongType then return none
        let data ← Reading.suffix body 8
        if data.length < 16 then throw .tooShort
        return some {
          tag := ← Reading.byteAt body 5
          enterprise := ← Reading.bigWordAt data 0
          oem := ← Reading.bigWordAt data 4
          entities := ← Reading.byteAt data 8
          interactions := ← Reading.byteAt data 9 } := by
  obtain ⟨version', sequence', hheader⟩ := Packet.exists_header_of_classByte
    (b := version :: unused :: sequence :: classByte :: body) rfl
  have hcarries : (⟨version', sequence', classByte⟩ : Rmcp.Header).carries .asf = true := by
    simp [Rmcp.Header.carries, Rmcp.Header.messageClass, Rmcp.MessageClass.code, hclass]
  have hsuffix : Reading.suffix (version :: unused :: sequence :: classByte :: body)
      Rmcp.headerLength = .ok body := Reading.suffix_of_le (by simp [Rmcp.headerLength])
  rw [parse, hheader, Reading.ok_bind, hcarries, hsuffix]
  by_cases hshort : body.length < 8
  · simp [hshort]
  · simp [hshort]

theorem parse_of_standsIn (h : m.StandsIn b) :
    (m.type ≠ pongType → parse b = .ok none) ∧
    (m.type = pongType → m.data.length < 16 → parse b = .error .tooShort) ∧
    (m.type = pongType → ∀ p : Pong, p.ReadFrom m → parse b = .ok (some p)) := by
  obtain ⟨version, unused, sequence, classByte, reserved, length, hclass, rfl⟩ := h
  have hlong : ¬ (m.body reserved length).length < 8 := by
    rw [Message.length_body]
    omega
  obtain ⟨htype, htag, hdata⟩ := m.reads_body reserved length
  rw [parse_of_class hclass, if_neg hlong, htype, hdata, htag]
  refine ⟨fun hother => ?_, fun hpong hshort => ?_, fun hpong p hp => ?_⟩
  · simp [hother]
    rfl
  · simp [hpong, hshort]
  · have hlong : ¬ m.data.length < 16 := Nat.not_lt_of_le hp.length_le
    obtain ⟨henterprise, hoem, hentities, hinteractions⟩ := hp.reads_data
    simp [hpong, hlong, henterprise, hoem, hentities, hinteractions, ← hp.1, pure, Except.pure]

/-- Where there is neither another class nor a message there are too few bytes. -/
private theorem parse_of_short (hother : ¬ OtherClass b) (hnone : ∀ m : Message, ¬ m.StandsIn b) :
    parse b = .error .tooShort := by
  match b, hother, hnone with
  | [], _, _ | [_], _, _ | [_, _], _, _ | [_, _, _], _, _ => rfl
  | version :: unused :: sequence :: classByte :: body, hother, hnone =>
    have hclass : classByte &&& 0x1F = 0x06 :=
      Decidable.byContradiction fun hclass => hother ⟨classByte, rfl, hclass⟩
    have hshort : body.length < 8 := by
      refine Nat.lt_of_not_le fun hlong => ?_
      obtain ⟨m, reserved, length, rfl⟩ := Message.exists_body hlong
      exact hnone m ⟨version, unused, sequence, classByte, reserved, length, hclass, rfl⟩
    rw [parse_of_class hclass, if_pos hshort]

/-- What is read from a datagram, and why. -/
theorem parse_cases (b : Bytes) :
    (OtherClass b ∧ parse b = .ok none) ∨
    (∃ m : Message, m.StandsIn b ∧ m.type ≠ pongType ∧ parse b = .ok none) ∨
    (∃ (m : Message) (p : Pong), m.StandsIn b ∧ m.IsPong ∧ p.ReadFrom m ∧
      parse b = .ok (some p)) ∨
    (∃ m : Message, m.StandsIn b ∧ m.type = pongType ∧ ¬ m.IsPong ∧ parse b = .error .tooShort) ∨
    (¬ Formed b ∧ parse b = .error .tooShort) := by
  by_cases hother : OtherClass b
  · exact .inl ⟨hother, parse_of_otherClass hother⟩
  by_cases hnone : ∀ m : Message, ¬ m.StandsIn b
  · refine .inr (.inr (.inr (.inr ⟨?_, parse_of_short hother hnone⟩)))
    rintro (h | ⟨m, hm, -⟩)
    · exact hother h
    · exact hnone m hm
  obtain ⟨m, hm⟩ := not_forall_not.mp hnone
  obtain ⟨hskipped, hshort, hread⟩ := parse_of_standsIn hm
  by_cases htype : m.type = pongType
  · by_cases hlong : 16 ≤ m.data.length
    · obtain ⟨p, hp⟩ := exists_readFrom hlong
      exact .inr (.inr (.inl ⟨m, p, hm, ⟨htype, hlong⟩, hp, hread htype p hp⟩))
    · exact .inr (.inr (.inr (.inl
        ⟨m, hm, htype, fun h => hlong h.2, hshort htype (Nat.lt_of_not_le hlong)⟩)))
  · exact .inr (.inl ⟨m, hm, htype, hskipped htype⟩)

/-- What has the type of pongs, and data enough for one, is read as one, whoever it is from. -/
theorem parse_eq_some_iff :
    parse b = .ok (some p) ↔ ∃ m : Message, m.StandsIn b ∧ m.IsPong ∧ p.ReadFrom m := by
  constructor
  · intro hp
    rcases parse_cases b with ⟨-, h⟩ | ⟨-, -, -, h⟩ | ⟨m, found, hm, hpong, hfound, h⟩ |
      ⟨-, -, -, -, h⟩ | ⟨-, h⟩
    · cases hp.symm.trans h
    · cases hp.symm.trans h
    · obtain rfl : p = found := Option.some.inj (Except.ok.inj (hp.symm.trans h))
      exact ⟨m, hm, hpong, hfound⟩
    · cases hp.symm.trans h
    · cases hp.symm.trans h
  · rintro ⟨m, hm, hpong, hp⟩
    exact (parse_of_standsIn hm).2.2 hpong.1 p hp

theorem exists_parse_eq_some_iff :
    (∃ p, parse b = .ok (some p)) ↔ ∃ m : Message, m.StandsIn b ∧ m.IsPong := by
  constructor
  · rintro ⟨p, hp⟩
    obtain ⟨m, hm, hpong, -⟩ := parse_eq_some_iff.mp hp
    exact ⟨m, hm, hpong⟩
  · rintro ⟨m, hm, hpong⟩
    obtain ⟨p, hp⟩ := exists_readFrom hpong.2
    exact ⟨p, parse_eq_some_iff.mpr ⟨m, hm, hpong, hp⟩⟩

end Pong

variable {b : Bytes}

/-- A message belongs to one enterprise only. -/
theorem Genuine.not_foreign (h : Genuine b) : ¬ Foreign b := by
  rintro ⟨m, hm, -, hother⟩
  obtain ⟨m', hm', -, hsame⟩ := h
  obtain rfl := hm.unique hm'
  exact hother hsame

theorem Message.StandsIn.genuine_or_foreign {m : Message} (hm : m.StandsIn b) (hpong : m.IsPong) :
    Genuine b ∨ Foreign b := by
  by_cases hsame : m.enterprise = Presence.enterprise
  · exact .inl ⟨m, hm, hpong, hsame⟩
  · exact .inr ⟨m, hm, hpong.1, hsame⟩

/-- In a datagram without fault what has the type of pongs is long enough for one, or it is from
another enterprise. -/
theorem Formed.isPong_or_foreign {m : Message} (h : Formed b) (hm : m.StandsIn b)
    (htype : m.type = pongType) : m.IsPong ∨ Foreign b := by
  rcases h with ⟨classByte, hbyte, hother⟩ | ⟨m', hm', hwhole⟩
  · obtain ⟨_, _, _, found, _, _, hclass, rfl⟩ := hm
    obtain rfl : found = classByte := Option.some.inj hbyte
    exact absurd hclass hother
  · obtain rfl := hm.unique hm'
    by_cases hsame : m.enterprise = Presence.enterprise
    · exact .inl (hwhole hsame htype)
    · exact .inr ⟨m, hm, htype, hsame⟩

/-- The pongs are told from everything else: they alone are taken for pongs, and what is without
fault and none of them is passed over. -/
def Told (b : Bytes) : Prop :=
  ((∃ p, Pong.parse b = .ok (some p)) ↔ Genuine b) ∧
    (Formed b → ¬ Genuine b → Pong.parse b = .ok none)

/-- What another enterprise means by the number of pongs is taken for a pong if it is long enough,
and for a pong that is cut short if not. Nothing else is mistaken. -/
theorem told_iff : Told b ↔ ¬ Foreign b := by
  constructor
  · rintro ⟨htaken, hpassed⟩ ⟨m, hm, htype, hother⟩
    have hstray : ¬ Genuine b := fun h => h.not_foreign ⟨m, hm, htype, hother⟩
    have hnone := hpassed (.inr ⟨m, hm, fun hsame => absurd hsame hother⟩) hstray
    by_cases hpong : m.IsPong
    · exact hstray (htaken.mp (Pong.exists_parse_eq_some_iff.mpr ⟨m, hm, hpong⟩))
    · have hshort : m.data.length < 16 := Nat.lt_of_not_le fun hlong => hpong ⟨htype, hlong⟩
      cases hnone.symm.trans ((Pong.parse_of_standsIn hm).2.1 htype hshort)
  · intro hforeign
    have hgenuine {m : Message} (hm : m.StandsIn b) (hpong : m.IsPong) : Genuine b :=
      (hm.genuine_or_foreign hpong).resolve_right hforeign
    constructor
    · rw [Pong.exists_parse_eq_some_iff]
      constructor
      · rintro ⟨m, hm, hpong⟩
        exact hgenuine hm hpong
      · rintro ⟨m, hm, hpong, -⟩
        exact ⟨m, hm, hpong⟩
    · intro hformed hnone
      rcases Pong.parse_cases b with ⟨-, h⟩ | ⟨-, -, -, h⟩ | ⟨m, -, hm, hpong, -⟩ |
        ⟨m, hm, htype, hcut, -⟩ | ⟨h, -⟩
      · exact h
      · exact h
      · exact absurd (hgenuine hm hpong) hnone
      · exact absurd ((hformed.isPong_or_foreign hm htype).resolve_right hforeign) hcut
      · exact absurd hformed h

end Presence
end Baseboard
