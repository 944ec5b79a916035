import Baseboard.Proofs.Codec.Envelope
import Baseboard.Proofs.Session.Dispatch
import Baseboard.Proofs.Session.Uses

/-! Late replies. The honest reply to one command may arrive while the session waits for
the answer to the next. Here is exactly when it is taken for that answer. -/
namespace Baseboard

/-- What comes back along a route when its target responds with `inner`: the responses of
the controllers on the way, around it. What a controller was asked to send on does not
show in its response. -/
def Route.returned (route : Route) (sequence : UInt8) (inner : Response) : Response :=
  route.envelopes.foldl (fun response e => response.enclose (sealed sequence [] e)) inner

/-- The honest reply to a request that was sent along a route by a session standing as `s`. -/
def Standing.honestReply (s : Standing) (r : Request) (route : Route) (code : CompletionCode)
    (data : Option Bytes) : Response :=
  let sent := r.numbered s.requestSequence
  route.returned sent.sequence (.reply (route.addressed sent) code data)

namespace Response

/-- The envelopes of a route are taken off what came back along it. -/
theorem disclose_returned (route : Route) (sequence : UInt8) (inner : Response) :
    (route.returned sequence inner).asRead.disclose route.depth = .ok (.answer inner.asRead) := by
  have hnested : route.returned sequence inner =
      inner.nestedIn (route.envelopes.map (Route.sealed sequence [])) := List.foldl_map.symm
  have hsend : ∀ q ∈ route.envelopes.map (Route.sealed sequence []), q.isSendMessage = true :=
    List.forall_mem_map.mpr fun e _ => Route.isSendMessage_sealed sequence [] e
  have h := disclose_nestedIn hsend inner 0
  rw [List.length_map, Route.length_envelopes, Nat.add_zero] at h
  rw [hnested, h, disclose]

/-- What came back in an envelope is the response to a request to send on. -/
theorem returned_of_bridged {route : Route} (h : 0 < route.depth) (sequence : UInt8)
    (inner : Response) :
    (route.returned sequence inner).asRead = route.returned sequence inner ∧
      (route.returned sequence inner).command = AppCommand.sendMessage.code ∧
      (route.returned sequence inner).sequence = sequence &&& 0x3F := by
  rw [← Route.length_envelopes] at h
  rcases List.eq_nil_or_concat route.envelopes with hnil | ⟨es, e, hes⟩
  · rw [hnil] at h
    cases h
  · unfold Route.returned
    rw [hes, List.concat_eq_append, List.foldl_append, List.foldl_cons, List.foldl_nil]
    refine ⟨asRead_enclose _ _, rfl, ?_⟩
    rw [enclose, sequence_reply, Route.sequence_sealed]

theorem returned_of_direct {route : Route} (h : route.depth = 0) (sequence : UInt8)
    (inner : Response) : route.returned sequence inner = inner := by
  rw [← Route.length_envelopes] at h
  rw [Route.returned, List.eq_nil_of_length_eq_zero h, List.foldl_nil]

end Response

/-- All routes of one configuration that need envelopes need equally many. -/
theorem Config.depth_route (c : Config) (target channel target' channel' : UInt8)
    (h : 0 < (c.route target channel).depth) (h' : 0 < (c.route target' channel').depth) :
    (c.route target channel).depth = (c.route target' channel').depth := by
  unfold route Route.depth at *
  dsimp only at *
  split at h
  · cases h
  · split at h'
    · cases h'
    · rename_i hne hne'
      rw [if_neg hne, if_neg hne']

/-- Whether the response to a request reads like the response to a request to send on. -/
def Request.repliesLikeSendMessage (r : Request) : Bool :=
  (r.netFn ||| 0x01) == NetworkFunction.app.response && r.command == AppCommand.sendMessage.code

/-- Two requests whose replies a session tells apart by their numbers only: a reply to the
first, with completion code `code`, would also answer the second. -/
def Confusable (r : Request) (route : Route) (r' : Request) (route' : Route)
    (code : CompletionCode) : Prop :=
  (route.depth = route'.depth ∧ (r.command = r'.command ∨
    (0 < route'.depth ∧ r.command = AppCommand.sendMessage.code))) ∨
  (0 < route.depth ∧ route'.depth = 0 ∧ r'.command = AppCommand.sendMessage.code) ∨
  (route.depth = 0 ∧ 0 < route'.depth ∧ r.repliesLikeSendMessage = true ∧ code ≠ .completed)

/-- A completed reply to a request that was not put into envelopes reads like one to a
request to send on, and its data hold an answer to another request, numbered `n`. -/
def Smuggled (r : Request) (route : Route) (r' : Request) (route' : Route) (n : UInt8)
    (code : CompletionCode) (data : Option Bytes) : Prop :=
  route.depth = 0 ∧ 0 < route'.depth ∧ r.repliesLikeSendMessage = true ∧ code = .completed ∧
    ∃ next x, Response.parse (data.getD []) = .ok next ∧
      next.disclose (route'.depth - 1) = .ok (.answer x) ∧ x.sequence = n ∧
      (x.command = r'.command ∨ x.command = AppCommand.sendMessage.code)

/-- What lets the honest reply to a request pass for the answer to the next one, numbered
`n`, once the first one has had no answer or has had one. -/
def Mistakable (unanswered : Prop) (r : Request) (route : Route) (r' : Request) (route' : Route)
    (n : UInt8) (code : CompletionCode) (data : Option Bytes) : Prop :=
  (unanswered ∧ Confusable r route r' route' code) ∨ Smuggled r route r' route' n code data

namespace Standing

variable {s s' : Standing} {r r' : Request} {route route' : Route} {code : CompletionCode}
  {data : Option Bytes} {b : Bytes} {p : Packet}

/-- Which answer is disclosed in an honest reply. -/
private theorem accept_honestReply (hdecode : Packet.decode b = .ok p)
    (hpayload : p.payload = (s.honestReply r route code data).encode) :
    (∃ answer, (s'.expectation r' route').accept b = .ok (some answer)) ↔
      (s'.expectation r' route').rejects p = false ∧
        ∃ x, (s.honestReply r route code data).asRead.disclose route'.depth = .ok (.answer x) ∧
          (s'.expectation r' route').answeredBy x = true := by
  have hparse : Response.parse p.payload = .ok (s.honestReply r route code data).asRead := by
    rw [hpayload, Response.parse_encode]
  constructor
  · rintro ⟨⟨x, n⟩, h⟩
    obtain ⟨q, outer, hq, hrejects, houter, hdisclose, hanswered, -⟩ :=
      (Expectation.accept_eq_some_iff ..).mp h
    cases hdecode.symm.trans hq
    cases hparse.symm.trans houter
    exact ⟨hrejects, x, hdisclose, hanswered⟩
  · rintro ⟨hrejects, x, hdisclose, hanswered⟩
    exact ⟨(x, p.header.sequence), (Expectation.accept_eq_some_iff ..).mpr
      ⟨p, _, hdecode, hrejects, hparse, hdisclose, hanswered, rfl⟩⟩

/-- What a session that waits for the answer to another request finds in an honest reply. -/
private def Finds (s' : Standing) (r' : Request) (route' : Route) (reply : Response) : Prop :=
  ∃ x, reply.asRead.disclose route'.depth = .ok (.answer x) ∧
    (s'.expectation r' route').answeredBy x = true

private theorem finds_iff {reply x : Response}
    (h : reply.asRead.disclose route'.depth = .ok (.answer x)) :
    Finds s' r' route' reply ↔ x.sequence = s'.requestSequence ∧ (x.command = r'.command ∨
      (0 < route'.depth ∧ x.command = AppCommand.sendMessage.code)) := by
  have hiff : (s'.expectation r' route').answeredBy x = true ↔ x.sequence = s'.requestSequence ∧
      (x.command = r'.command ∨ (0 < route'.depth ∧ x.command = AppCommand.sendMessage.code)) :=
    Expectation.answeredBy_iff
  rw [← hiff]
  constructor
  · rintro ⟨y, hy, hanswered⟩
    rw [h] at hy
    cases hy
    exact hanswered
  · exact fun hanswered => ⟨x, h, hanswered⟩

variable (hsequence : s.requestSequence.toNat < 64)

include hsequence

/-- Under equally many envelopes the reply itself is found. -/
private theorem finds_of_depth_eq (hdepth : route.depth = route'.depth) :
    Finds s' r' route' (s.honestReply r route code data) ↔
      s.requestSequence = s'.requestSequence ∧ (r.command = r'.command ∨
        (0 < route'.depth ∧ r.command = AppCommand.sendMessage.code)) := by
  have hfound := Response.disclose_returned route (r.numbered s.requestSequence).sequence
    (.reply (route.addressed (r.numbered s.requestSequence)) code data)
  rw [hdepth] at hfound
  have hnumber : (Response.reply (route.addressed (r.numbered s.requestSequence)) code
      data).asRead.sequence = s.requestSequence := by
    refine (Response.sequence_reply ..).trans ?_
    rw [Route.sequence_addressed, Request.sequence_numbered_of_lt r hsequence]
  have hcommand : (Response.reply (route.addressed (r.numbered s.requestSequence)) code
      data).asRead.command = r.command := Route.command_addressed route _
  refine (finds_iff hfound).trans ?_
  rw [hnumber, hcommand]

/-- A session that waits for no envelopes finds the outermost one. -/
private theorem finds_of_bridged (hbridged : 0 < route.depth) (hdirect : route'.depth = 0) :
    Finds s' r' route' (s.honestReply r route code data) ↔
      s.requestSequence = s'.requestSequence ∧ r'.command = AppCommand.sendMessage.code := by
  obtain ⟨hread, hcommand, hnumber⟩ := Response.returned_of_bridged hbridged
    (r.numbered s.requestSequence).sequence
    (.reply (route.addressed (r.numbered s.requestSequence)) code data)
  have hfound : (s.honestReply r route code data).asRead.disclose route'.depth =
      .ok (.answer (s.honestReply r route code data)) := by
    rw [hdirect, Response.disclose]
    exact congrArg (fun x => Except.ok (Disclosure.answer x)) hread
  have hsent : (r.numbered s.requestSequence).sequence &&& 0x3F = s.requestSequence := by
    rw [Request.sequence_numbered_of_lt r hsequence, sixBits_of_lt hsequence]
  have hn : (s.honestReply r route code data).sequence = s.requestSequence := hnumber.trans hsent
  have hc : (s.honestReply r route code data).command = AppCommand.sendMessage.code := hcommand
  rw [finds_iff hfound, hn, hc, hdirect]
  simp [eq_comm]

/-- A session that waits for envelopes takes the reply for one, if it reads like one. -/
private theorem finds_of_direct (hdirect : route.depth = 0) (hbridged : 0 < route'.depth) :
    Finds s' r' route' (s.honestReply r route code data) ↔
      (s.requestSequence = s'.requestSequence ∧ r.repliesLikeSendMessage = true ∧
        code ≠ .completed) ∨
      Smuggled r route r' route' s'.requestSequence code data := by
  let inner := Response.reply (route.addressed (r.numbered s.requestSequence)) code data
  have hreply : s.honestReply r route code data = inner := Response.returned_of_direct hdirect _ _
  have hsend : inner.asRead.isSendMessage = r.repliesLikeSendMessage := by
    have hn : inner.asRead.netFn = r.netFn ||| 0x01 := by
      refine (Response.netFn_reply ..).trans ?_
      rw [Route.netFn_addressed]
      rfl
    have hc : inner.asRead.command = r.command := Route.command_addressed route _
    rw [Response.isSendMessage, hn, hc, Request.repliesLikeSendMessage]
  have hcode : inner.asRead.code = code := rfl
  have hpayload : inner.asRead.payload = data.getD [] := Response.asRead_payload inner
  have hnumber : inner.asRead.sequence = s.requestSequence := by
    refine (Response.sequence_reply ..).trans ?_
    rw [Route.sequence_addressed, Request.sequence_numbered_of_lt r hsequence]
  obtain ⟨k, hk⟩ : ∃ k, route'.depth = k + 1 := ⟨route'.depth - 1, by omega⟩
  have hdisclose (x : Response) : inner.asRead.disclose route'.depth = .ok (.answer x) ↔
      r.repliesLikeSendMessage = true ∧ ((code ≠ .completed ∧ x = inner.asRead) ∨
        (code = .completed ∧ ∃ next, Response.parse (data.getD []) = .ok next ∧
          next.disclose (route'.depth - 1) = .ok (.answer x))) := by
    rw [hk, Response.disclose_succ_eq_answer_iff, hsend, hcode, hpayload]
    rfl
  have hanswered (x : Response) : (s'.expectation r' route').answeredBy x = true ↔
      x.sequence = s'.requestSequence ∧ (x.command = r'.command ∨
        (0 < route'.depth ∧ x.command = AppCommand.sendMessage.code)) :=
    Expectation.answeredBy_iff
  rw [hreply]
  constructor
  · rintro ⟨x, hx, ha⟩
    obtain ⟨hnx, hcx⟩ := (hanswered x).mp ha
    obtain ⟨hlike, ⟨hcode, rfl⟩ | ⟨hcode, next, hparse, h⟩⟩ := (hdisclose x).mp hx
    · exact .inl ⟨hnumber.symm.trans hnx, hlike, hcode⟩
    · exact .inr ⟨hdirect, hbridged, hlike, hcode, next, x, hparse, h, hnx, hcx.imp_right And.right⟩
  · rintro (⟨hn, hlike, hcode⟩ | ⟨-, -, hlike, hcode, next, x, hparse, h, hnx, hcx⟩)
    · have hcommand : inner.asRead.command = AppCommand.sendMessage.code := by
        rw [hlike, Response.isSendMessage, Bool.and_eq_true, beq_iff_eq, beq_iff_eq] at hsend
        exact hsend.2
      exact ⟨inner.asRead, (hdisclose _).mpr ⟨hlike, .inl ⟨hcode, rfl⟩⟩,
        (hanswered _).mpr ⟨hnumber.trans hn, .inr ⟨hbridged, hcommand⟩⟩⟩
    · exact ⟨x, (hdisclose _).mpr ⟨hlike, .inr ⟨hcode, next, hparse, h⟩⟩,
        (hanswered _).mpr ⟨hnx, hcx.imp_right fun hc => ⟨hbridged, hc⟩⟩⟩

/-- Exactly when an honest reply to one request is taken for the answer to another one. -/
theorem accept_honestReply_iff
    (hdepths : 0 < route.depth → 0 < route'.depth → route.depth = route'.depth)
    (hdecode : Packet.decode b = .ok p)
    (hpayload : p.payload = (s.honestReply r route code data).encode) :
    (∃ answer, (s'.expectation r' route').accept b = .ok (some answer)) ↔
      (s'.expectation r' route').rejects p = false ∧
        Mistakable (s.requestSequence = s'.requestSequence) r route r' route' s'.requestSequence
          code data := by
  rw [accept_honestReply hdecode hpayload]
  refine and_congr_right fun _ => ?_
  change Finds s' r' route' (s.honestReply r route code data) ↔ _
  unfold Mistakable Confusable
  by_cases hdepth : route.depth = route'.depth
  · rw [finds_of_depth_eq hsequence hdepth]
    constructor
    · exact fun h => .inl ⟨h.1, .inl ⟨hdepth, h.2⟩⟩
    · rintro (⟨hn, ⟨-, hc⟩ | ⟨hpos, hzero, -⟩ | ⟨hzero, hpos, -⟩⟩ | ⟨hzero, hpos, -⟩)
      · exact ⟨hn, hc⟩
      all_goals omega
  rcases Nat.eq_zero_or_pos route'.depth with hdirect | hbridged
  · have hpos : 0 < route.depth := by omega
    rw [finds_of_bridged hsequence hpos hdirect]
    constructor
    · exact fun h => .inl ⟨h.1, .inr (.inl ⟨hpos, hdirect, h.2⟩)⟩
    · rintro (⟨hn, ⟨h, -⟩ | ⟨-, -, hc⟩ | ⟨h, -⟩⟩ | ⟨h, -⟩)
      · exact absurd h hdepth
      · exact ⟨hn, hc⟩
      all_goals omega
  · have hzero : route.depth = 0 :=
      Nat.eq_zero_of_not_pos fun hpos => hdepth (hdepths hpos hbridged)
    rw [finds_of_direct hsequence hzero hbridged]
    refine or_congr_left ?_
    constructor
    · exact fun h => ⟨h.1, .inr (.inr ⟨hzero, hbridged, h.2⟩)⟩
    · rintro ⟨hn, ⟨h, -⟩ | ⟨h, -⟩ | ⟨-, -, h⟩⟩
      · exact absurd h hdepth
      · omega
      · exact ⟨hn, h⟩

end Standing
namespace Session

/-- The counter of requests moves with an answer, and only then. -/
private theorem requestSequence_eq_iff {s : Session} {r : Request} {route : Route}
    (hactive : s.phase = .active) (hcounts : route.counts r = true)
    (hstill : (after (dispatch r route) s).phase = .active) :
    s.requestSequence = (after (dispatch r route) s).requestSequence ↔
      ∀ res t, dispatch r route s ≠ .ok res t := by
  rcases dispatch_standing hactive hstill with ⟨res, t, n, hd, hs⟩ | ⟨e, t, hd, hs⟩
  · constructor
    · intro heq
      rw [hs, Standing.requestSequence_answered, hcounts, if_pos rfl] at heq
      have hnat := congrArg UInt8.toNat heq
      rw [toNat_sixBits, UInt8.toNat_add] at hnat
      change s.requestSequence.toNat = (s.requestSequence.toNat + 1) % 256 % 64 at hnat
      omega
    · exact fun h => absurd hd (h res t)
  · constructor
    · intro _ res u hok
      rw [hd] at hok
      cases hok
    · exact fun _ => by rw [hs]

variable {config : Config} {s s' : Session} {r : Request} {target channel : UInt8}
  {code : CompletionCode} {data : Option Bytes} {b : Bytes} {p : Packet}

/-- When the honest reply to one command of an active session would be taken for the answer
to the next. -/
private theorem accept_late_reply_iff (h : Begun config s) (calls : List Call)
    (hactive : (s.run calls).phase = .active)
    (hcounts : (config.route target channel).counts r = true)
    (hnext : s'.toStanding =
      (after (dispatch r (config.route target channel)) (s.run calls)).toStanding)
    (hstill : s'.phase = .active) (hdecode : Packet.decode b = .ok p)
    (hpayload : p.payload =
      ((s.run calls).honestReply r (config.route target channel) code data).encode)
    (r' : Request) (target' channel' : UInt8) :
    (∃ answer, (s'.expectation r' (config.route target' channel')).accept b = .ok (some answer)) ↔
      (s'.expectation r' (config.route target' channel')).rejects p = false ∧
        Mistakable (∀ res t, dispatch r (config.route target channel) (s.run calls) ≠ .ok res t)
          r (config.route target channel) r' (config.route target' channel') s'.requestSequence
          code data := by
  have hsequence := (run_accounted h calls).sound.sequence_lt
  have hphase : (after (dispatch r (config.route target channel)) (s.run calls)).phase = .active := by
    rw [← hnext]
    exact hstill
  have hmoved := requestSequence_eq_iff hactive hcounts hphase
  rw [← hnext] at hmoved
  refine (Standing.accept_honestReply_iff hsequence (config.depth_route _ _ _ _) hdecode
    hpayload).trans ?_
  unfold Mistakable
  rw [hmoved]

/-- When the honest reply to one command of an active session is returned as the answer to
the next: when it is let through, and the first command failed, so that the counters did
not move, and the two cannot be told apart otherwise, or its data hold such an answer. Then
it only has to come first. -/
theorem late_reply_returned (h : Begun config s) (calls : List Call)
    (hactive : (s.run calls).phase = .active)
    (hcounts : (config.route target channel).counts r = true)
    (hnext : s'.toStanding =
      (after (dispatch r (config.route target channel)) (s.run calls)).toStanding)
    (hstill : s'.phase = .active) (hdecode : Packet.decode b = .ok p)
    (hpayload : p.payload =
      ((s.run calls).honestReply r (config.route target channel) code data).encode)
    (r' : Request) (target' channel' : UInt8) :
    (∀ res t, dispatch r' (config.route target' channel') s' = .ok res t → t.justReceived = some b →
      (s'.expectation r' (config.route target' channel')).rejects p = false ∧
        Mistakable (∀ res t, dispatch r (config.route target channel) (s.run calls) ≠ .ok res t)
          r (config.route target channel) r' (config.route target' channel') s'.requestSequence
          code data) ∧
    ((s'.expectation r' (config.route target' channel')).rejects p = false →
      Mistakable (∀ res t, dispatch r (config.route target channel) (s.run calls) ≠ .ok res t)
        r (config.route target channel) r' (config.route target' channel') s'.requestSequence
        code data →
      s'.Delivers r' (config.route target' channel') b →
      ∃ res t, dispatch r' (config.route target' channel') s' = .ok res t ∧ t.justReceived = some b) := by
  have hiff := accept_late_reply_iff h calls hactive hcounts hnext hstill hdecode hpayload r'
    target' channel'
  constructor
  · intro res t hd hreceived
    obtain ⟨datagram, n, hlast, haccept⟩ := exchange_accepted ((dispatch_eq_ok_iff hstill res).mp hd)
    obtain rfl := Option.some.inj (hreceived.symm.trans hlast)
    exact hiff.mp ⟨_, haccept⟩
  · intro hrejects hmistakable hdelivers
    obtain ⟨⟨res, n⟩, haccept⟩ := hiff.mpr ⟨hrejects, hmistakable⟩
    obtain ⟨t, hx, hreceived⟩ := exchange_of_delivers hdelivers haccept
    exact ⟨res, t, (dispatch_eq_ok_iff hstill res).mpr hx, hreceived⟩

/-- A session whose controller is late with its answer to the first command: it comes when
the second one is sent. -/
def latecomer : Session :=
  (sample [.accepted [], responding (.reply (Request.deviceId.numbered 4) .completed (some [0x20, 1]))]).run
    [.establish]

/-- The late reply to a request for the device id is returned as the chassis status. -/
theorem late_deviceId_returned :
    let route := sampleConfig.route 0x20 0
    let reply := Packet.plain (latecomer.honestReply .deviceId route .completed (some [0x20, 1])).encode
    let s' := after (dispatch .deviceId route) latecomer
    latecomer.phase = .active ∧ route.counts .deviceId = true ∧ s'.phase = .active ∧
      ∃ res t, dispatch .chassisStatus route s' = .ok res t ∧ t.justReceived = some reply.encode := by
  intro route reply s'
  obtain ⟨res, t, h, hreceived⟩ : ∃ res t, dispatch .chassisStatus route s' = .ok res t ∧
      decide (t.justReceived = some reply.encode) = true :=
    exists_of_gives (by decide +kernel)
  exact ⟨by decide +kernel, by decide, by decide +kernel, res, t, h, of_decide_eq_true hreceived⟩

/-- The same late reply, and what has to hold of it to be returned. -/
theorem late_reply_returned_deviceId :
    let route := sampleConfig.route 0x20 0
    let reply := Packet.plain (latecomer.honestReply .deviceId route .completed (some [0x20, 1])).encode
    let s' := after (dispatch .deviceId route) latecomer
    let mistakable := Mistakable (∀ res t, dispatch .deviceId route latecomer ≠ .ok res t)
      .deviceId route .chassisStatus route s'.requestSequence .completed (some [0x20, 1])
    (∀ res t, dispatch .chassisStatus route s' = .ok res t → t.justReceived = some reply.encode →
      (s'.expectation .chassisStatus route).rejects reply = false ∧ mistakable) ∧
    ((s'.expectation .chassisStatus route).rejects reply = false → mistakable →
      s'.Delivers .chassisStatus route reply.encode →
      ∃ res t, dispatch .chassisStatus route s' = .ok res t ∧
        t.justReceived = some reply.encode) := by
  intro route reply s' mistakable
  have hdecode : Packet.decode reply.encode = .ok reply :=
    Packet.decode_encode (Packet.wellFormed_plain (by decide +kernel) (by decide +kernel))
  exact late_reply_returned (sample_begun _) [.establish] (by decide +kernel) (by decide) rfl
    (by decide +kernel) hdecode rfl .chassisStatus 0x20 0

end Session
end Baseboard
