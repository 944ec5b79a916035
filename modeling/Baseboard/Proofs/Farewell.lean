import Baseboard.Proofs.Link.Outage
import Baseboard.Proofs.OneShot

/-! What is reported of a session that is opened for one request. A request that was carried out has
still to be followed by the end of the session, and what is reported is how that went. -/
namespace Baseboard

/-- How a controller takes leave of a session: it answers the request to close it, or there is no
answer. -/
inductive Farewell where
  | answered (code : CompletionCode)
  | unanswered (e : Error)
  deriving DecidableEq, Repr

namespace Farewell

/-- What comes of closing the session. -/
def verdict : Farewell → Except Error Unit
  | answered code =>
    if code = .completed then .ok ()
    else .error ((refusal? .closeSession code).elim (.rejected code) .refused)
  | unanswered e => .error e

theorem verdict_eq_ok_iff {f : Farewell} : f.verdict = .ok () ↔ f = .answered .completed := by
  cases f with
  | answered code =>
    rw [verdict, Farewell.answered.injEq]
    by_cases hcode : code = .completed
    · rw [if_pos hcode]
      exact iff_of_true rfl hcode
    · rw [if_neg hcode]
      exact iff_of_false nofun hcode
  | unanswered e => exact iff_of_false nofun nofun

/-- What is reported tells closings that come to something else from each other. -/
theorem map_verdict_inj {α : Type} (f f' : Farewell) (x : α) :
    ((f.verdict.map fun _ => x) = f'.verdict.map fun _ => x) ↔ f.verdict = f'.verdict := by
  cases f.verdict with
  | ok => cases f'.verdict with
    | ok => exact iff_of_true rfl rfl
    | error => exact iff_of_false nofun nofun
  | error e => cases f'.verdict with
    | ok => exact iff_of_false nofun nofun
    | error e' =>
      change Except.error e = .error e' ↔ Except.error e = .error e'
      rw [Except.error.injEq, Except.error.injEq]

theorem map_verdict_eq_ok_iff {α : Type} (f : Farewell) (x : α) :
    (f.verdict.map fun _ => x) = .ok x ↔ f = .answered .completed :=
  (map_verdict_inj f (.answered .completed) x).trans verdict_eq_ok_iff

/-- What is made of an answer to the request. -/
theorem verdict_answered (response : Response) :
    (answered response.code).verdict = (response.acceptedFor .closeSession).map fun _ => () := by
  rw [verdict, Response.acceptedFor, Response.accepted]
  by_cases hcode : response.code = .completed
  · rw [if_pos hcode, if_pos hcode]
    rfl
  · rw [if_neg hcode, if_neg hcode]
    rfl

end Farewell

namespace Session

variable {α : Type} {config : Config} {s t : Session} {r : Request} {res : Response}

/-- What comes of the request to close the session. -/
def farewell (s : Session) : Farewell :=
  match outcome (manage (.closeSession s.sessionId)) s with
  | .ok response => .answered response.code
  | .error e => .unanswered e

theorem close_ends_farewell (hphase : s.phase = .active) :
    Ends close s fun r _ => r = s.farewell.verdict := by
  refine ends_close (fun h => ?_) (fun h => absurd hphase h) fun _ => (ends_closeSession ..).mpr ?_
  · cases hphase.symm.trans h
  · unfold farewell outcome
    refine .intro (fun response t h => ?_) fun e t h => ?_
    · rw [h]
      exact (Farewell.verdict_answered response).symm
    · rw [h]
      rfl

/-- The network on which an active session is about to be closed, by how the controller takes leave
of it. It may answer in time, after datagrams that are passed over; it may leave every try
unanswered; or the network may fail before anything else comes in. -/
inductive Parting (s : Session) : Farewell → Prop where
  | replies {i : Incoming} {rest : List Delivery} {response : Response} {n : UInt32}
      (hscript : s.link.network.script = .accepted i.events :: rest)
      (hpassed : ∀ x ∈ i.passed, x.2.length ≤ Network.bufferLength ∧
        (s.expectation (.closeSession s.sessionId) (.direct s.config.controller)).accept x.2 = .ok none)
      (hwhole : i.answer.length ≤ Network.bufferLength)
      (haccept : (s.expectation (.closeSession s.sessionId) (.direct s.config.controller)).accept
        i.answer = .ok (some (response, n)))
      (htime : i.time < s.config.timeout) : Parting s (.answered response.code)
  | silent (hscript : ∀ delivery ∈ s.link.network.script.take s.config.maxTries,
      delivery = .accepted []) : Parting s (.unanswered (.noResponse s.config.maxTries))
  | fails {delay : Nat} {cause : IoFailure} {later : List Event} {rest : List Delivery}
      (hscript : s.link.network.script = .accepted (⟨delay, false, .failure cause⟩ :: later) :: rest)
      (hspurious : cause.isSpurious = false) (htimeout : cause.isTimeout = false)
      (htime : delay < s.config.timeout) :
      Parting s (.unanswered (.receiveFailed (s.link.carrier.report cause)))

/-- The controller takes leave of a session as the network goes on. -/
theorem Parting.farewell_eq {f : Farewell} (h : s.Parting f) (hactive : s.phase = .active)
    (hconnected : s.connected = true) (haudible : ¬ s.Mute)
    (hstill : s.link.Still (some s.token)) : s.farewell = f := by
  obtain ⟨packet, hpacket⟩ :=
    (Standing.exists_closing_packet_iff hactive s.sessionId s.config.controller).mpr haudible
  have hmanage : manage (.closeSession s.sessionId) s = exchange (.closeSession s.sessionId)
      (.direct s.config.controller) ⟨s.config.maxTries, true, true⟩ s := rfl
  -- Silence and a failure both end the exchange with an error, and the rest is the same.
  have hunanswered {e : Error} (h : ∃ l, Link.exchange
      (s.expectation (.closeSession s.sessionId) (.direct s.config.controller)).accept (some s.token)
      packet.encode s.config.timeout s.config.maxTries s.link = .error e l) :
      s.farewell = .unanswered e := by
    obtain ⟨l, hl⟩ := h
    rw [farewell, outcome, hmanage, exchange_eq, hpacket]
    dsimp only
    rw [if_pos hconnected, if_pos rfl, hl]
  cases h with
  | @replies i rest response n hscript hpassed hwhole haccept htime =>
    obtain ⟨next, hsend, hpending⟩ := Link.send_of_quiet hstill.pending_eq hscript packet.encode
    obtain ⟨t, -, -, hexchange, -⟩ := exchange_of_incoming ⟨s.config.maxTries, true, true⟩ i
      hconnected hpacket hsend hpending hpassed hwhole haccept htime (hstill.live i.time)
    rw [farewell, outcome, hmanage, hexchange]
  | silent hscript =>
    have htries : max s.config.maxTries 1 = s.config.maxTries := by
      unfold Config.maxTries
      omega
    have hsilent := Link.exchange_of_silence hstill
      (s.expectation (.closeSession s.sessionId) (.direct s.config.controller)).accept packet.encode
      s.config.timeout s.config.maxTries (by rw [htries]; exact hscript)
    rw [htries] at hsilent
    exact hunanswered hsilent
  | @fails delay cause later rest hscript hspurious htimeout htime =>
    obtain ⟨next, hsend, hpending⟩ := Link.send_of_quiet hstill.pending_eq hscript packet.encode
    exact hunanswered (Link.exchange_of_failure _ _ hsend hpending hspurious htimeout htime
      (hstill.live delay))

/-- What closing an active session comes to. -/
theorem outcome_close (hphase : s.phase = .active) : outcome close s = s.farewell.verdict :=
  (close_ends_farewell hphase).ending

/-- How a session that was used for one request, which gave `x`, and that is closed as it is in `t`,
concludes: `x` is reported exactly if the controller answers the request to close the session, and
reports completion. How the network goes on decides whether it does. -/
structure Concludes (t : Session) (x : α) (reported : Except Error α) : Prop where
  reported_eq : reported = t.farewell.verdict.map fun _ => x
  ok_iff : reported = .ok x ↔ t.farewell = .answered .completed
  farewell_eq : t.link.Still (some t.token) → ∀ f, t.Parting f → t.farewell = f

/-- What is reported of a session that is used for one request. A request that is not carried out is
reported as such. -/
structure Reports (s : Session) (request : Op Response) (f : Response → α)
    (reported : Except Error α) : Prop where
  carriedOut : ∀ res t, request s = .ok res t → t.Concludes (f res) reported
  failed : ∀ e t, request s = .error e t → reported = .error e

theorem Concludes.eq_iff {x : α} {reported reported' : Except Error α} {u : Session}
    (h : t.Concludes x reported) (h' : u.Concludes x reported') :
    reported = reported' ↔ t.farewell.verdict = u.farewell.verdict := by
  rw [h.reported_eq, h'.reported_eq, Farewell.map_verdict_inj]

section OneShot

variable {seeds : Seeds} {network : Network}

/-- What is reported of a session that is opened, used for one request and closed. -/
theorem withSession_reports (h : openSession config seeds network = .ok s) (f : Response → α) :
    s.Reports (require r) f
      (withSession config seeds network (require r >>= fun res => pure (f res))).1 := by
  obtain ⟨hsound, hrest, hphase⟩ := openSession_active h
  have hconnected := hrest.connected (.inr (.inr hphase))
  rw [withSession_require_eq h]
  constructor
  · intro res t hr
    obtain ⟨hkept, haudible⟩ := require_of_ok hsound hconnected hphase hr
    have hactive := hkept.recounted.phase_eq.trans hphase
    rw [hr]
    change t.Concludes (f res) ((outcome close t).map fun _ => f res)
    rw [outcome_close hactive]
    refine ⟨rfl, Farewell.map_verdict_eq_ok_iff .., fun hstill g hg => ?_⟩
    exact hg.farewell_eq hactive (hkept.recounted.connected_eq.trans hconnected)
      (mt hkept.recounted.mute_iff.mp haudible) hstill
  · intro e t hr
    rw [hr]

end OneShot

/-- What is reported of a session that is opened for one request. A request that was carried out is
reported as such exactly if the controller answers the request to close the session, and reports
completion; and of two networks on which it was carried out, the same is reported exactly if closing
the session comes to the same. -/
theorem oneShot_reports {config : Config} {seeds : Seeds} {network : Network} {s : Session}
    (h : openSession config seeds network = .ok s) :
    s.Reports chassisStatus powerOn (chassisPower config seeds network).1 ∧
    (∀ action, s.Reports (chassisControl action) (fun _ => ())
      (controlChassis config action seeds network).1) ∧
    ∀ (seeds' : Seeds) (network' : Network) (s' : Session),
      openSession config seeds' network' = .ok s' →
      (∀ res t t', chassisStatus s = .ok res t → chassisStatus s' = .ok res t' →
        ((chassisPower config seeds network).1 = (chassisPower config seeds' network').1 ↔
          t.farewell.verdict = t'.farewell.verdict)) ∧
      ∀ action res res' t t', chassisControl action s = .ok res t →
        chassisControl action s' = .ok res' t' →
        ((controlChassis config action seeds network).1 =
            (controlChassis config action seeds' network').1 ↔
          t.farewell.verdict = t'.farewell.verdict) := by
  have hpower {seeds : Seeds} {network : Network} {s : Session}
      (h : openSession config seeds network = .ok s) :
      s.Reports chassisStatus powerOn (chassisPower config seeds network).1 :=
    withSession_reports h powerOn
  have hcontrol {seeds : Seeds} {network : Network} {s : Session}
      (h : openSession config seeds network = .ok s) (action : PowerAction) :
      s.Reports (chassisControl action) (fun _ => ()) (controlChassis config action seeds network).1 :=
    withSession_reports h fun _ => ()
  refine ⟨hpower h, hcontrol h, fun seeds' network' s' h' => ⟨?_, ?_⟩⟩
  · intro res t t' ht ht'
    exact ((hpower h).carriedOut res t ht).eq_iff ((hpower h').carriedOut res t' ht')
  · intro action res res' t t' ht ht'
    exact ((hcontrol h action).carriedOut res t ht).eq_iff
      ((hcontrol h' action).carriedOut res' t' ht')

/-- A controller that lets a session be opened, carries its one request out and then goes on as in
`later`. -/
def serving (r : Request) (data : Bytes) (later : List Delivery) : Network :=
  { script := opening ++ responding (.reply (r.numbered 4) .completed (some data)) :: later }

/-- A controller that lets go of the session when it is asked to. -/
def lettingGo : List Delivery :=
  [responding (.reply ((Request.closeSession 1).numbered 5) .completed none)]

theorem exists_of_opened {seeds : Seeds} {network : Network} {test : Session → Bool}
    (h : (openSession config seeds network).toOption.any test = true) :
    ∃ s, openSession config seeds network = .ok s ∧ test s = true := by
  cases hopened : openSession config seeds network with
  | ok s =>
    rw [hopened] at h
    exact ⟨s, rfl, h⟩
  | error e =>
    rw [hopened] at h
    cases h

/-- A power status that was told is reported if the controller then lets go of the session. It is
not if the controller is silent then. -/
theorem oneShot_status_reported :
    let told := serving .chassisStatus [0x01, 0, 0] lettingGo
    let silent := serving .chassisStatus [0x01, 0, 0] []
    ∃ s s' res t t', openSession sampleConfig ⟨1, 0⟩ told = .ok s ∧
      openSession sampleConfig ⟨1, 0⟩ silent = .ok s' ∧
      chassisStatus s = .ok res t ∧ chassisStatus s' = .ok res t' ∧
      t.farewell = .answered .completed ∧ t'.farewell = .unanswered (.noResponse 1) ∧
      (chassisPower sampleConfig ⟨1, 0⟩ told).1 = .ok true ∧
      (chassisPower sampleConfig ⟨1, 0⟩ told).1 ≠ (chassisPower sampleConfig ⟨1, 0⟩ silent).1 := by
  intro told silent
  let status := Response.reply (Request.chassisStatus.numbered 4) .completed (some [0x01, 0, 0])
  have htold : (openSession sampleConfig ⟨1, 0⟩ told).toOption.any (fun s =>
      gives chassisStatus s fun res t => res = status ∧ t.farewell = .answered .completed) = true := by
    decide +kernel
  have hsilent : (openSession sampleConfig ⟨1, 0⟩ silent).toOption.any (fun s =>
      gives chassisStatus s fun res t => res = status ∧ t.config = sampleConfig ∧ t.token = {} ∧
        t.link.network.pending = [] ∧ t.link.network.script = [] ∧
        t.link.network.cancelRequested = false) = true := by
    decide +kernel
  obtain ⟨s, hs, hgives⟩ := exists_of_opened htold
  obtain ⟨res, t, ht, hseen⟩ := exists_of_gives hgives
  obtain ⟨rfl, hfarewell⟩ := of_decide_eq_true hseen
  obtain ⟨s', hs', hgives'⟩ := exists_of_opened hsilent
  obtain ⟨res, t', ht', hseen'⟩ := exists_of_gives hgives'
  obtain ⟨rfl, hconfig, htoken, hpending, hscript, hrequested⟩ := of_decide_eq_true hseen'
  obtain ⟨hpower, -, hagree⟩ := oneShot_reports hs
  obtain ⟨hpower', -, -⟩ := oneShot_reports hs'
  have hstill : t'.link.Still (some t'.token) := by
    refine ⟨hpending, fun time => ?_⟩
    rw [htoken]
    change (t'.link.network.cancelRequested || false) = false
    rw [hrequested]
    rfl
  have hunanswered : t'.farewell = .unanswered (.noResponse 1) := by
    refine (hpower'.carriedOut _ t' ht').farewell_eq hstill _ ?_
    have hparting : t'.Parting (.unanswered (.noResponse t'.config.maxTries)) := .silent (by
      rw [hscript, List.take_nil]
      exact nofun)
    rw [hconfig] at hparting
    exact hparting
  refine ⟨s, s', status, t, t', hs, hs', ht, ht', hfarewell, hunanswered, ?_, ?_⟩
  · exact (hpower.carriedOut _ t ht).ok_iff.mpr hfarewell
  · rw [Ne, (hagree _ _ s' hs').1 status t t' ht ht', hfarewell, hunanswered]
    exact nofun

/-- A power action that was carried out is reported as a failure if the controller does not answer
the request to close the session, though nothing else about the network is different. -/
theorem oneShot_action_not_reported :
    let closed := serving (.chassisControl .powerCycle) [] lettingGo
    let silent := serving (.chassisControl .powerCycle) [] []
    (∃ s res t, openSession sampleConfig ⟨1, 0⟩ silent = .ok s ∧
      chassisControl .powerCycle s = .ok res t ∧ res.code = .completed) ∧
    (controlChassis sampleConfig .powerCycle ⟨1, 0⟩ closed).1 = .ok () ∧
    (controlChassis sampleConfig .powerCycle ⟨1, 0⟩ silent).1 = .error (.noResponse 1) := by
  intro closed silent
  have hopened : (openSession sampleConfig ⟨1, 0⟩ silent).toOption.any (fun s =>
      gives (chassisControl .powerCycle) s fun res _ => res.code = .completed) = true := by
    decide +kernel
  obtain ⟨s, hs, hgives⟩ := exists_of_opened hopened
  obtain ⟨res, t, ht, hcode⟩ := exists_of_gives hgives
  exact ⟨⟨s, res, t, hs, ht, of_decide_eq_true hcode⟩, by decide +kernel, by decide +kernel⟩

end Session
end Baseboard
