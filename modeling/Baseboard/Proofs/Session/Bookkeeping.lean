import Baseboard.Proofs.Session.Completeness
import Baseboard.Proofs.Session.Reach

/-! The counters of an active session as numbers. After any number of commands that were
answered they stand where their count puts them, and the frames of the next command say so in
every envelope. -/
namespace Baseboard

/-- The counters of a session have taken `steps` steps. The outbound one runs through the
numbers from one to the highest, the other through those below 64. -/
structure Standing.Stepped (s : Standing) (steps : Nat) (t : Standing) : Prop where
  outbound_eq : t.outboundSequence.toNat = (s.outboundSequence.toNat - 1 + steps) % (2 ^ 32 - 1) + 1
  request_eq : t.requestSequence.toNat = (s.requestSequence.toNat + steps) % 64

/-- A frame is numbered `sequence` in its session, and its request is numbered `number`, inside
its `depth` envelopes as on each of them. -/
def Numbers (depth sequence number : Nat) (frame : Bytes) : Prop :=
  ∃ p, Packet.decode frame = .ok p ∧ p.header.sequence.toNat = sequence ∧
    ∀ k ≤ depth, ∃ q, Request.disclose p.payload k = .ok q ∧ q.sequence.toNat = number

namespace Standing

variable {config : Config} {s t u : Standing} {request : Request} {route : Route} {frame : Bytes}

theorem Stepped.refl (hs : s.Sound config) : s.Stepped 0 s := by
  refine ⟨?_, (Nat.mod_eq_of_lt hs.sequence_lt).symm⟩
  exact toNat_iterate_nextSequence hs.outbound_ne_zero 0

theorem Stepped.trans {first second : Nat} (h : s.Stepped first t) (h' : t.Stepped second u) :
    s.Stepped (first + second) u := by
  obtain ⟨houtbound, hrequest⟩ := h
  obtain ⟨houtbound', hrequest'⟩ := h'
  constructor <;> omega

/-- An answer moves both counters by one step, or neither. -/
theorem Stepped.answered (hs : s.Sound config) (n : UInt32) (advances : Bool) :
    s.Stepped advances.toNat (s.answered n advances) := by
  cases advances with
  | false =>
    obtain ⟨houtbound, hrequest⟩ := Stepped.refl hs
    constructor
    · rw [outboundSequence_answered]
      exact houtbound
    · rw [requestSequence_answered]
      exact hrequest
  | true =>
    constructor
    · rw [outboundSequence_answered, if_pos rfl]
      exact toNat_iterate_nextSequence hs.outbound_ne_zero 1
    · rw [requestSequence_answered, if_pos rfl, toNat_sixBits, UInt8.toNat_add]
      change (s.requestSequence.toNat + 1) % 256 % 64 = _
      exact Nat.mod_mod_of_dvd _ (by decide)

/-- A frame of an active session shows how its counters stand. -/
theorem Makes.numbers (h : s.Makes (.request request route) frame) (hs : s.Sound config)
    (hactive : s.phase = .active) :
    Numbers route.depth s.outboundSequence.toNat s.requestSequence.toNat frame := by
  obtain ⟨p, hp, rfl⟩ := h
  obtain ⟨code, -, -, rfl⟩ := packet_eq_ok hp
  refine ⟨_, Packet.decode_encode (wellFormed_packet hp), ?_, fun k hk => ?_⟩
  · exact congrArg UInt32.toNat (frameSequence_of_active hactive)
  · obtain ⟨q, hq, hsequence⟩ :=
      Request.disclose_enclose_of_le route (request.numbered s.requestSequence) hk
    refine ⟨q, hq, ?_⟩
    rw [hsequence, Request.sequence_numbered_of_lt request hs.sequence_lt]

end Standing

namespace Session

variable {config : Config} {s t u : Session} {op : Op Response} {request : Request} {route : Route}
  {asked : List (Request × Route)}

/-- Commands that were carried out one after the other, all of them answered, with what each
asked for. -/
inductive Answered (config : Config) (s : Session) : List (Request × Route) → Session → Prop where
  | none : Answered config s [] s
  | next {t u : Session} {asked : List (Request × Route)} {op : Op Response} {request : Request}
      {route : Route} {response : Response} (before : Answered config s asked t)
      (hissued : Issued config op request route) (hop : op t = .ok response u) :
      Answered config s (asked ++ [(request, route)]) u

/-- An answered command moves the counters at most. -/
theorem Issued.answered {response : Response} (h : Issued config op request route)
    (hs : s.Sound config) (hactive : s.phase = .active) (hop : op s = .ok response t) :
    ∃ n, t.toStanding = s.answered n (route.counts request) := by
  rcases h.dispatches_or with hdispatches | ⟨n, hrefuses⟩
  · rw [hdispatches s hs.config_eq, dispatch_eq_ok_iff hactive] at hop
    exact (exchange_standing ..).of_ok hop
  · rw [hrefuses] at hop
    cases hop

/-- After answered commands the session stands as before, but for its counters. They have taken
a step for every command, except where one asked for a message to be sent on as it is. -/
theorem Answered.stepped (h : Answered config s asked t) (hs : s.Sound config)
    (hactive : s.phase = .active) :
    t.Sound config ∧ s.Recounted t.toStanding ∧
      s.Stepped (asked.countP fun x => x.2.counts x.1) t.toStanding := by
  induction h with
  | none => exact ⟨hs, .refl _, .refl hs⟩
  | @next t u asked op request route response _ hissued hop ih =>
    obtain ⟨hsound, hrecounted, hstepped⟩ := ih
    obtain ⟨n, hn⟩ := hissued.answered hsound (hrecounted.phase_eq.trans hactive) hop
    have hone : [(request, route)].countP (fun x => x.2.counts x.1) =
        (route.counts request).toNat := by
      rw [List.countP_singleton]
      cases route.counts request <;> rfl
    rw [List.countP_append, hone, hn]
    exact ⟨hsound.answered .., hrecounted.trans (.answered ..),
      hstepped.trans (.answered hsound n _)⟩

/-- An exchange hands over no frame but that of its request, and moves the counters only if it is
answered. -/
private theorem exchange_adds (hconnected : s.connected = true) (request : Request) (route : Route)
    (manner : Manner) :
    Ends (exchange request route manner) s fun r t =>
      (∃ uses, s.Adds uses t ∧
        ∀ frame ∈ uses.flatMap Use.frames, s.Makes (.request request route) frame) ∧
      ∀ e, r = .error e → t.toStanding = s.toStanding := by
  refine (exchange_sends hconnected request route manner).imp fun r t ht => ?_
  rcases ht with ⟨e, -, rfl, rfl⟩ | ⟨use, huse⟩
  · exact ⟨⟨[], .refl t, nofun⟩, fun _ _ => rfl⟩
  · obtain ⟨packet, hpacket, hframes⟩ := huse.made
    refine ⟨⟨[use], ⟨huse.uses_eq, by simpa using huse.did⟩, fun frame hframe => ?_⟩,
      huse.standing_of_error⟩
    rw [List.flatMap_singleton] at hframe
    exact ⟨packet, hpacket, hframes frame hframe⟩

/-- The frames of a command are those of its request, and those that ask for the session to be
closed once the command was cancelled. The counters have not moved in between. -/
private theorem dispatch_frames (hconnected : s.connected = true) (hactive : s.phase = .active) :
    Ends (dispatch request route) s fun r t => ∀ frame ∈ s.handedOver t,
      s.Makes (.request request route) frame ∨ r = .error .cancelled ∧
        s.Makes (.request (.closeSession s.sessionId) (.direct s.config.controller)) frame := by
  refine ends_dispatch (fun h => absurd hactive h) fun _ => ?_
  refine (exchange_adds hconnected request route _).imp fun r t ht => ?_
  obtain ⟨⟨uses, hadds, hmakes⟩, hkept⟩ := ht
  refine ⟨fun hcancelled => ?_, fun _ frame hframe => ?_⟩
  · have hstanding := hkept _ hcancelled
    refine ends_abort (fun h => absurd (hstanding ▸ hactive) h) fun _ => ?_
    rw [hstanding]
    refine (exchange_adds (hstanding ▸ hconnected) _ _ _).imp fun _ u hu => ?_
    obtain ⟨⟨closing, hcloses, hmakesClosing⟩, -⟩ := hu
    intro frame hframe
    have hall := (hadds.trans hcloses).handedOver_eq
    rw [List.flatMap_append] at hall
    rcases List.mem_append.mp (hall ▸ hframe) with hframe | hframe
    · exact .inl (hmakes frame hframe)
    · have hmade := hmakesClosing frame hframe
      rw [hstanding] at hmade
      exact .inr ⟨rfl, hmade⟩
  · exact .inl (hmakes frame (hadds.handedOver_eq ▸ hframe))

/-- The frames of a command that is issued to an active session. -/
theorem Issued.frames (h : Issued config op request route) (hs : s.Sound config)
    (hconnected : s.connected = true) (hactive : s.phase = .active) :
    ∀ frame ∈ s.handedOver (after op s), s.Makes (.request request route) frame ∨
      op s = .error .cancelled (after op s) ∧
        s.Makes (.request (.closeSession s.sessionId) (.direct config.controller)) frame := by
  rcases h.dispatches_or with hdispatches | ⟨n, hrefuses⟩
  · have hends : Ends (dispatch request route) s _ := dispatch_frames hconnected hactive
    have heq := hdispatches s hs.config_eq
    rw [hs.config_eq] at hends
    unfold Ends at hends
    rw [after, heq]
    intro frame hframe
    cases hop : dispatch request route s with
    | ok response t =>
      rw [hop] at hends hframe
      exact (hends frame hframe).imp_right fun hcancelled => by cases hcancelled.1
    | error e t =>
      rw [hop] at hends hframe
      refine (hends frame hframe).imp_right fun hcancelled => ⟨?_, hcancelled.2⟩
      rw [Except.error.inj hcancelled.1]
  · rw [after_of_error (hrefuses s)]
    intro frame hframe
    rw [handedOver_self] at hframe
    cases hframe

/-- A command that does not count leaves the counters as they are, however it ends, as long as
the session goes on. -/
theorem Issued.uncounted (h : Issued config op request route) (hs : s.Sound config)
    (hactive : s.phase = .active) (huncounted : route.counts request = false)
    (hstill : (after op s).phase = .active) :
    (after op s).outboundSequence = s.outboundSequence ∧
      (after op s).requestSequence = s.requestSequence := by
  rcases h.dispatches_or with hdispatches | ⟨n, hrefuses⟩
  · have hafter : after op s = after (dispatch request route) s := by
      rw [after, hdispatches s hs.config_eq, after]
    rw [hafter] at hstill ⊢
    rcases dispatch_standing hactive hstill with ⟨_, _, n, -, hn⟩ | ⟨_, _, -, hn⟩
    · rw [hn, huncounted, Standing.outboundSequence_answered, Standing.requestSequence_answered]
      exact ⟨rfl, rfl⟩
    · rw [hn]
      exact ⟨rfl, rfl⟩
  · rw [after_of_error (hrefuses s)]
    exact ⟨rfl, rfl⟩

/-- The counters of an active session count its answered commands, all but those that ask for a
message to be sent on as it is: the outbound one through the numbers from one to the highest, the
other through those below 64. The frames of the next command bear these numbers in every envelope,
and so does the request to close the session if that command is cancelled. Whether the next command
counts depends on its route too: a request to send a message on counts once it is itself sent on. -/
theorem counters_closed_form (h : Reachable config s) (hactive : s.phase = .active)
    (hrun : Answered config s asked t) :
    let n := asked.countP fun x => !(x.2.depth = 0 && x.1.isSendMessage)
    let sequence := (s.outboundSequence.toNat - 1 + n) % (2 ^ 32 - 1) + 1
    let number := (s.requestSequence.toNat + n) % 64
    t.phase = .active ∧ t.outboundSequence.toNat = sequence ∧ t.requestSequence.toNat = number ∧
    ∀ {op request route}, Issued config op request route →
      (∀ frame ∈ t.handedOver (after op t),
        t.Makes (.request request route) frame ∧ Numbers route.depth sequence number frame ∨
        op t = .error .cancelled (after op t) ∧
          t.Makes (.request (.closeSession t.sessionId) (.direct config.controller)) frame ∧
          Numbers 0 sequence number frame) ∧
      (route.depth = 0 → request.isSendMessage = true → (after op t).phase = .active →
        (after op t).outboundSequence = t.outboundSequence ∧
          (after op t).requestSequence = t.requestSequence) ∧
      (0 < route.depth → ∀ response u, op t = .ok response u →
        u.outboundSequence.toNat = sequence % (2 ^ 32 - 1) + 1 ∧
          u.requestSequence.toNat = (number + 1) % 64) := by
  intro n sequence number
  obtain ⟨hsound, hrest⟩ := h.rests
  obtain ⟨htsound, hrecounted, hstepped⟩ := hrun.stepped hsound hactive
  have htactive : t.phase = .active := hrecounted.phase_eq.trans hactive
  have hconnected : t.connected = true :=
    hrecounted.connected_eq.trans (hrest.connected (.inr (.inr hactive)))
  have houtbound : t.outboundSequence.toNat = sequence := hstepped.outbound_eq
  have hrequest : t.requestSequence.toNat = number := hstepped.request_eq
  refine ⟨htactive, houtbound, hrequest, fun {op request route} hissued => ⟨?_, ?_, ?_⟩⟩
  · rw [← houtbound, ← hrequest]
    intro frame hframe
    refine (hissued.frames htsound hconnected htactive frame hframe).imp (fun hmakes => ?_)
      fun hcloses => ?_
    · exact ⟨hmakes, hmakes.numbers htsound htactive⟩
    · have hnumbers := hcloses.2.numbers htsound htactive
      rw [Route.depth_direct] at hnumbers
      exact ⟨hcloses.1, hcloses.2, hnumbers⟩
  · intro hdepth hsend hstill
    refine hissued.uncounted htsound htactive ?_ hstill
    rw [Route.counts, hdepth, hsend]
    rfl
  · intro hdepth response u hop
    obtain ⟨received, hu⟩ := hissued.answered htsound htactive hop
    have hcounts : route.counts request = true := by
      rw [Route.counts, decide_eq_false (Nat.ne_of_gt hdepth)]
      rfl
    have hone := Standing.Stepped.answered htsound received true
    rw [← hcounts, ← hu, hcounts] at hone
    obtain ⟨hnext, hnextRequest⟩ := hone
    rw [houtbound] at hnext
    rw [hrequest] at hnextRequest
    exact ⟨by simpa [sequence] using hnext, hnextRequest⟩

/-- A session whose controller tells its device id, sends a message on without more ado, and is
too busy to send on another. -/
def attended : Session :=
  (sample [
    responding (.reply (Request.deviceId.numbered 4) .completed (some [1, 2, 3])),
    responding (.reply ((Request.sendMessage 7 [0]).numbered 5) .completed none),
    responding (.reply (Route.sealed 5 [] ⟨0x20, 0x81, 7⟩) ⟨0xC0⟩ none)]).run [.establish]

/-- The first of three commands counts, and so does the third, which is sent on, but not the
second, which is not. -/
theorem attended_counters :
    ∃ t u response, Answered sampleConfig attended
        [(.deviceId, sampleConfig.route 0x20 0), (.sendMessage 7 [0], sampleConfig.route 0x20 0)] t ∧
      t.outboundSequence.toNat = 3 ∧ t.requestSequence.toNat = 5 ∧
      raw 0x06 0 0x82 7 0x34 [0x47, 0] t = .ok response u ∧
      (t.handedOver u).length = 1 ∧ (∀ frame ∈ t.handedOver u, Numbers 1 3 5 frame) ∧
      u.outboundSequence.toNat = 4 ∧ u.requestSequence.toNat = 6 := by
  obtain ⟨first, r, hfirst, hnext⟩ : ∃ response r, command .deviceId attended = .ok response r ∧
      gives (raw 0x06 0 0x20 0 0x34 [0x47, 0]) r (fun _ t =>
        gives (raw 0x06 0 0x82 7 0x34 [0x47, 0]) t fun _ u => (t.handedOver u).length == 1) = true :=
    exists_of_gives (by decide +kernel)
  obtain ⟨second, t, hsecond, hlast⟩ := exists_of_gives hnext
  obtain ⟨third, u, hthird, hsent⟩ := exists_of_gives hlast
  have hrun : Answered sampleConfig attended
      [(.deviceId, sampleConfig.route 0x20 0), (.sendMessage 7 [0], sampleConfig.route 0x20 0)] t :=
    (Answered.none.next (.command .deviceId) hfirst).next (.raw 0x06 0 0x20 0 0x34 [0x47, 0]) hsecond
  have hreachable : Reachable sampleConfig attended := (sample_begun _).reachable_run [.establish]
  obtain ⟨-, houtbound, hrequest, hnext⟩ :=
    counters_closed_form hreachable (by decide +kernel) hrun
  obtain ⟨hframes, -, hcounts⟩ := hnext (.raw 0x06 0 0x82 7 0x34 [0x47, 0])
  have hstart : attended.outboundSequence.toNat = 2 := by decide +kernel
  have hstartRequest : attended.requestSequence.toNat = 4 := by decide +kernel
  rw [hstart] at houtbound hframes hcounts
  rw [hstartRequest] at hrequest hframes hcounts
  obtain ⟨hadvanced, hadvancedRequest⟩ := hcounts (by decide) third u hthird
  refine ⟨t, u, third, hrun, houtbound, hrequest, hthird, eq_of_beq hsent, fun frame hframe => ?_,
    hadvanced, hadvancedRequest⟩
  rw [after_of_ok hthird] at hframes
  rcases hframes frame hframe with ⟨-, hnumbers⟩ | ⟨hcancelled, -⟩
  · exact hnumbers
  · cases hthird.symm.trans hcancelled

end Session
end Baseboard
