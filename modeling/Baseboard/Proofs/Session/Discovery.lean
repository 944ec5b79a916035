import Baseboard.Proofs.Codec.Presence
import Baseboard.Proofs.Link.Handing
import Baseboard.Proofs.Session.Retry

/-! The search for the controller. What it gives was read from a pong with the tag of the pings that
were sent, but the enterprise of the pong is not looked at. A search that fails leaves nothing
behind; one that succeeds leaves a session that cannot be opened any more. -/
namespace Baseboard

/-- The message of a ping. -/
def Presence.Message.ping (tag : UInt8) : Presence.Message := ⟨Presence.enterprise, pingType, tag, []⟩

theorem Presence.standsIn_ping (tag : UInt8) : (Message.ping tag).StandsIn (Presence.ping tag) :=
  ⟨_, _, _, _, _, _, rfl, rfl⟩

namespace Session

variable {config : Config} {s t u : Session} {tag : UInt8} {b : Bytes} {pong : Presence.Pong}

theorem acceptPong_eq_some_iff :
    acceptPong tag b = .ok (some pong) ↔
      Presence.Pong.parse b = .ok (some pong) ∧ pong.tag = tag := by
  unfold acceptPong
  cases hparse : Presence.Pong.parse b with
  | ok found =>
    cases found with
    | none => simp
    | some p =>
      dsimp only
      by_cases htag : p.tag = tag
      · rw [if_pos htag]
        constructor
        · intro h
          cases h
          exact ⟨rfl, htag⟩
        · rintro ⟨h, -⟩
          exact h
      · rw [if_neg htag]
        constructor
        · exact nofun
        · rintro ⟨h, hp⟩
          cases h
          exact absurd hp htag
  | error e => cases e <;> simp

/-- A search that found the controller sent its ping, and nothing else. What came in last was read
as the pong that it gives, and had the tag of the ping. -/
theorem ping_found (s : Session) :
    Ends ping s fun r t => ∀ pong, r = .ok pong →
      s.handedOver t ≠ [] ∧ (∀ frame ∈ s.handedOver t, frame = Presence.ping s.pingTag) ∧
        ∃ b, t.justReceived = some b ∧ acceptPong s.pingTag b = .ok (some pong) := by
  refine ends_ping (fun _ _ => nofun) (fun _ _ _ => nofun) fun _ => ?_
  refine (Link.exchange_answered ..).imp fun r link hr => ?_
  cases r with
  | error e => exact fun _ => nofun
  | ok pong =>
  intro _ hpong
  obtain ⟨before, wait, b, hdid, haccept, hne, hframes⟩ := hr _ hpong
  have hhanded {v : Session} (hv : v.link = link) :
      s.handedOver v = before.filterMap Action.frame? := by
    rw [handedOver, hv, hdid.drop_eq, List.filterMap_append]
    exact List.append_nil _
  refine ⟨?_, ?_, b, justReceived_of_did hdid, haccept⟩
  · rw [hhanded rfl]
    exact hne
  · rw [hhanded rfl]
    exact hframes

/-- The genuine pongs are told from other datagrams but for what another enterprise means by the
number of pongs. A search that found something found a pong with the tag that it sent, and a genuine
one but for the same exception. -/
theorem ping_genuine_iff (b : Bytes) :
    (Presence.Told b ↔ ¬ Presence.Foreign b) ∧
    ∀ (s t : Session) (pong : Presence.Pong), ping s = .ok pong t →
      s.handedOver t ≠ [] ∧
      (∀ frame ∈ s.handedOver t, (Presence.Message.ping pong.tag).StandsIn frame) ∧
      ∃ (found : Bytes) (m : Presence.Message), t.justReceived = some found ∧ m.StandsIn found ∧
        m.IsPong ∧ pong.ReadFrom m ∧ (Presence.Genuine found ↔ ¬ Presence.Foreign found) := by
  refine ⟨Presence.told_iff, fun s t pong h => ?_⟩
  obtain ⟨hsent, hframes, found, hreceived, haccept⟩ := (ping_found s).of_ok h pong rfl
  obtain ⟨hparse, htag⟩ := acceptPong_eq_some_iff.mp haccept
  obtain ⟨m, hm, hpong, hread⟩ := Presence.Pong.parse_eq_some_iff.mp hparse
  refine ⟨hsent, fun frame hframe => ?_, found, m, hreceived, hm, hpong, hread,
    Presence.Genuine.not_foreign, fun hforeign => ?_⟩
  · rw [hframes frame hframe, htag]
    exact Presence.standsIn_ping _
  · exact (hm.genuine_or_foreign hpong).resolve_right hforeign

/-- A pong that a controller sends for a ping with a given tag, but with an enterprise of its own. -/
def pongOf (enterprise : UInt32) (tag : UInt8) : Bytes :=
  [0x06, 0x00, 0xFF, 0x06] ++ (Presence.Message.mk enterprise Presence.pongType tag
    [0x00, 0x00, 0x11, 0xBE, 0x00, 0x00, 0x00, 0x00, 0x81, 0x00, 0x00, 0x00, 0x00, 0x00, 0x00, 0x00]).body
    0x00 0x10

/-- A session whose first frame is followed by `datagrams`. -/
def surrounded (datagrams : List Bytes) (later : List Delivery) : Session :=
  scripted sampleConfig sampleConfig_valid
    (.accepted (datagrams.map fun b => ⟨0, false, .datagram b⟩) :: later)

/-- A search over a noisy network: a packet of some session, a message that is cut short, a ping and
a pong with another tag come in before the pong. The ping is told from a pong. -/
theorem ping_genuine_noisy :
    let noise : List Bytes := [(Packet.plain Request.deviceId.encode).encode,
      [0x06, 0x00, 0xFF, 0x06, 0x00], Presence.ping 0, pongOf Presence.enterprise 9]
    let s := surrounded (noise ++ [pongOf Presence.enterprise 0]) []
    Presence.Told (Presence.ping 0) ∧
    ∃ t pong, ping s = .ok pong t ∧ s.handedOver t ≠ [] ∧
      (∀ frame ∈ s.handedOver t, (Presence.Message.ping pong.tag).StandsIn frame) ∧
      ∃ (found : Bytes) (m : Presence.Message), t.justReceived = some found ∧ m.StandsIn found ∧
        m.IsPong ∧ pong.ReadFrom m ∧ (Presence.Genuine found ↔ ¬ Presence.Foreign found) := by
  intro noise s
  obtain ⟨htold, hfound⟩ := ping_genuine_iff (Presence.ping 0)
  obtain ⟨pong, t, h, -⟩ : ∃ pong t, ping s = .ok pong t ∧ decide (t.phase = .pongReceived) = true :=
    exists_of_gives (by decide +kernel)
  refine ⟨htold.mpr ?_, t, pong, h, hfound s t pong h⟩
  rintro ⟨m, hm, htype, -⟩
  rw [← (Presence.standsIn_ping 0).unique hm] at htype
  exact absurd htype (by decide)

/-- A message of another enterprise is taken for a pong, and a search is content with it. -/
theorem foreignPong_found :
    let b := pongOf 0x00001234 0
    let s := surrounded [b] []
    Presence.Foreign b ∧ ¬ Presence.Genuine b ∧ ¬ Presence.Told b ∧
      ∃ pong t, ping s = .ok pong t ∧ t.justReceived = some b := by
  intro b s
  have hforeign : Presence.Foreign b :=
    ⟨⟨0x00001234, Presence.pongType, 0, _⟩, ⟨_, _, _, _, _, _, rfl, rfl⟩, rfl, by decide⟩
  obtain ⟨pong, t, h, hreceived⟩ : ∃ pong t, ping s = .ok pong t ∧
      decide (t.justReceived = some b) = true := exists_of_gives (by decide +kernel)
  exact ⟨hforeign, fun hgenuine => hgenuine.not_foreign hforeign,
    fun htold => Presence.told_iff.mp htold hforeign, pong, t, h, of_decide_eq_true hreceived⟩

/-- Opening two sessions comes to the same: the same frames are handed over, with the same outcome,
and what is left of the sessions stands the same, over links over which the same is going to
happen. -/
structure OpensAlike (s s' : Session) : Prop where
  outcome_eq : outcome establish s = outcome establish s'
  frames_eq : s.handedOver (after establish s) = s'.handedOver (after establish s')
  standing_eq : (after establish s).toStanding = (after establish s').toStanding
  link : (after establish s).link.Alike (after establish s').link
  stats_eq : s.link.stats = s'.link.stats →
    (after establish s).link.stats = (after establish s').link.stats

/-- What was done and counted before makes no difference to an opening. -/
theorem OpensAlike.of_alike {s' : Session} (hstanding : s.toStanding = s'.toStanding)
    (hlink : s.link.Alike s'.link) : OpensAlike s s' := by
  have hpaired : Paired Eq Use.SameActions s s' s s' :=
    ⟨hstanding, hlink, id, [], [], .refl s, .refl s', .nil⟩
  have hsame {x x' : Standing} (h : x = x') :
      x = x' ∧ x.ended = x'.ended ∧ x.rebound = x'.rebound := h ▸ ⟨rfl, rfl, rfl⟩
  have hends : EndAlike establish s establish s' fun r t t' =>
      (r = .ok () → Paired Eq Use.SameActions s s' t t') ∧ Paired Eq Use.SameActions s s' t t' :=
    Standing.eq_accord.establish Standing.eq_accord.toLikeness hpaired
      (fun c authType h => congrArg (·.withCapabilities c authType) h) hsame hsame
  obtain ⟨houtcome, -, hended⟩ := hends.ending
  obtain ⟨uses, uses', hadds, hadds', hagree⟩ := hended.uses
  refine ⟨houtcome.symm, ?_, hended.standing, hended.link, hended.stats⟩
  rw [hadds.handedOver_eq, hadds'.handedOver_eq, Use.SameActions.frames_eq hagree]

/-- A session whose search succeeded cannot be opened. -/
theorem establish_of_found {s : Session} (h : s.phase = .pongReceived) :
    establish s = .error (.wrongPhase .bound .pongReceived) s := by
  have hends : Ends establish s fun r t => r = .error (.wrongPhase .bound .pongReceived) ∧ t = s := by
    refine (ends_expect_bind_of_ne ?_).mpr ⟨?_, rfl⟩
    · rw [h]
      decide
    · rw [h]
  cases hop : establish s with
  | ok a t => cases (hends.of_ok hop).1
  | error e t =>
    obtain ⟨he, rfl⟩ := hends.of_error hop
    rw [Except.error.inj he]

/-- A search for the controller that failed makes no difference to the opening that follows. One
that succeeded does: the session cannot be opened any more, while one that did not look for its
controller can. -/
theorem ping_opensAlike_iff (h : Reachable config s) (hbound : s.phase = .bound)
    (hstanding : u.toStanding = s.toStanding) (hlink : u.link.Alike (after ping s).link) :
    (OpensAlike (after ping s) u ↔ ∃ e, outcome ping s = .error e) ∧
      ∀ pong, outcome ping s = .ok pong →
        establish (after ping s) = .error (.wrongPhase .bound .pongReceived) (after ping s) := by
  obtain ⟨hsound, hrest⟩ := h.rests
  obtain ⟨use, hsought⟩ := (ping_sought hbound (hrest.connected (.inl hbound))).ending
  have hstands := hsought.standing_eq
  cases hr : outcome ping s with
  | error e =>
    refine ⟨iff_of_true (.of_alike ?_ hlink.symm) ⟨e, rfl⟩, fun _ => nofun⟩
    rw [hr] at hstands
    exact hstands.trans hstanding.symm
  | ok pong =>
    have hfound : (after ping s).phase = .pongReceived := by
      rw [hr] at hstands
      exact congrArg Standing.phase hstands
    have hrefused := establish_of_found hfound
    refine ⟨iff_of_false (fun halike => ?_) nofun, fun _ _ => hrefused⟩
    -- An opening never ends half way between the search and the requests.
    have hphase : (after establish u).phase = .pongReceived := by
      rw [← congrArg Standing.phase halike.standing_eq, after_of_error hrefused, hfound]
    have hleads : Call.Leads .establish .bound .pongReceived := by
      have hu : u.Sound config ∧ u.AtRest := hstanding ▸ ⟨hsound, hrest⟩
      have hends := (establish_rests hu.1 hu.2).after.2
      rwa [hphase, hstanding, hbound] at hends
    cases hleads

/-- A controller that leaves the ping unanswered lets the session be opened as if there had been
none. -/
theorem unanswered_opensAlike :
    let s := surrounded [] opening
    let u : Session := { s with link := (after ping s).link }
    s.phase = .bound ∧ s.config.ping = .skip ∧ outcome ping s = .error (.noResponse 1) ∧
      OpensAlike (after ping s) u ∧ outcome establish u = .ok () := by
  intro s u
  have hreachable : Reachable sampleConfig s :=
    (scripted_begun sampleConfig_valid _).reachable_run []
  have hbound : s.phase = .bound := by decide +kernel
  have hfailed : ping s = .error (.noResponse 1) _ := eq_error_of_failsWith (by decide +kernel)
  have houtcome : outcome ping s = .error (.noResponse 1) := by rw [outcome, hfailed]
  obtain ⟨_, v, hopened, -⟩ : ∃ r v, establish u = .ok r v ∧ decide (v.phase = .active) = true :=
    exists_of_gives (by decide +kernel)
  exact ⟨hbound, by decide +kernel, houtcome,
    (ping_opensAlike_iff (u := u) hreachable hbound rfl rfl).1.mpr ⟨_, houtcome⟩,
    by rw [outcome, hopened]⟩

/-- A controller that answers the ping would let the session be opened, but the session refuses. -/
theorem answered_not_opensAlike :
    let s := surrounded [pongOf Presence.enterprise 0] opening
    let u : Session := { s with link := (after ping s).link }
    s.phase = .bound ∧ s.config.ping = .skip ∧ (∃ pong, outcome ping s = .ok pong) ∧
      outcome establish (after ping s) = .error (.wrongPhase .bound .pongReceived) ∧
      outcome establish u = .ok () ∧ ¬ OpensAlike (after ping s) u := by
  intro s u
  obtain ⟨pong, t, hfound, hphase⟩ : ∃ pong t, ping s = .ok pong t ∧
      decide (t.phase = .pongReceived) = true := exists_of_gives (by decide +kernel)
  obtain ⟨_, v, hopened, -⟩ : ∃ r v, establish u = .ok r v ∧ decide (v.phase = .active) = true :=
    exists_of_gives (by decide +kernel)
  have hrefused : outcome establish (after ping s) = .error (.wrongPhase .bound .pongReceived) := by
    rw [outcome, after_of_ok hfound, establish_of_found (of_decide_eq_true hphase)]
  have hok : outcome establish u = .ok () := by rw [outcome, hopened]
  refine ⟨by decide +kernel, by decide +kernel, ⟨pong, by rw [outcome, hfound]⟩, hrefused, hok, ?_⟩
  intro halike
  cases hrefused.symm.trans (halike.outcome_eq.trans hok)

end Session
end Baseboard
