import Baseboard.Proofs.Codec.Difference
import Baseboard.Proofs.Session.Deeds
import Baseboard.Proofs.Session.Frames
import Baseboard.Proofs.Session.Sending

/-! What gives the password away. Two sessions that differ in their passwords only are used in the
same way: all that can tell them apart are the codes of authenticated frames, and a challenge that
is returned together with the digest of the password. -/
namespace Baseboard

/-- Two actions are the same but for `hidden` places of the frames that were handed over. -/
inductive Action.SameBut (hidden : Bytes → Nat → Prop) : Action → Action → Prop where
  | sent {frame frame' : Bytes} (h : Bytes.SameBut (hidden frame) frame frame') :
      SameBut hidden (.sent frame) (.sent frame')
  | sendFailed {frame frame' : Bytes} (cause : IoFailure)
      (h : Bytes.SameBut (hidden frame) frame frame') :
      SameBut hidden (.sendFailed frame cause) (.sendFailed frame' cause)
  | received (wait : Nat) (outcome : Except IoFailure Bytes) :
      SameBut hidden (.received wait outcome) (.received wait outcome)

/-- The session asks to be activated, and returns a challenge with the digest of its password. -/
structure Standing.Answers (s : Standing) (challenge : Field) (purpose : Purpose) : Prop where
  phase_eq : s.phase = .challengeIssued
  transform_eq : s.transform = .xorPasswordDigest
  purpose_eq : purpose = .request (s.activation challenge) (.direct s.config.controller)

/-- The places in a frame where the password can show: those of the code, if the frame is
authenticated, and those of a challenge that is returned with the digest of the password. -/
def Use.Betrays (u : Use) : Bytes → Nat → Prop :=
  Packet.Conceals fun k =>
    (∃ challenge, u.standing.Answers challenge u.purpose) ∧ Request.ReturnsChallenge k

/-- Two uses of the link that nothing but the password tells apart. -/
structure Use.Resembles (u u' : Use) : Prop where
  standing_eq : u.standing.withoutPassword = u'.standing.withoutPassword
  purpose_eq : u.purpose = u'.purpose ∨ ∃ challenge,
    u.standing.Answers challenge u.purpose ∧ u'.standing.Answers challenge u'.purpose
  failure_eq : u.failure = u'.failure
  actions : List.Forall₂ (Action.SameBut u.Betrays) u.actions u'.actions

namespace Action.SameBut

variable {hidden : Bytes → Nat → Prop}

theorem refl (hidden : Bytes → Nat → Prop) (action : Action) : SameBut hidden action action := by
  cases action with
  | sent frame => exact .sent (.refl _ frame)
  | sendFailed frame cause => exact .sendFailed cause (.refl _ frame)
  | received wait outcome => exact .received wait outcome

theorem reframe {frame frame' : Bytes} (h : Bytes.SameBut (hidden frame) frame frame')
    (action : Action) : SameBut hidden (action.reframe frame) (action.reframe frame') := by
  cases action with
  | sent => exact .sent h
  | sendFailed _ cause => exact .sendFailed cause h
  | received wait outcome => exact .received wait outcome

end Action.SameBut

namespace Standing

variable {s s' : Standing}

/-- Standings that differ in their passwords only are one standing under two passwords. -/
private theorem exists_of_withoutPassword (h : s.withoutPassword = s'.withoutPassword) :
    ∃ text password, s' = { s with config.password := text, password := password } := by
  refine ⟨s'.config.password, s'.password, ?_⟩
  calc s' = { s'.withoutPassword with
          config.password := s'.config.password, password := s'.password } := rfl
    _ = { s.withoutPassword with
          config.password := s'.config.password, password := s'.password } := by rw [h]

/-- Requests whose messages differ in secret places only go out in frames that differ in these
places and in the code, or they cannot be sent for the same reason. -/
private theorem packets_sameBut {secret : Nat → Prop} {request request' : Request} {route : Route}
    (h : s.withoutPassword = s'.withoutPassword) (hcommand : request.command = request'.command)
    (hmessage : Bytes.SameBut secret (s.message request route) (s.message request' route)) :
    (∃ e, s.packet request route = .error e ∧ s'.packet request' route = .error e) ∨
      ∃ p p', s.packet request route = .ok p ∧ s'.packet request' route = .ok p' ∧
        Bytes.SameBut (Packet.Conceals secret p.encode) p.encode p'.encode := by
  obtain ⟨hauth, hmessage', hsequence, hid⟩ :
      s'.frameAuth request'.command = s.frameAuth request.command ∧
        s'.message request' route = s.message request' route ∧
        s'.frameSequence = s.frameSequence ∧ s'.sessionId = s.sessionId := by
    obtain ⟨text, password, rfl⟩ := exists_of_withoutPassword h
    rw [hcommand]
    exact ⟨rfl, rfl, rfl, rfl⟩
  cases hp : s.packet request route with
  | error e =>
    refine .inl ⟨e, rfl, packet_eq_error_iff.mpr ?_⟩
    rw [hauth, hmessage', ← hmessage.length_eq]
    exact packet_eq_error_iff.mp hp
  | ok p =>
    obtain ⟨p', hp'⟩ : ∃ p', s'.packet request' route = .ok p' := by
      rw [exists_packet_iff, hauth, hmessage', ← hmessage.length_eq, ← exists_packet_iff]
      exact ⟨p, hp⟩
    refine .inr ⟨p, p', rfl, hp', ?_⟩
    have hfits := (wellFormed_packet hp).code_fits
    obtain ⟨code, hcode, -, rfl⟩ := packet_eq_ok hp
    obtain ⟨code', hcode', -, rfl⟩ := packet_eq_ok hp'
    -- Whether there is a code at all is up to the type, and not to the password.
    have hsome : code.isSome = code'.isSome := by
      rw [Bool.eq_iff_iff, ← Option.ne_none_iff_isSome, ← Option.ne_none_iff_isSome, Ne, Ne,
        authCode_eq_none hcode, authCode_eq_none hcode', hauth]
    rw [hmessage', hauth, hsequence, hid, ← hmessage.length_eq]
    exact Packet.encode_sameBut hfits hsome hmessage

/-- The uses of the link for two requests resemble each other if their messages do. -/
private theorem askAlike_of_sameBut {secret : Nat → Prop} {request request' : Request}
    {route : Route} (h : s.withoutPassword = s'.withoutPassword)
    (hcommand : request.command = request'.command)
    (hpurpose : request = request' ∨ ∃ challenge, s.Answers challenge (.request request route) ∧
      s'.Answers challenge (.request request' route))
    (hsecret : ∀ k, secret k →
      (∃ challenge, s.Answers challenge (.request request route)) ∧ Request.ReturnsChallenge k)
    (hmessage : Bytes.SameBut secret (s.message request route) (s.message request' route)) :
    s.AskAlike Use.Resembles request s' request' route := by
  have hexpectation : s.expectation request route = s'.expectation request' route := by
    obtain ⟨text, password, rfl⟩ := exists_of_withoutPassword h
    unfold expectation
    rw [hcommand]
    rfl
  refine ⟨hexpectation, ?_⟩
  rcases packets_sameBut h hcommand hmessage with herror | ⟨p, p', hp, hp', hframes⟩
  · exact .inl herror
  refine .inr ⟨p, p', hp, hp', fun actions failure => ⟨h, ?_, rfl, ?_⟩⟩
  · exact hpurpose.imp_left fun heq => congrArg (Purpose.request · route) heq
  · have hshown : Bytes.SameBut
        (Use.Betrays ⟨s, .request request route, actions.map (Action.reframe p.encode), failure⟩
          p.encode) p.encode p'.encode :=
      hframes.mono fun i hi => hi.imp_right fun ⟨k, hk, hin⟩ => ⟨k, hk, hsecret k hin⟩
    rw [List.forall₂_map_left_iff, List.forall₂_map_right_iff, List.forall₂_same]
    exact fun action _ => .reframe hshown action

private theorem askAlike_self (h : s.withoutPassword = s'.withoutPassword) (request : Request)
    (route : Route) : s.AskAlike Use.Resembles request s' request route :=
  askAlike_of_sameBut h rfl (.inl rfl) (fun _ hfalse => hfalse.elim) (.refl (fun _ => False) _)

/-- A challenge that is returned with the digest of the password shows it where the challenge
stands, and in the checksum after it. -/
private theorem activation_sameBut (h : s.withoutPassword = s'.withoutPassword)
    (hphase : s.phase = .challengeIssued) (htransform : s.transform = .xorPasswordDigest)
    (challenge : Field) :
    let route := Route.direct s'.config.controller
    s.Answers challenge (.request (s.activation challenge) route) ∧
      s'.Answers challenge (.request (s'.activation challenge) route) ∧
      Bytes.SameBut Request.ReturnsChallenge (s.message (s.activation challenge) route)
        (s.message (s'.activation challenge) route) := by
  obtain ⟨text, password, rfl⟩ := exists_of_withoutPassword h
  exact ⟨⟨hphase, htransform, rfl⟩, ⟨hphase, htransform, rfl⟩, Request.activateSession_sameBut ..⟩

/-- A challenge that is returned as it is says nothing of the password. -/
private theorem activation_eq (h : s.withoutPassword = s'.withoutPassword)
    (htransform : s.transform ≠ .xorPasswordDigest) (challenge : Field) :
    s'.activation challenge = s.activation challenge := by
  have hplain (password : Field) : s.transform.apply challenge password = challenge := by
    cases htransform' : s.transform with
    | standard => rfl
    | xorPasswordDigest => exact absurd htransform' htransform
  obtain ⟨text, password, rfl⟩ := exists_of_withoutPassword h
  simp only [activation, hplain]

/-- Sessions that stand the same but for the password cannot be told apart by their operations. -/
theorem secrecy_accord :
    Session.Accord (fun s s' => s.withoutPassword = s'.withoutPassword) Use.Resembles where
  outline_eq {s s'} h := by
    have houtline (x : Standing) : x.withoutPassword.outline = x.outline := rfl
    rw [← houtline s, h, houtline s']
  looks h tag actions failure := ⟨h, .inl rfl, rfl, List.forall₂_same.mpr fun _ _ => .refl _ _⟩
  rephased {s s' phase} h _ _ := congrArg (fun x : Standing => { x with phase := phase }) h
  answered {s s'} h n advances := by
    have hanswered (x : Standing) :
        (x.answered n advances).withoutPassword = x.withoutPassword.answered n advances := by
      rw [answered_eq, answered_eq]
      rfl
    rw [hanswered, hanswered, h]
  authType_eq h := by
    obtain ⟨text, password, rfl⟩ := exists_of_withoutPassword h
    rfl
  revised f hf h := by rw [hf, hf, h]
  asks h request route := askAlike_self h request route
  activates {s s'} challenge h hphase := by
    by_cases htransform : s.transform = .xorPasswordDigest
    · obtain ⟨hanswers, hanswers', hmessage⟩ := activation_sameBut h hphase htransform challenge
      exact askAlike_of_sameBut h rfl (.inr ⟨challenge, hanswers, hanswers'⟩)
        (fun k hk => ⟨⟨challenge, hanswers⟩, hk⟩) hmessage
    · rw [activation_eq h htransform challenge]
      exact askAlike_self h _ _

end Standing

/-- Frames of the same lengths were sent. -/
private theorem lengths_eq_of_sameBut {network network' : Network}
    (h : List.Forall₂ (fun action action' => ∃ hidden, Action.SameBut hidden action action')
      network.trace network'.trace) :
    network.sentFrames.map List.length = network'.sentFrames.map List.length := by
  unfold Network.sentFrames
  generalize network.trace = actions at h
  generalize network'.trace = actions' at h
  induction h with
  | nil => rfl
  | cons haction _ ih =>
    obtain ⟨hidden, haction⟩ := haction
    cases haction with
    | sent hframe => exact congrArg₂ List.cons hframe.length_eq ih
    | sendFailed | received => exact ih

private theorem actions_sameBut {uses uses' : List Use}
    (h : List.Forall₂ Use.Resembles uses uses') :
    List.Forall₂ (fun action action' => ∃ hidden, Action.SameBut hidden action action')
      (uses.flatMap Use.actions) (uses'.flatMap Use.actions) := by
  induction h with
  | nil => exact .nil
  | cons huse _ ih => exact List.rel_append (huse.actions.imp fun _ _ h => ⟨_, h⟩) ih

namespace Session

/-- Nothing tells two sessions apart but their passwords, and what the frames that were handed over
show of these. -/
structure SameButPassword (s s' : Session) : Prop where
  standing_eq : s.withoutPassword = s'.withoutPassword
  link : s.link.Alike s'.link
  stats_eq : s.link.stats = s'.link.stats
  uses : List.Forall₂ Use.Resembles s.uses s'.uses

/-- Settings that differ in the password make sessions that differ in it. -/
private theorem start_paired {config : Config} {password : String}
    (hshort : (Config.textBytes config.password).length ≤ 16)
    (hshort' : (Config.textBytes password).length ≤ 16) (seeds : Seeds) (link : Link)
    (connected : Bool) (phase : Phase) :
    (∃ e, start config seeds link connected phase = .error e ∧
        start { config with password := password } seeds link connected phase = .error e) ∨
      ∃ first first', start config seeds link connected phase = .ok first ∧
        start { config with password := password } seeds link connected phase = .ok first' ∧
        first.uses = [] ∧ first'.uses = [] ∧ first.link = link ∧ first'.link = link ∧
        first.withoutPassword = first'.withoutPassword := by
  have hvalid : ({ config with password := password } : Config).validate = config.validate := by
    unfold Config.validate
    rw [if_neg (Nat.not_lt.mpr hshort), if_neg (Nat.not_lt.mpr hshort')]
  unfold start
  rw [hvalid]
  cases config.validate with
  | error e => exact .inl ⟨e, rfl, rfl⟩
  | ok => exact .inr ⟨_, _, rfl, rfl, rfl, rfl, rfl, rfl, rfl⟩

/-- The password reaches the wire only where it must. Two sessions made with settings that differ in
the password only, with the same random values and over the same link, and in whose hands the same
is done, give the same results, stand the same but for the password, and send as many frames of the
same lengths. These show the password in the codes of authenticated frames, and in the challenge and
the last checksum of a request for activation that returns the challenge with the password's
digest. -/
theorem password_confined (config : Config) (password : String)
    (hshort : (Config.textBytes config.password).length ≤ 16)
    (hshort' : (Config.textBytes password).length ≤ 16) (seeds : Seeds) (link : Link)
    (connected : Bool) (phase : Phase) :
    (∃ e, start config seeds link connected phase = .error e ∧
        start { config with password := password } seeds link connected phase = .error e) ∨
      ∃ first first', start config seeds link connected phase = .ok first ∧
        start { config with password := password } seeds link connected phase = .ok first' ∧
        ∀ deeds : List Deed,
          let s := (first.perform deeds).2
          let s' := (first'.perform deeds).2
          (first.perform deeds).1 = (first'.perform deeds).1 ∧ s.SameButPassword s' ∧
            s.link.network.trace = link.network.trace ++ s.uses.flatMap Use.actions ∧
            s'.link.network.trace = link.network.trace ++ s'.uses.flatMap Use.actions ∧
            s.link.network.sentFrames.map List.length =
              s'.link.network.sentFrames.map List.length := by
  rcases start_paired hshort hshort' seeds link connected phase with hrefused |
    ⟨first, first', hfirst, hfirst', huses, huses', hlink, hlink', hstanding⟩
  · exact .inl hrefused
  refine .inr ⟨first, first', hfirst, hfirst', fun deeds => ?_⟩
  intro s s'
  have hstart : Paired (fun x x' => x.withoutPassword = x'.withoutPassword) Use.Resembles
      first first' first first' :=
    ⟨hstanding, congrArg Link.forgotten (hlink.trans hlink'.symm), id, [], [], .refl first,
      .refl first', .nil⟩
  obtain ⟨hresults, hpaired⟩ := Standing.secrecy_accord.perform deeds hstart
  obtain ⟨uses, uses', hadds, hadds', hall⟩ := hpaired.uses
  have hown : s.uses = uses := by rw [hadds.uses_eq, huses, List.nil_append]
  have hown' : s'.uses = uses' := by rw [hadds'.uses_eq, huses', List.nil_append]
  have htrace : s.link.network.trace = link.network.trace ++ s.uses.flatMap Use.actions := by
    rw [hown, ← hlink]
    exact hadds.did
  have htrace' : s'.link.network.trace = link.network.trace ++ s'.uses.flatMap Use.actions := by
    rw [hown', ← hlink']
    exact hadds'.did
  rw [← hown, ← hown'] at hall
  refine ⟨hresults, ⟨hpaired.standing, hpaired.link, ?_, hall⟩, htrace, htrace', ?_⟩
  · exact hpaired.stats (by rw [hlink, hlink'])
  · refine lengths_eq_of_sameBut ?_
    rw [htrace, htrace']
    refine List.rel_append ?_ (actions_sameBut hall)
    exact List.forall₂_same.mpr fun action _ => ⟨fun _ _ => False, .refl _ action⟩

/-- Settings under which a controller that does not name its manufacturer is returned its challenge
with the digest of the password. -/
def transforming (password : String) : Config :=
  { sampleConfig with password := password, xorVendors := [0] }

/-- Two users with different passwords open their sessions alike, and send different requests for
activation. -/
theorem transforming_confined :
    let link := Link.ofNetwork .plain { script := passwordOpening 4 Packet.plain }
    ∃ first first', start (transforming "secret") ⟨1, 0⟩ link true .bound = .ok first ∧
      start (transforming "guess") ⟨1, 0⟩ link true .bound = .ok first' ∧
      let s := (first.perform [.call .establish]).2
      let s' := (first'.perform [.call .establish]).2
      (first.perform [.call .establish]).1 = [.ok .done] ∧
        (first'.perform [.call .establish]).1 = [.ok .done] ∧ s.SameButPassword s' ∧
        s.link.network.sentFrames.map List.length = [23, 38, 59, 38] ∧
        s'.link.network.sentFrames.map List.length = [23, 38, 59, 38] ∧
        s.link.network.sentFrames[2]? ≠ s'.link.network.sentFrames[2]? := by
  intro link
  have hdone : (start (transforming "secret") ⟨1, 0⟩ link true .bound).toOption.map
      (fun s => (s.perform [.call .establish]).1) = some [.ok .done] := by decide +kernel
  have hlengths : (start (transforming "secret") ⟨1, 0⟩ link true .bound).toOption.map
      (fun s => (s.perform [.call .establish]).2.link.network.sentFrames.map List.length) =
        some [23, 38, 59, 38] := by decide +kernel
  have hdiffer : (start (transforming "secret") ⟨1, 0⟩ link true .bound).toOption.map
      (fun s => (s.perform [.call .establish]).2.link.network.sentFrames[2]?) ≠
        (start (transforming "guess") ⟨1, 0⟩ link true .bound).toOption.map
          (fun s => (s.perform [.call .establish]).2.link.network.sentFrames[2]?) := by
    decide +kernel
  rcases password_confined (transforming "secret") "guess" (by decide +kernel) (by decide +kernel)
    ⟨1, 0⟩ link true .bound with ⟨e, hrefused, -⟩ | ⟨first, first', hfirst, hfirst', hconfined⟩
  · rw [hrefused] at hdone
    cases hdone
  obtain ⟨hresults, hsame, -, -, hsizes⟩ := hconfined [.call .establish]
  replace hfirst' : start (transforming "guess") ⟨1, 0⟩ link true .bound = .ok first' := hfirst'
  rw [hfirst] at hdone hlengths
  rw [hfirst, hfirst'] at hdiffer
  have hdone := Option.some.inj hdone
  have hlengths := Option.some.inj hlengths
  exact ⟨first, first', hfirst, hfirst', hdone, hresults.symm.trans hdone, hsame, hlengths,
    hsizes.symm.trans hlengths, fun heq => hdiffer (congrArg some heq)⟩

end Session
end Baseboard
