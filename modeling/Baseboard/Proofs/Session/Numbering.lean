import Baseboard.Proofs.Session.Frames

/-! The numbers of the frames of an active session. The outbound counter has moved, from
one use of the link to a later one, by as many steps as there were answers in between
that count; and as long as it has not moved, the session makes the same packets. -/
namespace Baseboard

/-- How a session came from one standing to another while it used its link as in `uses`,
as far as the numbering of its frames goes. -/
structure Standing.Since (s : Standing) (uses : List Use) (t : Standing) : Prop where
  outbound_eq : t.outboundSequence = nextSequence^[uses.countP Use.advances] s.outboundSequence
  packet_eq : uses.countP Use.advances = 0 → ∀ r route, t.packet r route = s.packet r route

theorem Standing.Since.trans {s t u : Standing} {earlier later : List Use}
    (h : s.Since earlier t) (h' : t.Since later u) : s.Since (earlier ++ later) u := by
  have hcount : (earlier ++ later).countP Use.advances =
      later.countP Use.advances + earlier.countP Use.advances := by
    rw [List.countP_append, Nat.add_comm]
  refine ⟨?_, fun hzero r route => ?_⟩
  · rw [hcount, Function.iterate_add_apply, ← h.outbound_eq]
    exact h'.outbound_eq
  · rw [hcount] at hzero
    rw [h'.packet_eq (by omega), h.packet_eq (by omega)]

/-- Every use of the link after one in an active session is a use in an active session,
and the counter has moved by the answers in between. -/
def Chained (uses : List Use) : Prop :=
  ∀ earlier u between v later, uses = earlier ++ u :: (between ++ v :: later) →
    u.standing.phase = .active →
      v.standing.phase = .active ∧ u.standing.Since (u :: between) v.standing

/-- A use in a record to which one more is added is that one, or was there before. -/
private theorem split_append_singleton {uses earlier later : List Use} {u v : Use}
    (h : uses ++ [v] = earlier ++ u :: later) :
    (earlier = uses ∧ u = v ∧ later = []) ∨
      ∃ rest, later = rest ++ [v] ∧ uses = earlier ++ u :: rest := by
  rcases List.eq_nil_or_concat later with rfl | ⟨rest, last, rfl⟩
  · obtain ⟨huses, hlast⟩ := List.append_inj' h rfl
    exact .inl ⟨huses.symm, (List.singleton_inj.mp hlast).symm, rfl⟩
  · have hsplit : uses ++ [v] = (earlier ++ u :: rest) ++ [last] := by
      rw [h]
      simp
    obtain ⟨huses, hlast⟩ := List.append_inj' hsplit rfl
    obtain rfl := List.singleton_inj.mp hlast
    exact .inr ⟨rest, by simp, huses⟩

theorem Chained.append {uses : List Use} {v : Use} (h : Chained uses)
    (hv : ∀ earlier u between, uses = earlier ++ u :: between → u.standing.phase = .active →
      v.standing.phase = .active ∧ u.standing.Since (u :: between) v.standing) :
    Chained (uses ++ [v]) := by
  intro earlier u between w later heq hactive
  have hw : uses ++ [v] = (earlier ++ u :: between) ++ w :: later := by
    rw [heq]
    simp
  rcases split_append_singleton hw with ⟨huses, rfl, -⟩ | ⟨rest, -, huses⟩
  · exact hv earlier u between huses.symm hactive
  · exact h earlier u between w rest (by rw [huses]; simp) hactive

namespace Session

/-- The record of a session and its counter agree. -/
structure Numbered (s : Session) : Prop where
  idle : s.phase ≠ .active → s.phase ≠ .closed → ∀ u ∈ s.uses, u.standing.phase ≠ .active
  since : s.phase = .active → ∀ earlier u between, s.uses = earlier ++ u :: between →
    u.standing.phase = .active → u.standing.Since (u :: between) s.toStanding
  chained : Chained s.uses

variable {s t : Session}

/-- A session without frames of an active one may come to stand in any way. -/
private theorem Numbered.turned (hs : s.Numbered) (hactive : s.phase ≠ .active)
    (hclosed : s.phase ≠ .closed) (x : Standing) : Numbered { s with toStanding := x } := by
  have hidle := hs.idle hactive hclosed
  refine ⟨fun _ _ => hidle, fun _ earlier u between heq hu => ?_, hs.chained⟩
  have hmem : u ∈ s.uses := by
    change s.uses = _ at heq
    rw [heq]
    simp
  exact absurd hu (hidle u hmem)

/-- One more use of the link, by which an active session comes to stand as `t`. -/
private theorem Numbered.used {v : Use} (hs : s.Numbered) (hv : v.standing = s.toStanding)
    (huses : t.uses = s.uses ++ [v]) (hphase : t.phase = s.phase) (hclosed : s.phase ≠ .closed)
    (hstep : s.phase = .active → s.Since [v] t.toStanding) : t.Numbered := by
  refine ⟨fun hactive _ u hu => ?_, fun hactive earlier u between heq hu => ?_, ?_⟩
  · rw [hphase] at hactive
    rw [huses] at hu
    rcases List.mem_append.mp hu with hu | hu
    · exact hs.idle hactive hclosed u hu
    · rw [List.mem_singleton.mp hu, hv]
      exact hactive
  · rw [hphase] at hactive
    rw [huses] at heq
    rcases split_append_singleton heq with ⟨-, rfl, rfl⟩ | ⟨rest, rfl, hbefore⟩
    · rw [hv]
      exact hstep hactive
    · exact (hs.since hactive earlier u rest hbefore hu).trans (hstep hactive)
  · rw [huses]
    refine hs.chained.append fun earlier u between heq hu => ?_
    rw [hv]
    have hactive : s.phase = .active := by
      by_contra hne
      refine hs.idle hne hclosed u ?_ hu
      rw [heq]
      simp
    exact ⟨hactive, hs.since hactive earlier u between heq hu⟩

private theorem since_failed {v : Use} (h : v.failure.isSome = true) (s : Standing) :
    s.Since [v] s := by
  have hnone : v.advances = false := by
    rw [Use.advances, Option.isNone_eq_false_iff.mpr h, Bool.false_and]
  refine ⟨?_, fun _ _ _ => rfl⟩
  rw [List.countP_singleton, hnone]
  rfl

/-- An answer moves the counter of the session if its request counts. If not, nothing
changes that a frame is made from. -/
private theorem since_answered {v : Use} {r : Request} {route : Route}
    (hpurpose : v.purpose = .request r route) (hfailure : v.failure = none) (s : Standing)
    (n : UInt32) : s.Since [v] (s.answered n (route.counts r)) := by
  have hadvances : v.advances = route.counts r := by
    rw [Use.advances, hfailure, hpurpose]
    exact Bool.true_and _
  refine ⟨?_, fun hzero r' route' => ?_⟩
  · rw [List.countP_singleton, hadvances, Standing.outboundSequence_answered]
    cases route.counts r <;> rfl
  · have hcounts : route.counts r = false := by
      rw [List.countP_singleton, hadvances] at hzero
      cases h : route.counts r with
      | false => rfl
      | true =>
        rw [h] at hzero
        cases hzero
    rw [hcounts, Standing.answered_eq]
    rfl

theorem Numbered.move {call : Call} (hs : s.Numbered) (h : Move call s t) : t.Numbered := by
  cases h with
  | passed htrace => exact ⟨hs.idle, hs.since, hs.chained⟩
  | turned h =>
    cases h with
    | opened hp | bound hp | seeking hp | sought hp | activated _ hp =>
      exact hs.turned (by rw [hp]; decide) (by rw [hp]; decide) _
    | supports hp | challenged _ hp =>
      rcases hp with hp | hp <;> exact hs.turned (by rw [hp]; decide) (by rw [hp]; decide) _
    | rebound hp =>
      rcases hp with (hp | hp) | hp <;>
        exact hs.turned (by rw [hp]; decide) (by rw [hp]; decide) _
    | unprivileged e hp =>
      refine ⟨fun hne => absurd hp hne, fun _ earlier u between heq hu => ?_, hs.chained⟩
      obtain ⟨houtbound, hpacket⟩ := hs.since hp earlier u between heq hu
      exact ⟨houtbound, hpacket⟩
    | ended => exact ⟨fun _ hne => absurd rfl hne, (fun h => by cases h), hs.chained⟩
  | privileged level hp hadvanced =>
    refine ⟨fun hne => absurd hp hne, fun _ earlier u between heq hu => ?_, hs.chained⟩
    refine ⟨(hs.since hp earlier u between heq hu).outbound_eq, fun hzero => ?_⟩
    -- The last use moved the counter, so it cannot have stood still.
    obtain ⟨before, last, hlast, hadvances⟩ := hadvanced
    have hmem : last ∈ u :: between := by
      change s.uses = _ at heq
      rw [hlast] at heq
      rcases split_append_singleton heq with ⟨-, rfl, -⟩ | ⟨rest, rfl, -⟩
      · exact List.mem_cons_self
      · simp
    exact absurd hadvances (List.countP_eq_zero.mp hzero last hmem)
  | looked failure hwanted h =>
    have hp : s.phase = .pingSent := hwanted.phase_of_presence
    exact hs.used rfl rfl rfl (by rw [hp]; decide) fun h => by cases hp.symm.trans h
  | answered hwanted h =>
    exact hs.used rfl rfl (Standing.phase_answered ..) hwanted.phase_ne_closed
      fun _ => since_answered rfl rfl _ _
  | failed hwanted h =>
    exact hs.used rfl rfl rfl hwanted.phase_ne_closed fun _ => since_failed rfl _

theorem run_numbered {config : Config} (h : Begun config s) (calls : List Call) :
    (s.run calls).Numbered := by
  have hfresh := h.fresh
  refine run_induction calls hfresh.linked ?_ fun call _ s t hmove hs => hs.move hmove
  have hno : ∀ earlier u later, s.uses ≠ earlier ++ u :: later := by
    intro earlier u later heq
    rw [hfresh.uses_eq] at heq
    simp at heq
  refine ⟨?_, fun _ earlier u between heq => absurd heq (hno _ _ _), ?_⟩
  · rw [hfresh.uses_eq]
    exact fun _ _ u hu => absurd hu List.not_mem_nil
  · exact fun earlier u between v later heq => absurd heq (hno _ _ _)

end Session

/-- The session sequence number of a frame, if it can be read. -/
def frameNumber (frame : Bytes) : Option UInt32 := (Packet.decode frame).toOption.map (·.header.sequence)

namespace Use

/-- Whether the session was active. -/
def isActive (u : Use) : Bool := u.standing.phase == .active

/-- The message that was to be taken to the controller, if there was one. -/
def message (u : Use) : Bytes :=
  match u.purpose with
  | .presence _ => []
  | .request r route => u.standing.message r route

theorem isActive_iff (u : Use) : u.isActive = true ↔ u.standing.phase = .active := beq_iff_eq

/-- What a frame of an active session says of the use of the link that it was made in. -/
private theorem frame_of_active {config : Config} {calls : List Call} {u : Use} {frame : Bytes}
    (hacc : u.Accounted config calls) (hactive : u.standing.phase = .active)
    (hframe : frame ∈ u.frames) :
    ∃ r route p, u.purpose = .request r route ∧ u.standing.packet r route = .ok p ∧
      frame = p.encode ∧ Packet.decode frame = .ok p ∧
      p.header.sequence = u.standing.outboundSequence ∧ p.payload = u.message := by
  have hmakes := hacc.frames frame hframe
  obtain ⟨call, -, hwanted⟩ := hacc.wanted
  obtain ⟨standing, purpose, actions, failure⟩ := u
  cases purpose with
  | presence tag => cases hactive.symm.trans hwanted.phase_of_presence
  | request r route =>
    obtain ⟨p, hp, rfl⟩ := hmakes
    refine ⟨r, route, p, rfl, hp, rfl, Packet.decode_encode (Standing.wellFormed_packet hp), ?_, ?_⟩
    · have h := (Standing.attests_packet hwanted hacc.sound.sequence_lt hp).sequence_eq
      rwa [if_pos hactive] at h
    · obtain ⟨_, _, _, rfl⟩ := Standing.packet_eq_ok hp
      rfl

end Use

/-- Two different uses on record stand there one after the other. -/
private theorem split_of_mem {uses : List Use} {u v : Use} (hu : u ∈ uses) (hv : v ∈ uses) :
    u = v ∨ (∃ earlier between later, uses = earlier ++ u :: (between ++ v :: later)) ∨
      ∃ earlier between later, uses = earlier ++ v :: (between ++ u :: later) := by
  obtain ⟨earlier, later, rfl⟩ := List.append_of_mem hu
  rcases List.mem_append.mp hv with hv | hv
  · obtain ⟨first, between, rfl⟩ := List.append_of_mem hv
    exact .inr (.inr ⟨first, between, later, by simp⟩)
  · rcases List.mem_cons.mp hv with rfl | hv
    · exact .inl rfl
    · obtain ⟨between, last, rfl⟩ := List.append_of_mem hv
      exact .inr (.inl ⟨earlier, between, last, rfl⟩)

namespace Session

/-- Any two frames of an active session with one number are the same frame. -/
def UniqueNumbers (s : Session) : Prop :=
  ∀ u ∈ s.uses, ∀ v ∈ s.uses, u.isActive = true → v.isActive = true →
    ∀ f ∈ u.frames, ∀ g ∈ v.frames, frameNumber f = frameNumber g → f = g

instance (s : Session) : Decidable s.UniqueNumbers :=
  inferInstanceAs (Decidable (∀ u ∈ s.uses, ∀ v ∈ s.uses, u.isActive = true → v.isActive = true →
    ∀ f ∈ u.frames, ∀ g ∈ v.frames, frameNumber f = frameNumber g → f = g))

variable {config : Config} {calls : List Call} {earlier between later : List Use} {u v : Use}
  {f g : Bytes}

private theorem mem_of_split {uses : List Use}
    (hsplit : uses = earlier ++ u :: (between ++ v :: later)) : u ∈ uses ∧ v ∈ uses := by
  rw [hsplit]
  simp

/-- Two frames of an active session have one number exactly when no answer in between has
moved the counter. -/
private theorem frameNumber_eq_iff (h : Begun config s)
    (hfew : (s.run calls).uses.countP Use.isActive < 2 ^ 32 - 1)
    (hsplit : (s.run calls).uses = earlier ++ u :: (between ++ v :: later))
    (hactive : u.standing.phase = .active) (hf : f ∈ u.frames) (hg : g ∈ v.frames) :
    frameNumber f = frameNumber g ↔ (u :: between).countP Use.advances = 0 := by
  have hacc := (run_accounted h calls).uses
  have hchained := (run_numbered h calls).chained
  obtain ⟨hu, hv⟩ := mem_of_split hsplit
  obtain ⟨hvactive, hsince⟩ := hchained earlier u between v later hsplit hactive
  obtain ⟨_, _, p, -, -, -, hfp, hfn, -⟩ := Use.frame_of_active (hacc u hu) hactive hf
  obtain ⟨_, _, q, -, -, -, hgq, hgn, -⟩ := Use.frame_of_active (hacc v hv) hvactive hg
  have hbetween : ∀ w ∈ u :: between, w.isActive = true := by
    intro w hw
    rw [Use.isActive_iff]
    rcases List.mem_cons.mp hw with rfl | hw
    · exact hactive
    · obtain ⟨first, rest, rfl⟩ := List.append_of_mem hw
      exact (hchained earlier u first w (rest ++ v :: later) (by rw [hsplit]; simp) hactive).1
  have hbound : (u :: between).countP Use.advances < 2 ^ 32 - 1 := by
    have hle : (u :: between).countP Use.advances ≤ (u :: between).countP Use.isActive :=
      List.countP_mono_left fun w hw _ => hbetween w hw
    rw [hsplit, List.countP_append, ← List.cons_append, List.countP_append] at hfew
    omega
  have houtbound := (hacc u hu).sound.outbound_ne_zero
  rw [frameNumber, frameNumber, hfp, hgq]
  simp only [Except.toOption, Option.map_some, Option.some.injEq]
  rw [hfn, hgn, hsince.outbound_eq, eq_comm]
  exact iterate_nextSequence_eq_self_iff houtbound hbound

private theorem packet_of_message_eq {s : Standing} {r r' : Request} {route route' : Route}
    (hactive : s.phase = .active) (h : s.message r route = s.message r' route') :
    s.packet r route = s.packet r' route' := by
  simp only [Standing.packet, Standing.frameAuth, hactive, h]

/-- While the counter stands still, frames differ exactly as their messages do. -/
private theorem frame_eq_iff (h : Begun config s)
    (hsplit : (s.run calls).uses = earlier ++ u :: (between ++ v :: later))
    (hactive : u.standing.phase = .active) (hf : f ∈ u.frames) (hg : g ∈ v.frames)
    (hstill : (u :: between).countP Use.advances = 0) : f = g ↔ u.message = v.message := by
  have hacc := (run_accounted h calls).uses
  obtain ⟨hu, hv⟩ := mem_of_split hsplit
  obtain ⟨hvactive, hsince⟩ :=
    (run_numbered h calls).chained earlier u between v later hsplit hactive
  obtain ⟨r, route, p, hur, hp, rfl, hfp, -, hpm⟩ := Use.frame_of_active (hacc u hu) hactive hf
  obtain ⟨r', route', q, hvr, hq, rfl, hgq, -, hqm⟩ := Use.frame_of_active (hacc v hv) hvactive hg
  rw [hsince.packet_eq hstill] at hq
  constructor
  · intro heq
    rw [heq, hgq] at hfp
    rw [← hpm, ← hqm, Except.ok.inj hfp]
  · intro heq
    have hpmessage : p.payload = u.standing.message r route := by
      obtain ⟨_, _, _, rfl⟩ := Standing.packet_eq_ok hp
      rfl
    have hqmessage : q.payload = u.standing.message r' route' := by
      obtain ⟨_, _, _, rfl⟩ := Standing.packet_eq_ok hq
      rfl
    have hmessages : u.standing.message r route = u.standing.message r' route' := by
      rw [← hpmessage, ← hqmessage, hpm, hqm, heq]
    rw [packet_of_message_eq hactive hmessages, hq] at hp
    rw [Except.ok.inj hp]

/-- When frames of an active session share a number only if they are the same frame: as
long as no use of the link that went without an answer is followed, before the next answer
that counts, by a use for another message. -/
theorem uniqueNumbers_iff (h : Begun config s) (calls : List Call)
    (hfew : (s.run calls).uses.countP Use.isActive < 2 ^ 32 - 1) :
    (s.run calls).UniqueNumbers ↔
      ∀ earlier u between v later, (s.run calls).uses = earlier ++ u :: (between ++ v :: later) →
        u.isActive = true → u.frames ≠ [] → v.frames ≠ [] →
        (∀ w ∈ u :: between, w.advances = false) → u.message = v.message := by
  constructor
  · intro hunique earlier u between v later hsplit hactive hf hg hstill
    obtain ⟨f, hf⟩ := List.exists_mem_of_ne_nil _ hf
    obtain ⟨g, hg⟩ := List.exists_mem_of_ne_nil _ hg
    obtain ⟨hu, hv⟩ := mem_of_split hsplit
    have hphase := (Use.isActive_iff u).mp hactive
    have hvphase :=
      ((run_numbered h calls).chained earlier u between v later hsplit hphase).1
    have hzero : (u :: between).countP Use.advances = 0 :=
      List.countP_eq_zero.mpr fun w hw => by rw [hstill w hw]; decide
    have hnumber := (frameNumber_eq_iff h hfew hsplit hphase hf hg).mpr hzero
    have heq := hunique u hu v hv hactive ((Use.isActive_iff v).mpr hvphase) f hf g hg hnumber
    exact (frame_eq_iff h hsplit hphase hf hg hzero).mp heq
  · intro hstill
    -- The two uses may stand in either order, so the argument is made for one of them.
    have hordered : ∀ earlier u between v later,
        (s.run calls).uses = earlier ++ u :: (between ++ v :: later) → u.isActive = true →
        ∀ f ∈ u.frames, ∀ g ∈ v.frames, frameNumber f = frameNumber g → f = g := by
      intro earlier u between v later hsplit hactive f hf g hg hnumber
      have hphase := (Use.isActive_iff u).mp hactive
      have hzero := (frameNumber_eq_iff h hfew hsplit hphase hf hg).mp hnumber
      refine (frame_eq_iff h hsplit hphase hf hg hzero).mpr ?_
      refine hstill earlier u between v later hsplit hactive (List.ne_nil_of_mem hf)
        (List.ne_nil_of_mem hg) fun w hw => ?_
      exact Bool.eq_false_iff.mpr (List.countP_eq_zero.mp hzero w hw)
    intro u hu v hv huactive hvactive f hf g hg hnumber
    rcases split_of_mem hu hv with rfl | ⟨earlier, between, later, hsplit⟩ |
      ⟨earlier, between, later, hsplit⟩
    · obtain ⟨_, _, p, hr, hp, rfl, -⟩ := Use.frame_of_active ((run_accounted h calls).uses u hu)
        ((Use.isActive_iff u).mp huactive) hf
      obtain ⟨_, _, q, hr', hq, rfl, -⟩ := Use.frame_of_active ((run_accounted h calls).uses u hu)
        ((Use.isActive_iff u).mp huactive) hg
      cases hr.symm.trans hr'
      rw [Except.ok.inj (hp.symm.trans hq)]
    · exact hordered earlier u between v later hsplit huactive f hf g hg hnumber
    · exact (hordered earlier v between u later hsplit hvactive g hg f hf hnumber.symm).symm

/-- After a request without an answer, the next one is sent under the same number. -/
theorem not_uniqueNumbers_after_timeout :
    ¬ ((sample []).run [.establish, .raw 6 0 0x20 0 1 [], .raw 6 0 0x20 0 2 []]).UniqueNumbers := by
  decide +kernel

theorem uniqueNumbers_iff_after_timeout :
    let t := (sample []).run [.establish, .raw 6 0 0x20 0 1 [], .raw 6 0 0x20 0 2 []]
    t.UniqueNumbers ↔
      ∀ earlier u between v later, t.uses = earlier ++ u :: (between ++ v :: later) →
        u.isActive = true → u.frames ≠ [] → v.frames ≠ [] →
        (∀ w ∈ u :: between, w.advances = false) → u.message = v.message :=
  uniqueNumbers_iff (sample_begun []) _ (by decide +kernel)

end Session
end Baseboard
