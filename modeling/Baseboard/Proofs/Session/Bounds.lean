import Baseboard.Proofs.Session.Deeds

/-! What is received is read within its bounds. No datagram makes a reader go past the end of
the data at hand, so nothing that an owner does with a session ends with such a read, and no use
of the link does, whatever the peer sends. -/
namespace Baseboard

/-- What answers a request is told from what does not without a read that fails. -/
theorem Expectation.accept_cases (e : Expectation) (b : Bytes) :
    (∃ answer, e.accept b = .ok answer) ∨ e.accept b = .error .unauthenticatedReply := by
  cases h : e.accept b with
  | ok answer => exact .inl ⟨answer, rfl⟩
  | error error => exact .inr (congrArg Except.error (accept_eq_error_iff.mp h).1)

namespace Session

variable {α : Type} {first s t : Session}

/-- No use of the link since `first` has ended with a read past the end of the data. -/
def Bounded (first t : Session) : Prop :=
  ∃ uses, t.uses = first.uses ++ uses ∧ ∀ use ∈ uses, use.failure ≠ some .overrun

theorem Bounded.refl (s : Session) : Bounded s s :=
  ⟨[], (List.append_nil _).symm, fun _ h => absurd h List.not_mem_nil⟩

theorem Bounded.of_uses_eq (h : Bounded first s) (huses : t.uses = s.uses) : Bounded first t := by
  rwa [Bounded, huses]

theorem Bounded.append {use : Use} (h : Bounded first s) (huses : t.uses = s.uses ++ [use])
    (huse : use.failure ≠ some .overrun) : Bounded first t := by
  obtain ⟨uses, hs, hall⟩ := h
  refine ⟨uses ++ [use], by rw [huses, hs, List.append_assoc], fun found hfound => ?_⟩
  rcases List.mem_append.mp hfound with hfound | hfound
  · exact hall found hfound
  · rw [List.mem_singleton.mp hfound]
    exact huse

/-- An operation has ended without a read past the end of the data, and so has every use of the
link that it made. -/
def InBounds (first : Session) : Except Error α → Session → Prop :=
  Fares (Bounded first) fun e _ => e ≠ .overrun

theorem exchange_inBounds (request : Request) (route : Route) (manner : Manner)
    (hs : Bounded first s) : Ends (exchange request route manner) s (InBounds first) := by
  refine (exchange_cases request route manner s).imp fun r t ht => ?_
  rcases ht with ⟨e, hunsent, rfl, rfl⟩ | ⟨use, huse⟩
  · refine .error hs ?_
    rintro rfl
    rcases hunsent with hpacket | h
    · cases Standing.early_of_packet hpacket
    · cases h
  · have hnot : r ≠ .error .overrun := fun h => nomatch huse.late h
    refine ⟨hs.append huse.uses_eq fun hfailure => ?_, fun e he hoverrun => hnot (hoverrun ▸ he)⟩
    exact hnot ((huse.failure_eq_some_iff _).mp hfailure)

theorem footing_inBounds (first : Session) : Footing (Bounded first) fun e _ => e ≠ .overrun where
  manage _ _ hs := (ends_manage ..).mpr (exchange_inBounds _ _ _ hs)
  faults e _ h he := by
    subst he
    cases h

theorem connect_inBounds (hs : Bounded first s) : Ends connect s (InBounds first) :=
  ends_connect (fun _ => .error hs nofun) (fun _ _ => .error hs nofun)
    (fun _ _ => .error (hs.of_uses_eq rfl) nofun) fun _ => .ok (hs.of_uses_eq rfl)

theorem ping_inBounds (hs : Bounded first s) : Ends ping s (InBounds first) := by
  refine ends_ping (fun _ => .error hs nofun)
    (fun _ _ => .error (hs.of_uses_eq rfl) nofun) fun _ => ?_
  refine (Link.exchange_fault (acceptPong s.pingTag) _ (Presence.ping s.pingTag) _ _ _).imp
    fun r link hr => ?_
  cases r with
  | ok pong => exact .ok (hs.append rfl nofun)
  | error e =>
    have he : e ≠ .overrun := by
      rintro rfl
      cases hr _ rfl with
      | refused h => exact acceptPong_ne_error h
    exact .error (hs.append rfl fun h => he (Option.some.inj h)) he

theorem pingByPolicy_inBounds (hs : Bounded first s) : Ends pingByPolicy s (InBounds first) := by
  refine ends_pingByPolicy (.ok hs) ((ping_inBounds hs).imp fun r t ht => ⟨?_, fun _ => .ok ht.1⟩)
  rintro e rfl
  exact .error ht.1 (ht.2 e rfl)

theorem abort_inBounds (hs : Bounded first s) : Ends abort s (InBounds first) := by
  refine ends_abort (fun _ => .ok (hs.of_uses_eq rfl)) fun _ => ?_
  exact (exchange_inBounds _ _ _ hs).imp fun _ _ ht => .ok (ht.1.of_uses_eq rfl)

theorem handshake_inBounds (hs : Bounded first s) : Ends handshake s (InBounds first) := by
  refine (footing_inBounds first).handshake (fun _ _ _ hs => hs.of_uses_eq rfl) ?_ hs
  rintro c pinned e t h rfl
  rcases Capabilities.negotiate_eq_error h with h | h <;> cases h

theorem establish_inBounds (hs : Bounded first s) : Ends establish s (InBounds first) := by
  have hsearch := pingByPolicy_inBounds hs
  have hopen {t : Session} (ht : pingByPolicy s = .ok () t) : Ends handshake t (InBounds first) :=
    handshake_inBounds (hsearch.of_ok ht).1
  refine ends_establish (fun _ => .error hs nofun) (fun _ e t ht => hsearch.of_error ht) ?_ ?_ ?_
  · exact fun _ t u ht hu => (hopen ht).of_ok hu
  · intro _ t u ht hu
    have hends := abort_inBounds ((hopen ht).of_error hu).1
    exact hends.imp fun _ _ hv => .error hv.1 nofun
  · intro _ e t u ht hu _
    obtain ⟨hbounded, he⟩ := (hopen ht).of_error hu
    exact .error (hbounded.of_uses_eq rfl) (he e rfl)

theorem dispatch_inBounds (request : Request) (route : Route) (hs : Bounded first s) :
    Ends (dispatch request route) s (InBounds first) := by
  refine ends_dispatch (fun _ => .error hs nofun) fun _ => ?_
  refine (exchange_inBounds request route _ hs).imp fun r t ht => ⟨fun _ => ?_, fun _ => ht⟩
  exact (abort_inBounds ht.1).imp fun _ _ hu => .error hu.1 nofun

theorem command_inBounds (request : Request) (hs : Bounded first s) :
    Ends (command request) s (InBounds first) :=
  (ends_command ..).mpr (dispatch_inBounds request _ hs)

theorem close_inBounds (hs : Bounded first s) : Ends close s (InBounds first) := by
  refine ends_close (fun _ => .ok hs) (fun _ => .error hs nofun) fun _ => ?_
  refine ((footing_inBounds first).closeSession s.sessionId hs).imp fun r t ht => ?_
  exact ⟨ht.1.of_uses_eq rfl, ht.2⟩

theorem discard_bounded (hs : Bounded first s) : Bounded first s.discard := by
  by_cases hactive : s.phase = .active
  · rw [discard_of_active hactive]
    exact ((abort_inBounds hs).imp fun _ _ ht => ht.1).after
  · rw [discard_of_inactive hactive]
    exact hs

theorem call_inBounds (c : Call) (hs : Bounded first s) : Ends c.yielding s (InBounds first) := by
  cases c with
  | connect => exact Fares.map _ (connect_inBounds hs)
  | ping => exact Fares.map _ (ping_inBounds hs)
  | establish => exact Fares.map _ (establish_inBounds hs)
  | command request => exact Fares.map _ (command_inBounds request hs)
  | raw netFn unit target channel number data =>
    exact Fares.map _ (ends_raw (fun _ => .error hs nofun) (dispatch_inBounds _ _ hs))
  | close => exact Fares.map _ (close_inBounds hs)
  | abort => exact Fares.map _ (abort_inBounds hs)
  | discard => exact ⟨discard_bounded hs, nofun⟩
  | elapse | cancel | enqueue => exact ⟨hs.of_uses_eq rfl, nofun⟩

theorem management_inBounds (m : Management) (hs : Bounded first s) :
    Ends m.yielding s (InBounds first) := by
  have h := footing_inBounds first
  cases m with
  | authCapabilities => exact Fares.map _ (h.authCapabilities hs)
  | sessionChallenge authType => exact Fares.map _ (h.sessionChallenge authType hs)
  | activateSession challenge initial => exact Fares.map _ (h.activateSession challenge initial hs)
  | setPrivilege level => exact Fares.map _ (h.setPrivilege level hs)
  | closeSession sessionId => exact Fares.map _ (h.closeSession sessionId hs)

theorem deed_inBounds (d : Deed) (hs : Bounded first s) : Ends d.op s (InBounds first) := by
  cases d with
  | call c => exact call_inBounds c hs
  | require request =>
    refine Fares.map _ ((ends_require ..).mpr ((command_inBounds request hs).imp fun r t ht => ?_))
    refine ht.read fun response e he => ?_
    rintro rfl
    cases Response.accepted_faults he
  | manage m => exact management_inBounds m hs
  | retoken token cancelled => exact ⟨hs.of_uses_eq rfl, nofun⟩

/-- Whatever is done with a session, one thing after the other, is done in bounds. -/
theorem perform_inBounds (deeds : List Deed) (hs : Bounded first s) :
    .error .overrun ∉ (s.perform deeds).1 ∧ Bounded first (s.perform deeds).2 := by
  induction deeds generalizing s with
  | nil => exact ⟨List.not_mem_nil, hs⟩
  | cons d rest ih =>
    obtain ⟨hbounded, herror⟩ := (deed_inBounds d hs).ending
    obtain ⟨hresults, hafter⟩ := ih hbounded
    refine ⟨fun hmem => ?_, hafter⟩
    rcases List.mem_cons.mp hmem with h | h
    · exact herror _ h.symm rfl
    · exact hresults h

/-- Whatever is received is read within its bounds. Every reader gives a value or an error of
malformed data, whatever the bytes and however deep they are nested; what answers a request or a
ping is told without a read that fails; and nothing that an owner does with a session, in any
state of it and over any network, ends with a read past the end of the data, no more than the
uses of the link do that are made for it. -/
theorem received_in_bounds :
    ¬ Error.Malformed .overrun ∧
    (∀ b, Reading.Safe (Rmcp.Header.parse b) ∧ Reading.Safe (Packet.parse b) ∧
      Reading.Safe (Packet.decode b) ∧ Reading.Safe (Response.parse b) ∧
      Reading.Safe (Presence.Pong.parse b) ∧ Reading.Safe (Capabilities.parse b) ∧
      Reading.Safe (Challenge.parse b) ∧ Reading.Safe (Activation.parse b)) ∧
    (∀ message depth, Reading.Safe (Request.disclose message depth)) ∧
    (∀ (response : Response) depth, Reading.Safe (response.disclose depth)) ∧
    (∀ (e : Expectation) b,
      (∃ answer, e.accept b = .ok answer) ∨ e.accept b = .error .unauthenticatedReply) ∧
    (∀ tag b, ∃ pong, acceptPong tag b = .ok pong) ∧
    ∀ (s : Session) (deeds : List Deed), .error .overrun ∉ (s.perform deeds).1 ∧
      ∃ uses, (s.perform deeds).2.uses = s.uses ++ uses ∧
        ∀ use ∈ uses, use.failure ≠ some .overrun := by
  refine ⟨nofun, fun b => ?_, Request.safe_disclose, Response.safe_disclose,
    Expectation.accept_cases, exists_acceptPong, fun s deeds => perform_inBounds deeds (.refl s)⟩
  exact ⟨Rmcp.Header.safe_parse b, Packet.safe_parse b, Packet.safe_decode b,
    Response.safe_parse b, Presence.Pong.safe_parse b, Capabilities.safe_parse b,
    Challenge.safe_parse b, Activation.safe_parse b⟩

end Session
end Baseboard
