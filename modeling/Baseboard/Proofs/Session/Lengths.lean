import Baseboard.Proofs.Session.Closing
import Baseboard.Proofs.Session.Completeness
import Baseboard.Proofs.Session.Reach

/-! How long a command can be. Its data have a limit of their own, and its message has another,
which is reached the sooner the more envelopes the route needs. What is within both limits is
sent, and declares its length. -/
namespace Baseboard.Session

variable {config : Config} {s : Session} {request : Request} {route : Route} {manner : Manner}

/-- A request that goes out and is not cancelled before hands over its frame first. -/
theorem Sends.frames_eq_cons {r : Except Error Response} {t : Session} {u : Use} {packet : Packet}
    (h : s.Sends request route manner r t u) (hpacket : s.packet request route = .ok packet)
    (hlive : s.isCancelled = false) : ∃ rest, u.frames = packet.encode :: rest := by
  obtain ⟨made, hmade, hframes⟩ := h.made
  cases hmade.symm.trans hpacket
  cases hu : u.frames with
  | nil => cases hlive.symm.trans (h.frames_eq_nil_iff.mp hu).2
  | cons frame rest =>
    rw [hframes frame (hu ▸ List.mem_cons_self)]
    exact ⟨rest, rfl⟩

/-- A command for which there is a packet hands that over first, whatever comes of it. If it is
cancelled later on, the request to close the session comes after it. -/
theorem dispatch_hands {packet : Packet} (hconnected : s.connected = true)
    (hactive : s.phase = .active) (hlive : s.isCancelled = false)
    (hpacket : s.packet request route = .ok packet) :
    Ends (dispatch request route) s fun _ t => ∃ rest, s.handedOver t = packet.encode :: rest := by
  refine ends_dispatch (fun h => absurd hactive h) fun _ => ?_
  refine (exchange_sends hconnected request route _).imp fun r t ht => ?_
  rcases ht with ⟨e, hnone, -⟩ | ⟨u, hsends⟩
  · cases hnone.symm.trans hpacket
  obtain ⟨rest, hframes⟩ := hsends.frames_eq_cons hpacket hlive
  have hfirst {x : Session} {later : List Action}
      (hdid : Link.Did s.link (u.actions ++ later) x.link) :
      s.handedOver x = packet.encode :: (rest ++ later.filterMap Action.frame?) := by
    rw [handedOver, hdid.drop_eq, List.filterMap_append]
    exact congrArg (· ++ _) hframes
  have hdone : Link.Did s.link (u.actions ++ []) t.link := by
    rw [List.append_nil]
    exact hsends.did
  refine ⟨fun _ => ends_abort (fun _ => ⟨_, hfirst hdone⟩) fun _ => ?_, fun _ => ⟨_, hfirst hdone⟩⟩
  refine (exchange_did ..).imp fun _ v hv => ?_
  obtain ⟨later, hlater⟩ := hv
  exact ⟨_, hfirst (hsends.did.trans hlater)⟩

/-- The limits of a command are exact, for every route and all data. Data of more than 255 bytes
are refused. So is a message of more, which has seven bytes besides the data and eight for every
envelope of the route. In both cases the session and its link stay as they were. Any other command
is attempted: the first frame that is handed over for it holds a message of just that length, and
declares it. -/
theorem raw_lengths (h : Reachable config s) (hactive : s.phase = .active)
    (hlive : s.isCancelled = false) (hsignable : ¬ s.Mute)
    (netFn unit target channel number : UInt8) (data : Bytes) :
    let op := raw netFn unit target channel number data
    let length := 7 + data.length + 8 * (s.config.route target channel).depth
    (255 < data.length → op s = .error (.requestTooLong data.length) s) ∧
    (data.length ≤ 255 → 255 < length → op s = .error (.messageTooLong length) s) ∧
    (length ≤ 255 → ∃ packet rest, s.handedOver (after op s) = packet.encode :: rest ∧
      Packet.decode packet.encode = .ok packet ∧ packet.payload.length = length ∧
      packet.header.payloadLength.toNat = length) := by
  intro op length
  let request := Request.raw netFn unit number (if data.isEmpty then none else some data)
  let route := s.config.route target channel
  have hlength : (s.message request route).length = length := by
    rw [Standing.length_message, Request.payload_raw]
  have hauth : s.frameAuth request.command ≠ .oem :=
    mt (Standing.mute_iff hactive request.command).mpr hsignable
  have hdispatched (hdata : data.length ≤ 255) : op s = dispatch request route s :=
    raw_of_short hdata
  refine ⟨fun hdata => raw_of_long hdata, fun hdata hlong => ?_, fun hshort => ?_⟩
  · have hpacket : s.packet request route = .error (.messageTooLong length) :=
      Standing.packet_eq_error_iff.mpr
        (.inr ⟨hauth, hlength.symm ▸ hlong, congrArg Error.messageTooLong hlength.symm⟩)
    rw [hdispatched hdata, dispatch_eq hactive, exchange_eq, hpacket]
    rfl
  · obtain ⟨packet, hpacket⟩ := Standing.exists_packet_iff.mpr ⟨hauth, hlength.trans_le hshort⟩
    have hconnected : s.connected = true := h.rests.2.connected (.inr (.inr hactive))
    obtain ⟨rest, hrest⟩ := (dispatch_hands hconnected hactive hlive hpacket).after
    obtain ⟨hdecode, hpayload, hdeclared⟩ := Standing.decode_packet hpacket
    rw [Request.payload_raw] at hpayload hdeclared
    refine ⟨packet, rest, ?_, hdecode, hpayload, hdeclared⟩
    rw [after_congr (hdispatched (by omega))]
    exact hrest

/-- By way of one other controller the data can be 240 bytes long, and a byte more is too much. -/
theorem raw_lengths_bridged :
    let s := (sample []).run [.establish]
    let op (n : Nat) := raw 0x06 0 0x82 7 0x52 (List.replicate n 0)
    (∃ packet rest, s.handedOver (after (op 240) s) = packet.encode :: rest ∧
      Packet.decode packet.encode = .ok packet ∧ packet.header.payloadLength.toNat = 255) ∧
    op 241 s = .error (.messageTooLong 256) s ∧ op 256 s = .error (.requestTooLong 256) s := by
  intro s op
  have hs : Reachable sampleConfig s := (sample_begun []).reachable_run _
  have hactive : s.phase = .active := by decide +kernel
  have hlive : s.isCancelled = false := by decide +kernel
  have hauth : s.authType ≠ .oem := by decide +kernel
  have hdepth : (s.config.route 0x82 7).depth = 1 := by decide +kernel
  have hlengths (n : Nat) :=
    raw_lengths hs hactive hlive (fun hmute => hauth hmute.2) 0x06 0 0x82 7 0x52 (List.replicate n 0)
  simp only [List.length_replicate, hdepth] at hlengths
  obtain ⟨-, -, hsent⟩ := hlengths 240
  obtain ⟨packet, rest, hhanded, hdecode, -, hdeclared⟩ := hsent (by decide)
  obtain ⟨-, hlong, -⟩ := hlengths 241
  obtain ⟨hrefused, -, -⟩ := hlengths 256
  exact ⟨⟨packet, rest, hhanded, hdecode, hdeclared⟩, hlong (by decide) (by decide),
    hrefused (by decide)⟩

end Baseboard.Session
