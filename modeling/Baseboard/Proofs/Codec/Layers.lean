import Baseboard.Proofs.Codec.Canonical
import Baseboard.Proofs.Codec.Envelope

/-! The layers of a bridged request. Each envelope that is taken off shows a request to send on,
addressed to the next controller of the route and meant for its channel, until the request itself
is left, as its target gets it. -/
namespace Baseboard

namespace Route

/-- The three kinds of routes: to the controller of the session itself, by way of it, and by way
of another one as well. -/
theorem envelopes_cases (route : Route) :
    (route.depth = 0 ∧ route.envelopes = []) ∨
    (route.depth = 1 ∧ route.envelopes = [⟨route.controller, remoteSoftware, route.channel⟩]) ∨
    ∃ address channel, route.transit = some (address, channel) ∧ route.depth = 2 ∧
      route.envelopes = [⟨address, route.controller, route.channel⟩,
        ⟨route.controller, remoteSoftware, channel⟩] := by
  obtain ⟨controller, target, channel, transit⟩ := route
  by_cases ht : target = controller
  · exact .inl (by simp [envelopes, depth, ht])
  refine .inr ?_
  rcases transit with _ | ⟨address, via⟩
  · exact .inl (by simp [envelopes, depth, ht])
  by_cases hv : address = controller
  · exact .inl (by simp [envelopes, depth, ht, hv])
  · exact .inr ⟨address, via, rfl, by simp [envelopes, depth, ht, hv]⟩

/-- The envelope `e` stands where a controller finds it that has taken `k` envelopes off. The
outermost one is for the controller of the session and comes from the remote software; the one
inside is for the controller on the way and comes from that of the session. The innermost one
names the channel of the target, the other one that of the transit. -/
structure Leg (route : Route) (k : Nat) (e : Envelope) : Prop where
  outermost : k = 0 → e.responder = route.controller ∧ e.requester = remoteSoftware
  inside : 0 < k →
    e.requester = route.controller ∧ ∃ channel, route.transit = some (e.responder, channel)
  innermost : k + 1 = route.depth → e.channel = route.channel
  outside : k + 1 < route.depth → ∃ address, route.transit = some (address, e.channel)

/-- The envelopes of a route stand where they should. -/
theorem leg_of_envelopes {route : Route} {inner outer : List Envelope} {e : Envelope}
    (h : route.envelopes = inner ++ e :: outer) : route.Leg outer.length e := by
  rcases route.envelopes_cases with ⟨-, hnil⟩ | ⟨hdepth, hone⟩ | ⟨address, channel, hvia, hdepth, htwo⟩
  · rw [hnil] at h
    simp at h
  · rw [hone] at h
    match inner, h with
    | [], h =>
      obtain ⟨rfl, rfl⟩ := List.cons.inj h
      exact ⟨fun _ => ⟨rfl, rfl⟩, nofun, fun _ => rfl, fun hlt => by simp [hdepth] at hlt⟩
    | _ :: inner, h => simp at h
  · rw [htwo] at h
    match inner, h with
    | [], h =>
      obtain ⟨rfl, rfl⟩ := List.cons.inj h
      exact ⟨nofun, fun _ => ⟨rfl, channel, hvia⟩, fun _ => rfl, fun hlt => by simp [hdepth] at hlt⟩
    | [_], h =>
      obtain ⟨-, h⟩ := List.cons.inj h
      obtain ⟨rfl, rfl⟩ := List.cons.inj h
      exact ⟨fun _ => ⟨rfl, rfl⟩, nofun, fun heq => by simp [hdepth] at heq, fun _ => ⟨address, hvia⟩⟩
    | _ :: _ :: inner, h => simp at h

end Route

namespace Request

/-- Whether a request asks for a message to be sent on, under a sequence number and as an envelope
says. -/
structure SendsOn (q : Request) (sequence : UInt8) (e : Envelope) : Prop where
  isSendMessage : q.isSendMessage = true
  sequence_eq : q.sequence = sequence
  responder_eq : q.responder = e.responder
  requester_eq : q.requester = e.requester
  channel_eq : q.payload.head? = some (0x40 ||| (e.channel &&& 0x0F))

theorem sendsOn_sealed {sequence : UInt8} (hsequence : sequence &&& 0x3F = sequence)
    (message : Bytes) (e : Envelope) :
    (Route.sealed sequence message e).asRead.SendsOn sequence e where
  isSendMessage := Route.isSendMessage_sealed sequence message e
  sequence_eq := (Route.sequence_sealed sequence message e).trans hsequence
  responder_eq := rfl
  requester_eq := rfl
  channel_eq := by rw [asRead_payload, Route.payload_sealed, List.head?_cons]

/-- The bytes of a message inside a number of envelopes. An envelope is the seven bytes before a
message, of which the last names the channel, and the checksum after it. -/
def inside : Bytes → Nat → Bytes
  | message, 0 => message
  | message, depth + 1 => inside (message.drop 7).dropLast depth

theorem inside_sealed (sequence : UInt8) (message : Bytes) (e : Envelope) (depth : Nat) :
    inside (Route.sealed sequence message e).encode (depth + 1) = inside message depth := by
  have hdrop : (Route.sealed sequence message e).encode.drop 7 =
      message ++ [checksum (Route.sealed sequence message e).body] := rfl
  rw [inside, hdrop, List.dropLast_concat]

theorem disclose_zero (message : Bytes) : disclose message 0 = parse message := by
  rw [disclose]
  cases parse message <;> rfl

end Request

namespace Route

/-- The message that the controllers get which have taken all but the envelopes `inner` off. -/
private def layer (route : Route) (r : Request) (inner : List Envelope) : Bytes :=
  inner.foldl (fun message e => (sealed r.sequence message e).encode) (route.addressed r).encode

variable {route : Route} {r : Request} {inner outer : List Envelope}

private theorem enclose_eq (h : route.envelopes = inner ++ outer) :
    route.enclose r =
      outer.foldl (fun message e => (sealed r.sequence message e).encode) (route.layer r inner) := by
  rw [enclose, h, List.foldl_append, layer]

private theorem inside_layer (h : route.envelopes = inner ++ outer) :
    Request.inside (route.enclose r) outer.length = route.layer r inner := by
  rw [enclose_eq h]
  exact foldl_sealed_under Request.inside_sealed r.sequence outer (route.layer r inner) 0

private theorem disclose_layer (h : route.envelopes = inner ++ outer) :
    Request.disclose (route.enclose r) outer.length = Request.parse (route.layer r inner) := by
  rw [enclose_eq h, ← Request.disclose_zero]
  exact Request.disclose_foldl_sealed r.sequence outer (route.layer r inner) 0

/-- Every layer is a request that was written out. -/
private theorem exists_layer_eq (route : Route) (r : Request) (inner : List Envelope) :
    ∃ q : Request, route.layer r inner = q.encode := by
  rcases List.eq_nil_or_concat inner with rfl | ⟨deeper, e, rfl⟩
  · exact ⟨route.addressed r, rfl⟩
  · refine ⟨sealed r.sequence (route.layer r deeper) e, ?_⟩
    rw [layer, List.concat_eq_append, List.foldl_append]
    rfl

/-- A bridged request, layer by layer. It is put into as many envelopes as its route is deep, and
each makes it eight bytes longer. Under fewer of them there is a request to send on that bears the
number of the request and goes where the route says, and under all of them the request itself,
from and to the right addresses and otherwise as it was. In every layer the addressing bytes and
the others each sum to zero. -/
theorem enclose_layers (route : Route) (r : Request) :
    route.envelopes.length = route.depth ∧
    (route.enclose r).length = 7 + r.payload.length + 8 * route.depth ∧
    (∀ k < route.depth, ∃ q e, Request.disclose (route.enclose r) k = .ok q ∧
      q.SendsOn r.sequence e ∧ route.Leg k e) ∧
    Request.disclose (route.enclose r) route.depth = .ok { r with
      responder := route.target
      requester := if route.depth = 0 then r.requester else route.controller
      data := r.data.filter (· ≠ []) } ∧
    ∀ k ≤ route.depth,
      let layer := Request.inside (route.enclose r) k
      Request.parse layer = Request.disclose (route.enclose r) k ∧
        byteSum (layer.take 3) = 0 ∧ byteSum (layer.drop 3) = 0 := by
  have hsplit (k : Nat) (hk : k ≤ route.depth) :
      ∃ inner outer, route.envelopes = inner ++ outer ∧ outer.length = k := by
    refine ⟨route.envelopes.take (route.depth - k), route.envelopes.drop (route.depth - k),
      (List.take_append_drop ..).symm, ?_⟩
    rw [List.length_drop, length_envelopes]
    omega
  refine ⟨route.length_envelopes, ?_, fun k hk => ?_, ?_, fun k hk => ?_⟩
  · rw [length_enclose, Nat.add_comm 7]
  · obtain ⟨inner, _ | ⟨e, outer⟩, henvelopes, hlength⟩ := hsplit (k + 1) hk
    · cases hlength
    obtain rfl : outer.length = k := Nat.succ.inj hlength
    have hassoc : route.envelopes = (inner ++ [e]) ++ outer := by
      rw [henvelopes, List.append_assoc, List.singleton_append]
    have hlayer : route.layer r (inner ++ [e]) =
        (sealed r.sequence (route.layer r inner) e).encode := by
      rw [layer, List.foldl_append]
      rfl
    have hsequence : r.sequence &&& 0x3F = r.sequence := high_sixBits r.sequenceByte
    refine ⟨_, e, ?_, Request.sendsOn_sealed hsequence (route.layer r inner) e,
      leg_of_envelopes henvelopes⟩
    rw [disclose_layer hassoc, hlayer, Request.parse_encode]
  · rw [Request.disclose_enclose, Request.asRead_eq, addressed]
    split <;> rfl
  · obtain ⟨inner, outer, henvelopes, rfl⟩ := hsplit k hk
    obtain ⟨q, hq⟩ := exists_layer_eq route r inner
    have hchecked := Request.codec.checked_of_parse (Request.parse_encode q)
    intro layer
    have hlayer : layer = route.layer r inner := inside_layer henvelopes
    rw [disclose_layer henvelopes, hlayer, hq]
    exact ⟨rfl, hchecked.head_sum, hchecked.body_sum⟩

/-- On its way to the target at `0x82`, channel 7, by way of `0x72`, the request inside the outer
envelope is for the controller in between. -/
theorem enclose_layers_transit :
    let route : Route := ⟨0x20, 0x82, 7, some (0x72, 6)⟩
    let r := (Request.raw 0x04 0 0x2D (some [0x30])).numbered 5
    (route.enclose r).length = 24 ∧ ∃ q, Request.disclose (route.enclose r) 1 = .ok q ∧
      q.SendsOn 5 ⟨0x72, 0x20, 7⟩ := by
  intro route r
  obtain ⟨-, hlength, hsends, -, -⟩ := enclose_layers route r
  obtain ⟨q, e, hq, hsendsOn, hleg⟩ := hsends 1 (by decide)
  have hsequence : r.sequence = 5 := by decide
  refine ⟨hlength, q, hq, ?_⟩
  obtain ⟨hrequester, channel, hvia⟩ := hleg.inside Nat.one_pos
  obtain ⟨hresponder, -⟩ := Prod.mk.inj (Option.some.inj hvia)
  have he : e = ⟨0x72, 0x20, 7⟩ := by
    obtain ⟨responder, requester, channel⟩ := e
    cases hresponder
    cases hrequester
    cases hleg.innermost (by decide)
    rfl
  rw [← he, ← hsequence]
  exact hsendsOn

end Route
end Baseboard
