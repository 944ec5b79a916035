import Baseboard.Bridge
import Baseboard.Proofs.Codec.Message

/-! Envelopes: a request that was put into the envelopes of its route comes out of
them again at the target, and so does the response that the controllers on the way
hand back. -/
namespace Baseboard

namespace Route

@[simp] theorem payload_sealed (sequence : UInt8) (message : Bytes) (e : Envelope) :
    (sealed sequence message e).payload = (0x40 ||| (e.channel &&& 0x0F)) :: message := rfl

@[simp] theorem isSendMessage_sealed (sequence : UInt8) (message : Bytes) (e : Envelope) :
    (sealed sequence message e).isSendMessage = true := by
  have hn : (sealed sequence message e).netFn = NetworkFunction.app.request :=
    Request.netFn_raw NetworkFunction.app.request 0 AppCommand.sendMessage.code none
  have hc : (sealed sequence message e).command = AppCommand.sendMessage.code := rfl
  rw [Request.isSendMessage, hn, hc]
  rfl

@[simp] theorem sequence_sealed (sequence : UInt8) (message : Bytes) (e : Envelope) :
    (sealed sequence message e).sequence = sequence &&& 0x3F :=
  Request.sequence_numbered _ sequence

@[simp] theorem netFn_addressed (route : Route) (r : Request) :
    (route.addressed r).netFn = r.netFn := by
  unfold addressed
  split <;> rfl

@[simp] theorem unit_addressed (route : Route) (r : Request) :
    (route.addressed r).unit = r.unit := by
  unfold addressed
  split <;> rfl

@[simp] theorem sequence_addressed (route : Route) (r : Request) :
    (route.addressed r).sequence = r.sequence := by
  unfold addressed
  split <;> rfl

@[simp] theorem command_addressed (route : Route) (r : Request) :
    (route.addressed r).command = r.command := by
  unfold addressed
  split <;> rfl

@[simp] theorem responder_addressed (route : Route) (r : Request) :
    (route.addressed r).responder = route.target := by
  unfold addressed
  split <;> rfl

@[simp] theorem payload_addressed (route : Route) (r : Request) :
    (route.addressed r).payload = r.payload := by
  unfold addressed
  split <;> rfl

private theorem length_foldl_sealed (sequence : UInt8) (es : List Envelope) (message : Bytes) :
    (es.foldl (fun message e => (sealed sequence message e).encode) message).length =
      message.length + 8 * es.length := by
  induction es generalizing message with
  | nil => rfl
  | cons e es ih =>
    rw [List.foldl_cons, ih, Request.length_encode, payload_sealed, List.length_cons,
      List.length_cons]
    omega

/-- Whatever takes a message out of one envelope takes it out of a number of them, of which the
first is the innermost. -/
theorem foldl_sealed_under {α : Type} {f : Bytes → Nat → α}
    (hf : ∀ sequence message e depth,
      f (sealed sequence message e).encode (depth + 1) = f message depth)
    (sequence : UInt8) (es : List Envelope) (message : Bytes) (depth : Nat) :
    f (es.foldl (fun message e => (sealed sequence message e).encode) message)
      (es.length + depth) = f message depth := by
  induction es generalizing message depth with
  | nil => rw [List.foldl_nil, List.length_nil, Nat.zero_add]
  | cons e es ih =>
    have hdepth : (e :: es).length + depth = es.length + (depth + 1) := by
      rw [List.length_cons]
      omega
    rw [List.foldl_cons, hdepth, ih]
    exact hf sequence message e depth

/-- Each envelope adds eight bytes to a message. -/
theorem length_enclose (route : Route) (r : Request) :
    (route.enclose r).length = r.payload.length + 7 + 8 * route.depth := by
  rw [enclose, length_foldl_sealed, Request.length_encode, payload_addressed, length_envelopes]

end Route

namespace Request

theorem disclose_encode (r : Request) (depth : Nat) :
    disclose r.encode depth = r.asRead.within depth := by
  rw [disclose, parse_encode]
  rfl

/-- Taking a message out of an envelope. -/
theorem disclose_sealed (sequence : UInt8) (message : Bytes) (e : Envelope) (depth : Nat) :
    disclose (Route.sealed sequence message e).encode (depth + 1) = disclose message depth := by
  have hs : (Route.sealed sequence message e).asRead.isSendMessage = true :=
    Route.isSendMessage_sealed sequence message e
  have hp : (Route.sealed sequence message e).asRead.payload =
      (0x40 ||| (e.channel &&& 0x0F)) :: message := by simp
  have hm : Reading.suffix ((0x40 ||| (e.channel &&& 0x0F)) :: message) 1 = .ok message :=
    Reading.suffix_of_le (by simp)
  rw [disclose_encode, within, hs, hp, hm]
  rfl

theorem disclose_foldl_sealed (sequence : UInt8) (es : List Envelope) (message : Bytes)
    (depth : Nat) :
    disclose (es.foldl (fun message e => (Route.sealed sequence message e).encode) message)
      (es.length + depth) = disclose message depth :=
  Route.foldl_sealed_under disclose_sealed sequence es message depth

/-- The target gets the request that was sent to it, whatever the way. -/
theorem disclose_enclose (route : Route) (r : Request) :
    disclose (route.enclose r) route.depth = .ok (route.addressed r).asRead := by
  have h := disclose_foldl_sealed r.sequence route.envelopes (route.addressed r).encode 0
  rw [Route.length_envelopes, Nat.add_zero, disclose_encode] at h
  exact h

private theorem disclose_foldl_sealed_of_le {sequence : UInt8}
    (hsequence : sequence &&& 0x3F = sequence) (es : List Envelope) {message : Bytes}
    (hinside : ∃ q, disclose message 0 = .ok q ∧ q.sequence = sequence) {depth : Nat}
    (hdepth : depth ≤ es.length) :
    ∃ q, disclose (es.foldl (fun message e => (Route.sealed sequence message e).encode) message)
      depth = .ok q ∧ q.sequence = sequence := by
  -- Under all the envelopes is the message itself, under fewer a message of the same kind.
  induction es generalizing message with
  | nil =>
    rw [Nat.le_zero.mp hdepth]
    exact hinside
  | cons e es ih =>
    rcases Nat.lt_or_eq_of_le hdepth with hless | rfl
    · refine ih ⟨_, disclose_encode _ 0, ?_⟩ (Nat.le_of_lt_succ hless)
      exact (Route.sequence_sealed sequence message e).trans hsequence
    · have hall := disclose_foldl_sealed sequence (e :: es) message 0
      rw [Nat.add_zero] at hall
      rw [hall]
      exact hinside

/-- Under every number of envelopes of a route there is a request, and it bears the number of
the request that was sent. -/
theorem disclose_enclose_of_le (route : Route) (r : Request) {depth : Nat}
    (h : depth ≤ route.depth) :
    ∃ q, disclose (route.enclose r) depth = .ok q ∧ q.sequence = r.sequence := by
  refine disclose_foldl_sealed_of_le (high_sixBits r.sequenceByte) route.envelopes
    ⟨_, disclose_encode _ 0, Route.sequence_addressed route r⟩ ?_
  rw [Route.length_envelopes]
  exact h

end Request

namespace Response

@[simp] theorem netFn_reply (r : Request) (code : CompletionCode) (data : Option Bytes) :
    (reply r code data).netFn = r.netFn ||| 0x01 := by
  have hodd : (r.netFn ||| (0x01 : UInt8)) &&& 0x3F = r.netFn ||| 0x01 := by
    have hn : r.netFn.toNat < 2 ^ 6 := by
      have hb := r.function.toNat_lt
      rw [Request.netFn, toNat_high]
      omega
    apply sixBits_of_lt
    rw [UInt8.toNat_or]
    exact Nat.or_lt_two_pow hn (by decide)
  rw [← hodd]
  exact high_packed (r.netFn ||| 0x01) r.function

@[simp] theorem sequence_reply (r : Request) (code : CompletionCode) (data : Option Bytes) :
    (reply r code data).sequence = r.sequence := by
  have h := high_packed r.sequence 0
  rw [UInt8.zero_and, UInt8.or_zero] at h
  exact h.trans (high_sixBits r.sequenceByte)

/-- A message is not empty, so an envelope is never read as an acknowledgement. -/
theorem encode_ne_nil (r : Response) : r.encode ≠ [] := by
  simp [encode, head]

@[simp] theorem payload_enclose (inner : Response) (request : Request) :
    (inner.enclose request).payload = inner.encode := rfl

/-- A response in an envelope is read as it was written. -/
@[simp] theorem asRead_enclose (inner : Response) (request : Request) :
    (inner.enclose request).asRead = inner.enclose request := by
  rw [asRead, payload_enclose, if_neg inner.encode_ne_nil]
  rfl

/-- Taking a response out of the answer to a request to send on. -/
theorem disclose_enclose (inner : Response) {request : Request}
    (h : request.isSendMessage = true) (depth : Nat) :
    (inner.enclose request).disclose (depth + 1) = inner.asRead.disclose depth := by
  simp only [Request.isSendMessage, Bool.and_eq_true, beq_iff_eq] at h
  have hn : (inner.enclose request).netFn = NetworkFunction.app.response := by
    rw [enclose, netFn_reply, h.1]
    rfl
  have hc : (inner.enclose request).command = AppCommand.sendMessage.code := h.2
  have hempty : (inner.enclose request).payload.isEmpty = false := by
    rw [payload_enclose, List.isEmpty_eq_false_iff]
    exact inner.encode_ne_nil
  rw [disclose, if_neg (by simp [hn, hc]), if_neg (by simp [enclose, reply]), hempty,
    payload_enclose, parse_encode]
  rfl

end Response
end Baseboard
