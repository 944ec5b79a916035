import Baseboard.Proofs.Codec.Canonical
import Baseboard.Proofs.Codec.Envelope

/-! What a response to a bridged request turns out to be. Completed answers to requests to send on
are taken off until the response at the target is reached, or one that stands higher up and holds
no further response. -/
namespace Baseboard

namespace Response

/-- Whether a response answers a request to send on. -/
def isSendMessage (r : Response) : Bool :=
  r.netFn == NetworkFunction.app.response && r.command == AppCommand.sendMessage.code

/-- Whether a response is the refusal of a controller to send on. -/
def isRefusal (r : Response) : Bool := r.isSendMessage && r.code != .completed

/-- `Holds outer k inner`: under `k` completed answers to requests to send on, of which
`outer` is the outermost, there is the response `inner`. -/
inductive Holds : Response → Nat → Response → Prop where
  | here (r : Response) : Holds r 0 r
  | under {outer next inner : Response} {k : Nat} (hsend : outer.isSendMessage = true)
      (hcode : outer.code = .completed) (hparse : parse outer.payload = .ok next)
      (h : Holds next k inner) : Holds outer (k + 1) inner

theorem disclose_succ (r : Response) (depth : Nat) :
    r.disclose (depth + 1) =
      if r.isSendMessage = false then .ok .unrelated
      else if r.code ≠ .completed then .ok (.answer r)
      else if r.payload.isEmpty then .ok .acknowledgement
      else parse r.payload >>= fun next => next.disclose depth := by
  have hsend : (r.netFn ≠ NetworkFunction.app.response ∨ r.command ≠ AppCommand.sendMessage.code) ↔
      r.isSendMessage = false := by
    rw [isSendMessage, Bool.and_eq_false_iff, beq_eq_false_iff_ne, beq_eq_false_iff_ne]
  rw [disclose]
  simp only [hsend]
  split
  · rfl
  · split
    · rfl
    · split <;> rfl

/-- What is disclosed one envelope further out: a refusal itself, or what is disclosed in
the message of a completed answer. -/
theorem disclose_succ_eq_answer_iff (r x : Response) (depth : Nat) :
    r.disclose (depth + 1) = .ok (.answer x) ↔ r.isSendMessage = true ∧
      ((r.code ≠ .completed ∧ x = r) ∨
        (r.code = .completed ∧ ∃ next, parse r.payload = .ok next ∧
          next.disclose depth = .ok (.answer x))) := by
  rw [disclose_succ]
  cases hsend : r.isSendMessage with
  | false => simp
  | true =>
  rw [if_neg (by decide)]
  by_cases hcode : r.code = .completed
  · rw [if_neg (not_not_intro hcode)]
    -- An empty payload is an acknowledgement, and no response could be read from it.
    have hempty (h : r.payload = []) (next : Response) : parse r.payload ≠ .ok next := by
      rw [h]
      intro hparse
      cases hparse
    cases hpayload : r.payload with
    | nil => simp [hcode, hempty hpayload, ← hpayload]
    | cons b rest => simp [hcode, Reading.bind_eq_ok_iff]
  · rw [if_pos hcode]
    simp [hcode, eq_comm]

/-- What is disclosed for the answer is the response under all the envelopes, or a refusal
under fewer of them. -/
theorem disclose_eq_answer_iff (r x : Response) (depth : Nat) :
    r.disclose depth = .ok (.answer x) ↔
      ∃ k ≤ depth, r.Holds k x ∧ (k < depth → x.isRefusal = true) := by
  induction depth generalizing r with
  | zero =>
    rw [disclose, Except.ok.injEq, Disclosure.answer.injEq]
    constructor
    · rintro rfl
      exact ⟨0, Nat.le_refl 0, .here r, fun h => absurd h (Nat.lt_irrefl 0)⟩
    · rintro ⟨k, hk, h, -⟩
      obtain rfl := Nat.le_zero.mp hk
      cases h
      rfl
  | succ depth ih =>
    rw [disclose_succ_eq_answer_iff]
    constructor
    · rintro ⟨hsend, ⟨hcode, rfl⟩ | ⟨hcode, next, hparse, h⟩⟩
      · refine ⟨0, Nat.zero_le _, .here _, fun _ => ?_⟩
        rw [isRefusal, hsend, Bool.true_and, bne_iff_ne]
        exact hcode
      · obtain ⟨k, hk, hholds, hrefusal⟩ := (ih next).mp h
        exact ⟨k + 1, Nat.succ_le_succ hk, .under hsend hcode hparse hholds,
          fun hlt => hrefusal (Nat.lt_of_succ_lt_succ hlt)⟩
    · rintro ⟨k, hk, hholds, hrefusal⟩
      cases hholds with
      | here =>
        have h := hrefusal (Nat.succ_pos depth)
        rw [isRefusal, Bool.and_eq_true, bne_iff_ne] at h
        exact ⟨h.1, .inl ⟨h.2, rfl⟩⟩
      | @under _ next _ k hsend hcode hparse hholds =>
        refine ⟨hsend, .inr ⟨hcode, next, hparse, (ih next).mpr ⟨k, ?_, hholds, ?_⟩⟩⟩
        · exact Nat.le_of_succ_le_succ hk
        · exact fun hlt => hrefusal (Nat.succ_lt_succ hlt)

/-- What the controllers on the way make of a response: the answer to each of `requests` around
it, to the first of them innermost. -/
def nestedIn (inner : Response) (requests : List Request) : Response := requests.foldl enclose inner

theorem asRead_nestedIn {inner : Response} (h : inner.asRead = inner) (requests : List Request) :
    (inner.nestedIn requests).asRead = inner.nestedIn requests := by
  rcases List.eq_nil_or_concat requests with rfl | ⟨before, last, rfl⟩
  · exact h
  · rw [nestedIn, List.concat_eq_append, List.foldl_append, List.foldl_cons, List.foldl_nil,
      asRead_enclose]

/-- Taking a response out of the answers to a number of requests to send on. -/
theorem disclose_nestedIn {requests : List Request} (hsend : ∀ q ∈ requests, q.isSendMessage = true)
    (inner : Response) (depth : Nat) :
    (inner.nestedIn requests).asRead.disclose (requests.length + depth) =
      inner.asRead.disclose depth := by
  induction requests generalizing inner depth with
  | nil => rw [nestedIn, List.foldl_nil, List.length_nil, Nat.zero_add]
  | cons q rest ih =>
    obtain ⟨hq, hrest⟩ := List.forall_mem_cons.mp hsend
    have hdepth : (q :: rest).length + depth = rest.length + (depth + 1) := by
      rw [List.length_cons]
      omega
    have hnested : inner.nestedIn (q :: rest) = (inner.enclose q).nestedIn rest := rfl
    rw [hdepth, hnested, ih hrest, asRead_enclose]
    exact disclose_enclose inner hq depth

/-- A response that comes back inside the completed answers to a number of requests to send on is
the answer when nothing is left to be taken off. Before that it answers no bridged request unless
it answers a request to send on itself. Then it is the answer when it refuses, and an
acknowledgement when it completes and holds nothing. What it holds otherwise is looked at in its
place, one envelope further in, and must be a message that can be read. -/
theorem disclose_nestedIn_cases (x : Response) (hdata : x.data ≠ some []) (requests : List Request)
    (hsend : ∀ q ∈ requests, q.isSendMessage = true) (depth : Nat) :
    (requests.length = depth → (x.nestedIn requests).disclose depth = .ok (.answer x)) ∧
    (requests.length < depth →
      (x.isSendMessage = false → (x.nestedIn requests).disclose depth = .ok .unrelated) ∧
      (x.isSendMessage = true → x.code ≠ .completed →
        (x.nestedIn requests).disclose depth = .ok (.answer x)) ∧
      (x.isSendMessage = true → x.code = .completed → x.payload = [] →
        (x.nestedIn requests).disclose depth = .ok .acknowledgement) ∧
      (x.isSendMessage = true → x.code = .completed → x.payload ≠ [] →
        (∀ e, parse x.payload = .error e → (x.nestedIn requests).disclose depth = .error e) ∧
        ∀ next, parse x.payload = .ok next →
          (x.nestedIn requests).disclose depth = next.disclose (depth - requests.length - 1))) := by
  have hread : x.asRead = x := (asRead_eq_self_iff x).mpr hdata
  have hinside (left : Nat) :
      (x.nestedIn requests).disclose (requests.length + left) = x.disclose left := by
    have h := disclose_nestedIn hsend x left
    rwa [asRead_nestedIn hread, hread] at h
  refine ⟨?_, fun hlt => ?_⟩
  · rintro rfl
    exact hinside 0
  obtain ⟨left, rfl⟩ := Nat.exists_eq_add_of_lt hlt
  have hleft : requests.length + left + 1 - requests.length - 1 = left := by omega
  rw [hleft, Nat.add_assoc, hinside, disclose_succ]
  refine ⟨fun hother => ?_, fun hown hcode => ?_, fun hown hcode hempty => ?_,
    fun hown hcode hfull => ?_⟩
  · rw [if_pos hother]
  · rw [hown, if_neg (by decide), if_pos hcode]
  · rw [hown, hcode, hempty]
    rfl
  · have hmessage : x.payload.isEmpty = false := List.isEmpty_eq_false_iff.mpr hfull
    rw [hown, hcode, hmessage]
    refine ⟨fun e he => ?_, fun next hnext => ?_⟩
    · rw [he]
      rfl
    · rw [hnext]
      rfl

/-- Two bytes come back in three envelopes, where the third should hold a message. To whoever
waits for what two envelopes hold, the third one is the answer. -/
theorem disclose_nestedIn_tooShort :
    let x := reply (Route.sealed 4 [] ⟨0x82, 0x20, 6⟩) .completed (some [1, 2])
    let requests := [Route.sealed 4 [] ⟨0x82, 0x20, 7⟩, Request.sendMessage 0 [0x20]]
    (x.nestedIn requests).disclose 2 = .ok (.answer x) ∧
      (x.nestedIn requests).disclose 3 = .error .tooShort := by
  intro x requests
  have hdata : x.data ≠ some [] := by decide
  have hsend : ∀ q ∈ requests, q.isSendMessage = true := by decide
  obtain ⟨hanswer, -⟩ := disclose_nestedIn_cases x hdata requests hsend 2
  obtain ⟨-, hinside⟩ := disclose_nestedIn_cases x hdata requests hsend 3
  obtain ⟨-, -, -, hmessage⟩ := hinside (by decide)
  exact ⟨hanswer rfl, (hmessage (by decide) rfl (by decide)).1 .tooShort rfl⟩

end Response
end Baseboard
