import Baseboard.Proofs.Codec.Malformed
import Baseboard.Proofs.Ending

/-! What the answers to the requests that manage a session say. An answer that is not taken
is faulted for its data or for its code, and never for anything that the session did. -/
namespace Baseboard

variable {α : Type}

theorem Response.accepted_eq_ok_iff {r x : Response} :
    r.accepted = .ok x ↔ r.code = .completed ∧ x = r := by
  unfold accepted
  by_cases h : r.code = .completed
  · rw [if_pos h]
    exact ⟨fun hx => ⟨h, (Except.ok.inj hx).symm⟩, fun hx => by rw [hx.2]⟩
  · rw [if_neg h]
    exact ⟨nofun, fun hx => absurd hx.1 h⟩

theorem Capabilities.negotiate_of_requiresVersionTwo {c : Capabilities}
    (h : c.requiresVersionTwo = true) (pinned : Option AuthType) :
    c.negotiate pinned = .error .versionTwoRequired := if_pos h

/-- The errors that say something against the data or the code of an answer. -/
inductive Error.Faults : Error → Prop where
  | badLength : Faults .badLength
  | rejected (code : CompletionCode) : Faults (.rejected code)
  | refused (refusal : Refusal) : Faults (.refused refusal)

theorem Response.accepted_faults {r : Response} {e : Error} (h : r.accepted = .error e) :
    e.Faults := by
  unfold accepted at h
  split at h
  · cases h
  · cases h
    exact .rejected _

theorem Response.acceptedFor_faults {r : Response} {command : AppCommand} {e : Error}
    (h : r.acceptedFor command = .error e) : e.Faults := by
  unfold acceptedFor at h
  split at h
  · cases h
  · rename_i found hfound
    cases h
    cases refusal? command r.code with
    | none => exact accepted_faults hfound
    | some refusal => exact .refused refusal

theorem Response.acceptedFor_eq_ok_iff {r x : Response} {command : AppCommand} :
    r.acceptedFor command = .ok x ↔ r.code = .completed ∧ x = r := by
  rw [← accepted_eq_ok_iff, acceptedFor]
  cases r.accepted with
  | ok y => exact Iff.rfl
  | error e => exact ⟨nofun, nofun⟩

/-- What is made of the data of an answer that reports completion. -/
theorem Response.acceptedFor_bind_eq_ok_iff {r : Response} {command : AppCommand}
    {f : Response → Except Error α} {a : α} :
    (r.acceptedFor command).bind f = .ok a ↔ r.code = .completed ∧ f r = .ok a := by
  constructor
  · intro h
    obtain ⟨x, hx, ha⟩ := Reading.bind_eq_ok_iff.mp h
    obtain ⟨hcode, rfl⟩ := acceptedFor_eq_ok_iff.mp hx
    exact ⟨hcode, ha⟩
  · rintro ⟨hcode, ha⟩
    exact Reading.bind_eq_ok_iff.mpr ⟨r, acceptedFor_eq_ok_iff.mpr ⟨hcode, rfl⟩, ha⟩

theorem Capabilities.parse_faults {data : Bytes} {e : Error} (h : parse data = .error e) :
    e.Faults := by
  obtain ⟨-, rfl⟩ := parse_eq_error_iff.mp h
  exact .badLength

theorem Challenge.parse_faults {data : Bytes} {e : Error} (h : parse data = .error e) :
    e.Faults := by
  obtain ⟨-, rfl⟩ := parse_eq_error_iff.mp h
  exact .badLength

theorem Activation.parse_faults {data : Bytes} {e : Error} (h : parse data = .error e) :
    e.Faults := by
  obtain ⟨-, rfl⟩ := parse_eq_error_iff.mp h
  exact .badLength

theorem Response.acceptedFor_bind_faults {r : Response} {command : AppCommand}
    {f : Response → Except Error α} {e : Error} (hf : ∀ x, f x = .error e → e.Faults)
    (h : (r.acceptedFor command).bind f = .error e) : e.Faults := by
  cases hr : r.acceptedFor command with
  | error found =>
    rw [hr] at h
    cases h
    exact acceptedFor_faults hr
  | ok x =>
    rw [hr] at h
    exact hf x h

namespace Session

/-- What a controller says it supports. -/
def capabilitiesOf (response : Response) : Except Error Capabilities :=
  response.accepted.bind fun r => Capabilities.parse r.payload

theorem capabilitiesOf_eq_ok_iff {response : Response} {c : Capabilities} :
    capabilitiesOf response = .ok c ↔
      response.code = .completed ∧ Capabilities.parse response.payload = .ok c := by
  constructor
  · intro h
    obtain ⟨x, hx, hparse⟩ := Reading.bind_eq_ok_iff.mp h
    obtain ⟨hcode, rfl⟩ := Response.accepted_eq_ok_iff.mp hx
    exact ⟨hcode, hparse⟩
  · rintro ⟨hcode, hparse⟩
    exact Reading.bind_eq_ok_iff.mpr ⟨response, Response.accepted_eq_ok_iff.mpr ⟨hcode, rfl⟩, hparse⟩

theorem capabilitiesOf_faults {response : Response} {e : Error}
    (h : capabilitiesOf response = .error e) : e.Faults := by
  unfold capabilitiesOf at h
  cases haccepted : response.accepted with
  | error found =>
    rw [haccepted] at h
    cases h
    exact Response.accepted_faults haccepted
  | ok x =>
    rw [haccepted] at h
    exact Capabilities.parse_faults h

/-- The challenge that a controller issues. -/
def challengeOf (response : Response) : Except Error Challenge :=
  (response.acceptedFor .sessionChallenge).bind (Challenge.parse ·.payload)

/-- What a controller says when it activates a session. -/
def activationOf (response : Response) : Except Error Activation :=
  (response.acceptedFor .activateSession).bind (Activation.parse ·.payload)

/-- The level that an answer grants. -/
def levelOf (asked : Privilege) (response : Response) : Except Error Privilege :=
  (response.acceptedFor .setPrivilege).map fun accepted =>
    (accepted.payload.head?.bind Privilege.ofCode?).getD asked

theorem levelOf_faults {asked : Privilege} {response : Response} {e : Error}
    (h : levelOf asked response = .error e) : e.Faults := by
  unfold levelOf at h
  cases haccepted : response.acceptedFor .setPrivilege with
  | error found =>
    rw [haccepted] at h
    cases h
    exact Response.acceptedFor_faults haccepted
  | ok accepted =>
    rw [haccepted] at h
    cases h

end Session
end Baseboard
