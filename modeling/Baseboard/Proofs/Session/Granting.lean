import Baseboard.Proofs.Session.Agreement

/-! Privilege levels that the controller grants. A session takes up the level that it is granted
when it is opened. What is granted later is returned to whoever asked for it, but the session goes
on signing its frames for the level that it had. -/
namespace Baseboard

theorem AuthType.code_inj {t t' : AuthType} : t.code = t'.code ↔ t = t' := by
  cases t <;> cases t' <;> decide

/-- The authentication type that the frames of a session should go out under at a given level, if
the session signs them by level. -/
def Standing.authAt (s : Standing) (level : Privilege) : AuthType :=
  if level.exceeds .user then s.authType else .none

namespace Standing

variable {s : Standing} {level : Privilege}

theorem sessionAuth_of_userLevel (h : s.policy = .userLevel) : s.sessionAuth = s.authAt s.privilege := by
  rw [sessionAuth, h]
  rfl

theorem authAt_eq_iff (level level' : Privilege) :
    s.authAt level = s.authAt level' ↔
      s.authType = .none ∨ level.exceeds .user = level'.exceeds .user := by
  unfold authAt
  cases level.exceeds .user <;> cases level'.exceeds .user <;> simp [eq_comm]

end Standing

namespace Session

variable {s t u : Session} {asked granted : Privilege}

/-- An active session stays as it is when a level is granted, and as long as it is active. -/
theorem setPrivilege_akin (hactive : s.phase = .active) (h : setPrivilege asked s = .ok granted t) :
    t.phase = .active ∧ s.Akin t.toStanding := by
  have hends : Ends (setPrivilege asked) s fun _ t => s.Recounted t.toStanding :=
    (ends_setPrivilege ..).mpr (manage_recounted ..)
  have hrecounted := hends.of_ok h
  exact ⟨hrecounted.phase_eq.trans hactive, hrecounted.akin⟩

/-- Whether an active session stands at the level that it was granted hangs on the level that it had
before: it keeps that level, whatever is done with it, until it ends. If it signs its frames by
level, they are signed for the level that was granted only as far as it makes no difference. -/
theorem granted_level_iff (hactive : s.phase = .active)
    (hgranted : setPrivilege asked s = .ok granted t) :
    t.phase = .active ∧
    (∀ u : Session, t.Reaches u → u.phase = .active →
      (u.privilege = granted ↔ s.privilege = granted)) ∧
    (s.policy = .userLevel →
      ∀ u : Session, t.Reaches u → ∀ use ∈ t.since u, use.InSession → ∀ frame ∈ use.frames,
        ∃ p, Packet.decode frame = .ok p ∧
          (p.header.authType = (s.authAt granted).code ↔
            s.authType = .none ∨ s.privilege.exceeds .user = granted.exceeds .user)) := by
  obtain ⟨hphase, hakin⟩ := setPrivilege_akin hactive hgranted
  refine ⟨hphase, fun u hu huactive => ?_, fun hpolicy u hu use huse hsession frame hframe => ?_⟩
  · have hkept : t.Akin u.toStanding :=
      (hu.continues hphase).kept.resolve_right fun hclosed => by
        cases huactive.symm.trans hclosed
    rw [(hakin.trans hkept).privilege_eq]
  · obtain ⟨hkept, hmade⟩ := (hu.continues hphase).uses use huse hsession.1
    have hstands := hakin.trans hkept
    obtain ⟨p, hp, hauthType⟩ := hmade.authType_eq hsession frame hframe
    refine ⟨p, hp, ?_⟩
    have hsame : use.standing.sessionAuth = s.authAt s.privilege := by
      rw [Standing.sessionAuth_of_userLevel (hstands.policy_eq.trans hpolicy), Standing.authAt,
        hstands.privilege_eq, hstands.authType_eq]
      rfl
    rw [hauthType, hsame, AuthType.code_inj]
    exact Standing.authAt_eq_iff ..

/-- A session that signs its frames by level and has been opened for an administrator. The
controller is going to grant it `level`, and then to tell its device id. -/
def leveled (level : Privilege) : Session :=
  let granting (r : Request) (n : UInt8) (data : Bytes) :=
    responding (.reply (r.numbered n) .completed (some data))
  (scripted sampleConfig sampleConfig_valid
    [granting (.authCapabilities 0x8E .administrator) 0 [0x0E, 0x10, 0x08, 0, 0, 0, 0, 0],
      granting (.sessionChallenge .password (Field.fit [])) 1 (1 :: List.replicate 19 0),
      granting (.activateSession .password .administrator (Field.fit []) 1) 2
        [4, 1, 0, 0, 0, 1, 0, 0, 0, 4],
      granting (.setPrivilege .administrator) 3 [4],
      granting (.setPrivilege level) 4 [level.code],
      granting .deviceId 5 [0x20]]).run [.establish]

/-- An administrator who asks for the same level again has it, and so has whatever becomes of the
session. The frames are signed for it. -/
theorem granted_level_administrator :
    let s := leveled .administrator
    s.phase = .active ∧ s.policy = .userLevel ∧ s.authType = .password ∧
      ∃ t, setPrivilege .administrator s = .ok .administrator t ∧
        (∀ u : Session, t.Reaches u → u.phase = .active → u.privilege = .administrator) ∧
        ∀ u : Session, t.Reaches u → ∀ use ∈ t.since u, use.InSession → ∀ frame ∈ use.frames,
          ∃ p, Packet.decode frame = .ok p ∧ p.header.authType = AuthType.password.code := by
  intro s
  have hactive : s.phase = .active := by decide +kernel
  have hpolicy : s.policy = .userLevel := by decide +kernel
  have hauth : s.authType = .password := by decide +kernel
  have hlevel : s.privilege = .administrator := by decide +kernel
  obtain ⟨granted, t, h, hgranted⟩ : ∃ granted t, setPrivilege .administrator s = .ok granted t ∧
      decide (granted = .administrator) = true := exists_of_gives (by decide +kernel)
  obtain rfl : granted = .administrator := of_decide_eq_true hgranted
  obtain ⟨-, hkept, hsigned⟩ := granted_level_iff hactive h
  refine ⟨hactive, hpolicy, hauth, t, h, fun u hu huactive => (hkept u hu huactive).mpr hlevel, ?_⟩
  intro u hu use huse hsession frame hframe
  obtain ⟨p, hp, hiff⟩ := hsigned hpolicy u hu use huse hsession frame hframe
  refine ⟨p, hp, (hiff.mpr (.inr (by rw [hlevel]))).trans ?_⟩
  rw [Standing.authAt, hauth]
  rfl

/-- An administrator who is granted no more than the level of a user still counts as an
administrator, and the next frame is signed although no frame at that level is to be. -/
theorem granted_user_not_taken :
    let s := leveled .user
    s.phase = .active ∧ s.policy = .userLevel ∧
      ∃ t, setPrivilege .user s = .ok .user t ∧ t.privilege = .administrator ∧
        Privilege.user.exceeds .user = false ∧
        ∃ frame p, t.handedOver (after (command .deviceId) t) = [frame] ∧
          Packet.decode frame = .ok p ∧ p.header.authType = AuthType.password.code := by
  intro s
  obtain ⟨granted, t, h, hseen⟩ : ∃ granted t, setPrivilege .user s = .ok granted t ∧
      decide (granted = .user ∧ t.privilege = .administrator ∧
        (t.handedOver (after (command .deviceId) t)).map
          (fun frame => (Packet.decode frame).toOption.map fun p => p.header.authType) =
            [some AuthType.password.code]) = true := exists_of_gives (by decide +kernel)
  obtain ⟨rfl, hlevel, hframes⟩ := of_decide_eq_true hseen
  obtain ⟨frame, hone, hdecoded⟩ := List.map_eq_singleton_iff.mp hframes
  obtain ⟨p, hp, hauth⟩ := Option.map_eq_some_iff.mp hdecoded
  refine ⟨by decide +kernel, by decide +kernel, t, h, hlevel, by decide, frame, p, hone, ?_, hauth⟩
  cases hdecode : Packet.decode frame with
  | ok found =>
    rw [hdecode] at hp
    exact congrArg Except.ok (Option.some.inj hp)
  | error e =>
    rw [hdecode] at hp
    cases hp

end Session
end Baseboard
