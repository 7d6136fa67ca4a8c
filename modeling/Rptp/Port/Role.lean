import Rptp.Bmca.Gate
import Rptp.Port.StateMachine

/-! # The abstract state machine of a port

A `Role` is what a port state is for: which parent or grandmaster it tracks, and nothing else. This
module states the transition table on roles, says what a message can make a port do, and connects
both to the state machine: `dispatch` keeps the role and answers as `Answer` says, and `apply`
moves along the table or panics outside it.
-/

namespace Rptp

open Machine

inductive Role where
  | initializing
  | listening
  | slave (parent : ParentPortIdentity)
  | uncalibrated (parent : ParentPortIdentity)
  | master (grandmasterDs : ClockDS)
  | preMaster (grandmasterDs : ClockDS)
  | passive
  | faulty
deriving DecidableEq

namespace Role

/-- What the role lets through of the ungated decision. -/
def gate : Role → BestForeignSnapshot → BmcaDecision → Option BmcaDecision
  | initializing, _, _ => none
  | faulty, _, _ => none
  | listening, .qualified .., decision => some decision
  | listening, .empty, _ => none
  | slave parent, _, .slave p => if parent ≠ p then some (.slave p) else none
  | slave _, _, decision => some decision
  | uncalibrated parent, _, .slave p => if parent ≠ p then some (.slave p) else none
  | uncalibrated _, _, decision => some decision
  | master ds, _, .master m => if m.matchesGrandmaster ds then none else some (.master m)
  | master _, _, decision => some decision
  | preMaster ds, _, .master m => if m.matchesGrandmaster ds then none else some (.master m)
  | preMaster _, _, decision => some decision
  | passive, _, .passive => none
  | passive, _, decision => some decision

/-- The transition table: the successor of a role, where the decision is legal. `d0` is the local
data set that the port last saw. -/
def next (d0 : ClockDS) : Role → StateDecision → Option Role
  | initializing, .initialized => some listening
  | faulty, .faultCleared => some initializing
  | faulty, .faultDetected => some faulty
  | preMaster ds, .qualificationTimeoutExpired => some (master ds)
  | uncalibrated parent, .masterClockSelected _ => some (slave parent)
  | slave parent, .synchronizationFault => some (uncalibrated parent)
  | listening, .announceReceiptTimeoutExpired => some (master d0)
  | slave _, .announceReceiptTimeoutExpired => some (master d0)
  | uncalibrated _, .announceReceiptTimeoutExpired => some (master d0)
  | passive, .announceReceiptTimeoutExpired => some (master d0)
  | initializing, _ => none
  | faulty, _ => none
  | _, .recommendedSlave parent => some (uncalibrated parent)
  | _, .recommendedMaster decision => some (preMaster decision.grandmasterDs)
  | passive, .recommendedPassive => none
  | _, .recommendedPassive => some passive
  | _, .faultDetected => some faulty
  | _, _ => none

/-- The port tracks a parent. -/
def Tracks (parent : ParentPortIdentity) : Role → Prop
  | slave p => p = parent
  | uncalibrated p => p = parent
  | _ => False

/-- The port is on the master side with the given grandmaster. -/
def Announces (grandmasterDs : ClockDS) : Role → Prop
  | master ds => ds = grandmasterDs
  | preMaster ds => ds = grandmasterDs
  | _ => False

/-- Nothing is decided for a port that is not initialized or that is faulty. -/
def Idle : Role → Prop
  | initializing => True
  | faulty => True
  | _ => False

end Role

variable {F R : Type}

namespace PortState

def handover : PortState F R → Handover F R
  | initializing p => ⟨p.port, p.toBmcaParts, p.profile⟩
  | listening p => p.handover
  | slave p => p.handover
  | master p => p.handover
  | preMaster p => p.handover
  | uncalibrated p => p.handover
  | passive p => p.handover
  | faulty p => ⟨p.port, p.toBmcaParts, p.profile⟩

def parts (s : PortState F R) : BmcaParts R := s.handover.parts

def role : PortState F R → Role
  | initializing _ => .initializing
  | listening _ => .listening
  | slave p => .slave p.bmca.parentPortIdentity
  | master p => .master p.bmca.grandmasterDs
  | preMaster p => .preMaster p.bmca.grandmasterDs
  | uncalibrated p => .uncalibrated p.bmca.parentPortIdentity
  | passive _ => .passive
  | faulty _ => .faulty

/-- The port of a state that tracks a parent. -/
def tracking : PortState F R → Option (ParentTrackingPort F R)
  | slave p => some p
  | uncalibrated p => some p
  | _ => none

theorem tracking_eq_none {s : PortState F R} (h : ∀ parent, ¬ s.role.Tracks parent) :
    s.tracking = none := by
  cases s with
  | slave p => exact absurd rfl (h p.bmca.parentPortIdentity)
  | uncalibrated p => exact absurd rfl (h p.bmca.parentPortIdentity)
  | initializing p => rfl
  | listening p => rfl
  | master p => rfl
  | preMaster p => rfl
  | passive p => rfl
  | faulty p => rfl

end PortState

/-- The decisions after which a port tracks a parent. -/
def StateDecision.Enters : StateDecision → Prop
  | recommendedSlave _ => True
  | masterClockSelected _ => True
  | synchronizationFault => True
  | _ => False

theorem Role.not_tracks_of_next {d0 : ClockDS} {r r' : Role} {d : StateDecision}
    (h : r.next d0 d = some r') (hd : ¬ d.Enters) (parent : ParentPortIdentity) :
    ¬ r'.Tracks parent := by
  cases d
  case recommendedSlave | masterClockSelected | synchronizationFault => exact absurd trivial hd
  all_goals cases r <;> cases h <;> exact id

/-- What no message changes about a port. -/
structure PortFrame (F : Type) extends PartsFrame where
  port : DomainPort
  profile : PortProfile F

def PortState.frame (s : PortState F R) : PortFrame F :=
  ⟨s.parts.frame, s.handover.port, s.handover.profile⟩

/-- The calls that a port makes in a role. -/
def Role.Performs (frame : PartsFrame) (r : Role) : Effect F → Prop
  | .sendEvent (.delayReq _) .. | .stampEgress (.delayReq _) => ∃ parent, r.Tracks parent
  | .sendEvent (.twoStepSync _) .. | .stampEgress (.twoStepSync _) => ∃ ds, r = master ds
  | .sendEvent (.oneStepSync _) .. | .stampEgress (.oneStepSync _) => False
  | .sendGeneral (.announce msg) .. => r = master msg.foreignClockDs
  | .sendGeneral (.followUp _) .. | .sendGeneral (.delayResp _) .. => ∃ ds, r = master ds
  | .servoFeed _ | .recordOffsetFromMaster _ | .step _ | .adjust _ => ∃ parent, r.Tracks parent
  | .trigger port e =>
    ¬ r.Idle ∧ port = frame.receivedOnPort ∧ e.ReceivedBy frame.receiver

theorem Role.performs_onClock {frame : PartsFrame} {r : Role} (parent : ParentPortIdentity)
    (h : r.Tracks parent) {e : Effect F} (he : e.OnClock) : r.Performs frame e := by
  cases e with
  | servoFeed sample => exact ⟨parent, h⟩
  | recordOffsetFromMaster offset => exact ⟨parent, h⟩
  | step ts => exact ⟨parent, h⟩
  | adjust rate => exact ⟨parent, h⟩
  | sendEvent msg buf result => cases he
  | sendGeneral msg buf result => cases he
  | stampEgress msg => cases he
  | trigger port e => cases he

section Transitions

variable [ForeignClockRecords R]

theorem Handover.announceReceiptTimeoutExpired_returns (env : Env) (h : Handover F R) :
    ∃ e, h.parts.bestForeign.snapshot = .ok e ∧
      (h.announceReceiptTimeoutExpired env).Returns
        (h.profile.master env h.port
          ⟨{ h.parts with
            stateDecisionTrigger := { h.parts.stateDecisionTrigger with previousBestForeign := e } },
            h.parts.bmca.d0⟩)
        [.trigger h.parts.stateDecisionTrigger.receivedOnPort e] := by
  obtain ⟨e, hsnap, ht⟩ := h.parts.triggerCurrent_eq (F := F)
  refine ⟨e, hsnap, ?_⟩
  rw [announceReceiptTimeoutExpired, BmcaParts.intoLocalGrandmasterTracking, bind_assoc,
    Act.returns_bind]
  exact ⟨_, _, _, ht, by rw [pure_bind]; exact Act.returns_pure.mpr ⟨rfl, rfl⟩, rfl⟩

/-- What a transition keeps. -/
structure Moved (s s' : PortState F R) (r : Role) (l : List (Effect F)) : Prop where
  role : s'.role = r
  frame : s'.frame = s.frame
  bmca : s'.parts.bmca = s.parts.bmca
  bestForeign : s'.parts.bestForeign = s.parts.bestForeign
  calls : ∀ e ∈ l, s.role.Performs s.parts.frame e
  triggers : ∀ e ∈ l, ∃ port snapshot, e = .trigger port snapshot

theorem moved_expired (env : Env) (s : PortState F R) (hidle : ¬ s.role.Idle) :
    ∃ s' l, (s.handover.announceReceiptTimeoutExpired env).Returns s' l ∧
      Moved s s' (.master s.parts.bmca.d0) l := by
  obtain ⟨e, hsnap, h⟩ := s.handover.announceReceiptTimeoutExpired_returns env
  refine ⟨_, _, h, rfl, rfl, rfl, rfl, ?_, ?_⟩
  · intro e' he
    rw [List.mem_singleton.mp he]
    exact ⟨hidle, rfl, snapshot_receivedBy hsnap⟩
  · intro e' he
    exact ⟨_, _, List.mem_singleton.mp he⟩

variable [F64 F]

/-- `apply` follows the table, and panics outside it. -/
theorem apply_cases (env : Env) (s : PortState F R) (d : StateDecision) :
    (∃ r, s.role.next s.parts.bmca.d0 d = some r ∧
      ∃ s' l, (s.apply env d).Returns s' l ∧ Moved s s' r l) ∨
    (s.role.next s.parts.bmca.d0 d = none ∧ ∃ p, s.apply env d = Act.abort p) := by
  have keep : ∀ {s s' : PortState F R}, s'.frame = s.frame → s'.parts.bmca = s.parts.bmca →
      s'.parts.bestForeign = s.parts.bestForeign →
      ∃ t l, (pure s' : Act (Effect F) (PortState F R)).Returns t l ∧ Moved s t s'.role l :=
    fun hframe hbmca hrecords =>
      ⟨_, [], Act.returns_pure.mpr ⟨rfl, rfl⟩, rfl, hframe, hbmca, hrecords, by simp, by simp⟩
  cases s with
  | initializing p =>
    cases d
    case initialized =>
      exact .inl ⟨_, rfl, keep rfl rfl rfl⟩
    all_goals exact .inr ⟨rfl, _, rfl⟩
  | faulty p =>
    cases d
    case faultCleared | faultDetected =>
      exact .inl ⟨_, rfl, keep rfl rfl rfl⟩
    all_goals exact .inr ⟨rfl, _, rfl⟩
  | listening p =>
    cases d
    case announceReceiptTimeoutExpired => exact .inl ⟨_, rfl, moved_expired env (.listening p) id⟩
    case recommendedSlave | recommendedMaster | recommendedPassive | faultDetected =>
      exact .inl ⟨_, rfl, keep rfl rfl rfl⟩
    all_goals exact .inr ⟨rfl, _, rfl⟩
  | slave p =>
    cases d
    case announceReceiptTimeoutExpired => exact .inl ⟨_, rfl, moved_expired env (.slave p) id⟩
    case recommendedSlave | recommendedMaster | recommendedPassive | synchronizationFault |
        faultDetected =>
      exact .inl ⟨_, rfl, keep rfl rfl rfl⟩
    all_goals exact .inr ⟨rfl, _, rfl⟩
  | uncalibrated p =>
    cases d
    case announceReceiptTimeoutExpired =>
      exact .inl ⟨_, rfl, moved_expired env (.uncalibrated p) id⟩
    case recommendedSlave | recommendedMaster | recommendedPassive | masterClockSelected |
        faultDetected =>
      exact .inl ⟨_, rfl, keep rfl rfl rfl⟩
    all_goals exact .inr ⟨rfl, _, rfl⟩
  | master p =>
    cases d
    case recommendedSlave | recommendedMaster | recommendedPassive | faultDetected =>
      exact .inl ⟨_, rfl, keep rfl rfl rfl⟩
    all_goals exact .inr ⟨rfl, _, rfl⟩
  | preMaster p =>
    cases d
    case recommendedSlave | recommendedMaster | recommendedPassive | qualificationTimeoutExpired |
        faultDetected =>
      exact .inl ⟨_, rfl, keep rfl rfl rfl⟩
    all_goals exact .inr ⟨rfl, _, rfl⟩
  | passive p =>
    cases d
    case announceReceiptTimeoutExpired => exact .inl ⟨_, rfl, moved_expired env (.passive p) id⟩
    case recommendedSlave | recommendedMaster | faultDetected =>
      exact .inl ⟨_, rfl, keep rfl rfl rfl⟩
    all_goals exact .inr ⟨rfl, _, rfl⟩

theorem apply_returns {env : Env} {s s' : PortState F R} {d : StateDecision} {l : List (Effect F)}
    (h : (s.apply env d).Returns s' l) :
    ∃ r, s.role.next s.parts.bmca.d0 d = some r ∧ Moved s s' r l := by
  rcases apply_cases env s d with ⟨r, hr, t, l', ht, hm⟩ | ⟨-, p, hp⟩
  · obtain ⟨rfl, rfl⟩ := h.unique ht
    exact ⟨r, hr, hm⟩
  · rw [hp] at h
    exact absurd h Act.returns_abort

/-- A transition returns exactly when it is in the table. -/
theorem apply_safe_iff {env : Env} {s : PortState F R} {d : StateDecision} :
    (s.apply env d).Safe ↔ (s.role.next s.parts.bmca.d0 d).isSome := by
  rcases apply_cases env s d with ⟨r, hr, s', l, hs, -⟩ | ⟨hr, p, hp⟩
  · rw [hr]
    exact ⟨fun _ => rfl, fun _ => ⟨s', l, hs⟩⟩
  · rw [hr, hp]
    constructor
    · rintro ⟨s', l, h⟩
      exact absurd h Act.returns_abort
    · intro h
      cases h

/-- A port that tracks a parent after a transition has just selected it, its servo has locked, or it
has lost lock. -/
theorem apply_entered {env : Env} {s s' : PortState F R} {d : StateDecision} {l : List (Effect F)}
    (h : (s.apply env d).Returns s' l) {p' : ParentTrackingPort F R} (hp : s'.tracking = some p') :
    (∃ parent, d = .recommendedSlave parent ∧
      s' = s.handover.profile.uncalibrated env s.handover.port ⟨s.parts, parent⟩) ∨
    (∃ parent p, d = .masterClockSelected parent ∧ s = .uncalibrated p ∧
      p' = { p with announceReceiptTimeout := p.profile.armedReceiptTimeout env p.port }) ∨
    (d = .synchronizationFault ∧ s = .slave p') := by
  obtain ⟨r, hr, hm⟩ := apply_returns h
  by_cases hd : d.Enters
  · cases d
    case recommendedSlave parent =>
      left
      cases s
      case initializing | faulty => exact absurd h Act.returns_abort
      all_goals exact ⟨parent, rfl, (Act.returns_pure.mp h).1⟩
    case masterClockSelected parent =>
      right
      left
      cases s
      case uncalibrated p =>
        obtain ⟨rfl, -⟩ := Act.returns_pure.mp h
        cases hp
        exact ⟨parent, p, rfl, rfl, rfl⟩
      all_goals exact absurd h Act.returns_abort
    case synchronizationFault =>
      right
      right
      cases s
      case slave p =>
        obtain ⟨rfl, -⟩ := Act.returns_pure.mp h
        cases hp
        exact ⟨rfl, rfl⟩
      all_goals exact absurd h Act.returns_abort
    all_goals exact absurd hd id
  · rw [PortState.tracking_eq_none (by rw [hm.role]; exact Role.not_tracks_of_next hr hd)] at hp
    cases hp

/-- A port that tracks a parent after a transition has just selected it and is new, or it keeps its
parent and its delay mechanism and its servo are handed over. -/
theorem apply_tracking {env : Env} {s s' : PortState F R} {d : StateDecision} {l : List (Effect F)}
    (h : (s.apply env d).Returns s' l) {p' : ParentTrackingPort F R} (hp : s'.tracking = some p') :
    (d = .recommendedSlave p'.bmca.parentPortIdentity ∧
      p'.servo = s.handover.profile.servoConfig.servo ∧
      ∃ cycle, p'.delayMechanism = .new cycle ∧ cycle.sequenceId = ⟨0⟩) ∨
    ∃ p, s.tracking = some p ∧ p'.bmca.parentPortIdentity = p.bmca.parentPortIdentity ∧
      p'.servo = p.servo ∧ p'.delayMechanism = p.delayMechanism := by
  rcases apply_entered h hp with ⟨parent, rfl, rfl⟩ | ⟨parent, p, -, rfl, rfl⟩ | ⟨-, rfl⟩
  · cases hp
    exact .inl ⟨rfl, rfl, _, rfl, rfl⟩
  · exact .inr ⟨p, rfl, rfl, rfl, rfl⟩
  · exact .inr ⟨p', rfl, rfl, rfl, rfl⟩

end Transitions

end Rptp
