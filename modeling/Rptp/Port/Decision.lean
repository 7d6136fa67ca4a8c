import Rptp.Port.Role

/-! # What a state decision event does to a port

Before a transition, a state decision event only stores the local data set. The answer is the ungated
decision on the records of the port, put through the gate of its role.
-/

namespace Rptp

open Machine

variable {F R : Type}

/-- The local data set of the latest state decision is remembered. -/
def BmcaParts.remember (d0 : ClockDS) (b : BmcaParts R) : BmcaParts R :=
  { b with bmca := { b.bmca with d0 } }

namespace PortState

/-- What a state decision event changes before a transition. -/
def remember (d0 : ClockDS) : PortState F R → PortState F R
  | .initializing p => .initializing p
  | .listening p => .listening { p with bmca := ⟨p.bmca.toBmcaParts.remember d0⟩ }
  | .slave p =>
    .slave { p with bmca := ⟨p.bmca.toBmcaParts.remember d0, p.bmca.parentPortIdentity⟩ }
  | .master p =>
    .master { p with bmca := ⟨p.bmca.toBmcaParts.remember d0, p.bmca.grandmasterDs⟩ }
  | .preMaster p =>
    .preMaster { p with bmca := ⟨p.bmca.toBmcaParts.remember d0, p.bmca.grandmasterDs⟩ }
  | .uncalibrated p =>
    .uncalibrated { p with bmca := ⟨p.bmca.toBmcaParts.remember d0, p.bmca.parentPortIdentity⟩ }
  | .passive p => .passive { p with bmca := ⟨p.bmca.toBmcaParts.remember d0⟩ }
  | .faulty p => .faulty p

theorem remember_eq_self {d0 : ClockDS} {s : PortState F R}
    (h : s.role.Idle ∨ s.parts.bmca.d0 = d0) : s.remember d0 = s := by
  cases s with
  | initializing p => rfl
  | faulty p => rfl
  | listening p =>
    obtain hidle | rfl := h
    · cases hidle
    · rfl
  | slave p =>
    obtain hidle | rfl := h
    · cases hidle
    · rfl
  | master p =>
    obtain hidle | rfl := h
    · cases hidle
    · rfl
  | preMaster p =>
    obtain hidle | rfl := h
    · cases hidle
    · rfl
  | uncalibrated p =>
    obtain hidle | rfl := h
    · cases hidle
    · rfl
  | passive p =>
    obtain hidle | rfl := h
    · cases hidle
    · rfl

theorem role_remember (d0 : ClockDS) (s : PortState F R) : (s.remember d0).role = s.role := by
  cases s <;> rfl

theorem frame_remember (d0 : ClockDS) (s : PortState F R) : (s.remember d0).frame = s.frame := by
  cases s <;> rfl

theorem bestForeign_remember (d0 : ClockDS) (s : PortState F R) :
    (s.remember d0).parts.bestForeign = s.parts.bestForeign := by
  cases s <;> rfl

theorem stateDecisionTrigger_remember (d0 : ClockDS) (s : PortState F R) :
    (s.remember d0).parts.stateDecisionTrigger = s.parts.stateDecisionTrigger := by
  cases s <;> rfl

theorem d0_remember (d0 : ClockDS) (s : PortState F R) :
    s.role.Idle ∨ (s.remember d0).parts.bmca.d0 = d0 := by
  cases s with
  | initializing p => exact .inl trivial
  | faulty p => exact .inl trivial
  | listening p => exact .inr rfl
  | slave p => exact .inr rfl
  | master p => exact .inr rfl
  | preMaster p => exact .inr rfl
  | uncalibrated p => exact .inr rfl
  | passive p => exact .inr rfl

end PortState

section Decisions

variable [ForeignClockRecords R]

/-- The decision of a port on a snapshot, before its gate. -/
structure PortState.Decides (s : PortState F R) (snapshot : StateDecisionSnapshot)
    (eRbest : BestForeignSnapshot) (decision : BmcaDecision) : Prop where
  records : s.parts.bestForeign.snapshot = .ok eRbest
  evaluated : BestMasterClockAlgorithm.evaluate s.parts.bmca.portNumber snapshot.d0 snapshot.eBest
    eRbest = .ok decision

theorem decision_returns {B Q : Type} [GatedBmca F B R] {s : PortState F R} (b : B) (wrap : B → Q)
    (mk : Q → PortState F R) (snapshot : StateDecisionSnapshot)
    (hparts : GatedBmca.parts F b = s.parts)
    (hremember : mk (wrap (GatedBmca.withParts F b (s.parts.remember snapshot.d0))) =
      s.remember snapshot.d0)
    (hgate : ∀ e x, GatedBmca.gate F b e x = s.role.gate e x) :
    ∃ eRbest decision, s.Decides snapshot eRbest decision ∧
      (do
        let (q, decision) ← Act.lift (do
          let (b, decision) ← stateDecisionEvent F b snapshot
          pure (wrap b, decision))
        pure (mk q, decision) : Act (Effect F) _).Returns
        (s.remember snapshot.d0, (s.role.gate eRbest decision).map BmcaDecision.toStateDecision) [] := by
  obtain ⟨eRbest, decision, hsnap, heval, heq⟩ := stateDecisionEvent_eq (F := F) b snapshot
  rw [hparts] at hsnap heval heq
  refine ⟨eRbest, decision, ⟨hsnap, heval⟩, ?_⟩
  rw [heq, ← hgate, ← hremember]
  rfl

variable [F64 F]

/-- What a state decision event makes of a port before a transition. -/
theorem dispatch_decision (env : Env) (s : PortState F R) (snapshot : StateDecisionSnapshot) :
    ∃ eRbest decision, s.Decides snapshot eRbest decision ∧
      (s.dispatch env (.system (.stateDecisionEvent snapshot))).Returns
        (s.remember snapshot.d0, (s.role.gate eRbest decision).map BmcaDecision.toStateDecision) [] := by
  have idle : s.role.Idle →
      s.dispatch env (.system (.stateDecisionEvent snapshot)) = pure (s, none) →
      ∃ eRbest decision, s.Decides snapshot eRbest decision ∧
        (s.dispatch env (.system (.stateDecisionEvent snapshot))).Returns
          (s.remember snapshot.d0,
            (s.role.gate eRbest decision).map BmcaDecision.toStateDecision) [] := by
    intro hidle heq
    obtain ⟨eRbest, hsnap⟩ := s.parts.bestForeign.snapshot_returns
    obtain ⟨decision, heval⟩ := BestMasterClockAlgorithm.evaluate_returns s.parts.bmca.portNumber
      snapshot.d0 snapshot.eBest eRbest
    have hgate : s.role.gate eRbest decision = none := by
      cases hr : s.role <;> rw [hr] at hidle <;> first | rfl | cases hidle
    refine ⟨eRbest, decision, ⟨hsnap, heval⟩, ?_⟩
    rw [heq, hgate, PortState.remember_eq_self (.inl hidle)]
    exact Act.returns_pure.mpr ⟨rfl, rfl⟩
  cases s with
  | initializing p => exact idle trivial rfl
  | faulty p => exact idle trivial rfl
  | listening p =>
    exact decision_returns p.bmca (fun bmca => ({ p with bmca } : ListeningPort F R)) .listening
      snapshot rfl rfl fun e x => by cases e <;> rfl
  | slave p =>
    exact decision_returns p.bmca (fun bmca => ({ p with bmca } : SlavePort F R)) .slave
      snapshot rfl rfl fun e x => by cases x <;> rfl
  | master p =>
    exact decision_returns p.bmca (fun bmca => ({ p with bmca } : MasterPort F R)) .master
      snapshot rfl rfl fun e x => by cases x <;> rfl
  | preMaster p =>
    exact decision_returns p.bmca (fun bmca => ({ p with bmca } : PreMasterPort F R)) .preMaster
      snapshot rfl rfl fun e x => by cases x <;> rfl
  | uncalibrated p =>
    exact decision_returns p.bmca (fun bmca => ({ p with bmca } : UncalibratedPort F R))
      .uncalibrated snapshot rfl rfl fun e x => by cases x <;> rfl
  | passive p =>
    exact decision_returns p.bmca (fun bmca => ({ p with bmca } : PassivePort F R)) .passive
      snapshot rfl rfl fun e x => by cases x <;> rfl

end Decisions

end Rptp
