import Rptp.Bmca.Agreement
import Rptp.Node.Ordinary

/-! # Legality of the decisions of a port

The dispatch tables and the transition table of a port are written apart. They agree, up to one
entry: a master that is given an announce receipt timeout answers with a decision that no master
may apply.
-/

namespace Rptp

open Machine

variable {F R : Type} [ForeignClockRecords R]

theorem Role.next_isSome (d0 d0' : ClockDS) (r : Role) (d : StateDecision) :
    (r.next d0 d).isSome = (r.next d0' d).isSome := by
  cases r <;> cases d <;> rfl

theorem Role.gate_legal (d0 : ClockDS) {r : Role} {eRbest : BestForeignSnapshot}
    {decision gated : BmcaDecision} (h : r.gate eRbest decision = some gated) :
    (r.next d0 gated.toStateDecision).isSome := by
  cases r with
  | initializing => cases h
  | faulty => cases h
  | listening => cases gated <;> rfl
  | slave parent => cases gated <;> rfl
  | uncalibrated parent => cases gated <;> rfl
  | master ds => cases gated <;> rfl
  | preMaster ds => cases gated <;> rfl
  | passive =>
    cases gated with
    | master m => rfl
    | slave parent => rfl
    | passive => cases decision <;> cases h

/-- Every answer is legal, except that of a master to an announce receipt timeout. -/
theorem Answer.legal (d0 : ClockDS) {s : PortState F R} {input : PortInput} {d : StateDecision}
    {l : List (Effect F)} (h : Answer s input l (some d)) :
    (s.role.next d0 d).isSome ∨
      (input = .system .announceReceiptTimeout ∧ ∃ ds, s.role = .master ds) := by
  generalize hd : some d = answer at h
  cases h with
  | quiet => cases hd
  | decided hsnap heval =>
    obtain ⟨gated, hgate, rfl⟩ := Option.map_eq_some_iff.mp hd.symm
    exact .inl (Role.gate_legal d0 hgate)
  | expired hrole =>
    cases hd
    rcases hrole with hmaster | hlegal
    · exact .inr ⟨rfl, hmaster⟩
    · exact .inl ((Role.next_isSome _ _ _ _).trans hlegal)
  | initialized hrole =>
    cases hd
    exact .inl (by rw [hrole]; rfl)
  | qualified hrole =>
    cases hd
    exact .inl (by rw [hrole]; rfl)
  | faultCleared hrole =>
    cases hd
    exact .inl (by rw [hrole]; rfl)
  | sendFailed hin hrole he hf =>
    cases hd
    refine .inl ?_
    cases hr : s.role <;> rw [hr] at hrole
    case initializing => exact absurd trivial hrole
    all_goals rfl
  | locked hin hrole =>
    cases hd
    exact .inl (by rw [hrole]; rfl)
  | unlocked hin hrole =>
    cases hd
    exact .inl (by rw [hrole]; rfl)

section Fsm

variable [F64 F]

namespace PortFsm

/-- A late announce receipt timeout: the port has become master in the meantime. -/
def LateReceiptTimeout (fsm : PortFsm F R) (input : PortInput) : Prop :=
  input = .system .announceReceiptTimeout ∧ ∃ s ds, fsm.state = some s ∧ s.role = .master ds

/-- `apply` does not reject the decision that a system message makes the port take. -/
def DecisionLegal (env : Env) (fsm : PortFsm F R) (input : PortInput) : Prop :=
  ∀ msg s s' d l, input = .system msg → fsm.state = some s →
    (s.dispatchSystem env msg).Returns (s', some d) l →
      ∀ text, s'.apply env d ≠ Act.abort (.message text)

theorem decisionLegal_iff (env : Env) (fsm : PortFsm F R) (input : PortInput) :
    fsm.DecisionLegal env input ↔ ¬ fsm.LateReceiptTimeout input := by
  constructor
  · rintro h ⟨rfl, s, ds, hs, hrole⟩
    cases s <;> cases hrole
    exact h _ _ _ _ _ rfl hs (Act.returns_pure.mpr ⟨rfl, rfl⟩) _ rfl
  · rintro h msg s s' d l rfl hs hd text happly
    have hdispatched := dispatchSystem_returns hd
    rcases hdispatched.answer.legal s'.parts.bmca.d0 with hlegal | ⟨hin, ds, hrole⟩
    · rw [← hdispatched.role] at hlegal
      obtain ⟨t, l', hret⟩ := apply_safe_iff.mpr hlegal
      rw [happly] at hret
      exact absurd hret Act.returns_abort
    · exact h ⟨hin, s, ds, hs, hrole⟩

end PortFsm

/-- Along every run of a port the decisions on system messages are legal exactly as long as no
announce receipt timeout is delivered to a master. -/
theorem systemDecisions_legal_iff (fsm : PortFsm F R) (inputs : List (Env × PortInput)) :
    Act.Along (fun fsm i => fsm.process i.1 i.2) (fun fsm i => fsm.DecisionLegal i.1 i.2) fsm
        inputs ↔
      Act.Along (fun fsm i => fsm.process i.1 i.2) (fun fsm i => ¬ fsm.LateReceiptTimeout i.2) fsm
        inputs :=
  Act.along_congr fun fsm i => PortFsm.decisionLegal_iff i.1 fsm i.2

end Fsm

/-- A fresh port that gets a second announce receipt timeout after the first has made it master. -/
theorem secondReceiptTimeout_rejected :
    ∃ node : OrdinaryNode ℚ ForeignClockRecordsVec,
      OrdinaryNode.new (defaultClock 1) ⟨0⟩ .default .new = .ok (some node) ∧
      ¬ Act.Along (fun fsm i => fsm.process i.1 i.2) (fun fsm i => fsm.DecisionLegal i.1 i.2)
        node.fsm
        [(.calm (.fromSecs 0), .system .initialized),
          (.calm (.fromSecs 5), .system .announceReceiptTimeout),
          (.calm (.fromSecs 5), .system .announceReceiptTimeout)] := by
  refine ⟨_, rfl, fun h => ?_⟩
  have hlegal := ((h.2 _ _ rfl).2 _ _ rfl).1
  exact hlegal _ _ _ _ _ rfl rfl (Act.returns_pure.mpr ⟨rfl, rfl⟩) _ rfl

end Rptp
