import Rptp.Bmca.Agreement
import Rptp.Node.Ordinary

/-! # Coherence of the gated roles

A gate suppresses a decision only when the port does already what the decision asks for. After a
state decision event the role of a port therefore agrees with the ungated decision, and it keeps
agreeing until the next decision, receipt timeout or fault.
-/

namespace Rptp

open Machine

/-- The role does what the decision asks for. -/
def BmcaDecision.Realized : BmcaDecision → Role → Prop
  | master decision, r => r.Announces decision.grandmasterDs
  | slave parent, r => r.Tracks parent
  | passive, r => r = .passive

namespace Role

/-- A gate never changes a decision. -/
theorem gate_eq {r : Role} {eRbest : BestForeignSnapshot} {decision gated : BmcaDecision}
    (h : r.gate eRbest decision = some gated) : gated = decision := by
  cases r <;> cases decision <;> cases eRbest <;> simp_all [gate]

/-- What a gate suppresses is realized already, or nothing is decided in this role. -/
theorem realized_of_gate {r : Role} {eRbest : BestForeignSnapshot} {decision : BmcaDecision}
    (hidle : ¬ r.Idle) (hlistening : ¬ (r = .listening ∧ eRbest = .empty))
    (h : r.gate eRbest decision = none) : decision.Realized r := by
  cases r with
  | initializing => exact absurd trivial hidle
  | faulty => exact absurd trivial hidle
  | listening =>
    cases eRbest with
    | empty => exact absurd ⟨rfl, rfl⟩ hlistening
    | qualified ds source receiver => cases h
  | slave parent =>
    cases decision with
    | slave p => simpa [gate, BmcaDecision.Realized, Tracks] using h
    | master m => cases h
    | passive => cases h
  | uncalibrated parent =>
    cases decision with
    | slave p => simpa [gate, BmcaDecision.Realized, Tracks] using h
    | master m => cases h
    | passive => cases h
  | master ds =>
    cases decision with
    | master m =>
      simp only [gate, BmcaMasterDecision.matchesGrandmaster, beq_iff_eq] at h
      exact (by simpa using h : m.grandmasterDs = ds).symm
    | slave p => cases h
    | passive => cases h
  | preMaster ds =>
    cases decision with
    | master m =>
      simp only [gate, BmcaMasterDecision.matchesGrandmaster, beq_iff_eq] at h
      exact (by simpa using h : m.grandmasterDs = ds).symm
    | slave p => cases h
    | passive => cases h
  | passive =>
    cases decision with
    | passive => rfl
    | master m => cases h
    | slave p => cases h

theorem realized_of_next {d0 : ClockDS} {r r' : Role} {decision : BmcaDecision}
    (h : r.next d0 decision.toStateDecision = some r') : decision.Realized r' := by
  cases decision with
  | master m => cases r <;> cases h <;> rfl
  | slave parent => cases r <;> cases h <;> rfl
  | passive => cases r <;> cases h <;> rfl

theorem realized_qualified {decision : BmcaDecision} {ds : ClockDS}
    (h : decision.Realized (.preMaster ds)) : decision.Realized (.master ds) := by
  cases decision with
  | master m => exact h
  | slave parent => cases h
  | passive => cases h

/-- The servo moves a port between the two states that track its parent. -/
theorem realized_tracking {decision : BmcaDecision} {parent : ParentPortIdentity} :
    decision.Realized (.slave parent) ↔ decision.Realized (.uncalibrated parent) := by
  cases decision with
  | master m => exact Iff.rfl
  | slave p => exact Iff.rfl
  | passive =>
    constructor
    · intro h
      cases h
    · intro h
      cases h

theorem not_idle_of_realized {decision : BmcaDecision} {r : Role} (h : decision.Realized r) :
    ¬ r.Idle := by
  intro hidle
  cases r <;> cases hidle <;> cases decision <;> cases h

end Role

variable {F R : Type} [F64 F] [ForeignClockRecords R]

theorem step_decision_sends_nothing {env : Env} {s s' : PortState F R}
    {snapshot : StateDecisionSnapshot} {l : List (Effect F)}
    (h : (s.step env (.system (.stateDecisionEvent snapshot))).Returns s' l) (e : Effect F)
    (he : e ∈ l) : ∃ port eRbest, e = .trigger port eRbest := by
  have hempty : ∀ {d l}, Answer s (.system (.stateDecisionEvent snapshot)) l d → l = [] := by
    intro d l hanswer
    cases hanswer with
    | decided => rfl
    | quiet hin => exact absurd trivial hin
    | sendFailed hin => exact absurd trivial hin
    | locked hin => exact absurd trivial hin
    | unlocked hin => exact absurd trivial hin
  rcases step_returns h with hd | ⟨s₁, d, r, l₁, l₂, hd, -, hm, rfl⟩
  · rw [hempty hd.answer] at he
    cases he
  · rw [hempty hd.answer] at he
    exact hm.triggers e he

/-- A state decision event leaves the port in agreement with the ungated decision. -/
theorem step_realizes {env : Env} {s s' : PortState F R} {snapshot : StateDecisionSnapshot}
    {l : List (Effect F)} (hidle : ¬ s.role.Idle)
    (hlistening : ¬ (s.role = .listening ∧ s.parts.bestForeign.snapshot = .ok .empty))
    (h : (s.step env (.system (.stateDecisionEvent snapshot))).Returns s' l) :
    ∃ eRbest decision, s.parts.bestForeign.snapshot = .ok eRbest ∧
      BestMasterClockAlgorithm.evaluate s.parts.bmca.portNumber snapshot.d0 snapshot.eBest eRbest =
        .ok decision ∧ decision.Realized s'.role := by
  rcases step_returns h with hd | ⟨s₁, d, r, l₁, l₂, hd, hnext, hm, -⟩
  · have hanswer := hd.answer
    generalize hnone : (none : Option StateDecision) = d at hanswer
    cases hanswer with
    | quiet hin => exact absurd trivial hin
    | sendFailed hin => exact absurd trivial hin
    | locked hin => exact absurd trivial hin
    | unlocked hin => exact absurd trivial hin
    | decided hsnap heval =>
      refine ⟨_, _, hsnap, heval, ?_⟩
      rw [hd.role]
      refine Role.realized_of_gate hidle ?_ (Option.map_eq_none_iff.mp hnone.symm)
      rintro ⟨hrole, rfl⟩
      exact hlistening ⟨hrole, hsnap⟩
  · have hanswer := hd.answer
    generalize hsome : some d = d' at hanswer
    cases hanswer with
    | quiet hin => exact absurd trivial hin
    | sendFailed hin => exact absurd trivial hin
    | locked hin => exact absurd trivial hin
    | unlocked hin => exact absurd trivial hin
    | decided hsnap heval =>
      obtain ⟨gated, hgate, rfl⟩ := Option.map_eq_some_iff.mp hsome.symm
      refine ⟨_, _, hsnap, heval, ?_⟩
      rw [hm.role, ← Role.gate_eq hgate]
      exact Role.realized_of_next hnext

/-- The one role that may disagree with the ungated decision: a listening port that has nothing
qualified stays put, and makes no call. -/
theorem listening_stays {env : Env} {s s' : PortState F R} {snapshot : StateDecisionSnapshot}
    {l : List (Effect F)} (hrole : s.role = .listening)
    (hempty : s.parts.bestForeign.snapshot = .ok .empty)
    (h : (s.step env (.system (.stateDecisionEvent snapshot))).Returns s' l) :
    s'.role = .listening ∧ s'.frame = s.frame ∧ s'.parts.bestForeign = s.parts.bestForeign ∧
      l = [] := by
  have hgate : ∀ {d l}, Answer s (.system (.stateDecisionEvent snapshot)) l d → d = none ∧ l = [] := by
    intro d l hanswer
    cases hanswer with
    | quiet hin => exact absurd trivial hin
    | sendFailed hin => exact absurd trivial hin
    | locked hin => exact absurd trivial hin
    | unlocked hin => exact absurd trivial hin
    | decided hsnap heval =>
      cases hempty.symm.trans hsnap
      rw [hrole]
      exact ⟨rfl, rfl⟩
  rcases step_returns h with hd | ⟨s₁, d, r, l₁, l₂, hd, hnext, hm, -⟩
  · exact ⟨hd.role.trans hrole, hd.frame, hd.records id, (hgate hd.answer).2⟩
  · cases (hgate hd.answer).1

/-- Nothing but a decision, a receipt timeout or a refused send ends the agreement. -/
theorem step_keeps_realized {env : Env} {s s' : PortState F R} {input : PortInput}
    {l : List (Effect F)} {decision : BmcaDecision} (hs : decision.Realized s.role)
    (hin : ¬ input.IsDecision) (htimeout : input ≠ .system .announceReceiptTimeout)
    (hsent : ∀ e ∈ l, ¬ e.FailedSend) (h : (s.step env input).Returns s' l) :
    decision.Realized s'.role := by
  rcases step_returns h with hd | ⟨s₁, d, r, l₁, l₂, hd, hnext, hm, rfl⟩
  · rw [hd.role]
    exact hs
  · have hanswer := hd.answer
    generalize hsome : some d = d' at hanswer
    rw [hm.role]
    cases hanswer with
    | quiet => cases hsome
    | decided => exact absurd trivial hin
    | expired => exact absurd rfl htimeout
    | initialized hrole =>
      exact absurd (by rw [hrole]; trivial) (Role.not_idle_of_realized hs)
    | faultCleared hrole =>
      exact absurd (by rw [hrole]; trivial) (Role.not_idle_of_realized hs)
    | sendFailed _ _ he hfailed =>
      exact absurd hfailed (hsent _ (List.mem_append_left _ he))
    | qualified hrole =>
      cases hsome
      rw [hrole] at hs hnext
      cases hnext
      exact Role.realized_qualified hs
    | locked _ hrole =>
      cases hsome
      rw [hrole] at hs hnext
      cases hnext
      exact Role.realized_tracking.mpr hs
    | unlocked _ hrole =>
      cases hsome
      rw [hrole] at hs hnext
      cases hnext
      exact Role.realized_tracking.mp hs

theorem run_keeps_realized {s s' : PortState F R} {inputs : List (Env × PortInput)}
    {l : List (Effect F)} {decision : BmcaDecision} (hs : decision.Realized s.role)
    (hin : ∀ i ∈ inputs, ¬ i.2.IsDecision ∧ i.2 ≠ .system .announceReceiptTimeout)
    (hsent : ∀ e ∈ l, ¬ e.FailedSend) (h : (s.run inputs).Returns s' l) :
    decision.Realized s'.role ∧ ∀ msg buf result,
      Effect.sendGeneral (.announce msg) buf result ∈ l →
        decision.Realized (.master msg.foreignClockDs) := by
  induction inputs generalizing s l with
  | nil =>
    obtain ⟨rfl, rfl⟩ := Act.returns_pure.mp h
    exact ⟨hs, by simp⟩
  | cons i inputs ih =>
    obtain ⟨s₁, l₁, l₂, hstep, hrun, rfl⟩ := Act.returns_runAll_cons.mp h
    obtain ⟨hdecision, htimeout⟩ := hin i List.mem_cons_self
    have hs₁ := step_keeps_realized hs hdecision htimeout
      (fun e he => hsent e (List.mem_append_left _ he)) hstep
    obtain ⟨hs', hannounce⟩ := ih hs₁ (fun j hj => hin j (List.mem_cons_of_mem _ hj))
      (fun e he => hsent e (List.mem_append_right _ he)) hrun
    refine ⟨hs', fun msg buf result hmem => ?_⟩
    rcases List.mem_append.mp hmem with hmem | hmem
    · have hrole : s.role = .master msg.foreignClockDs :=
        step_only i.1 s i.2 s₁ l₁ hstep _ hmem
      rw [← hrole]
      exact hs
    · exact hannounce msg buf result hmem

/-- After a state decision event the port agrees with the ungated decision on the same data sets,
and it keeps agreeing until the next decision, receipt timeout or refused send. -/
theorem gatedRoles_coherent (s s' : PortState F R) (env : Env) (snapshot : StateDecisionSnapshot)
    (later : List (Env × PortInput)) (l : List (Effect F)) (hidle : ¬ s.role.Idle)
    (hlistening : ¬ (s.role = .listening ∧ s.parts.bestForeign.snapshot = .ok .empty))
    (hin : ∀ i ∈ later, ¬ i.2.IsDecision ∧ i.2 ≠ .system .announceReceiptTimeout)
    (hsent : ∀ e ∈ l, ¬ e.FailedSend)
    (h : (s.run ((env, .system (.stateDecisionEvent snapshot)) :: later)).Returns s' l) :
    ∃ eRbest a decision, s.parts.bestForeign.snapshot = .ok eRbest ∧
      s.parts.bmca.decision snapshot.d0 snapshot.eBest eRbest = .ok (a, decision) ∧
      decision.Realized s'.role ∧ ∀ msg buf result,
        Effect.sendGeneral (.announce msg) buf result ∈ l →
          decision.Realized (.master msg.foreignClockDs) := by
  obtain ⟨s₁, l₁, l₂, hstep, hrun, rfl⟩ := Act.returns_runAll_cons.mp h
  obtain ⟨eRbest, decision, hsnap, heval, hs₁⟩ := step_realizes hidle hlistening hstep
  obtain ⟨hs', hannounce⟩ := run_keeps_realized hs₁ hin
    (fun e he => hsent e (List.mem_append_right _ he)) hrun
  refine ⟨eRbest, _, decision, hsnap, by rw [BestMasterClockAlgorithm.decision, heval]; rfl, hs',
    fun msg buf result hmem => ?_⟩
  rcases List.mem_append.mp hmem with hmem | hmem
  · obtain ⟨port, e, he⟩ := step_decision_sends_nothing hstep _ hmem
    cases he
  · exact hannounce msg buf result hmem

/-- A listening port of the second clock that has heard the first one twice. -/
def heardPort : PortState ℚ ForeignClockRecordsVec :=
  PortProfile.default.listening (.calm (.fromSecs 0)) ⟨⟨(defaultClock 2).identity, ⟨1⟩⟩, ⟨0⟩⟩
    ⟨⟨⟨defaultClock 2, ⟨1⟩⟩, heardTwice (defaultClock 2) (defaultClock 1), ⟨.empty, ⟨1⟩⟩⟩⟩

/-- The snapshot in which the first clock was heard on the port of the second. -/
def heardSnapshot : StateDecisionSnapshot :=
  ⟨defaultClock 2, .qualified (defaultClock 1) ⟨(defaultClock 1).identity, ⟨1⟩⟩
    ⟨(defaultClock 2).identity, ⟨1⟩⟩⟩

/-- An Announce of the first clock with an interval of one second. -/
def announceOfFirst (sequenceId : UInt16) : GeneralMessage :=
  .announce ⟨⟨sequenceId⟩, ⟨0⟩, defaultClock 1, .ptp⟩

/-- A port of the second clock that tracks the first. -/
def trackingPort : PortState ℚ ForeignClockRecordsVec :=
  PortProfile.default.uncalibrated (.calm (.fromSecs 2)) ⟨⟨(defaultClock 2).identity, ⟨1⟩⟩, ⟨0⟩⟩
    ⟨⟨⟨defaultClock 2, ⟨1⟩⟩, heardTwice (defaultClock 2) (defaultClock 1), ⟨.empty, ⟨1⟩⟩⟩,
      ⟨⟨(defaultClock 1).identity, ⟨1⟩⟩⟩⟩

theorem trackingPort_unused : ∀ p, trackingPort.tracking = some p →
    ∃ cycle, p.delayMechanism = .new cycle ∧ cycle.sequenceId = ⟨0⟩ := by
  intro p hp
  cases hp
  exact ⟨_, rfl, rfl⟩

theorem trackingPort_fresh :
    ∀ p, trackingPort.tracking = some p → ∃ cycle, p.delayMechanism = .new cycle := by
  intro p hp
  obtain ⟨cycle, hnew, -⟩ := trackingPort_unused p hp
  exact ⟨cycle, hnew⟩

/-- The port becomes uncalibrated, asks for the delay and still tracks the first clock. -/
theorem gatedRoles_coherent_uncalibrated :
    ∃ s' l, (heardPort.run [(.calm (.fromSecs 2), .system (.stateDecisionEvent heardSnapshot)),
        (.calm (.fromSecs 2), .system .delayRequestTimeout)]).Returns s' l ∧
      s'.role = .uncalibrated ⟨⟨(defaultClock 1).identity, ⟨1⟩⟩⟩ ∧
      ∃ eRbest a decision, heardPort.parts.bestForeign.snapshot = .ok eRbest ∧
        heardPort.parts.bmca.decision (defaultClock 2) heardSnapshot.eBest eRbest =
          .ok (a, decision) ∧ decision.Realized s'.role := by
  have hrun : ∃ s' l msg buf, (heardPort.run
      [(.calm (.fromSecs 2), .system (.stateDecisionEvent heardSnapshot)),
        (.calm (.fromSecs 2), .system .delayRequestTimeout)]).Returns s' l ∧
      s'.role = .uncalibrated ⟨⟨(defaultClock 1).identity, ⟨1⟩⟩⟩ ∧
      l = [.sendEvent msg buf (.ok ()), .stampEgress msg] := ⟨_, _, _, _, rfl, rfl, rfl⟩
  obtain ⟨s', l, msg, buf, hrun, hrole, hl⟩ := hrun
  refine ⟨s', l, hrun, hrole, ?_⟩
  obtain ⟨eRbest, a, decision, hsnap, hdecision, hrealized, -⟩ := gatedRoles_coherent heardPort s'
    (.calm (.fromSecs 2)) heardSnapshot [(.calm (.fromSecs 2), .system .delayRequestTimeout)] l id
    (by rintro ⟨-, h⟩; cases h) (by simp [PortInput.IsDecision])
    (by simp [hl, Effect.FailedSend]) hrun
  exact ⟨eRbest, a, decision, hsnap, hdecision, hrealized⟩

end Rptp
