import Rptp.Port.Coherence

/-! # A state decision that is repeated

A second state decision event with the same snapshot finds the same records, decides the same, and its
gate lets nothing through.
-/

namespace Rptp

open Machine

variable {F R : Type}

theorem Role.gate_of_realized {r : Role} {decision : BmcaDecision} (h : decision.Realized r)
    (eRbest : BestForeignSnapshot) : r.gate eRbest decision = none := by
  cases decision with
  | master m =>
    cases r
    case master ds =>
      obtain rfl : ds = m.grandmasterDs := h
      simp [gate, BmcaMasterDecision.matchesGrandmaster]
    case preMaster ds =>
      obtain rfl : ds = m.grandmasterDs := h
      simp [gate, BmcaMasterDecision.matchesGrandmaster]
    all_goals cases h
  | slave parent =>
    cases r
    case slave p =>
      obtain rfl : p = parent := h
      simp [gate]
    case uncalibrated p =>
      obtain rfl : p = parent := h
      simp [gate]
    all_goals cases h
  | passive =>
    obtain rfl : r = .passive := h
    rfl

section Decisions

variable [ForeignClockRecords R]

theorem PortState.Decides.congr {s s' : PortState F R} {snapshot : StateDecisionSnapshot}
    {eRbest : BestForeignSnapshot} {decision : BmcaDecision}
    (h : s.Decides snapshot eRbest decision) (hframe : s'.frame = s.frame)
    (hrecords : s'.parts.bestForeign = s.parts.bestForeign) :
    s'.Decides snapshot eRbest decision := by
  have hnumber : s'.parts.bmca.portNumber = s.parts.bmca.portNumber :=
    congrArg (fun frame => frame.portNumber) hframe
  constructor
  · rw [hrecords]
    exact h.records
  · rw [hnumber]
    exact h.evaluated

theorem PortState.Decides.unique {s : PortState F R} {snapshot : StateDecisionSnapshot}
    {e e' : BestForeignSnapshot} {x x' : BmcaDecision} (h : s.Decides snapshot e x)
    (h' : s.Decides snapshot e' x') : e = e' ∧ x = x' := by
  obtain rfl : e = e' := by
    have heq := h.records
    rw [h'.records] at heq
    cases heq
    rfl
  have heq := h.evaluated
  rw [h'.evaluated] at heq
  cases heq
  exact ⟨rfl, rfl⟩

/-- The port has decided on the snapshot: it remembers the data set, and its gate is closed. -/
structure PortState.Settled (s : PortState F R) (snapshot : StateDecisionSnapshot) : Prop where
  remembered : s.role.Idle ∨ s.parts.bmca.d0 = snapshot.d0
  closed : ∀ eRbest decision, s.Decides snapshot eRbest decision →
    s.role.gate eRbest decision = none

variable [F64 F]

/-- A state decision event settles its snapshot. -/
theorem step_settles {env : Env} {s s' : PortState F R} {snapshot : StateDecisionSnapshot}
    {l : List (Effect F)} (h : (s.step env (.system (.stateDecisionEvent snapshot))).Returns s' l) :
    s'.Settled snapshot := by
  obtain ⟨eRbest, decision, hdecides, hdispatch⟩ := dispatch_decision env s snapshot
  obtain ⟨⟨s₁, d⟩, l₁, l₂, hd, hrest, -⟩ := Act.returns_bind.mp h
  obtain ⟨heq, -⟩ := hd.unique hdispatch
  cases heq
  have hdecides₁ := hdecides.congr (s.frame_remember snapshot.d0) (s.bestForeign_remember snapshot.d0)
  cases hgate : s.role.gate eRbest decision with
  | none =>
    rw [hgate] at hrest
    obtain ⟨rfl, -⟩ := Act.returns_pure.mp hrest
    constructor
    · rw [PortState.role_remember]
      exact s.d0_remember snapshot.d0
    · intro e x hx
      obtain ⟨rfl, rfl⟩ := hx.unique hdecides₁
      rw [PortState.role_remember]
      exact hgate
  | some gated =>
    rw [hgate, Role.gate_eq hgate] at hrest
    obtain ⟨r, hnext, hmoved⟩ := apply_returns hrest
    have hrealized := Role.realized_of_next hnext
    rw [← hmoved.role] at hrealized
    constructor
    · right
      rw [hmoved.bmca]
      rcases s.d0_remember snapshot.d0 with hidle | hd0
      · cases hr : s.role <;> rw [hr] at hidle hgate <;> first | cases hgate | cases hidle
      · exact hd0
    · intro e x hx
      obtain ⟨rfl, rfl⟩ := hx.unique (hdecides₁.congr hmoved.frame hmoved.bestForeign)
      exact Role.gate_of_realized hrealized _

/-- A settled port ignores the snapshot. -/
theorem PortState.Settled.dispatch {s : PortState F R} {snapshot : StateDecisionSnapshot}
    (h : s.Settled snapshot) (env : Env) :
    (s.dispatch env (.system (.stateDecisionEvent snapshot))).Returns (s, none) [] := by
  obtain ⟨eRbest, decision, hdecides, hdispatch⟩ := dispatch_decision env s snapshot
  rwa [PortState.remember_eq_self h.remembered, h.closed eRbest decision hdecides] at hdispatch

/-- A state decision event that is repeated has no further effect: the second one decides nothing and
leaves the whole state of the port as it is. -/
theorem stateDecisionEvent_repeated (s : PortState F R) (env env' : Env)
    (snapshot : StateDecisionSnapshot) :
    s.run [(env, .system (.stateDecisionEvent snapshot)),
        (env', .system (.stateDecisionEvent snapshot))] =
      s.run [(env, .system (.stateDecisionEvent snapshot))] ∧
    ∀ s' l, (s.run [(env, .system (.stateDecisionEvent snapshot))]).Returns s' l →
      (s'.dispatch env' (.system (.stateDecisionEvent snapshot))).Returns (s', none) [] := by
  have hsettled : ∀ s' l, (s.run [(env, .system (.stateDecisionEvent snapshot))]).Returns s' l →
      s'.Settled snapshot := by
    intro s' l h
    obtain ⟨s₁, l₁, l₂, hstep, hrest, -⟩ := Act.returns_runAll_cons.mp h
    obtain ⟨rfl, -⟩ := Act.returns_pure.mp hrest
    exact step_settles hstep
  constructor
  · change Act.runAll _ s ([(env, PortInput.system (.stateDecisionEvent snapshot))] ++
      [(env', .system (.stateDecisionEvent snapshot))]) = _
    rw [Act.runAll_append]
    apply Act.bind_eq_self
    intro s' l h
    rw [Act.runAll_cons, PortState.step, Act.returns_nil_iff.mp ((hsettled s' l h).dispatch env'),
      pure_bind]
    rfl
  · intro s' l h
    exact (hsettled s' l h).dispatch env'

end Decisions

/-- The port becomes uncalibrated, and three seconds later the snapshot changes nothing. -/
theorem stateDecisionEvent_repeated_uncalibrated :
    ∃ s' l, (heardPort.run
        [(.calm (.fromSecs 2), .system (.stateDecisionEvent heardSnapshot))]).Returns s' l ∧
      s'.role = .uncalibrated ⟨⟨(defaultClock 1).identity, ⟨1⟩⟩⟩ ∧
      (s'.dispatch (.calm (.fromSecs 5)) (.system (.stateDecisionEvent heardSnapshot))).Returns
        (s', none) [] := by
  have hrun : ∃ s' l, (heardPort.run
      [(.calm (.fromSecs 2), .system (.stateDecisionEvent heardSnapshot))]).Returns s' l ∧
      s'.role = .uncalibrated ⟨⟨(defaultClock 1).identity, ⟨1⟩⟩⟩ := ⟨_, _, rfl, rfl⟩
  obtain ⟨s', l, hrun, hrole⟩ := hrun
  refine ⟨s', l, hrun, hrole, ?_⟩
  exact (stateDecisionEvent_repeated heardPort (.calm (.fromSecs 2)) (.calm (.fromSecs 5))
    heardSnapshot).2 s' l hrun

end Rptp
