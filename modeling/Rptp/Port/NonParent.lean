import Rptp.Port.Multicast
import Rptp.Port.Provenance

/-! # Messages of other ports than the parent

A Sync, FollowUp or DelayResp that does not come from the parent leaves a port as it is, whatever
its state. A run without these messages is the same run. And what a port has recorded under one
parent is gone when it has another.
-/

namespace Rptp

open Machine

variable {F R : Type}

namespace PortInput

/-- The sender of a Sync, FollowUp or DelayResp. -/
def exchangeSource : PortInput → Option PortIdentity
  | .event source (.oneStepSync _) _ => some source
  | .event source (.twoStepSync _) _ => some source
  | .general source (.followUp _) _ => some source
  | .general source (.delayResp _) _ => some source
  | _ => none

end PortInput

/-- The message is a Sync, FollowUp or DelayResp, and the port does not track its sender. -/
def PortState.isForeign (s : PortState F R) (input : PortInput) : Bool :=
  match input.exchangeSource with
  | some source => decide (s.parent ≠ some ⟨source⟩)
  | none => false

section Silent

variable [F64 F] [ForeignClockRecords R]

omit [F64 F] [ForeignClockRecords R] in
theorem ParentTrackingPort.matchesParent_of_ne {p : ParentTrackingPort F R} {source : PortIdentity}
    (h : some p.bmca.parentPortIdentity ≠ some ⟨source⟩) : ¬ p.bmca.matchesParent source = true := by
  intro hmatch
  have heq : p.bmca.parentPortIdentity.parentPortIdentity = source := beq_iff_eq.mp hmatch
  exact h (congrArg some (congrArg ParentPortIdentity.mk heq))

theorem ParentTrackingPort.handle_stranger {p : ParentTrackingPort F R} {input : PortInput}
    {source : PortIdentity} (hsource : input.exchangeSource = some source)
    (h : ¬ p.bmca.matchesParent source = true)
    (react : PortIdentity → ServoState → Option StateDecision) (env : Env) :
    p.handle react env input = pure (p, none) := by
  cases input with
  | event sender msg ts =>
    cases msg with
    | delayReq req => cases hsource
    | oneStepSync sync =>
      cases hsource
      exact if_neg h
    | twoStepSync sync =>
      cases hsource
      have hnone : p.processTwoStepSync sync source ts = p := if_neg h
      rw [handle, hnone]
  | general sender msg now =>
    cases msg with
    | announce msg => cases hsource
    | followUp followUp =>
      cases hsource
      exact if_neg h
    | delayResp resp =>
      cases hsource
      have hnone : p.processDelayResponse resp source = p := if_neg h
      rw [handle, hnone]
  | system msg => cases hsource

theorem dispatch_exchange {s : PortState F R} {input : PortInput} {source : PortIdentity}
    (hsource : input.exchangeSource = some source) (h : s.tracking = none) (env : Env) :
    s.dispatch env input = pure (s, none) := by
  cases input with
  | event sender msg ts =>
    cases msg with
    | delayReq req => cases hsource
    | oneStepSync sync => cases s <;> first | rfl | cases h
    | twoStepSync sync => cases s <;> first | rfl | cases h
  | general sender msg now =>
    cases msg with
    | announce msg => cases hsource
    | followUp followUp => cases s <;> first | rfl | cases h
    | delayResp resp => cases s <;> first | rfl | cases h
  | system msg => cases hsource

theorem step_isForeign {s : PortState F R} {input : PortInput} (h : s.isForeign input = true)
    (env : Env) : s.step env input = pure s := by
  have hdispatch : s.dispatch env input = pure (s, none) := by
    unfold PortState.isForeign at h
    cases hsource : input.exchangeSource with
    | none =>
      rw [hsource] at h
      cases h
    | some source =>
      rw [hsource] at h
      have hne : s.parent ≠ some ⟨source⟩ := of_decide_eq_true h
      rcases s.tracking_cases with ⟨k, p, rfl⟩ | huntracked
      · rw [PortState.parent_of_tracking (k.tracking_state p)] at hne
        have hstranger := ParentTrackingPort.matchesParent_of_ne hne
        rw [k.dispatch_state, ParentTrackingPort.handle_stranger hsource hstranger, pure_bind]
      · exact dispatch_exchange hsource (PortState.tracking_eq_none huntracked) env
  rw [PortState.step, hdispatch, pure_bind]

namespace PortState

/-- The inputs of a run without the messages that are foreign to the port at their time. -/
def dropNonParent : PortState F R → List (Env × PortInput) → List (Env × PortInput)
  | _, [] => []
  | s, i :: inputs =>
    let rest := match (s.step i.1 i.2).run with
      | .ok (s', _) => s'.dropNonParent inputs
      | .error _ => inputs
    if s.isForeign i.2 then rest else i :: rest

theorem dropNonParent_cons {s s' : PortState F R} {i : Env × PortInput} {l : List (Effect F)}
    (h : (s.step i.1 i.2).Returns s' l) (inputs : List (Env × PortInput)) :
    s.dropNonParent (i :: inputs) = if s.isForeign i.2 then s'.dropNonParent inputs
      else i :: s'.dropNonParent inputs := by
  unfold Act.Returns at h
  rw [dropNonParent, h]

/-- The messages that are foreign to a port when they are delivered leave no trace in its run. -/
theorem run_dropNonParent (s : PortState F R) (inputs : List (Env × PortInput)) :
    s.run (s.dropNonParent inputs) = s.run inputs := by
  induction inputs generalizing s with
  | nil => rfl
  | cons i inputs ih =>
    cases hstep : (s.step i.1 i.2).run with
    | error panic =>
      have hkept : s.isForeign i.2 = false := by
        by_contra hforeign
        rw [step_isForeign (Bool.not_eq_false _ ▸ hforeign) i.1] at hstep
        cases hstep
      rw [dropNonParent, hstep, hkept]
      rfl
    | ok result =>
      obtain ⟨s', l⟩ := result
      rw [dropNonParent_cons hstep]
      split_ifs with hforeign
      · rw [step_isForeign hforeign i.1] at hstep
        cases hstep
        rw [ih s, run, run, Act.runAll_cons, step_isForeign hforeign, pure_bind]
      · have hrest : (Act.runAll (fun s i => s.step i.1 i.2) s' (s'.dropNonParent inputs)).run =
            (Act.runAll (fun s i => s.step i.1 i.2) s' inputs).run := congrArg Act.run (ih s')
        rw [run, run, Act.runAll_cons, Act.runAll_cons]
        apply Act.ext
        rw [Act.run_bind, Act.run_bind, hstep, Checked.ok_bind, Checked.ok_bind, hrest]

theorem dropNonParent_append {s s₁ : PortState F R} {before : List (Env × PortInput)}
    {l : List (Effect F)} (h : (s.run before).Returns s₁ l) (after : List (Env × PortInput)) :
    s.dropNonParent (before ++ after) = s.dropNonParent before ++ s₁.dropNonParent after := by
  induction before generalizing s l with
  | nil =>
    obtain ⟨rfl, -⟩ := Act.returns_pure.mp h
    rfl
  | cons i before ih =>
    obtain ⟨s', l₁, l₂, hstep, hrun, -⟩ := Act.returns_runAll_cons.mp h
    rw [List.cons_append, dropNonParent_cons hstep, dropNonParent_cons hstep, ih hrun]
    split_ifs
    · rfl
    · rfl

end PortState

/-- A run without the messages that are foreign to the port at their time is the same run, with the
same state at every point. A sample is taken from what the port has recorded since it changed its
parent last. -/
theorem nonParent_noninterference {Λ : Type} (s : PortState F R) :
    (∀ inputs, s.run (s.dropNonParent inputs) = s.run inputs) ∧
    (∀ before after s₁ l₁, (s.run before).Returns s₁ l₁ →
      s.dropNonParent (before ++ after) = s.dropNonParent before ++ s₁.dropNonParent after) ∧
    ((∀ p, s.tracking = some p → ∃ cycle, p.delayMechanism = .new cycle) →
      ∀ (inputs : List ((Env × PortInput) × Λ)) (t : Traced F R Λ) (l : List (Effect F)) (env : Env)
        (input : PortInput) (label : Λ) (s' : PortState F R) (l' : List (Effect F))
        (sample : ServoSample), (Traced.run ⟨s, []⟩ inputs).Returns t l →
        (t.port.step env input).Returns s' l' → Effect.servoFeed sample ∈ l' →
        ∃ ingress origin receipt egress,
          SyncComplete ((t.recorded input label).map Prod.fst) ingress origin ∧
          DelayComplete ((t.recorded input label).map Prod.fst) receipt egress ∧
          sample.ingress = ingress ∧ sample.offset.ns =
            ((ingress.ns - origin.ns) - (receipt.ns - egress.ns)).tdiv 2) := by
  refine ⟨s.run_dropNonParent, fun _ after _ _ h => PortState.dropNonParent_append h after, ?_⟩
  intro hfresh inputs t l env input label s' l' sample hrun hstep hs
  have ht : t.Holds := Traced.run_holds (Traced.holds_fresh hfresh) hrun
  obtain ⟨-, m, hm, hsample⟩ := ht.fed hstep label hs
  obtain ⟨r, hr, -, htaken⟩ := hm.sample
  cases hr.symm.trans hsample
  exact htaken sample rfl

end Silent

section Witness

/-- A Sync of the third clock, with another time. -/
def strangerSync : Env × PortInput :=
  (.calm (.fromSecs 2), .event ⟨(defaultClock 3).identity, ⟨1⟩⟩
    (.oneStepSync ⟨⟨0⟩, ⟨0⟩, stampOf 50⟩) (stampOf 11))

/-- The third clock is heard before the exchange with the parent is complete. -/
def strangerInputs : List (Env × PortInput) :=
  delayInputs ++ [strangerSync, responseTo (defaultClock 2) (stampOf 10), strangerSync, syncInput]

/-- The Sync messages of the third clock leave no trace, and the sample is taken from the exchange
with the first clock. -/
theorem nonParent_noninterference_third :
    trackingPort.dropNonParent strangerInputs = ownInputs ∧
      trackingPort.run ownInputs = trackingPort.run strangerInputs ∧
      ∃ (t : Traced ℚ ForeignClockRecordsVec Unit) (l : List (Effect ℚ)) (s' : _)
        (l' : List (Effect ℚ)) (sample : ServoSample),
        (Traced.run ⟨trackingPort, []⟩ (strangerInputs.dropLast.map fun i => (i, ()))).Returns t l ∧
        (t.port.step syncInput.1 syncInput.2).Returns s' l' ∧ Effect.servoFeed sample ∈ l' ∧
        ∃ ingress origin receipt egress,
          SyncComplete ((t.recorded syncInput.2 ()).map Prod.fst) ingress origin ∧
          DelayComplete ((t.recorded syncInput.2 ()).map Prod.fst) receipt egress ∧
          sample.ingress = ingress ∧ sample.offset.ns =
            ((ingress.ns - origin.ns) - (receipt.ns - egress.ns)).tdiv 2 := by
  have hdrop : trackingPort.dropNonParent strangerInputs = ownInputs := rfl
  obtain ⟨hrun, -, htaken⟩ := nonParent_noninterference (Λ := Unit) trackingPort
  refine ⟨hdrop, ?_, ?_⟩
  · rw [← hdrop]
    exact hrun strangerInputs
  · have hfed : ∃ (t : Traced ℚ ForeignClockRecordsVec Unit) (l : List (Effect ℚ)) (s' : _)
        (sample : ServoSample) (rest : List (Effect ℚ)),
        (Traced.run ⟨trackingPort, []⟩ (strangerInputs.dropLast.map fun i => (i, ()))).Returns t l ∧
        (t.port.step syncInput.1 syncInput.2).Returns s' (.servoFeed sample :: rest) :=
      ⟨_, _, _, _, _, rfl, rfl⟩
    obtain ⟨t, l, s', sample, rest, ht, hstep⟩ := hfed
    exact ⟨t, l, s', _, sample, ht, hstep, List.mem_cons_self,
      htaken trackingPort_fresh _ t l _ _ () s' _ sample ht hstep List.mem_cons_self⟩

end Witness

end Rptp
