import Rptp.Port.Coherence
import Rptp.Port.DelayHistory

/-! # Where the fragments of a sample come from

A trace of a port lists what the port has recorded since it changed its parent last, each with a
label. The delay mechanism of a port holds the latest entries of its trace, so that every sample
that is fed to the servo is taken from entries of the trace.
-/

namespace Rptp

open Machine

/-- The parent that a role tracks. -/
def Role.parent : Role → Option ParentPortIdentity
  | slave parent => some parent
  | uncalibrated parent => some parent
  | _ => none

/-- A role that tracks a parent is only told to follow another one. -/
theorem Role.parent_ne_of_gate {r : Role} {eRbest : BestForeignSnapshot} {decision : BmcaDecision}
    {p : ParentPortIdentity} (h : r.gate eRbest decision = some (.slave p)) : r.parent ≠ some p := by
  obtain rfl := gate_eq h
  intro hparent
  cases r with
  | slave q =>
    cases hparent
    simp [gate] at h
  | uncalibrated q =>
    cases hparent
    simp [gate] at h
  | initializing => cases hparent
  | listening => cases hparent
  | master ds => cases hparent
  | preMaster ds => cases hparent
  | passive => cases hparent
  | faulty => cases hparent

variable {F R Λ : Type}

namespace PortState

/-- The parent that the port tracks. -/
def parent (s : PortState F R) : Option ParentPortIdentity := s.role.parent

theorem parent_of_tracking {s : PortState F R} {p : ParentTrackingPort F R}
    (h : s.tracking = some p) : s.parent = some p.bmca.parentPortIdentity := by
  cases s with
  | slave q =>
    cases h
    rfl
  | uncalibrated q =>
    cases h
    rfl
  | initializing q => cases h
  | listening q => cases h
  | master q => cases h
  | preMaster q => cases h
  | passive q => cases h
  | faulty q => cases h

theorem tracking_of_parent {s : PortState F R} {parent : ParentPortIdentity}
    (h : s.parent = some parent) :
    ∃ p, s.tracking = some p ∧ p.bmca.parentPortIdentity = parent := by
  cases s with
  | slave p => exact ⟨p, rfl, Option.some.inj h⟩
  | uncalibrated p => exact ⟨p, rfl, Option.some.inj h⟩
  | initializing p => cases h
  | listening p => cases h
  | master p => cases h
  | preMaster p => cases h
  | passive p => cases h
  | faulty p => cases h

end PortState

/-- What a port that tracks the parent records of a message. -/
def PortInput.recording (parent : ParentPortIdentity) : PortInput → Option Recording
  | .event source (.oneStepSync sync) ts =>
    if parent.matchesSource source then some (.oneStepSync sync ts) else none
  | .event source (.twoStepSync sync) ts =>
    if parent.matchesSource source then some (.twoStepSync sync ts) else none
  | .general source (.followUp followUp) _ =>
    if parent.matchesSource source then some (.followUp followUp) else none
  | .general source (.delayResp resp) _ =>
    if parent.matchesSource source then some (.delayResponse resp) else none
  | .system (.timestamp ⟨.delayReq req, ts⟩) => some (.delayRequest req ts)
  | _ => none

theorem ParentTrackingPort.record_eq (p : ParentTrackingPort F R) (input : PortInput) :
    p.record input = match input.recording p.bmca.parentPortIdentity with
      | some call => p.delayMechanism.record call
      | none => p.delayMechanism := by
  have recordedIf : ∀ (b : Bool) (call : Recording),
      (if b then p.delayMechanism.record call else p.delayMechanism) =
        match if b then some call else none with
        | some call => p.delayMechanism.record call
        | none => p.delayMechanism := by
    intro b call
    cases b <;> rfl
  cases input with
  | event source msg ts =>
    cases msg with
    | delayReq req => rfl
    | oneStepSync sync => exact recordedIf _ (.oneStepSync sync ts)
    | twoStepSync sync => exact recordedIf _ (.twoStepSync sync ts)
  | general source msg now =>
    cases msg with
    | announce msg => rfl
    | followUp followUp => exact recordedIf _ (.followUp followUp)
    | delayResp resp => exact recordedIf _ (.delayResponse resp)
  | system msg =>
    cases msg
    case timestamp msg =>
      obtain ⟨eventMsg, egress⟩ := msg
      cases eventMsg <;> rfl
    all_goals rfl

theorem EndToEndDelayMechanism.Holds.congr {calls : List Recording}
    {m m' : EndToEndDelayMechanism} (h : m.Holds calls) (heq : m'.fragments = m.fragments) :
    m'.Holds calls := by
  have hsync : m'.syncExchange = m.syncExchange := congrArg Fragments.sync heq
  have hdelay : m'.delayExchange = m.delayExchange := congrArg Fragments.delay heq
  have hingress : m'.syncIngressTimestamp = m.syncIngressTimestamp := congrArg Fragments.ingress heq
  exact ⟨by rw [hsync, h.sync], by rw [hingress, h.ingress], by rw [hsync, h.followUp],
    by rw [hdelay, h.request], by rw [hdelay, h.response]⟩

/-- The latest entry of a kind with its label. -/
def latestLabelled {α : Type} (kind : Recording → Option α) (calls : List (Recording × Λ)) :
    Option (α × Λ) :=
  latest (fun c => (kind c.1).map fun a => (a, c.2)) calls

theorem map_fst_latestLabelled {α : Type} (kind : Recording → Option α)
    (calls : List (Recording × Λ)) :
    (latestLabelled kind calls).map Prod.fst = latest kind (calls.map Prod.fst) := by
  rw [latestLabelled, map_latest, latest_map]
  congr 1
  funext c
  cases h : kind c.1 <;> simp [h]

theorem mem_of_latestLabelled {α : Type} {kind : Recording → Option α}
    {calls : List (Recording × Λ)} {a : α} {label : Λ}
    (h : latestLabelled kind calls = some (a, label)) :
    ∃ c ∈ calls, kind c.1 = some a ∧ c.2 = label := by
  obtain ⟨c, hc, hkind⟩ := mem_of_latest h
  obtain ⟨a', ha, heq⟩ := Option.map_eq_some_iff.mp hkind
  cases heq
  exact ⟨c, hc, ha, rfl⟩

theorem latestLabelled_append {α : Type} (kind : Recording → Option α)
    (calls : List (Recording × Λ)) (call : Recording) (label : Λ) :
    latestLabelled kind (calls ++ [(call, label)]) =
      ((kind call).map fun a => (a, label)).or (latestLabelled kind calls) :=
  latest_append _ _ _

/-- A port with what it has recorded since it changed its parent last. -/
structure Traced (F R Λ : Type) where
  port : PortState F R
  calls : List (Recording × Λ)

namespace Traced

/-- The trace with what the port records of a message. -/
def recorded (t : Traced F R Λ) (input : PortInput) (label : Λ) : List (Recording × Λ) :=
  match t.port.parent.bind fun parent => input.recording parent with
  | some call => t.calls ++ [(call, label)]
  | none => t.calls

theorem recorded_some {t : Traced F R Λ} {p : ParentTrackingPort F R} {input : PortInput}
    {call : Recording} (hp : t.port.tracking = some p)
    (hcall : input.recording p.bmca.parentPortIdentity = some call) (label : Λ) :
    t.recorded input label = t.calls ++ [(call, label)] := by
  rw [recorded, PortState.parent_of_tracking hp, Option.bind_some, hcall]

theorem mem_recorded {t : Traced F R Λ} {input : PortInput} {label : Λ} {c : Recording × Λ}
    (h : c ∈ t.recorded input label) : c ∈ t.calls ∨
      ∃ parent, t.port.parent = some parent ∧ input.recording parent = some c.1 ∧ c.2 = label := by
  unfold recorded at h
  cases hcall : t.port.parent.bind fun parent => input.recording parent with
  | none =>
    rw [hcall] at h
    exact .inl h
  | some call =>
    rw [hcall] at h
    rcases List.mem_append.mp h with h | h
    · exact .inl h
    · obtain ⟨parent, hparent, hrecording⟩ := Option.bind_eq_some_iff.mp hcall
      rw [List.mem_singleton.mp h]
      exact .inr ⟨parent, hparent, hrecording, rfl⟩

/-- The trace after a step to the given state. A change of the parent starts a new one. -/
def after (t : Traced F R Λ) (port : PortState F R) (input : PortInput) (label : Λ) :
    Traced F R Λ :=
  ⟨port, if port.parent = t.port.parent then t.recorded input label else []⟩

/-- The delay mechanism holds the latest entries of the trace. -/
def Holds (t : Traced F R Λ) : Prop :=
  ∀ p, t.port.tracking = some p → p.delayMechanism.Holds (t.calls.map Prod.fst)

theorem holds_fresh {s : PortState F R}
    (h : ∀ p, s.tracking = some p → ∃ cycle, p.delayMechanism = .new cycle) :
    (⟨s, []⟩ : Traced F R Λ).Holds := by
  intro p hp
  obtain ⟨cycle, hnew⟩ := h p hp
  rw [hnew]
  exact EndToEndDelayMechanism.holds_recordAll cycle []

theorem Holds.record {t : Traced F R Λ} (h : t.Holds) {p : ParentTrackingPort F R}
    (hp : t.port.tracking = some p) (input : PortInput) (label : Λ) :
    (p.record input).Holds ((t.recorded input label).map Prod.fst) := by
  rw [p.record_eq, recorded, PortState.parent_of_tracking hp, Option.bind_some]
  cases input.recording p.bmca.parentPortIdentity with
  | none => exact h p hp
  | some call =>
    dsimp only
    rw [List.map_append]
    exact (h p hp).record call

end Traced

section Step

variable [F64 F] [ForeignClockRecords R]

omit [F64 F] in
theorem answer_recommendedSlave {s : PortState F R} {input : PortInput} {l : List (Effect F)}
    {parent : ParentPortIdentity} (h : Answer s input l (some (.recommendedSlave parent))) :
    s.parent ≠ some parent := by
  generalize hd : some (StateDecision.recommendedSlave parent) = d at h
  cases h with
  | decided hsnap heval =>
    obtain ⟨decision, hgate, hdecision⟩ := Option.map_eq_some_iff.mp hd.symm
    cases decision with
    | master m => cases hdecision
    | passive => cases hdecision
    | slave p =>
      cases hdecision
      exact Role.parent_ne_of_gate hgate
  | quiet => cases hd
  | expired => cases hd
  | initialized => cases hd
  | qualified => cases hd
  | faultCleared => cases hd
  | sendFailed => cases hd
  | locked => cases hd
  | unlocked => cases hd

/-- A port that tracks a parent after a step has changed it and is new, or it has recorded the
message. -/
theorem step_tracking {env : Env} {s s' : PortState F R} {input : PortInput} {l : List (Effect F)}
    (h : (s.step env input).Returns s' l) {p' : ParentTrackingPort F R}
    (hp' : s'.tracking = some p') :
    (s'.parent ≠ s.parent ∧ ∃ cycle, p'.delayMechanism = .new cycle ∧ cycle.sequenceId = ⟨0⟩) ∨
      (s'.parent = s.parent ∧ ∃ p, s.tracking = some p ∧
        p'.delayMechanism.fragments = (p.record input).fragments) := by
  rw [PortState.step, Act.returns_bind] at h
  obtain ⟨⟨s₁, d⟩, l₁, l₂, hd, hrest, rfl⟩ := h
  have hdispatched := dispatch_returns hd
  have hparent₁ : s₁.parent = s.parent := congrArg Role.parent hdispatched.role
  cases d with
  | none =>
    obtain ⟨rfl, rfl⟩ := Act.returns_pure.mp hrest
    obtain ⟨p, hp, hr⟩ := dispatch_recorded hd hp'
    exact .inr ⟨hparent₁, p, hp, hr.fragments⟩
  | some d =>
    rcases apply_tracking hrest hp' with ⟨rfl, -, hnew⟩ | ⟨p₁, hp₁, hkept, -, hmechanism⟩
    · left
      rw [PortState.parent_of_tracking hp']
      exact ⟨fun heq => answer_recommendedSlave hdispatched.answer heq.symm, hnew⟩
    · right
      obtain ⟨p, hp, hr⟩ := dispatch_recorded hd hp₁
      rw [PortState.parent_of_tracking hp', hkept, ← PortState.parent_of_tracking hp₁, hmechanism]
      exact ⟨hparent₁, p, hp, hr.fragments⟩

namespace Traced

variable {t : Traced F R Λ} {env : Env} {s' : PortState F R} {input : PortInput} {label : Λ}
  {l : List (Effect F)}

/-- A step keeps the mechanism and the trace together. -/
theorem Holds.step (ht : t.Holds) (h : (t.port.step env input).Returns s' l) :
    (t.after s' input label).Holds := by
  intro p' hp'
  change p'.delayMechanism.Holds (List.map Prod.fst (if s'.parent = t.port.parent then _ else _))
  rcases step_tracking h hp' with ⟨hchanged, cycle, hnew, -⟩ | ⟨hkept, p, hp, hfragments⟩
  · rw [if_neg hchanged, hnew]
    exact EndToEndDelayMechanism.holds_recordAll cycle []
  · rw [if_pos hkept]
    exact (ht.record hp input label).congr hfragments

/-- A sample that a step feeds is taken from the trace with the message of the step. -/
theorem Holds.fed (ht : t.Holds) (h : (t.port.step env input).Returns s' l)
    {sample : ServoSample} (label : Λ) (hs : Effect.servoFeed sample ∈ l) :
    (∃ parent, t.port.parent = some parent ∧ input.Samples parent) ∧
      ∃ m : EndToEndDelayMechanism, m.Holds ((t.recorded input label).map Prod.fst) ∧
        m.sample = .ok (some sample) := by
  obtain ⟨p, hp, hsamples, hsample⟩ := (step_measured h).fed sample hs
  exact ⟨⟨_, PortState.parent_of_tracking hp, hsamples⟩, _, ht.record hp input label, hsample⟩

/-- One message through the driver of a port, with its label. -/
def step (t : Traced F R Λ) (i : (Env × PortInput) × Λ) : Act (Effect F) (Traced F R Λ) := do
  let port ← t.port.step i.1.1 i.1.2
  pure (t.after port i.1.2 i.2)

def run (t : Traced F R Λ) (inputs : List ((Env × PortInput) × Λ)) :
    Act (Effect F) (Traced F R Λ) :=
  Act.runAll step t inputs

theorem run_holds {t' : Traced F R Λ} {inputs : List ((Env × PortInput) × Λ)} (ht : t.Holds)
    (h : (t.run inputs).Returns t' l) : t'.Holds := by
  refine Act.runAll_preserves (P := Holds) ?_ ht h
  intro t i t' l ht h
  obtain ⟨port, hstep, rfl⟩ := Act.returns_bind_pure.mp h
  exact ht.step hstep

end Traced

end Step

end Rptp
