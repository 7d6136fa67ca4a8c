import Rptp.Port.FollowUps

/-! # What a port sends, and on what

Every message that a port sends is signed with the identity of the port. A FollowUp is sent on the
timestamp of a Sync, a DelayResp on a DelayReq, and an event message is a two-step Sync or a
DelayReq.
-/

namespace Rptp

open Machine

variable {F R : Type}

/-- A send that the port signs and that answers to the input. -/
def Effect.AnswersTo (port : DomainPort) (input : PortInput) : Effect F → Prop
  | .sendEvent msg buf _ => buf = port.eventOctets msg ∧ ∀ sync, msg ≠ .oneStepSync sync
  | .sendGeneral (.announce msg) buf _ => buf = port.generalOctets (.announce msg)
  | .sendGeneral (.followUp msg) buf _ => buf = port.generalOctets (.followUp msg) ∧
      ∃ sync egress, input = .system (.timestamp ⟨.twoStepSync sync, egress⟩) ∧
        msg = sync.followUp egress
  | .sendGeneral (.delayResp msg) buf _ => buf = port.generalOctets (.delayResp msg) ∧
      ∃ source req ingress interval, input = .event source (.delayReq req) ingress ∧
        msg = req.response interval ingress source
  | _ => True

theorem Effect.AnswersTo.general {port : DomainPort} {input : PortInput} {msg : GeneralMessage}
    {buf : List UInt8} {result : SendResult}
    (h : (Effect.sendGeneral msg buf result : Effect F).AnswersTo port input) :
    buf = port.generalOctets msg := by
  cases msg with
  | announce msg => exact h
  | followUp msg => exact h.1
  | delayResp msg => exact h.1

theorem Effect.OnClock.answersTo {port : DomainPort} {input : PortInput} {e : Effect F}
    (h : e.OnClock) : e.AnswersTo port input := by
  cases e with
  | sendEvent msg buf result => exact absurd h id
  | sendGeneral msg buf result => exact absurd h id
  | _ => trivial

theorem answersTo_of_triggers {port : DomainPort} {input : PortInput} {l : List (Effect F)}
    (h : ∀ e ∈ l, ∃ number snapshot, e = .trigger number snapshot) :
    ∀ e ∈ l, e.AnswersTo port input := by
  intro e he
  obtain ⟨number, snapshot, rfl⟩ := h e he
  trivial

theorem DomainPort.eventCalls_answersTo {port : DomainPort} {input : PortInput} {env : Env}
    {msg : EventMessage} (hmsg : ∀ sync, msg ≠ .oneStepSync sync) :
    ∀ e ∈ (port.eventCalls env msg : List (Effect F)), e.AnswersTo port input := by
  intro e he
  unfold eventCalls at he
  split at he
  · rcases List.mem_cons.mp he with rfl | he
    · exact ⟨rfl, hmsg⟩
    · rw [List.mem_singleton.mp he]
      trivial
  · rw [List.mem_singleton.mp he]
    exact ⟨rfl, hmsg⟩

variable [F64 F] [ForeignClockRecords R]

omit [F64 F] in
theorem Mastered.answersTo {env : Env} {p p' : MasterPort F R} {input : PortInput}
    {d : Option StateDecision} {l : List (Effect F)} (h : Mastered env p input p' d l) :
    ∀ e ∈ l, e.AnswersTo p.port input := by
  intro e he
  cases h with
  | answered source req ts =>
    rw [List.mem_singleton.mp he]
    exact ⟨rfl, source, req, ts, _, rfl, rfl⟩
  | heard hfed =>
    obtain ⟨-, -, -, -, -, htriggers⟩ := feedBmca_returns hfed
    exact answersTo_of_triggers htriggers e he
  | announced =>
    rw [List.mem_singleton.mp he]
    rfl
  | synced => exact DomainPort.eventCalls_answersTo (fun sync => by simp) e he
  | followedUp sync egress =>
    rw [List.mem_singleton.mp he]
    exact ⟨rfl, sync, egress, rfl, rfl⟩
  | expired => cases he
  | decided => cases he
  | ignored => cases he

theorem Handled.answersTo {react : PortIdentity → ServoState → Option StateDecision} {env : Env}
    {p p' : ParentTrackingPort F R} {input : PortInput} {d : Option StateDecision}
    {l : List (Effect F)} (h : Handled react env p input p' d l) :
    ∀ e ∈ l, e.AnswersTo p.port input := by
  intro e he
  cases h with
  | recorded => cases he
  | sampled _ _ hfed => exact (ParentTrackingPort.feedServo_only _ _ _ l hfed e he).answersTo
  | announced hfed =>
    obtain ⟨-, -, -, -, -, htriggers⟩ := feedBmca_returns hfed
    exact answersTo_of_triggers htriggers e he
  | requested hsent =>
    obtain ⟨-, rfl⟩ := DomainPort.sendEvent_eventCalls hsent
    exact DomainPort.eventCalls_answersTo (fun sync => by simp) e he
  | expired => cases he
  | decided => cases he

theorem dispatch_answersTo {env : Env} {s s' : PortState F R} {input : PortInput}
    {d : Option StateDecision} {l : List (Effect F)}
    (h : (s.dispatch env input).Returns (s', d) l) :
    ∀ e ∈ l, e.AnswersTo s.handover.port input := by
  rcases s.tracking_cases with ⟨k, q, rfl⟩ | huntracked
  · obtain ⟨p', -, hp'⟩ := TrackingRole.dispatch_returns h
    have hport : (k.state q).handover.port = q.port := by cases k <;> rfl
    rw [hport]
    exact (ParentTrackingPort.handle_cases hp').answersTo
  · -- Only a master and a port that tracks a parent send anything.
    have silent : (∀ ds, s.role ≠ .master ds) → ∀ e ∈ l, e.AnswersTo s.handover.port input := by
      intro hmaster e he
      have hperforms := dispatch_only env s input (s', d) l h e he
      cases e with
      | sendEvent msg buf result =>
        cases msg with
        | delayReq req =>
          obtain ⟨parent, htracks⟩ := hperforms
          exact absurd htracks (huntracked parent)
        | twoStepSync sync =>
          obtain ⟨ds, hds⟩ := hperforms
          exact absurd hds (hmaster ds)
        | oneStepSync sync => exact absurd hperforms id
      | sendGeneral msg buf result =>
        obtain ⟨ds, hds⟩ := hperforms.sentIn
        exact absurd hds (hmaster ds)
      | _ => trivial
    cases s with
    | master p =>
      obtain ⟨p', -, hp'⟩ := MasterPort.dispatch_cases h
      exact hp'.answersTo
    | initializing p => exact silent fun ds hds => by cases hds
    | listening p => exact silent fun ds hds => by cases hds
    | slave p => exact silent fun ds hds => by cases hds
    | preMaster p => exact silent fun ds hds => by cases hds
    | uncalibrated p => exact silent fun ds hds => by cases hds
    | passive p => exact silent fun ds hds => by cases hds
    | faulty p => exact silent fun ds hds => by cases hds

/-- Whatever a port sends answers to its input. -/
theorem step_answersTo {env : Env} {s s' : PortState F R} {input : PortInput} {l : List (Effect F)}
    (h : (s.step env input).Returns s' l) : ∀ e ∈ l, e.AnswersTo s.handover.port input := by
  rw [PortState.step, Act.returns_bind] at h
  obtain ⟨⟨s₁, d⟩, l₁, l₂, hd, hrest, rfl⟩ := h
  intro e he
  rcases List.mem_append.mp he with he | he
  · exact dispatch_answersTo hd e he
  · cases d with
    | none =>
      rw [(Act.returns_pure.mp hrest).2] at he
      cases he
    | some decision =>
      obtain ⟨r, -, hmoved⟩ := apply_returns hrest
      exact answersTo_of_triggers hmoved.triggers e he

end Rptp
