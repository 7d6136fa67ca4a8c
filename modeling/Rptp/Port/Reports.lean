import Rptp.Port.Step

/-! # What a port reports to its clock

The trigger of a port remembers what the port reported last. Only an Announce that is considered and
an expired announce receipt timeout change it, and both leave it equal to the best foreign data set
of the records.
-/

namespace Rptp

open Machine

variable {F R : Type}

/-- A report of a port to its clock. -/
def Effect.IsReport : Effect F → Prop
  | trigger .. => True
  | _ => False

theorem Effect.OnClock.not_isReport (e : Effect F) (h : e.OnClock) : ¬ e.IsReport := by
  cases e
  case trigger => exact absurd h id
  all_goals exact id

namespace PortState

/-- What the port reported last. -/
def previous (s : PortState F R) : BestForeignSnapshot :=
  s.parts.stateDecisionTrigger.previousBestForeign

/-- The port has reported the best foreign data set of its records. -/
def Synced [ForeignClockRecords R] (s : PortState F R) : Prop :=
  s.parts.bestForeign.snapshot = .ok s.previous

end PortState

section Quiet

/-- Every result has the given trigger, and nothing is reported. -/
def Quiet (t : StateDecisionEventTrigger)
    (x : Act (Effect F) (PortState F R × Option StateDecision)) : Prop :=
  ∀ r l, x.Returns r l → r.1.parts.stateDecisionTrigger = t ∧ ∀ e ∈ l, ¬ e.IsReport

variable {t : StateDecisionEventTrigger}

theorem quiet_pure {r : PortState F R × Option StateDecision}
    (h : r.1.parts.stateDecisionTrigger = t) : Quiet t (pure r) := by
  intro r' l hr
  obtain ⟨rfl, rfl⟩ := Act.returns_pure.mp hr
  exact ⟨h, by simp⟩

theorem quiet_bind {Q : Type} {x : Act (Effect F) Q}
    {f : Q → PortState F R × Option StateDecision} (hx : x.Only fun e => ¬ e.IsReport)
    (hf : ∀ q l, x.Returns q l → (f q).1.parts.stateDecisionTrigger = t) :
    Quiet t (x >>= fun q => pure (f q)) := by
  intro r l hr
  obtain ⟨q, hq, rfl⟩ := Act.returns_bind_pure.mp hr
  exact ⟨hf q l hq, fun e he => hx q l hq e he⟩

theorem DomainPort.sendEvent_quiet (env : Env) (port : DomainPort) (msg : EventMessage) :
    (port.sendEvent env msg : Act (Effect F) _).Only fun e => ¬ e.IsReport :=
  sendEvent_only env port msg (fun _ _ => id) id

theorem DomainPort.sendGeneral_quiet (env : Env) (port : DomainPort) (msg : GeneralMessage) :
    (port.sendGeneral env msg : Act (Effect F) _).Only fun e => ¬ e.IsReport :=
  sendGeneral_only env port msg fun _ _ => id

variable [F64 F]

variable [ForeignClockRecords R]

theorem ParentTrackingPort.handle_quiet {react : PortIdentity → ServoState → Option StateDecision}
    {env : Env} {p p' : ParentTrackingPort F R} {input : PortInput} {d : Option StateDecision}
    {l : List (Effect F)} (hin : ¬ input.IsAnnounce)
    (h : (p.handle react env input).Returns (p', d) l) :
    p'.bmca.stateDecisionTrigger = p.bmca.stateDecisionTrigger ∧ ∀ e ∈ l, ¬ e.IsReport := by
  cases handle_cases h with
  | recorded => exact ⟨rfl, by simp⟩
  | sampled _ _ hfed =>
    have honly := feedServo_only _ _ _ l hfed
    obtain ⟨⟨servo, rfl⟩, -⟩ := feedServo_returns hfed
    exact ⟨rfl, fun e he => (honly e he).not_isReport⟩
  | announced => exact absurd trivial hin
  | requested hsent => exact ⟨rfl, DomainPort.sendEvent_quiet env p.port _ _ l hsent⟩
  | expired => exact ⟨rfl, by simp⟩
  | @decided snapshot bmca _ hdecided =>
    obtain ⟨eRbest, decision, -, -, heq⟩ := stateDecisionEvent_eq (F := F) p.bmca snapshot
    cases hdecided.symm.trans heq
    exact ⟨rfl, by simp⟩

theorem TrackingRole.dispatch_quiet (k : TrackingRole) (env : Env) (p : ParentTrackingPort F R)
    (input : PortInput) (h : ¬ input.IsAnnounce) :
    Quiet (k.state p).parts.stateDecisionTrigger ((k.state p).dispatch env input) := by
  rintro ⟨s', d⟩ l hr
  obtain ⟨p', rfl, hp'⟩ := dispatch_returns hr
  have hquiet := ParentTrackingPort.handle_quiet h hp'
  cases k <;> exact hquiet

theorem dispatchEvent_quiet (env : Env) (s : PortState F R) (msg : EventMessage)
    (source : PortIdentity) (ts : TimeStamp) :
    Quiet s.parts.stateDecisionTrigger (s.dispatchEvent env msg source ts) := by
  cases s with
  | slave p => exact TrackingRole.dispatch_quiet .slave env p (.event source msg ts) id
  | uncalibrated p => exact TrackingRole.dispatch_quiet .uncalibrated env p (.event source msg ts) id
  | master p =>
    cases msg with
    | delayReq req => exact quiet_bind (DomainPort.sendGeneral_quiet env p.port _) fun _ _ _ => rfl
    | oneStepSync sync => exact quiet_pure rfl
    | twoStepSync sync => exact quiet_pure rfl
  | initializing p => cases msg <;> exact quiet_pure rfl
  | listening p => cases msg <;> exact quiet_pure rfl
  | preMaster p => cases msg <;> exact quiet_pure rfl
  | passive p => cases msg <;> exact quiet_pure rfl
  | faulty p => cases msg <;> exact quiet_pure rfl

theorem dispatchSystem_quiet (env : Env) (s : PortState F R) (msg : SystemMessage) :
    Quiet s.parts.stateDecisionTrigger (s.dispatchSystem env msg) := by
  cases msg with
  | announceSendTimeout =>
    cases s
    case master p =>
      refine quiet_bind ?_ fun q l hq => ?_
      · refine Act.only_bind (DomainPort.sendGeneral_quiet env p.port _) fun r => ?_
        cases r <;> exact Act.only_pure _
      · obtain ⟨⟨cycle, hp⟩, -⟩ := MasterPort.sendAnnounce_returns hq
        rw [hp]
        rfl
    all_goals exact quiet_pure rfl
  | syncTimeout =>
    cases s
    case master p =>
      refine quiet_bind ?_ fun q l hq => ?_
      · refine Act.only_bind (DomainPort.sendEvent_quiet env p.port _) fun r => ?_
        cases r <;> exact Act.only_pure _
      · obtain ⟨⟨cycle, hp⟩, -⟩ := MasterPort.sendSync_returns hq
        rw [hp]
        rfl
    all_goals exact quiet_pure rfl
  | delayRequestTimeout =>
    cases s
    case slave p => exact TrackingRole.dispatch_quiet .slave env p (.system .delayRequestTimeout) id
    case uncalibrated p =>
      exact TrackingRole.dispatch_quiet .uncalibrated env p (.system .delayRequestTimeout) id
    all_goals exact quiet_pure rfl
  | timestamp msg =>
    obtain ⟨eventMsg, egress⟩ := msg
    cases s
    case master p =>
      cases eventMsg with
      | twoStepSync sync =>
        exact quiet_bind (DomainPort.sendGeneral_quiet env p.port _) fun _ _ _ => rfl
      | delayReq req => exact quiet_pure rfl
      | oneStepSync sync => exact quiet_pure rfl
    all_goals cases eventMsg <;> exact quiet_pure rfl
  | stateDecisionEvent snapshot =>
    intro r l h
    obtain ⟨eRbest, decision, -, hd⟩ := dispatch_decision env s snapshot
    obtain ⟨rfl, rfl⟩ := h.unique hd
    exact ⟨s.stateDecisionTrigger_remember snapshot.d0, by simp⟩
  | initialized => cases s <;> exact quiet_pure rfl
  | faultCleared => cases s <;> exact quiet_pure rfl
  | announceReceiptTimeout => cases s <;> exact quiet_pure rfl
  | qualificationTimeout => cases s <;> exact quiet_pure rfl

theorem dispatch_quiet (env : Env) (s : PortState F R) (input : PortInput)
    (h : ¬ input.IsAnnounce) : Quiet s.parts.stateDecisionTrigger (s.dispatch env input) := by
  cases input with
  | event source msg ts => exact dispatchEvent_quiet env s msg source ts
  | system msg => exact dispatchSystem_quiet env s msg
  | general source msg now =>
    rcases s.tracking_cases with ⟨k, p, rfl⟩ | huntracked
    · exact k.dispatch_quiet env p _ h
    · have hnone := PortState.tracking_eq_none huntracked
      cases msg with
      | announce msg => exact absurd trivial h
      | delayResp resp => cases s <;> first | exact quiet_pure rfl | cases hnone
      | followUp followUp => cases s <;> first | exact quiet_pure rfl | cases hnone

end Quiet

section Announce

variable [ForeignClockRecords R]

/-- A gated trigger always ends with the current snapshot, and reports it if it is new. -/
theorem gatedTrigger_eq {t t' : StateDecisionEventTrigger} {current : BestForeignSnapshot}
    {l : List (Effect F)} (h : (t.gatedTrigger current).Returns t' l) :
    t' = { t with previousBestForeign := current } ∧
      l = if t.previousBestForeign = current then [] else [.trigger t.receivedOnPort current] := by
  unfold StateDecisionEventTrigger.gatedTrigger at h
  split_ifs at h with hne
  · rw [StateDecisionEventTrigger.trigger, Act.returns_emit_bind] at h
    obtain ⟨l', h, rfl⟩ := h
    obtain ⟨rfl, rfl⟩ := Act.returns_pure.mp h
    exact ⟨rfl, by rw [if_neg hne]⟩
  · obtain ⟨rfl, rfl⟩ := Act.returns_pure.mp h
    have heq : t'.previousBestForeign = current := not_not.mp hne
    refine ⟨?_, by rw [if_pos heq]⟩
    rw [← heq]

/-- What an Announce does to a port: nothing, if the port is idle or the interval is not supported,
and else it is considered and the port has reported what it holds now. -/
inductive Heard (s : PortState F R) (source : PortIdentity) (msg : AnnounceMessage) (now : Instant)
    (s' : PortState F R) (l : List (Effect F)) : Prop
  | ignored (h : s.role.Idle ∨ msg.logMessageInterval.logInterval = .ok none)
      (parts : s'.parts = s.parts) (log : l = [])
  | considered (interval : LogInterval) (current : BestForeignSnapshot) (active : ¬ s.role.Idle)
      (supported : msg.logMessageInterval.logInterval = .ok (some interval))
      (records : s.parts.bestForeign.consider source msg.foreignClockDs interval now =
        .ok s'.parts.bestForeign)
      (snapshot : s'.parts.bestForeign.snapshot = .ok current)
      (bmca : s'.parts.bmca = s.parts.bmca)
      (trigger : s'.parts.stateDecisionTrigger =
        { s.parts.stateDecisionTrigger with previousBestForeign := current })
      (log : l = if s.previous = current then []
        else [.trigger s.parts.stateDecisionTrigger.receivedOnPort current])

theorem heard_of_feedBmca {B : Type} [GatedBmca F B R] {s s' : PortState F R} {b : B}
    {mk : B → PortState F R} {source : PortIdentity} {msg : AnnounceMessage} {now : Instant}
    {l : List (Effect F)} (hidle : ¬ s.role.Idle) (hb : GatedBmca.parts F b = s.parts)
    (hrole : ∀ p, (mk (GatedBmca.withParts F b p)).role = s.role)
    (hmk : ∀ p, (mk (GatedBmca.withParts F b p)).parts = p)
    (h : (do
      let b ← msg.feedBmca b source now
      pure (mk b) : Act (Effect F) _).Returns s' l) :
    s'.role = s.role ∧ Heard s source msg now s' l := by
  obtain ⟨b', hfeed, rfl⟩ := Act.returns_bind_pure.mp h
  rw [AnnounceMessage.feedBmca, Act.returns_lift_bind] at hfeed
  obtain ⟨interval, hinterval, hfeed⟩ := hfeed
  cases interval with
  | none =>
    obtain ⟨rfl, rfl⟩ := Act.returns_pure.mp hfeed
    rw [← GatedBmca.withParts_parts (F := F) b']
    exact ⟨hrole _, .ignored (.inr hinterval) (by rw [hmk, hb]) rfl⟩
  | some interval =>
    dsimp only at hfeed
    rw [GatedBmca.consider_eq, Act.returns_bind_pure] at hfeed
    obtain ⟨p, hp, rfl⟩ := hfeed
    rw [hb, BmcaParts.consider, Act.returns_lift_bind] at hp
    obtain ⟨records, hrecords, hp⟩ := hp
    obtain ⟨current, hsnap, hp⟩ := Act.returns_lift_bind.mp hp
    obtain ⟨t, ht, rfl⟩ := Act.returns_bind_pure.mp hp
    obtain ⟨rfl, rfl⟩ := gatedTrigger_eq ht
    exact ⟨hrole _, .considered interval current hidle hinterval (by rw [hmk]; exact hrecords)
      (by rw [hmk]; exact hsnap) (by rw [hmk]) (by rw [hmk]) rfl⟩

variable [F64 F]

theorem step_announce {env : Env} {s s' : PortState F R} {source : PortIdentity}
    {msg : AnnounceMessage} {now : Instant} {l : List (Effect F)}
    (h : (s.step env (.general source (.announce msg) now)).Returns s' l) :
    s'.role = s.role ∧ Heard s source msg now s' l := by
  cases s with
  | initializing p =>
    obtain ⟨rfl, rfl⟩ := Act.returns_pure.mp h
    exact ⟨rfl, .ignored (.inl trivial) rfl rfl⟩
  | faulty p =>
    obtain ⟨rfl, rfl⟩ := Act.returns_pure.mp h
    exact ⟨rfl, .ignored (.inl trivial) rfl rfl⟩
  | listening p =>
    simp only [PortState.step, PortState.dispatch, PortState.dispatchGeneral,
      ListeningPort.processAnnounce, bind_assoc, pure_bind] at h
    exact heard_of_feedBmca id rfl (fun _ => rfl) (fun _ => rfl) h
  | slave p =>
    simp only [PortState.step, PortState.dispatch, PortState.dispatchGeneral,
      ParentTrackingPort.processAnnounce, bind_assoc, pure_bind] at h
    exact heard_of_feedBmca id rfl (fun _ => rfl) (fun _ => rfl) h
  | uncalibrated p =>
    simp only [PortState.step, PortState.dispatch, PortState.dispatchGeneral,
      ParentTrackingPort.processAnnounce, bind_assoc, pure_bind] at h
    exact heard_of_feedBmca id rfl (fun _ => rfl) (fun _ => rfl) h
  | master p =>
    simp only [PortState.step, PortState.dispatch, PortState.dispatchGeneral,
      MasterPort.processAnnounce, bind_assoc, pure_bind] at h
    exact heard_of_feedBmca id rfl (fun _ => rfl) (fun _ => rfl) h
  | preMaster p =>
    simp only [PortState.step, PortState.dispatch, PortState.dispatchGeneral,
      PreMasterPort.processAnnounce, bind_assoc, pure_bind] at h
    exact heard_of_feedBmca id rfl (fun _ => rfl) (fun _ => rfl) h
  | passive p =>
    simp only [PortState.step, PortState.dispatch, PortState.dispatchGeneral,
      PassivePort.processAnnounce, bind_assoc, pure_bind] at h
    exact heard_of_feedBmca id rfl (fun _ => rfl) (fun _ => rfl) h

end Announce

section Step

variable [F64 F] [ForeignClockRecords R]

/-- A transition reports the records as they are, or nothing. -/
theorem apply_reports {env : Env} {s s' : PortState F R} {d : StateDecision} {l : List (Effect F)}
    (h : (s.apply env d).Returns s' l) :
    (s'.parts.stateDecisionTrigger = s.parts.stateDecisionTrigger ∧ l = []) ∨
      ∃ e, s.parts.bestForeign.snapshot = .ok e ∧
        s'.parts.stateDecisionTrigger =
          { s.parts.stateDecisionTrigger with previousBestForeign := e } ∧
        l = [.trigger s.parts.stateDecisionTrigger.receivedOnPort e] := by
  cases d
  case announceReceiptTimeoutExpired =>
    cases s
    case listening p | slave p | uncalibrated p | passive p =>
      right
      obtain ⟨e, hsnap, he⟩ := p.handover.announceReceiptTimeoutExpired_returns env
      obtain ⟨rfl, rfl⟩ := he.unique h
      exact ⟨e, hsnap, rfl, rfl⟩
    all_goals exact absurd h Act.returns_abort
  all_goals
    cases s
    all_goals first
      | exact absurd h Act.returns_abort
      | obtain ⟨rfl, rfl⟩ := Act.returns_pure.mp h
        exact .inl ⟨rfl, rfl⟩

/-- What a step reports. Nothing, and then a port that has reported its records still has, or as
its last call what the records hold afterwards. -/
inductive Reported (s s' : PortState F R) (l : List (Effect F)) : Prop
  | silent (trigger : s'.parts.stateDecisionTrigger = s.parts.stateDecisionTrigger)
      (log : ∀ e ∈ l, ¬ e.IsReport) (synced : s.Synced → s'.Synced)
  | reported (l₁ : List (Effect F)) (before : ∀ e ∈ l₁, ¬ e.IsReport)
      (log : l = l₁ ++ [.trigger s.parts.stateDecisionTrigger.receivedOnPort s'.previous])
      (synced : s'.Synced)

theorem step_reported {env : Env} {s s' : PortState F R} {input : PortInput} {l : List (Effect F)}
    (h : (s.step env input).Returns s' l) : Reported s s' l := by
  by_cases hin : input.IsAnnounce
  · obtain ⟨source, msg, now, rfl⟩ := hin.eq
    cases (step_announce h).2 with
    | ignored _ hparts hlog =>
      refine .silent (by rw [hparts]) (by simp [hlog]) fun hs => ?_
      rw [PortState.Synced, PortState.previous, hparts]
      exact hs
    | considered interval current _ _ _ hsnap _ htrigger hlog =>
      have hprevious : s'.previous = current := by rw [PortState.previous, htrigger]
      have hsynced : s'.Synced := by rw [PortState.Synced, hprevious, hsnap]
      split_ifs at hlog with heq
      · refine .silent ?_ (by simp [hlog]) fun _ => hsynced
        rw [htrigger, ← heq]
        rfl
      · refine .reported [] (by simp) ?_ hsynced
        rw [hprevious, hlog]
        rfl
  · rw [PortState.step, Act.returns_bind] at h
    obtain ⟨⟨s₁, d⟩, l₁, l₂, hd, hrest, rfl⟩ := h
    obtain ⟨htrigger, hlog⟩ := dispatch_quiet env s input hin _ _ hd
    have hrecords := (dispatch_returns hd).records hin
    have hkept : s.Synced → s₁.Synced := by
      intro hs
      rw [PortState.Synced, PortState.previous, hrecords, htrigger]
      exact hs
    cases d with
    | none =>
      obtain ⟨rfl, rfl⟩ := Act.returns_pure.mp hrest
      rw [List.append_nil]
      exact .silent htrigger hlog hkept
    | some d =>
      obtain ⟨r, -, hmoved⟩ := apply_returns hrest
      rcases apply_reports hrest with ⟨htrigger', rfl⟩ | ⟨e, hsnap, htrigger', rfl⟩
      · rw [List.append_nil]
        refine .silent (htrigger'.trans htrigger) hlog fun hs => ?_
        rw [PortState.Synced, PortState.previous, hmoved.bestForeign, htrigger']
        exact hkept hs
      · have hprevious : s'.previous = e := by rw [PortState.previous, htrigger']
        refine .reported l₁ hlog ?_ ?_
        · rw [hprevious, ← htrigger]
        · rw [PortState.Synced, hprevious, hmoved.bestForeign, hsnap]

/-- A step keeps a port in step with its records. -/
theorem step_synced {env : Env} {s s' : PortState F R} {input : PortInput} {l : List (Effect F)}
    (hs : s.Synced) (h : (s.step env input).Returns s' l) : s'.Synced := by
  cases step_reported h with
  | silent _ _ hsynced => exact hsynced hs
  | reported _ _ _ hsynced => exact hsynced

end Step

end Rptp
