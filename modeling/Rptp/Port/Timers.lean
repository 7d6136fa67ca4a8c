import Rptp.Port.Mastering
import Rptp.Port.Requests

/-! # The timers of a port stay armed

A state owns its timeout handles. A handle that fires is disarmed and its message waits for the port,
which restarts the handle or leaves the state when the message is delivered. A handle that is dropped
with its state takes its message along. Between a fire and the delivery anything else can happen.
-/

namespace Rptp

open Machine

variable {F R : Type}

/-- A running timeout. -/
def Timeout.Armed (t : Timeout) : Prop := t.deadline ≠ none

instance (t : Timeout) : Decidable t.Armed := inferInstanceAs (Decidable (_ ≠ _))

@[simp] theorem Timeout.restart_armed (env : Env) (t : Timeout) (d : Duration) :
    (t.restart env d).Armed := by
  intro h
  cases h

/-- The timeout has fired if the message is its own. -/
def Timeout.fire (msg : SystemMessage) (t : Timeout) : Timeout :=
  if t.msg = msg then { t with deadline := none } else t

theorem Timeout.fire_msg (msg : SystemMessage) (t : Timeout) : (t.fire msg).msg = t.msg := by
  unfold fire
  split_ifs <;> rfl

theorem Timeout.fire_armed {msg : SystemMessage} {t : Timeout} (h : t.Armed) :
    (t.fire msg).Armed ∨ t.msg = msg := by
  unfold fire
  split_ifs with hmsg
  · exact .inr hmsg
  · exact .inl h

namespace PortState

/-- The timeout handles that a state owns. -/
def timers : PortState F R → List Timeout
  | .initializing _ => []
  | .listening p => [p.announceReceiptTimeout.timeout]
  | .slave p => [p.announceReceiptTimeout.timeout, p.delayMechanism.delayCycle.timeout]
  | .master p => [p.announceCycle.timeout, p.syncCycle.timeout]
  | .preMaster p => [p.qualificationTimeout]
  | .uncalibrated p => [p.announceReceiptTimeout.timeout, p.delayMechanism.delayCycle.timeout]
  | .passive p => [p.announceReceiptTimeout.timeout]
  | .faulty _ => []

/-- Every timer that the state needs is armed. -/
def Armed : PortState F R → Prop
  | .initializing _ => True
  | .listening p => p.announceReceiptTimeout.timeout.Armed
  | .slave p =>
    p.announceReceiptTimeout.timeout.Armed ∧ p.delayMechanism.delayCycle.timeout.Armed
  | .master p => p.announceCycle.timeout.Armed ∧ p.syncCycle.timeout.Armed
  | .preMaster p => p.qualificationTimeout.Armed
  | .uncalibrated p =>
    p.announceReceiptTimeout.timeout.Armed ∧ p.delayMechanism.delayCycle.timeout.Armed
  | .passive p => p.announceReceiptTimeout.timeout.Armed
  | .faulty _ => True

theorem armed_of_timers {s : PortState F R} (h : ∀ t ∈ s.timers, t.Armed) : s.Armed := by
  cases s with
  | initializing p => trivial
  | listening p => exact h _ (by simp [timers])
  | slave p => exact ⟨h _ (by simp [timers]), h _ (by simp [timers])⟩
  | master p => exact ⟨h _ (by simp [timers]), h _ (by simp [timers])⟩
  | preMaster p => exact h _ (by simp [timers])
  | uncalibrated p => exact ⟨h _ (by simp [timers]), h _ (by simp [timers])⟩
  | passive p => exact h _ (by simp [timers])
  | faulty p => trivial

/-- The handles of a tracking port after a fire. -/
def fireTracking (msg : SystemMessage) (p : ParentTrackingPort F R) : ParentTrackingPort F R :=
  { p with
    announceReceiptTimeout :=
      { p.announceReceiptTimeout with timeout := p.announceReceiptTimeout.timeout.fire msg }
    delayMechanism := { p.delayMechanism with
      delayCycle := { p.delayMechanism.delayCycle with
        timeout := p.delayMechanism.delayCycle.timeout.fire msg } } }

/-- The state after the handle with the given message has fired. -/
def fire (msg : SystemMessage) : PortState F R → PortState F R
  | .initializing p => .initializing p
  | .listening p => .listening { p with
      announceReceiptTimeout :=
        { p.announceReceiptTimeout with timeout := p.announceReceiptTimeout.timeout.fire msg } }
  | .slave p => .slave (fireTracking msg p)
  | .master p => .master { p with
      announceCycle := { p.announceCycle with timeout := p.announceCycle.timeout.fire msg }
      syncCycle := { p.syncCycle with timeout := p.syncCycle.timeout.fire msg } }
  | .preMaster p => .preMaster { p with
      qualificationTimeout := p.qualificationTimeout.fire msg }
  | .uncalibrated p => .uncalibrated (fireTracking msg p)
  | .passive p => .passive { p with
      announceReceiptTimeout :=
        { p.announceReceiptTimeout with timeout := p.announceReceiptTimeout.timeout.fire msg } }
  | .faulty p => .faulty p

theorem timers_fire (msg : SystemMessage) (s : PortState F R) :
    (s.fire msg).timers = s.timers.map (Timeout.fire msg) := by
  cases s <;> rfl

theorem role_fire (msg : SystemMessage) (s : PortState F R) : (s.fire msg).role = s.role := by
  cases s <;> rfl

end PortState

/-- The messages of the timers that a state needs. -/
def Role.timeouts : Role → List SystemMessage
  | initializing => []
  | listening => [.announceReceiptTimeout]
  | slave _ => [.announceReceiptTimeout, .delayRequestTimeout]
  | uncalibrated _ => [.announceReceiptTimeout, .delayRequestTimeout]
  | master _ => [.announceSendTimeout, .syncTimeout]
  | preMaster _ => [.qualificationTimeout]
  | passive => [.announceReceiptTimeout]
  | faulty => []

/-- Each handle of the state carries the message that the state handles. -/
def PortState.Labelled (s : PortState F R) : Prop := s.timers.map Timeout.msg = s.role.timeouts

theorem PortState.Labelled.mem {s : PortState F R} (h : s.Labelled) {t : Timeout}
    (ht : t ∈ s.timers) : t.msg ∈ s.role.timeouts := by
  rw [← h]
  exact List.mem_map_of_mem ht

/-- A state as its profile builds it. -/
def PortState.Fresh (s : PortState F R) : Prop := s.Labelled ∧ ∀ t ∈ s.timers, t.Armed

namespace PortProfile

theorem initializing_fresh (profile : PortProfile F) (port : DomainPort) (parts : BmcaParts R) :
    (profile.initializing port parts).Fresh :=
  ⟨rfl, by simp [initializing, PortState.timers]⟩

theorem listening_fresh (env : Env) (profile : PortProfile F) (port : DomainPort)
    (bmca : ListeningBmca R) : (profile.listening env port bmca).Fresh :=
  ⟨rfl, by simp [listening, PortState.timers, armedReceiptTimeout, AnnounceReceiptTimeout.restart]⟩

theorem master_fresh (env : Env) (profile : PortProfile F) (port : DomainPort)
    (bmca : GrandMasterTrackingBmca R) : (profile.master env port bmca).Fresh :=
  ⟨rfl, by simp [master, PortState.timers]⟩

theorem preMaster_fresh (env : Env) (profile : PortProfile F) (port : DomainPort)
    (bmca : GrandMasterTrackingBmca R) (policy : QualificationTimeoutPolicy) :
    (profile.preMaster env port bmca policy).Fresh :=
  ⟨rfl, by simp [preMaster, PortState.timers]⟩

theorem passive_fresh (env : Env) (profile : PortProfile F) (port : DomainPort)
    (bmca : PassiveBmca R) : (profile.passive env port bmca).Fresh :=
  ⟨rfl, by simp [passive, PortState.timers, armedReceiptTimeout, AnnounceReceiptTimeout.restart]⟩

theorem faulty_fresh (profile : PortProfile F) (port : DomainPort) (parts : BmcaParts R) :
    (profile.faulty port parts).Fresh :=
  ⟨rfl, by simp [faulty, PortState.timers]⟩

theorem uncalibrated_fresh [F64 F] (env : Env) (profile : PortProfile F) (port : DomainPort)
    (bmca : ParentTrackingBmca R) : (profile.uncalibrated env port bmca).Fresh :=
  ⟨rfl, by simp [uncalibrated, PortState.timers, armedReceiptTimeout,
    AnnounceReceiptTimeout.restart, EndToEndDelayMechanism.new]⟩

end PortProfile

/-- The handle with the message is handed over to the next state. -/
def StateDecision.keeps : StateDecision → SystemMessage → Bool
  | synchronizationFault, _ => true
  | masterClockSelected _, .delayRequestTimeout => true
  | _, _ => false

/-- The decisions that leave all handles behind. -/
def StateDecision.Drops (d : StateDecision) : Prop := ∀ msg, d.keeps msg = false

/-- What a dispatch does to the handles: each one carries the same message as before and is armed, or
it is as before, and then the dispatched message is another one unless the state is left. -/
structure Ticked (s s' : PortState F R) (input : PortInput) (d : Option StateDecision) : Prop where
  labels : s'.timers.map Timeout.msg = s.timers.map Timeout.msg
  handles : ∀ t ∈ s'.timers, t.Armed ∨
    (t ∈ s.timers ∧ (input = .system t.msg → ∃ x, d = some x ∧ x.Drops))

theorem Ticked.same {s s' : PortState F R} {input : PortInput} {d : Option StateDecision}
    (hs : s.Labelled) (htimers : s'.timers = s.timers)
    (hinput : ∀ msg ∈ s.role.timeouts, input ≠ .system msg) : Ticked s s' input d := by
  constructor
  · rw [htimers]
  · intro t ht
    rw [htimers] at ht
    exact .inr ⟨ht, fun heq => absurd heq (hinput t.msg (hs.mem ht))⟩

theorem Ticked.left {s : PortState F R} {input : PortInput} {x : StateDecision} (hx : x.Drops) :
    Ticked s s input (some x) :=
  ⟨rfl, fun _ ht => .inr ⟨ht, fun _ => ⟨x, rfl, hx⟩⟩⟩

theorem TrackingRole.timers_state (k : TrackingRole) (p : ParentTrackingPort F R) :
    (k.state p).timers =
      [p.announceReceiptTimeout.timeout, p.delayMechanism.delayCycle.timeout] := by
  cases k <;> rfl

theorem TrackingRole.timeouts_state (k : TrackingRole) (p : ParentTrackingPort F R) :
    (k.state p).role.timeouts = [.announceReceiptTimeout, .delayRequestTimeout] := by
  cases k <;> rfl

theorem TrackingRole.labels {k : TrackingRole} {p : ParentTrackingPort F R}
    (hs : (k.state p).Labelled) :
    p.announceReceiptTimeout.timeout.msg = .announceReceiptTimeout ∧
      p.delayMechanism.delayCycle.timeout.msg = .delayRequestTimeout := by
  simpa [PortState.Labelled, k.timers_state, k.timeouts_state] using hs

section Dispatch

variable [F64 F] [ForeignClockRecords R]

omit [F64 F] in
theorem Mastered.ticked {env : Env} {p p' : MasterPort F R} {input : PortInput}
    {d : Option StateDecision} {l : List (Effect F)} (h : Mastered env p input p' d l)
    (hs : (PortState.master p : PortState F R).Labelled) :
    Ticked (.master p) (.master p' : PortState F R) input d := by
  obtain ⟨hannounce, hsync⟩ : p.announceCycle.timeout.msg = .announceSendTimeout ∧
      p.syncCycle.timeout.msg = .syncTimeout := by
    simpa [PortState.Labelled, PortState.timers, PortState.role, Role.timeouts] using hs
  cases h with
  | announced =>
    unfold MasterPort.afterAnnounce
    cases env.sendResult with
    | ok u =>
      refine ⟨rfl, fun t ht => ?_⟩
      rcases List.mem_pair.mp ht with rfl | rfl
      · exact .inl (Timeout.restart_armed _ _ _)
      · exact .inr ⟨by simp [PortState.timers], fun heq => by rw [hsync] at heq; cases heq⟩
    | error e => exact .left fun _ => rfl
  | synced =>
    unfold MasterPort.afterSync
    cases env.sendResult with
    | ok u =>
      refine ⟨rfl, fun t ht => ?_⟩
      rcases List.mem_pair.mp ht with rfl | rfl
      · exact .inr ⟨by simp [PortState.timers], fun heq => by rw [hannounce] at heq; cases heq⟩
      · exact .inl (Timeout.restart_armed _ _ _)
    | error e => exact .left fun _ => rfl
  | answered => exact .same hs rfl (by simp [PortState.role, Role.timeouts])
  | heard => exact .same hs rfl (by simp [PortState.role, Role.timeouts])
  | followedUp => exact .same hs rfl (by simp [PortState.role, Role.timeouts])
  | expired => exact .same hs rfl (by simp [PortState.role, Role.timeouts])
  | decided => exact .same hs rfl (by simp [PortState.role, Role.timeouts])
  | ignored ha hb => exact .same hs rfl (by simp [PortState.role, Role.timeouts, ha, hb])

/-- A port that tracks a parent keeps its timers, restarts one of them, or leaves its state. -/
theorem TrackingRole.ticked {k : TrackingRole} {env : Env} {p p' : ParentTrackingPort F R}
    {input : PortInput} {d : Option StateDecision} {l : List (Effect F)}
    (hs : (k.state p).Labelled) (h : (p.handle k.react env input).Returns (p', d) l) :
    Ticked (k.state p) (k.state p') input d := by
  obtain ⟨hreceipt, hdelay⟩ := TrackingRole.labels hs
  by_cases hrequest : input = .system .delayRequestTimeout
  · subst hrequest
    obtain ⟨⟨q, result⟩, hsend, hret⟩ := Act.returns_bind_pure.mp h
    cases hret
    obtain ⟨result, -, hret⟩ := Act.returns_bind_pure.mp hsend
    cases hret
    constructor
    · rw [k.timers_state, k.timers_state]
      rfl
    · intro t ht
      rw [k.timers_state] at ht ⊢
      rcases List.mem_pair.mp ht with rfl | rfl
      · exact .inr ⟨by simp, fun heq => by rw [hreceipt] at heq; cases heq⟩
      · exact .inl (Timeout.restart_armed _ _ _)
  · by_cases hexpired : input = .system .announceReceiptTimeout
    · subst hexpired
      obtain ⟨heq, rfl⟩ := Act.returns_pure.mp h
      cases heq
      exact .left fun _ => rfl
    · have hother : ∀ msg ∈ (k.state p).role.timeouts, input ≠ .system msg := by
        rw [k.timeouts_state]
        simp [hrequest, hexpired]
      have same : p'.announceReceiptTimeout = p.announceReceiptTimeout →
          p'.delayMechanism.delayCycle = p.delayMechanism.delayCycle →
          Ticked (k.state p) (k.state p') input d := by
        intro hsame hcycle
        refine .same hs ?_ hother
        rw [k.timers_state, k.timers_state, hsame, hcycle]
      cases ParentTrackingPort.handle_cases h with
      | recorded => exact same rfl (p.record_cycle input)
      | sampled _ _ hfed =>
        obtain ⟨⟨servo, rfl⟩, -⟩ := ParentTrackingPort.feedServo_returns hfed
        exact same rfl (p.record_cycle input)
      | announced =>
        constructor
        · rw [k.timers_state, k.timers_state]
          rfl
        · intro t ht
          rw [k.timers_state] at ht ⊢
          rcases List.mem_pair.mp ht with rfl | rfl
          · exact .inl (Timeout.restart_armed _ _ _)
          · exact .inr ⟨by simp, fun heq => by rw [hdelay] at heq; cases heq⟩
      | requested => exact absurd rfl hrequest
      | expired => exact absurd rfl hexpired
      | decided => exact same rfl rfl

omit [F64 F] [ForeignClockRecords R] in
theorem ticked_ignored {s s' : PortState F R} {input : PortInput} {d : Option StateDecision}
    {l : List (Effect F)} (hs : s.Labelled)
    (hinput : ∀ msg ∈ s.role.timeouts, input ≠ .system msg)
    (h : (pure (s, none) : Act (Effect F) _).Returns (s', d) l) : Ticked s s' input d := by
  obtain ⟨heq, -⟩ := Act.returns_pure.mp h
  cases heq
  exact .same hs rfl hinput

omit [F64 F] [ForeignClockRecords R] in
theorem ticked_left {s s' : PortState F R} {input : PortInput} {d : Option StateDecision}
    {x : StateDecision} {l : List (Effect F)} (hx : x.Drops)
    (h : (pure (s, some x) : Act (Effect F) _).Returns (s', d) l) : Ticked s s' input d := by
  obtain ⟨heq, -⟩ := Act.returns_pure.mp h
  cases heq
  exact .left hx

omit [F64 F] [ForeignClockRecords R] in
theorem ticked_announced {B Q : Type} {s s' : PortState F R} {input : PortInput}
    {d : Option StateDecision} {l : List (Effect F)} {feed : Act (Effect F) B} (wrap : B → Q)
    (mk : Q → PortState F R) (hmk : ∀ b, Ticked s (mk (wrap b)) input none)
    (h : (do
      let q ← (do
        let b ← feed
        pure (wrap b))
      pure (mk q, none) : Act (Effect F) _).Returns (s', d) l) : Ticked s s' input d := by
  obtain ⟨q, hq, hret⟩ := Act.returns_bind_pure.mp h
  cases hret
  obtain ⟨b, -, rfl⟩ := Act.returns_bind_pure.mp hq
  exact hmk b

theorem ticked_decided {env : Env} {s s' : PortState F R} {snapshot : StateDecisionSnapshot}
    {d : Option StateDecision} {l : List (Effect F)} (hs : s.Labelled)
    (h : (s.dispatch env (.system (.stateDecisionEvent snapshot))).Returns (s', d) l) :
    Ticked s s' (.system (.stateDecisionEvent snapshot)) d := by
  obtain ⟨eRbest, decision, -, hd⟩ := dispatch_decision env s snapshot
  obtain ⟨heq, -⟩ := h.unique hd
  cases heq
  refine .same hs (by cases s <;> rfl) ?_
  rintro msg hmsg heq
  cases heq
  cases hrole : s.role <;> simp [hrole, Role.timeouts] at hmsg

theorem listening_ticked {env : Env} {p : ListeningPort F R} {s' : PortState F R}
    {input : PortInput} {d : Option StateDecision} {l : List (Effect F)}
    (hs : (PortState.listening p).Labelled)
    (h : ((PortState.listening p).dispatch env input).Returns (s', d) l) :
    Ticked (.listening p) s' input d := by
  cases input with
  | event source msg ts => cases msg <;> exact ticked_ignored hs (by simp) h
  | general source msg now =>
    cases msg with
    | announce msg =>
      refine ticked_announced (fun bmca => ({ p with
        announceReceiptTimeout := p.announceReceiptTimeout.restart env, bmca } :
          ListeningPort F R)) .listening (fun bmca => ⟨rfl, fun t ht => ?_⟩) h
      rw [List.mem_singleton.mp ht]
      exact .inl (Timeout.restart_armed _ _ _)
    | followUp msg => exact ticked_ignored hs (by simp) h
    | delayResp msg => exact ticked_ignored hs (by simp) h
  | system msg =>
    cases msg
    case announceReceiptTimeout => exact ticked_left (fun _ => rfl) h
    case stateDecisionEvent snapshot => exact ticked_decided hs h
    all_goals exact ticked_ignored hs (by simp [PortState.role, Role.timeouts]) h

theorem passive_ticked {env : Env} {p : PassivePort F R} {s' : PortState F R}
    {input : PortInput} {d : Option StateDecision} {l : List (Effect F)}
    (hs : (PortState.passive p).Labelled)
    (h : ((PortState.passive p).dispatch env input).Returns (s', d) l) :
    Ticked (.passive p) s' input d := by
  cases input with
  | event source msg ts => cases msg <;> exact ticked_ignored hs (by simp) h
  | general source msg now =>
    cases msg with
    | announce msg =>
      refine ticked_announced (fun bmca => ({ p with
        announceReceiptTimeout := p.announceReceiptTimeout.restart env, bmca } :
          PassivePort F R)) .passive (fun bmca => ⟨rfl, fun t ht => ?_⟩) h
      rw [List.mem_singleton.mp ht]
      exact .inl (Timeout.restart_armed _ _ _)
    | followUp msg => exact ticked_ignored hs (by simp) h
    | delayResp msg => exact ticked_ignored hs (by simp) h
  | system msg =>
    cases msg
    case announceReceiptTimeout => exact ticked_left (fun _ => rfl) h
    case stateDecisionEvent snapshot => exact ticked_decided hs h
    all_goals exact ticked_ignored hs (by simp [PortState.role, Role.timeouts]) h

theorem preMaster_ticked {env : Env} {p : PreMasterPort F R} {s' : PortState F R}
    {input : PortInput} {d : Option StateDecision} {l : List (Effect F)}
    (hs : (PortState.preMaster p).Labelled)
    (h : ((PortState.preMaster p).dispatch env input).Returns (s', d) l) :
    Ticked (.preMaster p) s' input d := by
  cases input with
  | event source msg ts => cases msg <;> exact ticked_ignored hs (by simp) h
  | general source msg now =>
    cases msg with
    | announce msg =>
      exact ticked_announced (fun bmca => ({ p with bmca } : PreMasterPort F R)) .preMaster
        (fun _ => .same hs rfl (by simp)) h
    | followUp msg => exact ticked_ignored hs (by simp) h
    | delayResp msg => exact ticked_ignored hs (by simp) h
  | system msg =>
    cases msg
    case qualificationTimeout => exact ticked_left (fun _ => rfl) h
    case stateDecisionEvent snapshot => exact ticked_decided hs h
    all_goals exact ticked_ignored hs (by simp [PortState.role, Role.timeouts]) h

/-- A dispatch keeps a timer, restarts it, or answers its message by leaving the state. -/
theorem dispatch_ticked {env : Env} {s s' : PortState F R} {input : PortInput}
    {d : Option StateDecision} {l : List (Effect F)} (hs : s.Labelled)
    (h : (s.dispatch env input).Returns (s', d) l) : Ticked s s' input d := by
  have hrole := (dispatch_returns h).role
  cases s with
  | initializing p =>
    cases s' <;> cases hrole
    exact ⟨rfl, by simp [PortState.timers]⟩
  | faulty p =>
    cases s' <;> cases hrole
    exact ⟨rfl, by simp [PortState.timers]⟩
  | listening p => exact listening_ticked hs h
  | passive p => exact passive_ticked hs h
  | preMaster p => exact preMaster_ticked hs h
  | master p =>
    obtain ⟨p', rfl, hp'⟩ := MasterPort.dispatch_cases h
    exact hp'.ticked hs
  | slave p =>
    obtain ⟨p', rfl, hp'⟩ := TrackingRole.dispatch_returns (k := .slave) h
    exact TrackingRole.ticked (k := .slave) hs hp'
  | uncalibrated p =>
    obtain ⟨p', rfl, hp'⟩ := TrackingRole.dispatch_returns (k := .uncalibrated) h
    exact TrackingRole.ticked (k := .uncalibrated) hs hp'

omit [F64 F] in
theorem expired_fresh {env : Env} {h : Handover F R} {s' : PortState F R} {l : List (Effect F)}
    (hr : (h.announceReceiptTimeoutExpired env).Returns s' l) : s'.Fresh := by
  obtain ⟨e, -, hmaster⟩ := h.announceReceiptTimeoutExpired_returns env
  obtain ⟨rfl, -⟩ := hr.unique hmaster
  exact PortProfile.master_fresh env _ _ _

/-- What a transition does to the handles: the next state has its own handles, each of them armed or
handed over. -/
theorem apply_ticked {env : Env} {s s' : PortState F R} {x : StateDecision} {l : List (Effect F)}
    (hs : s.Labelled) (h : (s.apply env x).Returns s' l) :
    s'.Labelled ∧ ∀ t ∈ s'.timers, t.Armed ∨ (t ∈ s.timers ∧ x.keeps t.msg = true) := by
  have fresh : s'.Fresh → s'.Labelled ∧
      ∀ t ∈ s'.timers, t.Armed ∨ (t ∈ s.timers ∧ x.keeps t.msg = true) :=
    fun hfresh => ⟨hfresh.1, fun t ht => .inl (hfresh.2 t ht)⟩
  have built : ∀ {t : PortState F R}, t.Fresh →
      (pure t : Act (Effect F) (PortState F R)).Returns s' l → s'.Fresh := by
    intro t ht hret
    rw [(Act.returns_pure.mp hret).1]
    exact ht
  cases x with
  | initialized =>
    cases s
    case initializing p => exact fresh (built (PortProfile.listening_fresh env _ _ _) h)
    all_goals exact absurd h Act.returns_abort
  | faultCleared =>
    cases s
    case faulty p => exact fresh (built (PortProfile.initializing_fresh _ _ _) h)
    all_goals exact absurd h Act.returns_abort
  | qualificationTimeoutExpired =>
    cases s
    case preMaster p => exact fresh (built (PortProfile.master_fresh env _ _ _) h)
    all_goals exact absurd h Act.returns_abort
  | announceReceiptTimeoutExpired =>
    cases s
    case listening p => exact fresh (expired_fresh h)
    case slave p => exact fresh (expired_fresh h)
    case uncalibrated p => exact fresh (expired_fresh h)
    case passive p => exact fresh (expired_fresh h)
    all_goals exact absurd h Act.returns_abort
  | recommendedSlave parent =>
    cases s
    case initializing | faulty => exact absurd h Act.returns_abort
    all_goals exact fresh (built (PortProfile.uncalibrated_fresh env _ _ _) h)
  | recommendedMaster decision =>
    cases s
    case initializing | faulty => exact absurd h Act.returns_abort
    all_goals exact fresh (built (PortProfile.preMaster_fresh env _ _ _ _) h)
  | recommendedPassive =>
    cases s
    case initializing | faulty | passive => exact absurd h Act.returns_abort
    all_goals exact fresh (built (PortProfile.passive_fresh env _ _ _) h)
  | faultDetected =>
    cases s
    case initializing => exact absurd h Act.returns_abort
    all_goals exact fresh (built (PortProfile.faulty_fresh _ _ _) h)
  | synchronizationFault =>
    cases s
    case slave p =>
      obtain ⟨rfl, -⟩ := Act.returns_pure.mp h
      exact ⟨hs, fun t ht => .inr ⟨ht, rfl⟩⟩
    all_goals exact absurd h Act.returns_abort
  | masterClockSelected parent =>
    cases s
    case uncalibrated p =>
      obtain ⟨rfl, -⟩ := Act.returns_pure.mp h
      obtain ⟨-, hdelay⟩ := TrackingRole.labels (k := .uncalibrated) hs
      constructor
      · change [SystemMessage.announceReceiptTimeout,
          p.delayMechanism.delayCycle.timeout.msg] = _
        rw [hdelay]
        rfl
      · intro t ht
        rcases List.mem_pair.mp ht with rfl | rfl
        · exact .inl (Timeout.restart_armed _ _ _)
        · refine .inr ⟨by simp [PortState.timers], ?_⟩
          change StateDecision.keeps _ p.delayMechanism.delayCycle.timeout.msg = true
          rw [hdelay]
          rfl
    all_goals exact absurd h Act.returns_abort

end Dispatch

section Runs

/-- What happens next: a message reaches the port, a running timer fires, a fired message is
delivered, or it is withdrawn since its handle has been restarted. -/
inductive Occurrence where
  | message (env : Env) (input : PortInput)
  | fires (msg : SystemMessage)
  | delivered (env : Env) (number : ℕ)
  | withdrawn (number : ℕ)

/-- A port with the messages of its fired timers that have not been delivered. -/
structure TimedPort (F R : Type) where
  port : PortState F R
  pending : List SystemMessage

namespace TimedPort

/-- A handle of the port with this message is running. -/
def Running (w : TimedPort F R) (msg : SystemMessage) : Prop :=
  ∃ t ∈ w.port.timers, t.msg = msg ∧ t.Armed

instance (w : TimedPort F R) (msg : SystemMessage) : Decidable (w.Running msg) :=
  inferInstanceAs (Decidable (∃ t ∈ w.port.timers, t.msg = msg ∧ t.Armed))

variable [F64 F] [ForeignClockRecords R]

/-- A message to the port. A transition that leaves a handle behind takes its message back. -/
def deliver (env : Env) (w : TimedPort F R) (input : PortInput) (pending : List SystemMessage) :
    Act (Effect F) (TimedPort F R) := do
  let (port, decision) ← w.port.dispatch env input
  match decision with
  | some decision => do
    let port ← port.apply env decision
    pure ⟨port, pending.filter decision.keeps⟩
  | none => pure ⟨port, pending⟩

def step (w : TimedPort F R) : Occurrence → Act (Effect F) (TimedPort F R)
  | .message env input => w.deliver env input w.pending
  | .fires msg =>
    if w.Running msg then pure ⟨w.port.fire msg, w.pending ++ [msg]⟩ else pure w
  | .delivered env number =>
    match w.pending[number]? with
    | some msg => w.deliver env (.system msg) (w.pending.eraseIdx number)
    | none => pure w
  | .withdrawn number =>
    match w.pending[number]? with
    | some msg =>
      if w.Running msg then pure { w with pending := w.pending.eraseIdx number } else pure w
    | none => pure w

def run (w : TimedPort F R) (occurrences : List Occurrence) : Act (Effect F) (TimedPort F R) :=
  Act.runAll step w occurrences

omit [F64 F] [ForeignClockRecords R] in
/-- Each handle carries its message, and it is armed or its message is pending. -/
structure Covered (w : TimedPort F R) : Prop where
  labelled : w.port.Labelled
  covered : ∀ t ∈ w.port.timers, t.Armed ∨ t.msg ∈ w.pending

/-- A delivery arms every handle whose message does not stay pending. -/
theorem Covered.deliver {env : Env} {w w' : TimedPort F R} {input : PortInput}
    {pending : List SystemMessage} {l : List (Effect F)} (hw : w.Covered)
    (hpending : ∀ msg ∈ w.pending, input = .system msg ∨ msg ∈ pending)
    (h : (w.deliver env input pending).Returns w' l) : w'.Covered := by
  obtain ⟨⟨port, d⟩, l₁, l₂, hd, hrest, rfl⟩ := Act.returns_bind.mp h
  have hticked := dispatch_ticked hw.labelled hd
  have hlabelled : port.Labelled := by
    rw [PortState.Labelled, hticked.labels, (dispatch_returns hd).role]
    exact hw.labelled
  -- A handle that is not armed is an old one, and its message is pending or makes the port leave.
  have hold : ∀ t ∈ port.timers, t.Armed ∨ t.msg ∈ pending ∨ ∃ x, d = some x ∧ x.Drops := by
    intro t ht
    rcases hticked.handles t ht with harmed | ⟨hmem, hleft⟩
    · exact .inl harmed
    · rcases hw.covered t hmem with harmed | hmsg
      · exact .inl harmed
      · rcases hpending t.msg hmsg with heq | hmsg
        · exact .inr (.inr (hleft heq))
        · exact .inr (.inl hmsg)
  cases d with
  | none =>
    obtain ⟨rfl, -⟩ := Act.returns_pure.mp hrest
    refine ⟨hlabelled, fun t ht => ?_⟩
    rcases hold t ht with harmed | hmsg | ⟨x, hx, -⟩
    · exact .inl harmed
    · exact .inr hmsg
    · cases hx
  | some x =>
    obtain ⟨port', hx, rfl⟩ := Act.returns_bind_pure.mp hrest
    obtain ⟨hlabelled', hhandles⟩ := apply_ticked hlabelled hx
    refine ⟨hlabelled', fun t ht => ?_⟩
    rcases hhandles t ht with harmed | ⟨hmem, hkept⟩
    · exact .inl harmed
    · rcases hold t hmem with harmed | hmsg | ⟨y, hy, hdrops⟩
      · exact .inl harmed
      · exact .inr (List.mem_filter.mpr ⟨hmsg, hkept⟩)
      · cases hy
        rw [hdrops t.msg] at hkept
        cases hkept

omit [F64 F] [ForeignClockRecords R] in
theorem mem_eraseIdx_or {pending : List SystemMessage} {number : ℕ} {msg other : SystemMessage}
    (hnumber : pending[number]? = some msg) (hother : other ∈ pending) :
    other = msg ∨ other ∈ pending.eraseIdx number := by
  obtain ⟨hlt, hget⟩ := List.getElem?_eq_some_iff.mp hnumber
  have hperm : (msg :: pending.eraseIdx number).Perm pending :=
    hget ▸ List.getElem_cons_eraseIdx_perm hlt
  exact List.mem_cons.mp (hperm.mem_iff.mpr hother)

omit [F64 F] [ForeignClockRecords R] in
/-- A handle that fires has its message pending. -/
theorem Covered.fires {w : TimedPort F R} (hw : w.Covered) (msg : SystemMessage) :
    Covered ⟨w.port.fire msg, w.pending ++ [msg]⟩ := by
  constructor
  · rw [PortState.Labelled, PortState.timers_fire, PortState.role_fire, List.map_map]
    have hmsg : Timeout.msg ∘ Timeout.fire msg = Timeout.msg := by
      funext t
      exact t.fire_msg msg
    rw [hmsg]
    exact hw.labelled
  · intro t ht
    rw [PortState.timers_fire] at ht
    obtain ⟨u, hu, rfl⟩ := List.mem_map.mp ht
    rw [Timeout.fire_msg]
    rcases hw.covered u hu with harmed | hpending
    · rcases Timeout.fire_armed harmed with harmed | heq
      · exact .inl harmed
      · exact .inr (by simp [heq])
    · exact .inr (List.mem_append_left _ hpending)

omit [F64 F] [ForeignClockRecords R] in
theorem labelled_unique {s : PortState F R} (hs : s.Labelled) {t u : Timeout}
    (ht : t ∈ s.timers) (hu : u ∈ s.timers) (heq : t.msg = u.msg) : t = u := by
  have hnodup : (s.timers.map Timeout.msg).Nodup := by
    rw [hs]
    cases s.role <;> simp [Role.timeouts]
  exact List.inj_on_of_nodup_map hnodup ht hu heq

theorem Covered.step {w w' : TimedPort F R} {o : Occurrence} {l : List (Effect F)}
    (hw : w.Covered) (h : (w.step o).Returns w' l) : w'.Covered := by
  have stays : (pure w : Act (Effect F) (TimedPort F R)).Returns w' l → w'.Covered := by
    intro hret
    rw [(Act.returns_pure.mp hret).1]
    exact hw
  cases o with
  | message env input => exact hw.deliver (fun msg hmsg => .inr hmsg) h
  | fires msg =>
    rw [TimedPort.step] at h
    split_ifs at h
    · rw [(Act.returns_pure.mp h).1]
      exact hw.fires msg
    · exact stays h
  | delivered env number =>
    rw [TimedPort.step] at h
    cases hnumber : w.pending[number]? with
    | none =>
      rw [hnumber] at h
      exact stays h
    | some msg =>
      rw [hnumber] at h
      refine hw.deliver (fun other hother => ?_) h
      rcases mem_eraseIdx_or hnumber hother with rfl | hmem
      · exact .inl rfl
      · exact .inr hmem
  | withdrawn number =>
    rw [TimedPort.step] at h
    cases hnumber : w.pending[number]? with
    | none =>
      rw [hnumber] at h
      exact stays h
    | some msg =>
      rw [hnumber] at h
      dsimp only at h
      split_ifs at h with hrunning
      · rw [(Act.returns_pure.mp h).1]
        refine ⟨hw.labelled, fun t ht => ?_⟩
        rcases hw.covered t ht with harmed | hmem
        · exact .inl harmed
        · rcases mem_eraseIdx_or hnumber hmem with rfl | hmem
          · obtain ⟨u, hu, heq, harmed⟩ := hrunning
            rw [labelled_unique hw.labelled ht hu heq.symm]
            exact .inl harmed
          · exact .inr hmem
      · exact stays h

theorem Covered.run {w w' : TimedPort F R} {occurrences : List Occurrence} {l : List (Effect F)}
    (hw : w.Covered) (h : (w.run occurrences).Returns w' l) : w'.Covered :=
  Act.runAll_preserves (fun _ _ _ _ hw hs => hw.step hs) hw h

omit [F64 F] [ForeignClockRecords R] in
theorem Covered.start (profile : PortProfile F) (port : DomainPort) (parts : BmcaParts R) :
    Covered ⟨profile.initializing port parts, []⟩ := by
  obtain ⟨hlabelled, harmed⟩ := profile.initializing_fresh port parts
  exact ⟨hlabelled, fun t ht => .inl (harmed t ht)⟩

end TimedPort

/-- Whatever a port receives and whichever sends fail, the timers of its state are armed when no
fired message is pending. -/
theorem timers_armed [F64 F] [ForeignClockRecords R] (profile : PortProfile F) (port : DomainPort)
    (parts : BmcaParts R) (occurrences : List Occurrence) (w : TimedPort F R) (l : List (Effect F))
    (h : ((⟨profile.initializing port parts, []⟩ : TimedPort F R).run occurrences).Returns w l)
    (hpending : w.pending = []) : w.port.Armed := by
  have hcovered := (TimedPort.Covered.start profile port parts).run h
  apply PortState.armed_of_timers
  intro t ht
  rcases hcovered.covered t ht with harmed | hmsg
  · exact harmed
  · rw [hpending] at hmsg
    cases hmsg

/-- The parts of a port of the second clock. -/
def secondParts : BmcaParts ForeignClockRecordsVec :=
  ⟨⟨defaultClock 2, ⟨1⟩⟩, heardTwice (defaultClock 2) (defaultClock 1), ⟨.empty, ⟨1⟩⟩⟩

/-- The port tracks the first clock. Its delay request timer fires, its receipt timer fires while the
first message is pending, an Announce restarts the receipt timer, and the request is sent. -/
def overlappingFires : List Occurrence :=
  [.message (.calm (.fromSecs 0)) (.system .initialized),
    .message (.calm (.fromSecs 2)) (.system (.stateDecisionEvent heardSnapshot)),
    .fires .delayRequestTimeout, .fires .announceReceiptTimeout,
    .message (.calm (.fromSecs 3))
      (.general ⟨(defaultClock 1).identity, ⟨1⟩⟩ (announceOfFirst 3) (.fromSecs 3)),
    .withdrawn 1,
    .delivered (.calm (.fromSecs 4)) 0]

/-- Both timers of the uncalibrated port are armed again. -/
theorem timers_armed_overlapping :
    ∃ (w : TimedPort ℚ ForeignClockRecordsVec) (l : List (Effect ℚ)),
      ((⟨PortProfile.default.initializing ⟨⟨(defaultClock 2).identity, ⟨1⟩⟩, ⟨0⟩⟩ secondParts, []⟩ :
        TimedPort ℚ ForeignClockRecordsVec).run overlappingFires).Returns w l ∧
      w.port.role = .uncalibrated ⟨⟨(defaultClock 1).identity, ⟨1⟩⟩⟩ ∧ w.port.Armed := by
  have hrun : ∃ (w : TimedPort ℚ ForeignClockRecordsVec) (l : List (Effect ℚ)),
      ((⟨PortProfile.default.initializing ⟨⟨(defaultClock 2).identity, ⟨1⟩⟩, ⟨0⟩⟩ secondParts, []⟩ :
        TimedPort ℚ ForeignClockRecordsVec).run overlappingFires).Returns w l ∧
      w.port.role = .uncalibrated ⟨⟨(defaultClock 1).identity, ⟨1⟩⟩⟩ ∧ w.pending = [] :=
    ⟨_, _, rfl, rfl, rfl⟩
  obtain ⟨w, l, hrun, hrole, hpending⟩ := hrun
  exact ⟨w, l, hrun, hrole, timers_armed _ _ _ overlappingFires w l hrun hpending⟩

end Runs

end Rptp
