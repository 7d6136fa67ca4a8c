import Rptp.Daemon.Loop
import Rptp.Network.Lineage
import Rptp.Port.Timers

/-! # A fault in the daemon is final

A send that the physical port refuses makes a port faulty, and only `FaultCleared` takes it out of
that state again. The daemon has no source of this message: timers do not deliver it, timestamping
does not, and the clocks send nothing but state decisions.
-/

namespace Rptp

open Machine

variable {F R : Type}

section Port

variable {env : Env} {s s' : PortState F R} {input : PortInput} {l : List (Effect F)}

theorem Effect.not_failedSend_of_trigger {e : Effect F}
    (h : ∃ port snapshot, e = .trigger port snapshot) : ¬ e.FailedSend := by
  obtain ⟨port, snapshot, rfl⟩ := h
  exact id

theorem Effect.not_failedSend_of_onClock {e : Effect F} (h : e.OnClock) : ¬ e.FailedSend := by
  cases e
  case sendEvent => exact absurd h id
  case sendGeneral => exact absurd h id
  all_goals exact id

theorem MasterPort.generalCalls_failed {p : MasterPort F R} {msg : GeneralMessage} {e : Effect F}
    (he : e ∈ p.generalCalls env msg) (hfailed : e.FailedSend) :
    PortState.sendDecision env.sendResult = some .faultDetected := by
  rw [List.mem_singleton.mp he] at hfailed
  cases hsend : env.sendResult with
  | ok =>
    rw [hsend] at hfailed
    exact absurd hfailed id
  | error => rfl

theorem DomainPort.eventCalls_failed {port : DomainPort} {msg : EventMessage} {e : Effect F}
    (he : e ∈ port.eventCalls env msg) (hfailed : e.FailedSend) :
    PortState.sendDecision env.sendResult = some .faultDetected := by
  unfold eventCalls at he
  cases hsend : env.sendResult with
  | ok =>
    rw [hsend] at he
    simp only [List.mem_cons, List.not_mem_nil, or_false] at he
    rcases he with rfl | rfl <;> exact absurd hfailed id
  | error => rfl

theorem Role.sends {frame : PartsFrame} {r : Role} {e : Effect F} (h : r.Performs frame e)
    (hfailed : e.FailedSend) : (∃ ds, r = .master ds) ∨ ∃ parent, r.Tracks parent := by
  cases e
  case sendEvent msg buf result =>
    cases msg with
    | delayReq req => exact .inr h
    | twoStepSync sync => exact .inl h
    | oneStepSync sync => exact absurd h id
  case sendGeneral msg buf result =>
    cases msg with
    | announce msg => exact .inl ⟨_, h⟩
    | followUp msg => exact .inl h
    | delayResp msg => exact .inl h
  all_goals exact absurd hfailed id

variable [ForeignClockRecords R]

theorem Mastered.failed {p p' : MasterPort F R} {d : Option StateDecision} {e : Effect F}
    (h : Mastered env p input p' d l) (he : e ∈ l) (hfailed : e.FailedSend) :
    d = some .faultDetected := by
  cases h with
  | answered source req ts => exact MasterPort.generalCalls_failed he hfailed
  | heard hfed =>
    obtain ⟨-, -, -, -, -, htriggers⟩ := feedBmca_returns hfed
    exact absurd hfailed (Effect.not_failedSend_of_trigger (htriggers e he))
  | announced => exact MasterPort.generalCalls_failed he hfailed
  | synced => exact DomainPort.eventCalls_failed he hfailed
  | followedUp sync egress => exact MasterPort.generalCalls_failed he hfailed
  | expired => cases he
  | decided => cases he
  | ignored => cases he

variable [F64 F]

theorem Handled.failed {react : PortIdentity → ServoState → Option StateDecision}
    {p p' : ParentTrackingPort F R} {d : Option StateDecision} {e : Effect F}
    (h : Handled react env p input p' d l) (he : e ∈ l) (hfailed : e.FailedSend) :
    d = some .faultDetected := by
  cases h with
  | recorded => cases he
  | sampled hin hparent hfed =>
    exact absurd hfailed (Effect.not_failedSend_of_onClock
      (ParentTrackingPort.feedServo_only _ _ _ _ hfed e he))
  | announced hfed =>
    obtain ⟨-, -, -, -, -, htriggers⟩ := feedBmca_returns hfed
    exact absurd hfailed (Effect.not_failedSend_of_trigger (htriggers e he))
  | requested hsent =>
    obtain ⟨rfl, rfl⟩ := DomainPort.sendEvent_eventCalls hsent
    exact DomainPort.eventCalls_failed he hfailed
  | expired => cases he
  | decided => cases he

theorem step_failed {e : Effect F} (h : (s.step env input).Returns s' l) (he : e ∈ l)
    (hfailed : e.FailedSend) : s'.role = .faulty := by
  have hsends := Role.sends (step_only env s input s' l h e he) hfailed
  rw [PortState.step, Act.returns_bind] at h
  obtain ⟨⟨s₁, d⟩, l₁, l₂, hd, happly, rfl⟩ := h
  have hdispatched := dispatch_returns hd
  -- The transition after the dispatch makes no call but a report.
  have hfirst : ∀ decision, d = some decision → e ∈ l₁ := by
    rintro decision rfl
    obtain ⟨r, -, hmoved⟩ := apply_returns happly
    rcases List.mem_append.mp he with he | he
    · exact he
    · exact absurd hfailed (Effect.not_failedSend_of_trigger (hmoved.triggers e he))
  have hdecision : e ∈ l₁ → d = some .faultDetected := by
    intro he
    rcases hsends with ⟨ds, hrole⟩ | ⟨parent, htracks⟩
    · cases s with
      | master p =>
        obtain ⟨p', -, hmastered⟩ := MasterPort.dispatch_cases hd
        exact hmastered.failed he hfailed
      | _ => cases hrole
    · rcases s.tracking_cases with ⟨k, p, rfl⟩ | huntracked
      · obtain ⟨p', -, hhandle⟩ := TrackingRole.dispatch_returns hd
        exact (ParentTrackingPort.handle_cases hhandle).failed he hfailed
      · exact absurd htracks (huntracked parent)
  cases d with
  | none =>
    obtain ⟨-, rfl⟩ := Act.returns_pure.mp happly
    rw [List.append_nil] at he
    cases hdecision he
  | some decision =>
    cases hdecision (hfirst decision rfl)
    obtain ⟨r, hr, hmoved⟩ := apply_returns happly
    rw [hmoved.role]
    rw [hdispatched.role] at hr
    rcases hsends with ⟨ds, hrole⟩ | ⟨parent, htracks⟩
    · rw [hrole] at hr
      cases hr
      rfl
    · cases hrole : s.role <;> rw [hrole] at hr <;> cases hr <;> rfl

/-- A faulty port does nothing before its fault is cleared. -/
theorem step_faulty (hrole : s.role = .faulty) (hin : input ≠ .system .faultCleared)
    (h : (s.step env input).Returns s' l) : s' = s ∧ l = [] := by
  have hignored : s.dispatch env input = pure (s, none) := by
    cases s with
    | faulty p =>
      cases input with
      | event source msg timestamp => rfl
      | general source msg now => rfl
      | system msg =>
        cases msg
        case faultCleared => exact absurd rfl hin
        all_goals rfl
    | _ => cases hrole
  rw [PortState.step, hignored, pure_bind] at h
  exact Act.returns_pure.mp h

end Port

namespace Daemon

variable {C : Type} {env : Env} {egress : TimeStamp} {index : ℕ} {input : PortInput}
  {d d' : Daemon C F R} {l : List (Effect F)} {s : PortState F R} {event : DaemonEvent}

/-- No channel holds a `FaultCleared`. -/
structure Uncleared (d : Daemon C F R) : Prop where
  present : ∀ fsm ∈ d.ports, ∃ s, fsm = PortFsm.new s
  uncleared : ∀ channel ∈ d.channels, ∀ msg ∈ channel, msg ≠ .faultCleared

theorem Uncleared.post {msgs : List SystemMessage} (hd : d.Uncleared)
    (h : ∀ msg ∈ msgs, msg ≠ .faultCleared) :
    ∀ channel ∈ Rptp.post index msgs d.channels, ∀ msg ∈ channel, msg ≠ .faultCleared := by
  intro channel hchannel msg hmsg
  obtain ⟨before, hbefore, hmem⟩ := mem_post hchannel
  rcases hmem msg hmsg with hmsg | hmsg
  · exact hd.uncleared before hbefore msg hmsg
  · exact h msg hmsg

theorem uncleared_new {domain : DomainNumber} {clock : C} {ports : List (PortFsm F R)}
    (hports : ∀ fsm ∈ ports, ∃ s, fsm = PortFsm.new s) : (Daemon.new domain clock ports).Uncleared := by
  refine ⟨hports, fun channel hchannel msg hmsg => ?_⟩
  obtain ⟨fsm, -, rfl⟩ := List.mem_map.mp hchannel
  cases hmsg

section Faulty

variable [F64 F] [ForeignClockRecords R] [StateDecisionEvent C] [PortNotification C]

theorem Processed.clock (h : Processed env egress index input d d' l) (hlog : l = []) :
    d'.clock = d.clock := by
  cases h with
  | absent hport heq hnil => rw [heq]
  | quiet s s' hport hstep hquiet heq => rw [heq]
  | reported s s' clock port l₁ hport hstep hbefore hreport hclock heq =>
    rw [hlog] at hreport
    exact absurd hreport.symm (List.concat_ne_nil _ _)

theorem Processed.faulty (h : Processed env egress index input d d' l) {j : ℕ}
    (hin : input ≠ .system .faultCleared) (hs : d.ports[j]? = some (PortFsm.new s))
    (hrole : s.role = .faulty) :
    d'.ports[j]? = some (PortFsm.new s) ∧ (j = index → l = []) := by
  rcases h.ports with ⟨hports, -, hlog⟩ | ⟨t, t', hport, hstep, hports⟩
  · exact ⟨by rwa [hports], fun _ => hlog⟩
  · rw [hports]
    by_cases hj : j = index
    · subst hj
      obtain rfl : s = t := by
        rw [hport] at hs
        cases hs
        rfl
      obtain ⟨rfl, hlog⟩ := step_faulty hrole hin hstep
      refine ⟨?_, fun _ => hlog⟩
      rw [List.getElem?_set_self (List.getElem?_eq_some_iff.mp hs).1]
    · refine ⟨?_, fun heq => absurd heq hj⟩
      rwa [List.getElem?_set_ne (Ne.symm hj)]

/-- A step of the daemon leaves a faulty port as it is, and is silent if it is at that port. -/
theorem Uncleared.faulty (hd : d.Uncleared) (h : (d.step event).Returns d' l) {j : ℕ}
    (hs : d.ports[j]? = some (PortFsm.new s)) (hrole : s.role = .faulty) :
    d'.ports[j]? = some (PortFsm.new s) ∧
      (d.ports.length = 1 → d'.clock = d.clock ∧ l = []) := by
  have silent : ∀ {d₁ : Daemon C F R} {env : Env} {egress : TimeStamp} {input : PortInput},
      Processed env egress event.index input d₁ d' l → input ≠ .system .faultCleared →
      d₁.ports = d.ports → d₁.clock = d.clock →
      d'.ports[j]? = some (PortFsm.new s) ∧
        (d.ports.length = 1 → d'.clock = d.clock ∧ l = []) := by
    intro d₁ env egress input hprocess hin hports hclock
    rw [← hports] at hs ⊢
    obtain ⟨hsame, hnil⟩ := hprocess.faulty hin hs hrole
    refine ⟨hsame, fun hone => ?_⟩
    have hj : j < d₁.ports.length := (List.getElem?_eq_some_iff.mp hs).1
    -- The one port is the faulty one, and there is nothing to do at another index.
    have hlog : l = [] := by
      rcases hprocess.ports with ⟨-, -, hlog⟩ | ⟨t, t', hport, -, -⟩
      · exact hlog
      · have hi : event.index < d₁.ports.length := (List.getElem?_eq_some_iff.mp hport).1
        exact hnil (by omega)
    exact ⟨(hprocess.clock hlog).trans hclock, hlog⟩
  cases step_returns h with
  | idle heq hlog =>
    rw [heq]
    exact ⟨hs, fun _ => ⟨rfl, hlog⟩⟩
  | elapsed msg htimer heq hlog =>
    rw [heq]
    exact ⟨hs, fun _ => ⟨rfl, hlog⟩⟩
  | received env egress msg rest hegress hchannel hprocess =>
    refine silent (process_returns (d := { d with channels := d.channels.set event.index rest })
      hd.present hprocess) ?_ rfl rfl
    intro heq
    cases heq
    exact hd.uncleared _ (List.mem_of_getElem? hchannel) _ List.mem_cons_self rfl
  | arrived env egress input hegress hinput hprocess =>
    refine silent (process_returns hd.present hprocess) ?_ rfl rfl
    rintro rfl
    cases hinput _ rfl

theorem Uncleared.failed (hd : d.Uncleared) (h : (d.step event).Returns d' l) {e : Effect F}
    (he : e ∈ l) (hfailed : e.FailedSend) :
    ∃ s, s.role = .faulty ∧ d'.ports[event.index]? = some (PortFsm.new s) := by
  have failed : ∀ {d₁ : Daemon C F R} {env : Env} {egress : TimeStamp} {input : PortInput},
      Processed env egress event.index input d₁ d' l →
      ∃ s, s.role = .faulty ∧ d'.ports[event.index]? = some (PortFsm.new s) := by
    intro d₁ env egress input hprocess
    rcases hprocess.ports with ⟨-, -, hlog⟩ | ⟨s, s', hport, hstep, hports⟩
    · rw [hlog] at he
      cases he
    · refine ⟨s', step_failed hstep he hfailed, ?_⟩
      rw [hports, List.getElem?_set_self (List.getElem?_eq_some_iff.mp hport).1]
  cases step_returns h with
  | idle heq hlog =>
    rw [hlog] at he
    cases he
  | elapsed msg htimer heq hlog =>
    rw [hlog] at he
    cases he
  | received env egress msg rest hegress hchannel hprocess =>
    exact failed (process_returns (d := { d with channels := d.channels.set event.index rest })
      hd.present hprocess)
  | arrived env egress input hegress hinput hprocess => exact failed (process_returns hd.present hprocess)

end Faulty

section Runs

variable [F64 F] [ForeignClockRecords R] [StateDecisionEvent C] [PortNotification C]
  [NotifiesDecisions C]

theorem Uncleared.process (hd : d.Uncleared) (h : Processed env egress index input d d' l) :
    d'.Uncleared := by
  have hstamped : ∀ {calls : List (Effect F)}, ∀ msg ∈ stamps egress calls, msg ≠ .faultCleared := by
    intro calls msg hmsg
    obtain ⟨sent, rfl⟩ := mem_stamps hmsg
    exact fun heq => by cases heq
  have hpresent := h.present hd.present
  cases h with
  | absent hport heq hlog => rwa [heq]
  | quiet s s' hport hstep hlog heq =>
    rw [heq] at hpresent ⊢
    exact ⟨hpresent, hd.post hstamped⟩
  | reported s s' clock port l₁ hport hstep hbefore hlog hclock heq =>
    rw [heq] at hpresent ⊢
    refine ⟨hpresent, fun channel hchannel msg hmsg => ?_⟩
    obtain ⟨j, hj⟩ := List.getElem?_of_mem hchannel
    rw [List.getElem?_zipWith_eq_some] at hj
    obtain ⟨before, timeout, hbefore, htimeout, rfl⟩ := hj
    rcases List.mem_append.mp hmsg with hmsg | hmsg
    · exact hd.post hstamped before (List.mem_of_getElem? hbefore) msg hmsg
    · obtain ⟨snapshot, hsnapshot⟩ :=
        NotifiesDecisions.decision hclock timeout (List.mem_of_getElem? htimeout)
      rw [List.mem_singleton.mp hmsg, hsnapshot]
      exact fun heq => by cases heq

theorem Uncleared.step (hd : d.Uncleared) (h : (d.step event).Returns d' l) : d'.Uncleared := by
  cases step_returns h with
  | idle heq hlog => rwa [heq]
  | elapsed msg htimer heq hlog =>
    rw [heq]
    refine ⟨hd.present, hd.post fun msg' hmsg' => ?_⟩
    rw [List.mem_singleton.mp hmsg']
    rintro rfl
    exact htimer
  | received env egress msg rest hegress hchannel hprocess =>
    have hrest : Uncleared { d with channels := d.channels.set event.index rest } := by
      refine ⟨hd.present, fun channel hmem msg' hmsg' => ?_⟩
      rcases List.mem_or_eq_of_mem_set hmem with hmem | rfl
      · exact hd.uncleared channel hmem msg' hmsg'
      · exact hd.uncleared _ (List.mem_of_getElem? hchannel) msg' (List.mem_cons_of_mem _ hmsg')
    exact hrest.process (process_returns hrest.present hprocess)
  | arrived env egress input hegress hinput hprocess => exact hd.process (process_returns hd.present hprocess)

theorem Uncleared.run {events : List DaemonEvent} (hd : d.Uncleared)
    (h : (d.run events).Returns d' l) : d'.Uncleared :=
  Act.runAll_preserves (P := Uncleared) (fun _ _ _ _ hd hstep => hd.step hstep) hd h

/-- A faulty port stays as it is in every run. If the clock has no other port, nothing happens at
all any more. -/
theorem Uncleared.run_faulty {events : List DaemonEvent} (hd : d.Uncleared) {j : ℕ}
    (hs : d.ports[j]? = some (PortFsm.new s)) (hrole : s.role = .faulty)
    (h : (d.run events).Returns d' l) :
    d'.ports[j]? = some (PortFsm.new s) ∧ (d.ports.length = 1 → d'.clock = d.clock ∧ l = []) := by
  have hkeeps : d'.Uncleared ∧ d'.ports.length = d.ports.length ∧
      d'.ports[j]? = some (PortFsm.new s) ∧ (d.ports.length = 1 → d'.clock = d.clock ∧ l = []) := by
    refine Act.runAll_log (P := fun l d' => Uncleared d' ∧ d'.ports.length = d.ports.length ∧
      d'.ports[j]? = some (PortFsm.new s) ∧ (d.ports.length = 1 → d'.clock = d.clock ∧ l = []))
      ⟨hd, rfl, hs, fun _ => ⟨rfl, rfl⟩⟩ ?_ h
    rintro l d₁ event d₂ l' ⟨hd₁, hlength, hport, hsilent⟩ hstep
    obtain ⟨hport', hquiet⟩ := hd₁.faulty hstep hport hrole
    have hlength' := (step_ports hd₁.present hstep).2.trans hlength
    refine ⟨hd₁.step hstep, hlength', hport', fun hone => ?_⟩
    obtain ⟨hclock, rfl⟩ := hsilent hone
    obtain ⟨hclock', rfl⟩ := hquiet (hlength.trans hone)
    exact ⟨hclock'.trans hclock, rfl⟩
  exact hkeeps.2.2

end Runs

end Daemon

variable {C : Type} [F64 F] [ForeignClockRecords R] [StateDecisionEvent C] [PortNotification C]
  [NotifiesDecisions C]

/-- In every run of the daemon, a port with a send that its physical port refuses is faulty from then
on, whatever happens. If it is the only port of the clock, the daemon sends, reports and adjusts
nothing any more. -/
theorem daemon_failed_send {domain : DomainNumber} {clock : C} {ports : List (PortFsm F R)}
    {events later : List DaemonEvent} {event : DaemonEvent} {d d₁ d₂ : Daemon C F R}
    {l l₁ l₂ : List (Effect F)} {e : Effect F}
    (hports : ∀ fsm ∈ ports, ∃ s, fsm = PortFsm.new s)
    (hrun : ((Daemon.new domain clock ports).run events).Returns d l)
    (hstep : (d.step event).Returns d₁ l₁) (he : e ∈ l₁) (hfailed : e.FailedSend)
    (hlater : (d₁.run later).Returns d₂ l₂) :
    ∃ s, s.role = .faulty ∧ d₂.ports[event.index]? = some (PortFsm.new s) ∧
      (ports.length = 1 → d₂.clock = d₁.clock ∧ l₂ = []) := by
  have hd := (Daemon.uncleared_new hports).run hrun
  obtain ⟨s, hrole, hs⟩ := hd.failed hstep he hfailed
  obtain ⟨hsame, hsilent⟩ := (hd.step hstep).run_faulty hs hrole hlater
  refine ⟨s, hrole, hsame, fun hone => hsilent ?_⟩
  rw [(Daemon.step_ports hd.present hstep).2, (Daemon.run_ports hports hrun).2]
  exact hone

/-- The timers of a port elapse, and its loop takes their messages. -/
def becomesMaster : List DaemonEvent :=
  [.initialized 0 (.calm (.fromSecs 0)) (stampOf 0),
    .elapsed 0 .announceReceiptTimeout trivial,
    .receive 0 (.calm (.fromSecs 5)) (stampOf 5),
    .receive 0 (.calm (.fromSecs 5)) (stampOf 5),
    .elapsed 0 .announceSendTimeout trivial]

/-- The port takes a message while its socket refuses to send. -/
def refusedSend : DaemonEvent := .receive 0 ⟨.fromSecs 6, .ptp, .error ⟨⟩⟩ (stampOf 6)

def triesAgain : List DaemonEvent :=
  [.elapsed 0 .announceSendTimeout trivial, .receive 0 (.calm (.fromSecs 7)) (stampOf 7),
    .initialized 0 (.calm (.fromSecs 8)) (stampOf 8)]

/-- The master of a domain with one port fails to announce itself once. -/
theorem daemon_failed_send_master :
    ∃ (d d₁ d₂ : Daemon (OrdinaryClock ℚ) ℚ ForeignClockRecordsVec) (l l₁ l₂ : List (Effect ℚ)),
      ((Daemon.new ⟨0⟩ (defaultNode (defaultClock 1)).clock
        [(defaultNode (defaultClock 1)).fsm]).run becomesMaster).Returns d l ∧
      (d.step refusedSend).Returns d₁ l₁ ∧ (d₁.run triesAgain).Returns d₂ l₂ ∧
      (∃ s, s.role = .faulty ∧ d₂.ports[0]? = some (PortFsm.new s)) ∧ l₂ = [] := by
  have hrun : ∃ (d d₁ d₂ : Daemon (OrdinaryClock ℚ) ℚ ForeignClockRecordsVec)
      (l l₁ l₂ : List (Effect ℚ)) (msg : GeneralMessage) (buf : List UInt8),
      ((Daemon.new ⟨0⟩ (defaultNode (defaultClock 1)).clock
        [(defaultNode (defaultClock 1)).fsm]).run becomesMaster).Returns d l ∧
      (d.step refusedSend).Returns d₁ l₁ ∧ (d₁.run triesAgain).Returns d₂ l₂ ∧
      l₁ = [.sendGeneral msg buf (.error ⟨⟩)] :=
    ⟨_, _, _, _, _, _, _, _, rfl, rfl, rfl, rfl⟩
  obtain ⟨d, d₁, d₂, l, l₁, l₂, msg, buf, hrun, hstep, hlater, hlog⟩ := hrun
  have he : Effect.sendGeneral msg buf (.error ⟨⟩) ∈ l₁ := by
    rw [hlog]
    exact List.mem_cons_self
  obtain ⟨s, hrole, hs, hsilent⟩ :=
    daemon_failed_send (fun fsm hfsm => ⟨_, List.mem_singleton.mp hfsm⟩) hrun hstep he trivial hlater
  exact ⟨d, d₁, d₂, l, l₁, l₂, hrun, hstep, hlater, ⟨s, hrole, hs⟩, (hsilent rfl).2⟩

end Rptp
