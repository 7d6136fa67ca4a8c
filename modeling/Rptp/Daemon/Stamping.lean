import Rptp.Daemon.Loop
import Rptp.Network.Lineage
import Rptp.Port.FollowUps

/-! # Timestamps in the daemon

The daemon measures the egress time of an event message when it has sent it, and puts the timestamp
into the channel of the port. The channel keeps the order, so that a port processes every timestamp of
its own messages once and in the order of the sends, and follows up its Sync messages in that order.
-/

namespace Rptp

open Machine

variable {F R : Type}

namespace SystemMessage

def isTimestamp : SystemMessage → Bool
  | timestamp _ => true
  | _ => false

/-- The FollowUp that a master sends on a timestamp. -/
def followUp? : SystemMessage → Option FollowUpMessage
  | timestamp ⟨.twoStepSync sync, egress⟩ => some (sync.followUp egress)
  | _ => none

theorem followUp?_given (msg : SystemMessage) :
    msg.followUp?.toList = ([msg].filter isTimestamp).filterMap followUp? := by
  cases msg
  case timestamp msg =>
    change _ = List.filterMap followUp? [timestamp msg]
    cases hmsg : (timestamp msg).followUp? with
    | none => rw [List.filterMap_cons_none hmsg]; rfl
    | some followUp => rw [List.filterMap_cons_some hmsg]; rfl
  all_goals rfl

end SystemMessage

/-- The FollowUp messages that were sent or refused. -/
def followUps (l : List (Effect F)) : List FollowUpMessage :=
  l.filterMap fun
    | .sendGeneral (.followUp msg) _ _ => some msg
    | _ => none

theorem map_followUpsAfter (before : List EventMessage) (l : List (Effect F)) :
    (followUpsAfter before l).map Prod.snd = followUps l := by
  fun_induction followUpsAfter before l with
  | case1 before => rfl
  | case2 before msg buf result l ih => exact congrArg (List.cons msg) ih
  | case3 before msg buf u l ih => exact ih
  | case4 before e l hfollow hsend ih =>
    rw [ih]
    symm
    apply List.filterMap_cons_none
    split
    · exact absurd rfl (hfollow _ _ _)
    · rfl

/-- The FollowUp that a master sends on an input. -/
def PortInput.followUp? : PortInput → Option FollowUpMessage
  | .system msg => msg.followUp?
  | _ => none

theorem step_followUps [F64 F] [ForeignClockRecords R] {env : Env} {s s' : PortState F R}
    {input : PortInput} {l : List (Effect F)} (h : (s.step env input).Returns s' l) :
    (followUps l).Sublist input.followUp?.toList := by
  rw [← map_followUpsAfter []]
  rcases (step_followed h).followUps [] with hnone | ⟨sync, egress, rfl, hone⟩
  · rw [hnone]
    exact List.nil_sublist _
  · rw [hone]
    exact List.Sublist.refl _

namespace Daemon

variable {C : Type}

/-- A step of the daemon. -/
abbrev Transition (C F R : Type) : Type := Act.Transition (Daemon C F R) DaemonEvent (Effect F)

variable {index : ℕ} {trace : List (Transition C F R)} {t : Transition C F R}

/-- The timestamps of the event messages that a step has sent, as the local clock read them. -/
def measured (step : Transition C F R) : List SystemMessage :=
  match step.input.egress with
  | some egress => (sentEvents step.calls).map fun msg => .timestamp ⟨msg, egress⟩
  | none => []

/-- The timestamp that a loop takes from its channel in a step. -/
def delivered (step : Transition C F R) : List SystemMessage :=
  (step.before.taken step.input).toList.filter SystemMessage.isTimestamp

/-- The port of the loop processes the message in the step: the calls are the ones that the port
makes on it, and the port is afterwards what it becomes by it. -/
def Handed [F64 F] [ForeignClockRecords R] (step : Transition C F R) (msg : SystemMessage) : Prop :=
  ∃ env egress s s', step.input = .receive step.input.index env egress ∧
    step.before.ports[step.input.index]? = some (PortFsm.new s) ∧
    (s.step env (.system msg)).Returns s' step.calls ∧
    step.after.ports[step.input.index]? = some (PortFsm.new s')

/-- The steps of one port. -/
def ofPort (index : ℕ) (trace : List (Transition C F R)) : List (Transition C F R) :=
  trace.filter fun step => step.input.index = index

theorem ofPort_append : ofPort index (trace ++ [t]) =
    ofPort index trace ++ if t.input.index = index then [t] else [] := by
  rw [ofPort, List.filter_append, List.filter_singleton]
  simp [ofPort]

theorem flatMap_ofPort {β : Type} (f : Transition C F R → List β) :
    (ofPort index (trace ++ [t])).flatMap f =
      (ofPort index trace).flatMap f ++ if t.input.index = index then f t else [] := by
  rw [ofPort_append, List.flatMap_append]
  split_ifs
  · rw [List.flatMap_singleton]
  · rfl

theorem forall_mem_ofPort {P : Transition C F R → Prop} (h : ∀ step ∈ ofPort index trace, P step)
    (ht : P t) : ∀ step ∈ ofPort index (trace ++ [t]), P step := by
  intro step hstep
  rw [ofPort_append] at hstep
  rcases List.mem_append.mp hstep with hold | hnew
  · exact h step hold
  · split_ifs at hnew
    · obtain rfl := List.mem_singleton.mp hnew
      exact ht
    · cases hnew

/-- The timestamps that wait for a port. -/
def waiting (index : ℕ) (channels : List (List SystemMessage)) : List SystemMessage :=
  (channels[index]?.getD []).filter SystemMessage.isTimestamp

/-- The ports have a channel and a notification each. -/
structure Wired [PortNotification C] (d : Daemon C F R) : Prop where
  present : ∀ fsm ∈ d.ports, ∃ s, fsm = PortFsm.new s
  channels : d.channels.length = d.ports.length
  notified : (PortNotification.timeouts d.clock).length = d.ports.length

/-- The timestamps of a port up to now: what was measured was delivered, in the same order, or it
waits. What was delivered the port has processed, and it has followed up nothing else. -/
structure Ledger [F64 F] [ForeignClockRecords R] (index : ℕ) (trace : List (Transition C F R))
    (d : Daemon C F R) : Prop where
  balance : (ofPort index trace).flatMap measured =
    (ofPort index trace).flatMap delivered ++ waiting index d.channels
  handed : ∀ step ∈ ofPort index trace, ∀ msg ∈ delivered step, Handed step msg
  followed : ((ofPort index trace).flatMap fun step => followUps step.calls).Sublist
    (((ofPort index trace).flatMap delivered).filterMap SystemMessage.followUp?)

theorem stamps_eq_map (egress : TimeStamp) (l : List (Effect F)) :
    stamps egress l = (Rptp.stamps l).map fun msg => .timestamp ⟨msg, egress⟩ := by
  unfold stamps Rptp.stamps
  rw [List.map_filterMap]
  congr
  funext e
  cases e <;> rfl

theorem filter_stamps (egress : TimeStamp) (l : List (Effect F)) :
    (stamps egress l).filter SystemMessage.isTimestamp = stamps egress l := by
  refine List.filter_eq_self.mpr fun msg hmsg => ?_
  obtain ⟨sent, rfl⟩ := mem_stamps hmsg
  rfl

section Channels

variable {index : ℕ} {channels : List (List SystemMessage)}

theorem waiting_post {msgs : List SystemMessage} (h : index < channels.length) (j : ℕ) :
    waiting j (post index msgs channels) =
      waiting j channels ++ if index = j then msgs.filter SystemMessage.isTimestamp else [] := by
  unfold waiting
  rw [getElem?_post]
  by_cases hj : index = j
  · subst hj
    rw [List.getElem?_eq_getElem h]
    simp
  · simp [hj]

theorem waiting_post_other {msgs : List SystemMessage}
    (h : msgs.filter SystemMessage.isTimestamp = []) (j : ℕ) :
    waiting j (post index msgs channels) = waiting j channels := by
  unfold waiting
  rw [getElem?_post]
  cases channels[j]? with
  | none => rfl
  | some channel =>
    by_cases hj : index = j
    · simp [hj, h]
    · simp [hj]

theorem waiting_notified {timeouts : List Timeout} (hlength : channels.length = timeouts.length)
    (h : ∀ timeout ∈ timeouts, timeout.msg.isTimestamp = false) (j : ℕ) :
    waiting j (List.zipWith (fun channel timeout => channel ++ [timeout.msg]) channels timeouts) =
      waiting j channels := by
  unfold waiting
  rw [List.getElem?_zipWith]
  by_cases hj : j < channels.length
  · have hj' : j < timeouts.length := hlength ▸ hj
    have hmsg := h timeouts[j] (List.getElem_mem hj')
    rw [List.getElem?_eq_getElem hj, List.getElem?_eq_getElem hj']
    simp [hmsg]
  · rw [List.getElem?_eq_none (not_lt.mp hj)]

theorem waiting_set {msg : SystemMessage} {rest : List SystemMessage}
    (h : channels[index]? = some (msg :: rest)) (j : ℕ) :
    waiting j channels =
      (if index = j then [msg].filter SystemMessage.isTimestamp else []) ++
        waiting j (channels.set index rest) := by
  unfold waiting
  have hlt : index < channels.length := (List.getElem?_eq_some_iff.mp h).1
  by_cases hj : index = j
  · subst hj
    rw [h, List.getElem?_set_self hlt, if_pos rfl, ← List.filter_append]
    rfl
  · rw [List.getElem?_set_ne hj]
    simp [hj]

end Channels

section Steps

variable [F64 F] [ForeignClockRecords R] [StateDecisionEvent C] [PortNotification C]
  {env : Env} {egress : TimeStamp} {index : ℕ} {input : PortInput} {d d' : Daemon C F R}
  {l : List (Effect F)} {event : DaemonEvent}

theorem Processed.stamps_eq (h : Processed env egress index input d d' l) :
    stamps egress l = (sentEvents l).map fun msg => .timestamp ⟨msg, egress⟩ := by
  rw [stamps_eq_map]
  rcases h.ports with ⟨-, -, rfl⟩ | ⟨s, s', -, hstep, -⟩
  · rfl
  · rw [(step_followed hstep).stamped]

/-- A message to a port puts the timestamps of what it sends at the end of its channel. Whatever else
is put into a channel is no timestamp. -/
theorem Processed.waiting [NotifiesDecisions C] (hd : d.Wired)
    (h : Processed env egress index input d d' l) (j : ℕ) :
    waiting j d'.channels = waiting j d.channels ++ if index = j then stamps egress l else [] := by
  have hposted : ∀ {s : PortState F R} {calls : List (Effect F)}, d.ports[index]? = some (.new s) →
      Daemon.waiting j (post index (stamps egress calls) d.channels) =
        Daemon.waiting j d.channels ++ if index = j then stamps egress calls else [] := by
    intro s calls hport
    rw [waiting_post, filter_stamps]
    rw [hd.channels]
    exact (List.getElem?_eq_some_iff.mp hport).1
  cases h with
  | absent hport heq hlog =>
    rw [heq, hlog]
    simp [stamps]
  | quiet s s' hport hstep hlog heq =>
    rw [heq]
    exact hposted hport
  | reported s s' clock port l₁ hport hstep hbefore hlog hclock heq =>
    have hstamps : stamps egress l = stamps egress l₁ := by
      rw [hlog, stamps, List.filterMap_append]
      exact List.append_nil _
    rw [heq, hstamps, ← hposted hport]
    refine waiting_notified ?_ (fun timeout htimeout => ?_) j
    · rw [length_post, hd.channels, NotifiesDecisions.length hclock, hd.notified]
    · obtain ⟨snapshot, hsnapshot⟩ := NotifiesDecisions.decision hclock timeout htimeout
      rw [hsnapshot]
      rfl

theorem Processed.wired [NotifiesDecisions C] (hd : d.Wired)
    (h : Processed env egress index input d d' l) : d'.Wired := by
  have hpresent := h.present hd.present
  have hlength := h.length_ports
  cases h with
  | absent hport heq hlog => rwa [heq]
  | quiet s s' hport hstep hlog heq =>
    refine ⟨hpresent, ?_, ?_⟩
    · rw [hlength, heq, length_post]
      exact hd.channels
    · rw [hlength, heq]
      exact hd.notified
  | reported s s' clock port l₁ hport hstep hbefore hlog hclock heq =>
    have hnotified : (PortNotification.timeouts clock).length = d.ports.length :=
      (NotifiesDecisions.length hclock).trans hd.notified
    refine ⟨hpresent, ?_, ?_⟩
    · rw [hlength, heq, List.length_zipWith, length_post, hnotified, hd.channels, min_self]
    · rw [hlength, heq]
      exact hnotified

/-- A message to a port adds the timestamps of what the port sends to the ledger, and the port follows
up at most the timestamp that it is given. -/
theorem Processed.ledger [NotifiesDecisions C] (hd : d.Wired) (hledger : Ledger index trace t.before)
    (h : Processed env egress t.input.index input d t.after t.calls)
    (hegress : t.input.egress = some egress)
    (hwaiting : Daemon.waiting index t.before.channels =
      (if t.input.index = index then delivered t else []) ++ Daemon.waiting index d.channels)
    (hgiven : input.followUp?.toList.Sublist ((delivered t).filterMap SystemMessage.followUp?))
    (htaken : ∀ msg ∈ delivered t, Handed t msg) :
    Ledger index (trace ++ [t]) t.after where
  balance := by
    rw [flatMap_ofPort, flatMap_ofPort, hledger.balance, hwaiting, h.waiting hd,
      ← List.append_assoc, ← List.append_assoc]
    congr 1
    split_ifs
    · rw [h.stamps_eq]
      simp [measured, hegress]
    · rfl
  handed := forall_mem_ofPort hledger.handed htaken
  followed := by
    rw [flatMap_ofPort, flatMap_ofPort, List.filterMap_append]
    refine hledger.followed.append ?_
    split_ifs
    · have hstep : (followUps t.calls).Sublist input.followUp?.toList := by
        rcases h.ports with ⟨-, -, hlog⟩ | ⟨s, s', -, hstep, -⟩
        · rw [hlog]
          exact List.nil_sublist _
        · exact step_followUps hstep
      exact hstep.trans hgiven
    · exact List.nil_sublist _

omit [StateDecisionEvent C] [PortNotification C] in
theorem Ledger.quiet (hledger : Ledger index trace d) (hcalls : t.calls = [])
    (htaken : t.before.taken t.input = none)
    (hsame : Daemon.waiting index t.after.channels = Daemon.waiting index d.channels) :
    Ledger index (trace ++ [t]) t.after := by
  have hmeasured : measured t = [] := by
    rw [measured, hcalls]
    cases t.input.egress <;> rfl
  have hdelivered : delivered t = [] := by rw [delivered, htaken]; rfl
  have hsilent : followUps t.calls = [] := by rw [hcalls]; rfl
  refine ⟨?_, forall_mem_ofPort hledger.handed ?_, ?_⟩
  · rw [flatMap_ofPort, flatMap_ofPort, hmeasured, hdelivered, ite_self, List.append_nil,
      List.append_nil, hsame]
    exact hledger.balance
  · rw [hdelivered]
    exact fun _ hmsg => nomatch hmsg
  · rw [flatMap_ofPort, flatMap_ofPort, hsilent, hdelivered, ite_self, ite_self, List.append_nil,
      List.append_nil]
    exact hledger.followed

theorem Processed.handed {msg : SystemMessage} (hd : d.Wired)
    (h : Processed env egress t.input.index (.system msg) d t.after t.calls)
    (hevent : t.input = .receive t.input.index env egress)
    (hports : d.ports = t.before.ports) (hindex : t.input.index < d.channels.length) :
    Handed t msg := by
  rw [hd.channels] at hindex
  rcases h.ports with ⟨-, hnone, -⟩ | ⟨s, s', hport, hstep, hafter⟩
  · exact absurd hindex (not_lt.mpr (List.getElem?_eq_none_iff.mp hnone))
  · exact ⟨env, egress, s, s', hevent, hports ▸ hport, hstep,
      by rw [hafter, List.getElem?_set_self hindex]⟩

theorem Ledger.next [NotifiesDecisions C] (hd : d.Wired) (hledger : Ledger index trace d)
    (h : (d.step event).Returns d' l) : d'.Wired ∧ Ledger index (trace ++ [⟨d, event, l, d'⟩]) d' := by
  cases step_returns h with
  | idle heq hlog htaken =>
    refine ⟨by rwa [heq], hledger.quiet hlog htaken ?_⟩
    rw [heq]
  | elapsed msg htimer heq hlog htaken =>
    refine ⟨?_, hledger.quiet hlog htaken ?_⟩
    · rw [heq]
      exact ⟨hd.present, (length_post _ _ _).trans hd.channels, hd.notified⟩
    · rw [heq]
      refine waiting_post_other ?_ index
      cases msg
      case timestamp msg => exact absurd htimer id
      all_goals rfl
  | received env egress msg rest hegress hchannel hprocess hevent htaken =>
    have hd₁ : Wired { d with channels := d.channels.set event.index rest } :=
      ⟨hd.present, (List.length_set).trans hd.channels, hd.notified⟩
    have hprocessed := process_returns hd₁.present hprocess
    have hdelivered : delivered (⟨d, event, l, d'⟩ : Transition C F R) =
        [msg].filter SystemMessage.isTimestamp := by
      rw [delivered, htaken]
      rfl
    refine ⟨hprocessed.wired hd₁,
      hprocessed.ledger (t := ⟨d, event, l, d'⟩) hd₁ hledger hegress ?_ ?_ ?_⟩
    · rw [hdelivered]
      exact waiting_set hchannel index
    · rw [hdelivered, ← SystemMessage.followUp?_given]
      exact List.Sublist.refl _
    · intro msg' hmsg'
      rw [hdelivered] at hmsg'
      obtain rfl := List.mem_singleton.mp (List.mem_filter.mp hmsg').1
      refine hprocessed.handed (t := ⟨d, event, l, d'⟩) hd₁ hevent rfl ?_
      rw [List.length_set]
      exact (List.getElem?_eq_some_iff.mp hchannel).1
  | arrived env egress input hegress hinput hprocess htaken =>
    have hprocessed := process_returns hd.present hprocess
    have hdelivered : delivered (⟨d, event, l, d'⟩ : Transition C F R) = [] := by
      rw [delivered, htaken]
      rfl
    refine ⟨hprocessed.wired hd,
      hprocessed.ledger (t := ⟨d, event, l, d'⟩) hd hledger hegress ?_ ?_ ?_⟩
    · rw [hdelivered, ite_self]
      rfl
    · have hnone : input.followUp? = none := by
        cases input with
        | event source msg timestamp => rfl
        | general source msg now => rfl
        | system msg =>
          rw [hinput msg rfl]
          rfl
      rw [hnone]
      exact List.nil_sublist _
    · rw [hdelivered]
      exact fun _ hmsg => nomatch hmsg

end Steps

end Daemon

variable [F64 F] [ForeignClockRecords R] {C : Type} [StateDecisionEvent C] [PortNotification C]
  [NotifiesDecisions C]

/-- In every run of the daemon and for each of its ports: the timestamps of the event messages that the
port has sent, as the local clock read them, are those that its loop has taken from the channel, in the
order of the sends and each of them once, and then those that wait there. The port processes each of
them in the step in which it is taken. The FollowUp messages are, in order, those of the two-step Sync
messages among the timestamps that were taken. -/
theorem daemon_follow_ups {domain : DomainNumber} {clock : C} {ports : List (PortFsm F R)}
    {trace : List (Daemon.Transition C F R)} {d : Daemon C F R}
    (hports : ∀ fsm ∈ ports, ∃ s, fsm = PortFsm.new s)
    (hnotified : (PortNotification.timeouts clock).length = ports.length)
    (htrace : Act.Traced Daemon.step (Daemon.new domain clock ports) trace d) (index : ℕ) :
    (Daemon.ofPort index trace).flatMap Daemon.measured =
        (Daemon.ofPort index trace).flatMap Daemon.delivered ++ Daemon.waiting index d.channels ∧
      (∀ step ∈ Daemon.ofPort index trace, ∀ msg ∈ Daemon.delivered step,
        Daemon.Handed step msg) ∧
      ((Daemon.ofPort index trace).flatMap fun step => followUps step.calls).Sublist
        (((Daemon.ofPort index trace).flatMap Daemon.delivered).filterMap
          SystemMessage.followUp?) := by
  have hledger : d.Wired ∧ Daemon.Ledger index trace d := by
    induction htrace with
    | start =>
      have hempty : Daemon.waiting index (ports.map fun _ => []) = [] := by
        unfold Daemon.waiting
        rw [List.getElem?_map]
        cases ports[index]? <;> rfl
      exact ⟨⟨hports, List.length_map _, hnotified⟩,
        ⟨hempty.symm, fun _ hstep => (nomatch hstep), List.Sublist.refl _⟩⟩
    | next _ hstep ih => exact ih.2.next ih.1 hstep
  exact ⟨hledger.2.balance, hledger.2.handed, hledger.2.followed⟩

/-- A loop takes the messages of its timers and the timestamp of its Sync. -/
def syncsOnce : List DaemonEvent :=
  [.initialized 0 (.calm (.fromSecs 0)) (stampOf 0),
    .elapsed 0 .announceReceiptTimeout trivial,
    .receive 0 (.calm (.fromSecs 5)) (stampOf 5),
    .receive 0 (.calm (.fromSecs 5)) (stampOf 5),
    .elapsed 0 .syncTimeout trivial,
    .receive 0 (.calm (.fromSecs 6)) (stampOf 6),
    .receive 0 (.calm (.fromSecs 7)) (stampOf 7)]

/-- A master follows up its first Sync with the time of its send. -/
theorem daemon_follow_ups_once :
    ∃ (trace : List (Daemon.Transition (OrdinaryClock ℚ) ℚ ForeignClockRecordsVec))
      (d : Daemon (OrdinaryClock ℚ) ℚ ForeignClockRecordsVec),
      Act.Traced Daemon.step (Daemon.new ⟨0⟩ (defaultNode (defaultClock 1)).clock
        [(defaultNode (defaultClock 1)).fsm]) trace d ∧
      trace.map Act.Transition.input = syncsOnce ∧
      followUps (trace.flatMap Act.Transition.calls) = [⟨⟨0⟩, ⟨0⟩, stampOf 6⟩] ∧
      (Daemon.ofPort 0 trace).flatMap Daemon.measured =
        (Daemon.ofPort 0 trace).flatMap Daemon.delivered ++ Daemon.waiting 0 d.channels ∧
      (∀ step ∈ Daemon.ofPort 0 trace, ∀ msg ∈ Daemon.delivered step, Daemon.Handed step msg) ∧
      ((Daemon.ofPort 0 trace).flatMap fun step => followUps step.calls).Sublist
        (((Daemon.ofPort 0 trace).flatMap Daemon.delivered).filterMap SystemMessage.followUp?) := by
  have hrun : ∃ (d : Daemon (OrdinaryClock ℚ) ℚ ForeignClockRecordsVec) (l : List (Effect ℚ)),
      ((Daemon.new ⟨0⟩ (defaultNode (defaultClock 1)).clock
        [(defaultNode (defaultClock 1)).fsm]).run syncsOnce).Returns d l ∧
      followUps l = [⟨⟨0⟩, ⟨0⟩, stampOf 6⟩] := ⟨_, _, rfl, rfl⟩
  obtain ⟨d, l, hrun, hfollow⟩ := hrun
  obtain ⟨trace, htrace, hevents, rfl⟩ := Act.returns_runAll_iff_traced.mp hrun
  exact ⟨trace, d, htrace, hevents, hfollow,
    daemon_follow_ups (fun fsm hfsm => ⟨_, List.mem_singleton.mp hfsm⟩) rfl htrace 0⟩

end Rptp
