import Rptp.Network.Clock

/-! # The loops of the daemon

Every port of the daemon has a loop that takes datagrams from two sockets and system messages from a
channel, the oldest one first. Into the channel go the messages of timers that have elapsed, the
timestamp of an event message as soon as it is sent, and the state decisions of the clock, which it
sends to all of its ports without a delay. No other message comes from the daemon.
-/

namespace Rptp

open Machine

variable {C F R : Type}

/-- A clock holds a timeout for the state decisions of each of its ports. -/
class PortNotification (C : Type) where
  timeouts : C → List Timeout

instance : PortNotification (OrdinaryClock F) := ⟨fun clock => clock.portNotification.toList⟩

instance : PortNotification BoundaryClock := ⟨BoundaryClock.portNotification⟩

/-- A report makes the clock send a state decision through each of its timeouts. -/
class NotifiesDecisions (C : Type) [StateDecisionEvent C] [PortNotification C] : Prop where
  decision : ∀ {env : Env} {clock clock' : C} {port : PortNumber} {e : BestForeignSnapshot},
    StateDecisionEvent.trigger env clock port e = .ok clock' →
      ∀ timeout ∈ PortNotification.timeouts clock', ∃ snapshot,
        timeout.msg = .stateDecisionEvent snapshot
  length : ∀ {env : Env} {clock clock' : C} {port : PortNumber} {e : BestForeignSnapshot},
    StateDecisionEvent.trigger env clock port e = .ok clock' →
      (PortNotification.timeouts clock').length = (PortNotification.timeouts clock).length

instance : NotifiesDecisions (OrdinaryClock F) where
  decision h timeout htimeout := by
    rw [OrdinaryClock.trigger_eq h] at htimeout
    obtain ⟨old, -, rfl⟩ := Option.mem_map.mp (Option.mem_toList.mp htimeout)
    exact ⟨_, rfl⟩
  length {env clock} _ _ _ h := by
    rw [OrdinaryClock.trigger_eq h]
    change (Option.map _ clock.portNotification).toList.length = clock.portNotification.toList.length
    cases clock.portNotification <;> rfl

instance : NotifiesDecisions BoundaryClock where
  decision h timeout htimeout := by
    obtain ⟨eBest, -, rfl⟩ := BoundaryClock.trigger_eq h
    obtain ⟨old, -, rfl⟩ := List.mem_map.mp htimeout
    exact ⟨_, rfl⟩
  length h := by
    obtain ⟨eBest, -, rfl⟩ := BoundaryClock.trigger_eq h
    exact List.length_map _

/-- The messages that the timers of a port deliver. -/
def SystemMessage.IsTimer : SystemMessage → Prop
  | announceSendTimeout => True
  | delayRequestTimeout => True
  | syncTimeout => True
  | announceReceiptTimeout => True
  | qualificationTimeout => True
  | _ => False

/-- A clock with its ports and the channel of each port. -/
structure Daemon (C F R : Type) where
  domainNumber : DomainNumber
  clock : C
  ports : List (PortFsm F R)
  channels : List (List SystemMessage)

/-- What happens next in the daemon: a loop starts, a timer elapses, or a loop takes a message or a
datagram. The egress timestamp is what the local clock reads. -/
inductive DaemonEvent where
  | initialized (index : ℕ) (env : Env) (egress : TimeStamp)
  | elapsed (index : ℕ) (msg : SystemMessage) (h : msg.IsTimer)
  | receive (index : ℕ) (env : Env) (egress : TimeStamp)
  | datagram (index : ℕ) (env : Env) (egress timestamp : TimeStamp) (now : Instant) (d : Datagram)

/-- The port whose loop runs or whose timer elapses. -/
def DaemonEvent.index : DaemonEvent → ℕ
  | initialized index .. => index
  | elapsed index .. => index
  | receive index .. => index
  | datagram index .. => index

/-- What the local clock reads if the port sends. -/
def DaemonEvent.egress : DaemonEvent → Option TimeStamp
  | initialized _ _ egress => some egress
  | elapsed .. => none
  | receive _ _ egress => some egress
  | datagram _ _ egress .. => some egress

/-- Put messages at the end of one channel. -/
def post (index : ℕ) (msgs : List SystemMessage) (channels : List (List SystemMessage)) :
    List (List SystemMessage) :=
  channels.modify index (· ++ msgs)

section Post

variable (index : ℕ) (channels : List (List SystemMessage))

theorem post_nil : post index [] channels = channels := by
  have hid : (fun channel : List SystemMessage => channel ++ []) = id := by
    funext channel
    exact List.append_nil channel
  rw [post, hid, List.modify_id]

theorem post_append (msgs msgs' : List SystemMessage) :
    post index (msgs ++ msgs') channels = post index msgs' (post index msgs channels) := by
  unfold post
  rw [List.modify_modify_eq]
  congr
  funext channel
  exact (List.append_assoc channel msgs msgs').symm

theorem getElem?_post (msgs : List SystemMessage) (j : ℕ) :
    (post index msgs channels)[j]? =
      channels[j]?.map fun channel => if index = j then channel ++ msgs else channel := by
  unfold post
  rw [List.getElem?_modify]
  rfl

variable {index channels} in
theorem mem_post {msgs channel : List SystemMessage} (h : channel ∈ post index msgs channels) :
    ∃ before ∈ channels, ∀ msg ∈ channel, msg ∈ before ∨ msg ∈ msgs := by
  obtain ⟨j, hj⟩ := List.getElem?_of_mem h
  rw [getElem?_post] at hj
  obtain ⟨before, hbefore, rfl⟩ := Option.map_eq_some_iff.mp hj
  refine ⟨before, List.mem_of_getElem? hbefore, fun msg hmsg => ?_⟩
  split_ifs at hmsg
  · exact List.mem_append.mp hmsg
  · exact .inl hmsg

theorem length_post (msgs : List SystemMessage) :
    (post index msgs channels).length = channels.length := List.length_modify _ _ _

end Post

namespace Daemon

/-- The channels are empty at first. -/
def new (domainNumber : DomainNumber) (clock : C) (ports : List (PortFsm F R)) : Daemon C F R :=
  ⟨domainNumber, clock, ports, ports.map fun _ => []⟩

section Calls

variable [StateDecisionEvent C] [PortNotification C]

/-- A call of one port: a report makes the clock send its decision to every port, and an event
message that was sent is timestamped. -/
def call (env : Env) (egress : TimeStamp) (index : ℕ) (w : C × List (List SystemMessage)) :
    Effect F → Checked (C × List (List SystemMessage))
  | .trigger port eRbest => do
    let clock ← StateDecisionEvent.trigger env w.1 port eRbest
    pure (clock, List.zipWith (fun channel timeout => channel ++ [timeout.msg]) w.2
      (PortNotification.timeouts clock))
  | .stampEgress msg => pure (w.1, post index [.timestamp ⟨msg, egress⟩] w.2)
  | _ => pure w

variable [F64 F] [ForeignClockRecords R]

def process (env : Env) (egress : TimeStamp) (index : ℕ) (input : PortInput) (d : Daemon C F R) :
    Act (Effect F) (Daemon C F R) :=
  match d.ports[index]? with
  | some fsm => do
    let (fsm, calls) ← Act.observe (fsm.process env input)
    let (clock, channels) ← Act.lift (calls.foldlM (call env egress index) (d.clock, d.channels))
    pure { d with clock, ports := d.ports.set index fsm, channels }
  | none => pure d

/-- The loop takes the oldest message of its channel. -/
def receive (env : Env) (egress : TimeStamp) (index : ℕ) (d : Daemon C F R) :
    Act (Effect F) (Daemon C F R) :=
  match d.channels[index]? with
  | some (msg :: rest) =>
    { d with channels := d.channels.set index rest }.process env egress index (.system msg)
  | _ => pure d

def ingress (env : Env) (egress : TimeStamp) (index : ℕ) :
    PortIngress (Effect F) (Daemon C F R) where
  processEventMessage d source msg timestamp :=
    d.process env egress index (.event source msg timestamp)
  processGeneralMessage d source msg now := d.process env egress index (.general source msg now)

/-- A datagram that the ingress rejects is logged and dropped. -/
def processDatagram (env : Env) (egress : TimeStamp) (index : ℕ) (timestamp : TimeStamp)
    (now : Instant) (d : Daemon C F R) : Datagram → Act (Effect F) (Daemon C F R)
  | .event buf => do
    let received ← MessageIngress.receiveEvent (ingress env egress index)
      (⟨d.domainNumber, d⟩ : SingleDomainPortMap (Daemon C F R)) buf timestamp
    pure received.2.portFsm
  | .general buf => do
    let received ← MessageIngress.receiveGeneral (ingress env egress index)
      (⟨d.domainNumber, d⟩ : SingleDomainPortMap (Daemon C F R)) buf now
    pure received.2.portFsm

/-- A loop initializes the port of domain 0. It ends before anything else where there is none. -/
def step (d : Daemon C F R) (event : DaemonEvent) : Act (Effect F) (Daemon C F R) :=
  if d.domainNumber = ⟨0⟩ then
    match event with
    | .initialized index env egress => d.process env egress index (.system .initialized)
    | .elapsed index msg _ => pure { d with channels := post index [msg] d.channels }
    | .receive index env egress => d.receive env egress index
    | .datagram index env egress timestamp now datagram =>
      d.processDatagram env egress index timestamp now datagram
  else pure d

def run (d : Daemon C F R) (events : List DaemonEvent) : Act (Effect F) (Daemon C F R) :=
  Act.runAll step d events

end Calls

/-- The message that a loop takes from its channel, if it is a loop's turn. -/
def taken (d : Daemon C F R) : DaemonEvent → Option SystemMessage
  | .receive index .. =>
    if d.domainNumber = ⟨0⟩ then d.channels[index]?.bind List.head? else none
  | _ => none

/-- The timestamps that the calls of a port put into its channel. -/
def stamps (egress : TimeStamp) (l : List (Effect F)) : List SystemMessage :=
  l.filterMap fun
    | .stampEgress msg => some (.timestamp ⟨msg, egress⟩)
    | _ => none

theorem mem_stamps {egress : TimeStamp} {l : List (Effect F)} {msg : SystemMessage}
    (h : msg ∈ stamps egress l) : ∃ sent, msg = .timestamp ⟨sent, egress⟩ := by
  obtain ⟨e, -, he⟩ := List.mem_filterMap.mp h
  cases e
  case stampEgress sent =>
    cases he
    exact ⟨sent, rfl⟩
  all_goals cases he

section Specification

variable [StateDecisionEvent C] [PortNotification C] {env : Env} {egress : TimeStamp} {index : ℕ}
  {l : List (Effect F)}

theorem foldlM_call_quiet {clock : C} {channels : List (List SystemMessage)}
    (h : ∀ e ∈ l, ¬ e.IsReport) :
    l.foldlM (call env egress index) (clock, channels) =
      .ok (clock, post index (stamps egress l) channels) := by
  induction l generalizing channels with
  | nil =>
    rw [show stamps egress ([] : List (Effect F)) = [] from rfl, post_nil]
    rfl
  | cons e l ih =>
    have hrest : ∀ e ∈ l, ¬ e.IsReport := fun e he => h e (List.mem_cons_of_mem _ he)
    rw [List.foldlM_cons]
    cases e
    case trigger port snapshot => exact absurd trivial (h _ List.mem_cons_self)
    case stampEgress msg =>
      have hstamps : stamps egress (Effect.stampEgress msg :: l) =
          [.timestamp ⟨msg, egress⟩] ++ stamps egress l := rfl
      rw [hstamps, post_append, ← ih hrest]
      rfl
    all_goals exact ih hrest

variable [F64 F] [ForeignClockRecords R] {d d' : Daemon C F R} {input : PortInput}

/-- A message to a port is a step of it. At most once, and at the end, it makes the clock send a
state decision. -/
inductive Processed (env : Env) (egress : TimeStamp) (index : ℕ) (input : PortInput)
    (d d' : Daemon C F R) (l : List (Effect F)) : Prop
  | absent (hport : d.ports[index]? = none) (hd : d' = d) (hlog : l = [])
  | quiet (s s' : PortState F R) (hport : d.ports[index]? = some (.new s))
      (hstep : (s.step env input).Returns s' l) (hlog : ∀ e ∈ l, ¬ e.IsReport)
      (hd : d' = { d with
        ports := d.ports.set index (.new s')
        channels := post index (stamps egress l) d.channels })
  | reported (s s' : PortState F R) (clock : C) (port : PortNumber) (l₁ : List (Effect F))
      (hport : d.ports[index]? = some (.new s)) (hstep : (s.step env input).Returns s' l)
      (hbefore : ∀ e ∈ l₁, ¬ e.IsReport) (hlog : l = l₁ ++ [.trigger port s'.previous])
      (hclock : StateDecisionEvent.trigger env d.clock port s'.previous = .ok clock)
      (hd : d' = { d with
        clock
        ports := d.ports.set index (.new s')
        channels := List.zipWith (fun channel timeout => channel ++ [timeout.msg])
          (post index (stamps egress l₁) d.channels) (PortNotification.timeouts clock) })

theorem process_returns (hpresent : ∀ fsm ∈ d.ports, ∃ s, fsm = PortFsm.new s)
    (h : (d.process env egress index input).Returns d' l) :
    Processed env egress index input d d' l := by
  unfold process at h
  cases hport : d.ports[index]? with
  | none =>
    rw [hport] at h
    obtain ⟨rfl, rfl⟩ := Act.returns_pure.mp h
    exact .absent hport rfl rfl
  | some fsm =>
    rw [hport] at h
    obtain ⟨s, rfl⟩ := hpresent fsm (List.mem_of_getElem? hport)
    obtain ⟨fsm', l₁, l₂, hprocess, hrest, rfl⟩ := Act.returns_observe_bind.mp h
    obtain ⟨⟨clock, channels⟩, hcalls, hret⟩ := Act.returns_lift_bind.mp hrest
    obtain ⟨rfl, rfl⟩ := Act.returns_pure.mp hret
    rw [PortFsm.process_new, map_eq_pure_bind, Act.returns_bind_pure] at hprocess
    obtain ⟨s', hstep, rfl⟩ := hprocess
    rw [List.append_nil]
    cases step_reported hstep with
    | silent _ hlog =>
      rw [foldlM_call_quiet hlog] at hcalls
      cases hcalls
      exact .quiet s s' hport hstep hlog rfl
    | reported l₂ hbefore hlog =>
      rw [hlog, List.foldlM_append, foldlM_call_quiet hbefore, Checked.ok_bind,
        List.foldlM_cons] at hcalls
      obtain ⟨w, hcall, hnil⟩ := Checked.bind_eq_ok.mp hcalls
      cases hnil
      obtain ⟨clock', hclock, hret⟩ := Checked.bind_eq_ok.mp hcall
      cases hret
      exact .reported s s' clock _ l₂ hport hstep hbefore hlog hclock rfl

/-- What the ports are afterwards: the one that got the message has made a step. -/
theorem Processed.ports (h : Processed env egress index input d d' l) :
    (d'.ports = d.ports ∧ d.ports[index]? = none ∧ l = []) ∨
      ∃ s s', d.ports[index]? = some (.new s) ∧ (s.step env input).Returns s' l ∧
        d'.ports = d.ports.set index (.new s') := by
  cases h with
  | absent hport hd hlog => exact .inl ⟨by rw [hd], hport, hlog⟩
  | quiet s s' hport hstep hlog hd => exact .inr ⟨s, s', hport, hstep, by rw [hd]⟩
  | reported s s' clock port l₁ hport hstep hbefore hlog hclock hd =>
    exact .inr ⟨s, s', hport, hstep, by rw [hd]⟩

theorem Processed.present (h : Processed env egress index input d d' l)
    (hpresent : ∀ fsm ∈ d.ports, ∃ s, fsm = PortFsm.new s) :
    ∀ fsm ∈ d'.ports, ∃ s, fsm = PortFsm.new s := by
  rcases h.ports with ⟨hports, -, -⟩ | ⟨s, s', -, -, hports⟩
  · rwa [hports]
  · intro fsm hfsm
    rw [hports] at hfsm
    rcases List.mem_or_eq_of_mem_set hfsm with hfsm | rfl
    · exact hpresent fsm hfsm
    · exact ⟨s', rfl⟩

theorem Processed.length_ports (h : Processed env egress index input d d' l) :
    d'.ports.length = d.ports.length := by
  rcases h.ports with ⟨hports, -, -⟩ | ⟨s, s', -, -, hports⟩
  · rw [hports]
  · rw [hports, List.length_set]

/-- Everything that one step of the daemon does, at one port. -/
inductive Stepped (event : DaemonEvent) (d d' : Daemon C F R) (l : List (Effect F)) : Prop
  | idle (hd : d' = d) (hlog : l = []) (htaken : d.taken event = none)
  | elapsed (msg : SystemMessage) (htimer : msg.IsTimer)
      (hd : d' = { d with channels := post event.index [msg] d.channels }) (hlog : l = [])
      (htaken : d.taken event = none)
  | received (env : Env) (egress : TimeStamp) (msg : SystemMessage) (rest : List SystemMessage)
      (hegress : event.egress = some egress)
      (hchannel : d.channels[event.index]? = some (msg :: rest))
      (hprocess : ({ d with channels := d.channels.set event.index rest }.process env egress
        event.index (.system msg)).Returns d' l)
      (hevent : event = .receive event.index env egress) (htaken : d.taken event = some msg)
  | arrived (env : Env) (egress : TimeStamp) (input : PortInput)
      (hegress : event.egress = some egress)
      (hinput : ∀ msg, input = .system msg → msg = .initialized)
      (hprocess : (d.process env egress event.index input).Returns d' l)
      (htaken : d.taken event = none)

theorem step_returns {event : DaemonEvent} (h : (d.step event).Returns d' l) :
    Stepped event d d' l := by
  unfold step at h
  split_ifs at h with hdomain
  · cases event with
    | initialized index env egress =>
      exact .arrived env egress _ rfl (by rintro msg ⟨⟩; rfl) h rfl
    | elapsed index msg htimer =>
      obtain ⟨rfl, rfl⟩ := Act.returns_pure.mp h
      exact .elapsed msg htimer rfl rfl rfl
    | receive index env egress =>
      have htaken : d.taken (.receive index env egress) = d.channels[index]?.bind List.head? :=
        if_pos hdomain
      change (d.receive env egress index).Returns d' l at h
      unfold receive at h
      split at h
      case h_1 msg rest hchannel =>
        exact .received env egress msg rest rfl hchannel h rfl (by rw [htaken, hchannel]; rfl)
      case h_2 hempty =>
        obtain ⟨rfl, rfl⟩ := Act.returns_pure.mp h
        refine .idle rfl rfl (htaken.trans ?_)
        cases hchannel : d'.channels[index]? with
        | none => rfl
        | some channel =>
          cases channel with
          | nil => rfl
          | cons msg rest => exact absurd hchannel (hempty msg rest)
    | datagram index env egress timestamp now datagram =>
      cases datagram with
      | event buf =>
        obtain ⟨result, hresult, rfl⟩ := Act.returns_bind_pure.mp h
        rcases dispatch_carried eventMessage_decidesBody hresult with ⟨hd, hlog⟩ | ⟨hf, msg, -, hp⟩
        · exact .idle hd hlog rfl
        · exact .arrived env egress _ rfl (by rintro msg ⟨⟩) hp rfl
      | general buf =>
        obtain ⟨result, hresult, rfl⟩ := Act.returns_bind_pure.mp h
        rcases dispatch_carried generalMessage_decidesBody hresult with ⟨hd, hlog⟩ | ⟨hf, msg, -, hp⟩
        · exact .idle hd hlog rfl
        · exact .arrived env egress _ rfl (by rintro msg ⟨⟩) hp rfl
  · obtain ⟨rfl, rfl⟩ := Act.returns_pure.mp h
    refine .idle rfl rfl ?_
    cases event
    case receive index env egress => exact if_neg hdomain
    all_goals rfl

theorem step_ports {event : DaemonEvent} (hpresent : ∀ fsm ∈ d.ports, ∃ s, fsm = PortFsm.new s)
    (h : (d.step event).Returns d' l) :
    (∀ fsm ∈ d'.ports, ∃ s, fsm = PortFsm.new s) ∧ d'.ports.length = d.ports.length := by
  cases step_returns h with
  | idle hd hlog =>
    rw [hd]
    exact ⟨hpresent, rfl⟩
  | elapsed msg htimer hd hlog =>
    rw [hd]
    exact ⟨hpresent, rfl⟩
  | received env egress msg rest hegress hchannel hprocess =>
    have hprocessed := process_returns (d := { d with channels := d.channels.set event.index rest })
      hpresent hprocess
    exact ⟨hprocessed.present hpresent, hprocessed.length_ports⟩
  | arrived env egress input hegress hinput hprocess =>
    have hprocessed := process_returns hpresent hprocess
    exact ⟨hprocessed.present hpresent, hprocessed.length_ports⟩

theorem run_ports {domain : DomainNumber} {clock : C} {ports : List (PortFsm F R)}
    {events : List DaemonEvent} (hports : ∀ fsm ∈ ports, ∃ s, fsm = PortFsm.new s)
    (h : ((Daemon.new domain clock ports).run events).Returns d l) :
    (∀ fsm ∈ d.ports, ∃ s, fsm = PortFsm.new s) ∧ d.ports.length = ports.length := by
  refine Act.runAll_preserves (P := fun d => (∀ fsm ∈ d.ports, ∃ s, fsm = PortFsm.new s) ∧
    d.ports.length = ports.length) ?_ ⟨hports, rfl⟩ h
  rintro d₁ event d₂ l' ⟨hpresent, hlength⟩ hstep
  obtain ⟨hpresent', hlength'⟩ := step_ports hpresent hstep
  exact ⟨hpresent', hlength'.trans hlength⟩

end Specification

end Daemon

end Rptp
