import Rptp.Network.Election
import Rptp.Network.Evidence

/-! # What the offsets on a network are taken from

A servo on the network is fed with offsets that its port has computed from four timestamps. Whatever
becomes of the datagrams, these are timestamps that the two clocks concerned have taken: the ingress
of a Sync and the egress of one that the same clock has sent under the same sequence id, the egress
of a DelayReq and the ingress of one under the same sequence id.
-/

namespace Rptp

open Machine

variable {ι F R : Type}

/-- The port that sends the message has received or sent what it tells of. -/
def GeneralMessage.Vouched (Received : PortIdentity → EventMessage → TimeStamp → Prop)
    (Stamped : EventMessage → TimeStamp → Prop) : GeneralMessage → Prop
  | .announce _ => True
  | .followUp msg => ∃ sync egress, Stamped (.twoStepSync sync) egress ∧ msg = sync.followUp egress
  | .delayResp msg => ∃ requester req ingress interval, Received requester (.delayReq req) ingress ∧
      msg = req.response interval ingress requester

/-- A datagram of a clock says who has sent it. It is never a one-step Sync, and what it tells of
has happened. -/
def Datagram.Vouched (own : ClockDS) (Received : PortIdentity → EventMessage → TimeStamp → Prop)
    (Stamped : EventMessage → TimeStamp → Prop) : Datagram → Prop
  | .event buf => ∀ (hf : WellFramed buf) (msg : EventMessage),
      decodeBody EventMessage.new buf = pure msg →
      (headerSource buf hf.header).clockIdentity = own.identity ∧ ∀ sync, msg ≠ .oneStepSync sync
  | .general buf => ∀ (hf : WellFramed buf) (msg : GeneralMessage),
      decodeBody GeneralMessage.new buf = pure msg →
      (headerSource buf hf.header).clockIdentity = own.identity ∧ msg.Vouched Received Stamped

section Vouched

variable {own : ClockDS} {Received Received' : PortIdentity → EventMessage → TimeStamp → Prop}
  {Stamped Stamped' : EventMessage → TimeStamp → Prop}

theorem GeneralMessage.Vouched.mono {msg : GeneralMessage} (h : msg.Vouched Received Stamped)
    (hreceived : ∀ source event ingress, Received source event ingress → Received' source event ingress)
    (hstamped : ∀ event egress, Stamped event egress → Stamped' event egress) :
    msg.Vouched Received' Stamped' := by
  cases msg with
  | announce msg => trivial
  | followUp msg =>
    obtain ⟨sync, egress, hsync, rfl⟩ := h
    exact ⟨sync, egress, hstamped _ _ hsync, rfl⟩
  | delayResp msg =>
    obtain ⟨requester, req, ingress, interval, hreq, rfl⟩ := h
    exact ⟨requester, req, ingress, interval, hreceived _ _ _ hreq, rfl⟩

theorem Datagram.Vouched.mono {d : Datagram} (h : d.Vouched own Received Stamped)
    (hreceived : ∀ source event ingress, Received source event ingress → Received' source event ingress)
    (hstamped : ∀ event egress, Stamped event egress → Stamped' event egress) :
    d.Vouched own Received' Stamped' := by
  cases d with
  | event buf => exact h
  | general buf =>
    intro hf msg hmsg
    obtain ⟨hsource, hvouched⟩ := h hf msg hmsg
    exact ⟨hsource, hvouched.mono hreceived hstamped⟩

end Vouched

/-- What a port sends on an input that is in evidence is vouched for by the evidence. -/
theorem datagram_vouched [F64 F] [ForeignClockRecords R] {E : Evidence} {v : Standpoint} {env : Env}
    {s s' : PortState F R} {input : PortInput} {l : List (Effect F)} (hs : s.Informed v)
    (hcanonical : ∀ ds, Announceable v ds → ds.Canonical) (hin : input.InEvidence E)
    (h : (s.step env input).Returns s' l) :
    ∀ d ∈ datagrams l, d.Vouched v.own E.Received E.Stamped := by
  intro d hd
  obtain ⟨e, he, hde⟩ := List.mem_filterMap.mp hd
  have hanswers := step_answersTo h e he
  have hperforms := step_only env s input s' l h e he
  cases e
  case sendEvent msg buf result =>
    cases result with
    | error e => cases hde
    | ok u =>
      cases hde
      obtain ⟨rfl, htwoStep⟩ := hanswers
      have hcarries := eventMessage_carries s.handover.port.domainNumber
        s.handover.port.portIdentity msg
      intro hf event hevent
      cases hcarries.body.symm.trans hevent
      exact ⟨(congrArg PortIdentity.clockIdentity hcarries.source).trans hs.sender.1, htwoStep⟩
  case sendGeneral msg buf result =>
    cases result with
    | error e => cases hde
    | ok u =>
      cases hde
      have hannounced : msg.Canonical := by
        cases msg with
        | announce msg =>
          have hrole := hs.role
          rw [show s.role = .master msg.foreignClockDs from hperforms] at hrole
          exact hcanonical _ hrole
        | followUp msg => trivial
        | delayResp msg => trivial
      have hcarries := generalMessage_carries s.handover.port.domainNumber
        s.handover.port.portIdentity msg hannounced
      intro hf general hgeneral
      obtain rfl := hanswers.general
      cases hcarries.body.symm.trans hgeneral
      refine ⟨(congrArg PortIdentity.clockIdentity hcarries.source).trans hs.sender.1, ?_⟩
      cases msg with
      | announce msg => trivial
      | followUp msg =>
        obtain ⟨-, sync, egress, rfl, rfl⟩ := hanswers
        exact ⟨sync, egress, hin, rfl⟩
      | delayResp msg =>
        obtain ⟨-, requester, req, ingress, interval, rfl, rfl⟩ := hanswers
        exact ⟨requester, req, ingress, interval, hin, rfl⟩
  all_goals cases hde

section Network

variable [ForeignClockRecords R] (own : ι → ClockDS) (hears : ι → ι → Prop)
  (occurrences : List (ι × ClockInput R ℕ)) (sent : List (ι × Datagram))

/-- The clock was given the egress timestamp of an event message. -/
def EgressGiven (i : ι) (msg : EventMessage) (egress : TimeStamp) : Prop :=
  ∃ index env h, (i, .system index env (.timestamp ⟨msg, egress⟩) h) ∈ occurrences

/-- The clock `i` has read an event message that `j` has sent as the port `source`. -/
def EventRead (i j : ι) (source : PortIdentity) (msg : EventMessage) (ingress : TimeStamp) : Prop :=
  hears i j ∧ source.clockIdentity = (own j).identity ∧
    ∃ index env now number buf, (i, .datagram index env ingress now number) ∈ occurrences ∧
      sent[number]? = some (j, .event buf) ∧ ∃ hf : WellFramed buf,
        headerSource buf hf.header = source ∧ decodeBody EventMessage.new buf = pure msg

/-- The clock `i` has read an event message of a clock that it hears. -/
def EventReceived (i : ι) (source : PortIdentity) (msg : EventMessage) (ingress : TimeStamp) : Prop :=
  ∃ j, EventRead own hears occurrences sent i j source msg ingress

/-- The clock may have read a general message that is vouched for. -/
def GeneralRead (i : ι) (source : PortIdentity) (msg : GeneralMessage) : Prop :=
  ∃ j, hears i j ∧ source.clockIdentity = (own j).identity ∧
    msg.Vouched (EventReceived own hears occurrences sent j) (EgressGiven occurrences j)

/-- The evidence that a clock of the network has: what the clocks that it hears have sent, and its own
timestamps. -/
def evidence (i : ι) : Evidence where
  Received source msg ingress := (∀ sync, msg ≠ .oneStepSync sync) ∧
    EventReceived own hears occurrences sent i source msg ingress
  FollowedUp source msg := GeneralRead own hears occurrences sent i source (.followUp msg)
  Answered source msg := GeneralRead own hears occurrences sent i source (.delayResp msg)
  Stamped := EgressGiven occurrences i

variable {own hears occurrences sent}

section Growth

variable {occurrences' : List (ι × ClockInput R ℕ)} {sent' : List (ι × Datagram)}

theorem EgressGiven.append {i : ι} {msg : EventMessage} {egress : TimeStamp}
    (h : EgressGiven occurrences i msg egress) :
    EgressGiven (occurrences ++ occurrences') i msg egress := by
  obtain ⟨index, env, hmsg, hmem⟩ := h
  exact ⟨index, env, hmsg, List.mem_append_left _ hmem⟩

theorem EventRead.append {i j : ι} {source : PortIdentity} {msg : EventMessage} {ingress : TimeStamp}
    (h : EventRead own hears occurrences sent i j source msg ingress) :
    EventRead own hears (occurrences ++ occurrences') (sent ++ sent') i j source msg ingress := by
  obtain ⟨hhears, hsource, index, env, now, number, buf, hmem, hnumber, hbuf⟩ := h
  exact ⟨hhears, hsource, index, env, now, number, buf, List.mem_append_left _ hmem,
    (List.getElem?_append_left (List.getElem?_eq_some_iff.mp hnumber).1).trans hnumber, hbuf⟩

theorem EventReceived.append {i : ι} {source : PortIdentity} {msg : EventMessage} {ingress : TimeStamp}
    (h : EventReceived own hears occurrences sent i source msg ingress) :
    EventReceived own hears (occurrences ++ occurrences') (sent ++ sent') i source msg ingress := by
  obtain ⟨j, hread⟩ := h
  exact ⟨j, hread.append⟩

theorem GeneralRead.append {i : ι} {source : PortIdentity} {msg : GeneralMessage}
    (h : GeneralRead own hears occurrences sent i source msg) :
    GeneralRead own hears (occurrences ++ occurrences') (sent ++ sent') i source msg := by
  obtain ⟨j, hhears, hsource, hvouched⟩ := h
  exact ⟨j, hhears, hsource, hvouched.mono (fun _ _ _ => .append) fun _ _ => .append⟩

theorem evidence_grown (i : ι) : (evidence own hears occurrences sent i).Grown
    (evidence own hears (occurrences ++ occurrences') (sent ++ sent') i) where
  received := fun _ _ _ ⟨htwoStep, hread⟩ => ⟨htwoStep, hread.append⟩
  followedUp := fun _ _ => .append
  answered := fun _ _ => .append
  stamped := fun _ _ => .append

end Growth

variable [DecidableEq ι] [DecidableRel hears]

variable (own hears) in
/-- The clocks have recorded nothing but what they have evidence of, and their datagrams are vouched
for. -/
structure Attested (occurrences : List (ι × ClockInput R ℕ))
    (w : Pool ι (ClockWorld F R) Datagram) : Prop where
  clocks : ∀ i, (w.components i).Rests (evidence own hears occurrences w.sent i)
  sent : ∀ p ∈ w.sent, p.2.Vouched (own p.1)
    (EventReceived own hears occurrences w.sent p.1) (EgressGiven occurrences p.1)

variable {w w' : Pool ι (ClockWorld F R) Datagram} {o : ι × ClockInput R ℕ} {l l' : List (Effect F)}

omit [DecidableEq ι] [DecidableRel hears] in
theorem Attested.grow (hw : Attested own hears occurrences w)
    (occurrences' : List (ι × ClockInput R ℕ)) (sent' : List (ι × Datagram)) :
    (∀ i, (w.components i).Rests
      (evidence own hears (occurrences ++ occurrences') (w.sent ++ sent') i)) ∧
    ∀ p ∈ w.sent, p.2.Vouched (own p.1)
      (EventReceived own hears (occurrences ++ occurrences') (w.sent ++ sent') p.1)
      (EgressGiven (occurrences ++ occurrences') p.1) :=
  ⟨fun i => (hw.clocks i).mono (evidence_grown i),
    fun p hp => (hw.sent p hp).mono (fun _ _ _ => .append) fun _ _ => .append⟩

variable [F64 F]

omit [DecidableEq ι] in
theorem Attested.read (hw : Attested own hears occurrences w) {input : ClockInput R Datagram}
    (hread : (network hears : Medium (Effect F) ι (ClockWorld F R) _ _ _).read o.1 w.sent o.2 =
      some input) (sent' : List (ι × Datagram)) :
    input.InEvidence (evidence own hears (occurrences ++ [o]) (w.sent ++ sent') o.1) := by
  obtain ⟨i, o⟩ := o
  have hmem : (i, o) ∈ occurrences ++ [(i, o)] := by simp
  cases o with
  | datagram index env ingress now number =>
    obtain ⟨d, hfound, rfl⟩ := Option.map_eq_some_iff.mp hread
    obtain ⟨⟨j, d⟩, hp, rfl⟩ := Option.map_eq_some_iff.mp hfound
    obtain ⟨hp, hdecided⟩ := Option.filter_eq_some_iff.mp hp
    have hhears : hears i j := of_decide_eq_true hdecided
    have hnumber : (w.sent ++ sent')[number]? = some (j, d) :=
      (List.getElem?_append_left (List.getElem?_eq_some_iff.mp hp).1).trans hp
    have hvouched := (hw.grow [(i, .datagram index env ingress now number)] sent').2 _
      (List.mem_of_getElem? hp)
    cases d with
    | event buf =>
      intro hf msg hmsg
      obtain ⟨hsource, htwoStep⟩ := hvouched hf msg hmsg
      exact ⟨htwoStep, j, hhears, hsource, index, env, now, number, buf, hmem, hnumber, hf, rfl, hmsg⟩
    | general buf =>
      intro hf msg hmsg _
      obtain ⟨hsource, htells⟩ := hvouched hf msg hmsg
      cases msg with
      | announce msg => trivial
      | followUp msg => exact ⟨j, hhears, hsource, htells⟩
      | delayResp msg => exact ⟨j, hhears, hsource, htells⟩
  | create records hrecords =>
    cases hread
    trivial
  | notification index env number =>
    cases hread
    trivial
  | system index env msg hmsg =>
    cases hread
    cases msg with
    | timestamp msg => exact ⟨index, env, hmsg, hmem⟩
    | _ => trivial

variable {numbers : ι → PortNumber → Prop}

/-- One occurrence on a network whose clocks know their lineage keeps it attested. -/
theorem Attested.step (hnet : Distinct own hears) (hw : Attested own hears occurrences w)
    (hinformed : ∀ i, (w.components i).Informed
      (standpoint own numbers hears (Lineage own hears) i))
    (h : (Pool.step (network hears) w o).Returns w' l) :
    Attested own hears (occurrences ++ [o]) w' := by
  rcases Pool.step_returns h with ⟨rfl, -⟩ | ⟨input, world, hread, hstep, rfl⟩
  · have hgrown := hw.grow [o] []
    rw [List.append_nil] at hgrown
    exact ⟨hgrown.1, hgrown.2⟩
  · obtain ⟨hclocks, hsent⟩ := hw.grow [o] ((datagrams l).map (Prod.mk o.1))
    obtain ⟨hworld, hperformed⟩ := (hclocks o.1).step (hw.read hread _) hstep
    constructor
    · intro i
      change (Function.update w.components o.1 world i).Rests (evidence own hears (occurrences ++ [o])
        (w.sent ++ (datagrams l).map (Prod.mk o.1)) i)
      obtain rfl | hi := eq_or_ne i o.1
      · simpa using hworld
      · simpa [Function.update_of_ne hi] using hclocks i
    · intro p hp
      rcases List.mem_append.mp hp with hp | hp
      · exact hsent p hp
      · obtain ⟨d, hd, rfl⟩ := List.mem_map.mp hp
        rcases hperformed with rfl | ⟨env, s, s', given, hport, -, hgiven, hreturns⟩
        · cases hd
        · obtain ⟨s₁, hs₁, hinformed⟩ := (hinformed o.1).node.ports _ hport
          cases hs₁
          refine (datagram_vouched hinformed (fun ds hds => ?_) hgiven hreturns d hd).mono
            (fun _ _ _ => And.right) fun _ _ => id
          rcases announceable_lineage hnet hds with rfl | ⟨k, g, -, rfl⟩
          · exact hnet.canonical o.1
          · exact hnet.canonical g

/-- Two clocks have taken the four timestamps of an offset: each of them is the ingress or the egress
of a message that the one has sent and the other one has read, under the sequence id of that message. -/
structure Exchange (own : ι → ClockDS) (hears : ι → ι → Prop) (occurrences : List (ι × ClockInput R ℕ))
    (sent : List (ι × Datagram)) (i j : ι) (parent : PortIdentity)
    (ingress origin receipt egress : TimeStamp) : Prop where
  sync : ∃ sync followed, EventRead own hears occurrences sent i j parent (.twoStepSync sync) ingress ∧
    EgressGiven occurrences j (.twoStepSync followed) origin ∧ followed.sequenceId = sync.sequenceId
  delay : ∃ request answered k requester, EgressGiven occurrences i (.delayReq request) egress ∧
    EventRead own hears occurrences sent j k requester (.delayReq answered) receipt ∧
    answered.sequenceId = request.sequenceId

omit [DecidableEq ι] [DecidableRel hears] [F64 F] in
/-- The parent that a sample is taken from is one clock, and the timestamps are those of that clock. -/
theorem exchange_of_supports (hnet : Distinct own hears) {i : ι} {parent : PortIdentity}
    {sample : ServoSample}
    (h : (evidence own hears occurrences sent i).Supports parent sample) :
    ∃ j origin receipt egress, hears i j ∧ parent.clockIdentity = (own j).identity ∧
      Exchange own hears occurrences sent i j parent sample.ingress origin receipt egress ∧
      sample.offset.ns = ((sample.ingress.ns - origin.ns) - (receipt.ns - egress.ns)).tdiv 2 := by
  obtain ⟨origin, receipt, egress, hsync, hdelay, hoffset⟩ := h
  obtain ⟨hreq, hresp, hid⟩ := hdelay
  obtain ⟨j, hhears, hparent, requester, req, receipt, interval, ⟨k, hread⟩, rfl⟩ := hresp
  have hsender : ∀ j', parent.clockIdentity = (own j').identity → j' = j := fun j' hj' =>
    hnet.identity j' j (hj'.symm.trans hparent)
  cases hsync with
  | oneStep hsync => exact absurd rfl (hsync.1 _)
  | twoStep hsync hfollowUp hsame =>
    obtain ⟨-, j₁, hreceived⟩ := hsync
    obtain ⟨j₂, -, hj₂, followed, origin, hgiven, rfl⟩ := hfollowUp
    obtain rfl := hsender j₁ hreceived.2.1
    obtain rfl := hsender j₂ hj₂
    exact ⟨_, _, _, _, hhears, hparent,
      ⟨⟨_, followed, hreceived, hgiven, hsame⟩, _, req, k, requester, hreq, hread, hid⟩, hoffset⟩

variable [FaithfulForeignClockRecords R] {nodes : ι → ClockNode F R}

/-- In every run of a network, the clocks record nothing but what they have evidence of. -/
theorem network_attested (hnet : Distinct own hears) (hfresh : ∀ i, (nodes i).Fresh (own i))
    (h : (Pool.run (network hears) (networkOf nodes) occurrences).Returns w l) :
    Attested own hears occurrences w := by
  refine Act.runAll_history_reached (P := Attested own hears) ?_ ?_ h
  · refine ⟨fun i => ?_, by simp [networkOf]⟩
    have hrests : (nodes i).Rests (evidence own hears ([] : List (ι × ClockInput R ℕ)) [] i) :=
      (hfresh i).rests
    exact ⟨hrests, hrests.decisions⟩
  · intro earlier reached next w' l l' hreached hw hstep
    exact hw.step hnet (network_lineage hnet hfresh hreached).components hstep

/-- Whatever becomes of the datagrams of a network, an offset that a servo is fed with is computed
from timestamps that the clock and the parent of its port have taken: the ingress of a Sync and the
egress of one with its sequence id, the egress of a DelayReq and the ingress of one with its sequence
id. -/
theorem network_samples (hnet : Distinct own hears) (hfresh : ∀ i, (nodes i).Fresh (own i))
    (h : (Pool.run (network hears) (networkOf nodes) occurrences).Returns w l)
    (hstep : (Pool.step (network hears) w o).Returns w' l') {sample : ServoSample}
    (hsample : Effect.servoFeed sample ∈ l') :
    ∃ s parent, PortFsm.new s ∈ (w.components o.1).node.ports ∧ s.parent = some parent ∧
      ∃ j origin receipt egress, hears o.1 j ∧
        parent.parentPortIdentity.clockIdentity = (own j).identity ∧
        Exchange own hears (occurrences ++ [o]) w'.sent o.1 j parent.parentPortIdentity sample.ingress
          origin receipt egress ∧
        sample.offset.ns = ((sample.ingress.ns - origin.ns) - (receipt.ns - egress.ns)).tdiv 2 := by
  have hw := network_attested hnet hfresh h
  rcases Pool.step_returns hstep with ⟨-, rfl⟩ | ⟨input, world, hread, hclock, rfl⟩
  · cases hsample
  · obtain ⟨hclocks, -⟩ := hw.grow [o] ((datagrams l').map (Prod.mk o.1))
    rcases ((hclocks o.1).step (hw.read hread _) hclock).2 with rfl |
      ⟨env, s, s', given, hport, hs, hgiven, hreturns⟩
    · cases hsample
    · obtain ⟨parent, hparent, hsupports⟩ := hs.fed hgiven hreturns hsample
      exact ⟨s, parent, hport, hparent, exchange_of_supports hnet hsupports⟩

end Network

/-! ## An exchange between two clocks -/

/-- The samples that a port feeds to its servo. -/
def fedSamples (l : List (Effect F)) : List ServoSample :=
  l.filterMap fun
    | .servoFeed sample => some sample
    | _ => none

theorem mem_fedSamples {l : List (Effect F)} {sample : ServoSample} (h : sample ∈ fedSamples l) :
    Effect.servoFeed sample ∈ l := by
  obtain ⟨e, he, hsample⟩ := List.mem_filterMap.mp h
  cases e
  case servoFeed =>
    cases hsample
    exact he
  all_goals cases hsample

/-- A message of a timer or of the timestamping to the port of an ordinary clock. -/
def delivering (msg : SystemMessage) (h : ¬ (PortInput.system msg).IsDecision) :
    ClockInput ForeignClockRecordsVec ℕ :=
  .system 0 (.calm (.fromSecs 1)) msg h

theorem timestamp_undecided (msg : TimestampMessage) :
    ¬ (PortInput.system (.timestamp msg)).IsDecision := id

theorem syncTimeout_undecided : ¬ (PortInput.system .syncTimeout).IsDecision := id

theorem delayRequestTimeout_undecided : ¬ (PortInput.system .delayRequestTimeout).IsDecision := id

/-- The egress of an event message, in seconds. -/
def sentAt (egress : UInt16) (msg : EventMessage) : ClockInput ForeignClockRecordsVec ℕ :=
  delivering (.timestamp ⟨msg, stampOf egress⟩) (timestamp_undecided _)

def readAt (ingress : UInt16) (number : ℕ) : ClockInput ForeignClockRecordsVec ℕ :=
  .datagram 0 (.calm (.fromSecs 1)) (stampOf ingress) (.fromSecs 1) number

/-- The second clock follows the first one and has got an answer to a DelayReq, and then a Sync. -/
def exchangeOccurrences : List (Fin 3 × ClockInput ForeignClockRecordsVec ℕ) :=
  pairOccurrences ++ firstAndSecond [] [deciding 0 3] ++
    firstAndSecond
      [delivering .syncTimeout syncTimeout_undecided, sentAt 10 (.twoStepSync ⟨⟨0⟩, ⟨0⟩⟩)]
      [readAt 13 2, readAt 0 3, delivering .delayRequestTimeout delayRequestTimeout_undecided,
        sentAt 20 (.delayReq ⟨⟨0⟩⟩)] ++
    firstAndSecond [readAt 21 4] [readAt 0 5] ++
    firstAndSecond
      [delivering .syncTimeout syncTimeout_undecided, sentAt 30 (.twoStepSync ⟨⟨1⟩, ⟨0⟩⟩)]
      [readAt 33 6]

/-- With the FollowUp of the last Sync the second clock feeds its servo with one second: the half of
three seconds from the first clock to the second, less one second back. -/
theorem network_samples_line :
    ∃ (w w' : Pool (Fin 3) (ClockWorld ℚ ForeignClockRecordsVec) Datagram) (l l' : List (Effect ℚ))
      (sample : ServoSample),
      (Pool.run (network lineHears) (networkOf fun i => .ordinary (lineOrdinary i))
        exchangeOccurrences).Returns w l ∧
      (Pool.step (network lineHears) w (1, readAt 0 7)).Returns w' l' ∧
      Effect.servoFeed sample ∈ l' ∧ sample.offset.ns = 1000000000 ∧
      ∃ s parent, PortFsm.new s ∈ (w.components 1).node.ports ∧ s.parent = some parent ∧
        ∃ j origin receipt egress, lineHears 1 j ∧
          parent.parentPortIdentity.clockIdentity = (lineOwn j).identity ∧
          Exchange lineOwn lineHears (exchangeOccurrences ++ [(1, readAt 0 7)]) w'.sent 1 j
            parent.parentPortIdentity sample.ingress origin receipt egress ∧
          sample.offset.ns = ((sample.ingress.ns - origin.ns) - (receipt.ns - egress.ns)).tdiv 2 := by
  have hrun : ((Pool.run (network lineHears) (networkOf fun i => .ordinary (lineOrdinary i))
      exchangeOccurrences).run.toOption.bind fun p =>
        (Pool.step (network lineHears) p.1 (1, readAt 0 7)).run.toOption.map fun q =>
          (fedSamples q.2).map fun sample => sample.offset.ns) = some [1000000000] := by
    decide +kernel
  obtain ⟨⟨w, l⟩, hret, hrest⟩ := Option.bind_eq_some_iff.mp hrun
  obtain ⟨⟨w', l'⟩, hstep, hoffsets⟩ := Option.map_eq_some_iff.mp hrest
  have hmem : (1000000000 : ℤ) ∈ (fedSamples l').map fun sample => sample.offset.ns := by
    rw [hoffsets]
    exact List.mem_singleton_self _
  obtain ⟨sample, hsample, hoffset⟩ := List.mem_map.mp hmem
  have hreach := Act.returns_of_toOption hret
  have hlast := Act.returns_of_toOption hstep
  exact ⟨w, w', l, l', sample, hreach, hlast, mem_fedSamples hsample, hoffset,
    network_samples distinct_line (fun i => fresh_defaultNode (lineOwn i)) hreach hlast
      (mem_fedSamples hsample)⟩

end Rptp
