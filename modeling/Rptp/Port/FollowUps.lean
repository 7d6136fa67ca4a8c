import Rptp.Port.Mastering
import Rptp.Port.Tracking
import Rptp.Port.Coherence

/-! # FollowUp messages match Sync messages

The infrastructure timestamps the event messages that a port has sent and reports the timestamps
later, in any order and each at most once. A master follows up every timestamp of a Sync at once, so
that each FollowUp belongs to a Sync of its own, whatever happens to the port in between.
-/

namespace Rptp

open Machine

variable {F R : Type}

section Logs

/-- The event messages that were sent. -/
def sentEvents (l : List (Effect F)) : List EventMessage :=
  l.filterMap fun
    | .sendEvent msg _ (.ok _) => some msg
    | _ => none

/-- The event messages that were handed over for timestamping. -/
def stamps (l : List (Effect F)) : List EventMessage :=
  l.filterMap fun
    | .stampEgress msg => some msg
    | _ => none

/-- The FollowUp messages, each with the event messages that were sent before it. -/
def followUpsAfter : List EventMessage → List (Effect F) → List (List EventMessage × FollowUpMessage)
  | _, [] => []
  | before, .sendGeneral (.followUp msg) _ _ :: l => (before, msg) :: followUpsAfter before l
  | before, .sendEvent msg _ (.ok _) :: l => followUpsAfter (before ++ [msg]) l
  | before, _ :: l => followUpsAfter before l

theorem sentEvents_append (l l' : List (Effect F)) :
    sentEvents (l ++ l') = sentEvents l ++ sentEvents l' :=
  List.filterMap_append

theorem stamps_append (l l' : List (Effect F)) : stamps (l ++ l') = stamps l ++ stamps l' :=
  List.filterMap_append

theorem followUpsAfter_append (before : List EventMessage) (l l' : List (Effect F)) :
    followUpsAfter before (l ++ l') =
      followUpsAfter before l ++ followUpsAfter (before ++ sentEvents l) l' := by
  fun_induction followUpsAfter before l with
  | case1 before =>
    rw [sentEvents, List.filterMap_nil, List.append_nil]
    rfl
  | case2 before msg buf result l ih => exact congrArg (List.cons (before, msg)) ih
  | case3 before msg buf u l ih =>
    have hsent : sentEvents (Effect.sendEvent msg buf (.ok u) :: l) = msg :: sentEvents l := rfl
    rw [hsent, List.append_cons before msg (sentEvents l)]
    exact ih
  | case4 before e l hfollow hsend ih =>
    have hsent : sentEvents (e :: l) = sentEvents l := by
      apply List.filterMap_cons_none
      split
      · exact absurd rfl (hsend _ _ _)
      · rfl
    rw [hsent, List.cons_append, followUpsAfter]
    · exact ih
    · exact hfollow
    · exact hsend

/-- A call that neither sends an event message, hands one over, nor sends a FollowUp. -/
def Effect.Plain : Effect F → Prop
  | .sendEvent .. => False
  | .stampEgress _ => False
  | .sendGeneral (.followUp _) .. => False
  | _ => True

/-- The step of a port as this module sees it: nothing is handed over that was not sent, and at most
one FollowUp is sent, which carries what the input reports. -/
structure Followed (input : PortInput) (l : List (Effect F)) : Prop where
  stamped : stamps l = sentEvents l
  followUps : ∀ before, followUpsAfter before l = [] ∨
    ∃ sync egress, input = .system (.timestamp ⟨.twoStepSync sync, egress⟩) ∧
      followUpsAfter before l = [(before, sync.followUp egress)]

theorem plain_cons {e : Effect F} (he : e.Plain) (before : List EventMessage)
    (l : List (Effect F)) : followUpsAfter before (e :: l) = followUpsAfter before l ∧
      sentEvents (e :: l) = sentEvents l ∧ stamps (e :: l) = stamps l := by
  cases e with
  | sendEvent msg buf result => exact absurd he id
  | stampEgress msg => exact absurd he id
  | sendGeneral msg buf result =>
    cases msg with
    | followUp msg => exact absurd he id
    | announce msg => exact ⟨rfl, rfl, rfl⟩
    | delayResp msg => exact ⟨rfl, rfl, rfl⟩
  | servoFeed sample => exact ⟨rfl, rfl, rfl⟩
  | recordOffsetFromMaster offset => exact ⟨rfl, rfl, rfl⟩
  | step ts => exact ⟨rfl, rfl, rfl⟩
  | adjust rate => exact ⟨rfl, rfl, rfl⟩
  | trigger port e => exact ⟨rfl, rfl, rfl⟩

theorem plain_log {l : List (Effect F)} (h : ∀ e ∈ l, e.Plain) (before : List EventMessage) :
    followUpsAfter before l = [] ∧ sentEvents l = [] ∧ stamps l = [] := by
  induction l with
  | nil => exact ⟨rfl, rfl, rfl⟩
  | cons e l ih =>
    obtain ⟨hfollow, hsent, hstamps⟩ := plain_cons (h e List.mem_cons_self) before l
    rw [hfollow, hsent, hstamps]
    exact ih fun e he => h e (List.mem_cons_of_mem _ he)

theorem Followed.of_plain {input : PortInput} {l : List (Effect F)} (h : ∀ e ∈ l, e.Plain) :
    Followed input l := by
  constructor
  · rw [(plain_log h []).2.1, (plain_log h []).2.2]
  · intro before
    exact .inl (plain_log h before).1

theorem Followed.append_plain {input : PortInput} {l l' : List (Effect F)} (h : Followed input l)
    (hl' : ∀ e ∈ l', e.Plain) : Followed input (l ++ l') := by
  constructor
  · rw [stamps_append, sentEvents_append, h.stamped, (plain_log hl' []).2.1, (plain_log hl' []).2.2]
  · intro before
    rw [followUpsAfter_append, (plain_log hl' _).1, List.append_nil]
    exact h.followUps before

theorem plain_of_triggers {l : List (Effect F)}
    (h : ∀ e ∈ l, ∃ port snapshot, e = .trigger port snapshot) : ∀ e ∈ l, e.Plain := by
  intro e he
  obtain ⟨port, snapshot, rfl⟩ := h e he
  trivial

theorem Followed.eventCalls {input : PortInput} (env : Env) (port : DomainPort)
    (msg : EventMessage) : Followed input (port.eventCalls env msg : List (Effect F)) := by
  unfold DomainPort.eventCalls
  cases env.sendResult with
  | ok u => exact ⟨rfl, fun before => .inl rfl⟩
  | error e => exact ⟨rfl, fun before => .inl rfl⟩

theorem Effect.OnClock.plain {e : Effect F} (h : e.OnClock) : e.Plain := by
  cases e with
  | sendEvent msg buf result => exact absurd h id
  | sendGeneral msg buf result => exact absurd h id
  | stampEgress msg => exact absurd h id
  | _ => trivial

theorem Role.Performs.plain {frame : PartsFrame} {r : Role} (hmaster : ∀ ds, r ≠ .master ds)
    (htracks : ∀ parent, ¬ r.Tracks parent) {e : Effect F} (h : r.Performs frame e) : e.Plain := by
  cases e with
  | sendEvent msg buf result =>
    cases msg with
    | delayReq req =>
      obtain ⟨parent, ht⟩ := h
      exact htracks parent ht
    | twoStepSync sync =>
      obtain ⟨ds, hds⟩ := h
      exact hmaster ds hds
    | oneStepSync sync => exact h
  | stampEgress msg =>
    cases msg with
    | delayReq req =>
      obtain ⟨parent, ht⟩ := h
      exact htracks parent ht
    | twoStepSync sync =>
      obtain ⟨ds, hds⟩ := h
      exact hmaster ds hds
    | oneStepSync sync => exact h
  | sendGeneral msg buf result =>
    cases msg with
    | followUp msg =>
      obtain ⟨ds, hds⟩ := h
      exact hmaster ds hds
    | announce msg => trivial
    | delayResp msg => trivial
  | _ => trivial

end Logs

section Steps

variable [F64 F] [ForeignClockRecords R]

omit [F64 F] in
theorem Mastered.followed {env : Env} {p p' : MasterPort F R} {input : PortInput}
    {d : Option StateDecision} {l : List (Effect F)} (h : Mastered env p input p' d l) :
    Followed input l := by
  cases h with
  | answered source req ts => exact ⟨rfl, fun before => .inl rfl⟩
  | heard hfed =>
    obtain ⟨-, -, -, -, -, htriggers⟩ := feedBmca_returns hfed
    exact .of_plain (plain_of_triggers htriggers)
  | announced => exact ⟨rfl, fun before => .inl rfl⟩
  | synced => exact .eventCalls env p.port _
  | followedUp sync egress => exact ⟨rfl, fun before => .inr ⟨sync, egress, rfl, rfl⟩⟩
  | expired => exact .of_plain (by simp)
  | decided => exact .of_plain (by simp)
  | ignored => exact .of_plain (by simp)

theorem Handled.followed {react : PortIdentity → ServoState → Option StateDecision} {env : Env}
    {p p' : ParentTrackingPort F R} {input : PortInput} {d : Option StateDecision}
    {l : List (Effect F)} (h : Handled react env p input p' d l) : Followed input l := by
  cases h with
  | recorded => exact .of_plain (by simp)
  | sampled _ _ hfed =>
    exact .of_plain fun e he =>
      (ParentTrackingPort.feedServo_only _ _ _ l hfed e he).plain
  | announced hfed =>
    obtain ⟨-, -, -, -, -, htriggers⟩ := feedBmca_returns hfed
    exact .of_plain (plain_of_triggers htriggers)
  | requested hsent =>
    obtain ⟨-, rfl⟩ := DomainPort.sendEvent_eventCalls hsent
    exact .eventCalls env p.port _
  | expired => exact .of_plain (by simp)
  | decided => exact .of_plain (by simp)

theorem dispatch_followed {env : Env} {s s' : PortState F R} {input : PortInput}
    {d : Option StateDecision} {l : List (Effect F)}
    (h : (s.dispatch env input).Returns (s', d) l) : Followed input l := by
  rcases s.tracking_cases with ⟨k, q, rfl⟩ | huntracked
  · obtain ⟨p', -, hp'⟩ := TrackingRole.dispatch_returns h
    exact (ParentTrackingPort.handle_cases hp').followed
  · have plain : (∀ ds, s.role ≠ .master ds) → Followed input l := fun hmaster =>
      .of_plain fun e he => (dispatch_only env s input (s', d) l h e he).plain hmaster huntracked
    cases s with
    | master p =>
      obtain ⟨p', -, hp'⟩ := MasterPort.dispatch_cases h
      exact hp'.followed
    | initializing p => exact plain fun ds hds => by cases hds
    | listening p => exact plain fun ds hds => by cases hds
    | slave p => exact plain fun ds hds => by cases hds
    | preMaster p => exact plain fun ds hds => by cases hds
    | uncalibrated p => exact plain fun ds hds => by cases hds
    | passive p => exact plain fun ds hds => by cases hds
    | faulty p => exact plain fun ds hds => by cases hds

theorem step_followed {env : Env} {s s' : PortState F R} {input : PortInput}
    {l : List (Effect F)} (h : (s.step env input).Returns s' l) : Followed input l := by
  rw [PortState.step, Act.returns_bind] at h
  obtain ⟨⟨s₁, d⟩, l₁, l₂, hd, hrest, rfl⟩ := h
  cases d with
  | none =>
    obtain ⟨-, rfl⟩ := Act.returns_pure.mp hrest
    rw [List.append_nil]
    exact dispatch_followed hd
  | some d =>
    obtain ⟨r, -, hmoved⟩ := apply_returns hrest
    exact (dispatch_followed hd).append_plain (plain_of_triggers hmoved.triggers)

end Steps

section Runs

/-- The input reports the timestamp of an event message. -/
def PortInput.IsTimestamp : PortInput → Prop
  | .system (.timestamp _) => True
  | _ => False

/-- What reaches the port next: a message, or the timestamp of one of the event messages that were
handed over, by its number. -/
inductive Feedback where
  | message (input : PortInput) (h : ¬ input.IsTimestamp)
  | timestamp (number : ℕ)

/-- A port with the event messages handed over for timestamping and the numbers of those whose
timestamps have been reported. -/
structure StampedPort (F R : Type) where
  port : PortState F R
  stamped : List EventMessage
  reported : List ℕ

namespace StampedPort

def start (s : PortState F R) : StampedPort F R := ⟨s, [], []⟩

/-- The message for the port, if there is one. Nothing is reported before it is handed over or
twice. The timestamps are those at which the messages left. -/
def input (egress : ℕ → TimeStamp) (w : StampedPort F R) : Feedback → Option PortInput
  | .message input _ => some input
  | .timestamp number =>
    if number ∈ w.reported then none
    else w.stamped[number]?.map fun msg => .system (.timestamp ⟨msg, egress number⟩)

/-- The numbers that are reported next. -/
def number : Feedback → List ℕ
  | .message _ _ => []
  | .timestamp number => [number]

variable [F64 F] [ForeignClockRecords R]

def step (egress : ℕ → TimeStamp) (w : StampedPort F R) (i : Env × Feedback) :
    Act (Effect F) (StampedPort F R) :=
  match w.input egress i.2 with
  | some input => do
    let (port, calls) ← Act.observe (w.port.step i.1 input)
    pure ⟨port, w.stamped ++ stamps calls, w.reported ++ number i.2⟩
  | none => pure w

def run (egress : ℕ → TimeStamp) (w : StampedPort F R) (inputs : List (Env × Feedback)) :
    Act (Effect F) (StampedPort F R) :=
  Act.runAll (step egress) w inputs

theorem step_returns {egress : ℕ → TimeStamp} {w w' : StampedPort F R} {i : Env × Feedback}
    {l : List (Effect F)} (h : (w.step egress i).Returns w' l) :
    (w.input egress i.2 = none ∧ w' = w ∧ l = []) ∨
      ∃ input, w.input egress i.2 = some input ∧ (w.port.step i.1 input).Returns w'.port l ∧
        w'.stamped = w.stamped ++ stamps l ∧ w'.reported = w.reported ++ number i.2 := by
  unfold step at h
  cases hinput : w.input egress i.2 with
  | none =>
    rw [hinput] at h
    obtain ⟨rfl, rfl⟩ := Act.returns_pure.mp h
    exact .inl ⟨rfl, rfl, rfl⟩
  | some input =>
    rw [hinput] at h
    obtain ⟨port, hstep, rfl⟩ := Act.returns_observe_pure.mp h
    exact .inr ⟨input, rfl, hstep, rfl, rfl⟩

end StampedPort

/-- A FollowUp belongs to the Sync with the given number among the event messages sent before it. -/
def FollowsUp (egress : ℕ → TimeStamp) (number : ℕ) (sent : List EventMessage × FollowUpMessage) :
    Prop :=
  ∃ sync, sent.1[number]? = some (.twoStepSync sync) ∧ sent.2.sequenceId = sync.sequenceId ∧
    sent.2.logMessageInterval = sync.logMessageInterval ∧
    sent.2.preciseOriginTimestamp = egress number

/-- The state of the run together with its log: what was handed over was sent, no number was
reported twice, and the FollowUp messages belong to some of the reported numbers. -/
structure StampedPort.Matched (egress : ℕ → TimeStamp) (l : List (Effect F))
    (w : StampedPort F R) : Prop where
  sent : w.stamped = sentEvents l
  once : w.reported.Nodup
  followUps : ∃ numbers, numbers.Sublist w.reported ∧
    List.Forall₂ (FollowsUp egress) numbers (followUpsAfter [] l)

namespace StampedPort

theorem reported_nodup {egress : ℕ → TimeStamp} {w : StampedPort F R} {i : Feedback}
    {input : PortInput} (hw : w.reported.Nodup) (h : w.input egress i = some input) :
    (w.reported ++ number i).Nodup := by
  cases i with
  | message msg hmsg =>
    rw [number, List.append_nil]
    exact hw
  | timestamp k =>
    rw [StampedPort.input] at h
    split_ifs at h with hk
    exact List.nodup_append.mpr ⟨hw, List.nodup_singleton k, by
      intro a ha b hb
      rw [List.mem_singleton.mp hb]
      rintro rfl
      exact hk ha⟩

/-- A timestamp that reaches the port is of the message with the reported number. -/
theorem input_timestamp {egress : ℕ → TimeStamp} {w : StampedPort F R} {i : Feedback}
    {msg : EventMessage} {ts : TimeStamp}
    (h : w.input egress i = some (.system (.timestamp ⟨msg, ts⟩))) :
    ∃ k, number i = [k] ∧ w.stamped[k]? = some msg ∧ ts = egress k := by
  cases i with
  | message input hinput =>
    cases h
    exact absurd trivial hinput
  | timestamp k =>
    rw [StampedPort.input] at h
    split_ifs at h with hk
    obtain ⟨m, hm, heq⟩ := Option.map_eq_some_iff.mp h
    cases heq
    exact ⟨k, rfl, hm, rfl⟩

variable [F64 F] [ForeignClockRecords R]

theorem Matched.step {egress : ℕ → TimeStamp} {w w' : StampedPort F R} {i : Env × Feedback}
    {l l' : List (Effect F)} (hw : w.Matched egress l) (h : (w.step egress i).Returns w' l') :
    w'.Matched egress (l ++ l') := by
  rcases step_returns h with ⟨-, rfl, rfl⟩ | ⟨input, hinput, hstep, hstamped, hreported⟩
  · rw [List.append_nil]
    exact hw
  · have hfollowed := step_followed hstep
    obtain ⟨numbers, hsub, hmatch⟩ := hw.followUps
    refine ⟨?_, ?_, ?_⟩
    · rw [hstamped, hw.sent, sentEvents_append, hfollowed.stamped]
    · rw [hreported]
      exact reported_nodup hw.once hinput
    · rw [hreported, followUpsAfter_append, List.nil_append]
      rcases hfollowed.followUps (sentEvents l) with hnone | ⟨sync, ts, rfl, hone⟩
      · rw [hnone, List.append_nil]
        exact ⟨numbers, hsub.trans (List.sublist_append_left _ _), hmatch⟩
      · obtain ⟨k, hk, hmsg, hts⟩ := input_timestamp hinput
        refine ⟨numbers ++ [k], ?_, ?_⟩
        · rw [hk]
          exact hsub.append (List.Sublist.refl _)
        · rw [hone]
          refine List.rel_append hmatch (.cons ⟨sync, ?_, rfl, rfl, hts⟩ .nil)
          rw [← hw.sent]
          exact hmsg

end StampedPort

/-- The states in which a port sends a message. -/
def Effect.SentIn (r : Role) : Effect F → Prop
  | .sendEvent (.delayReq _) .. => ∃ parent, r = .slave parent ∨ r = .uncalibrated parent
  | .sendEvent .. => ∃ ds, r = .master ds
  | .sendGeneral .. => ∃ ds, r = .master ds
  | _ => True

theorem Role.Performs.sentIn {frame : PartsFrame} {r : Role} {e : Effect F}
    (h : r.Performs frame e) : e.SentIn r := by
  cases e with
  | sendEvent msg buf result =>
    cases msg with
    | delayReq req =>
      obtain ⟨parent, ht⟩ := h
      cases r with
      | slave p => exact ⟨p, .inl rfl⟩
      | uncalibrated p => exact ⟨p, .inr rfl⟩
      | initializing => exact absurd ht id
      | listening => exact absurd ht id
      | master ds => exact absurd ht id
      | preMaster ds => exact absurd ht id
      | passive => exact absurd ht id
      | faulty => exact absurd ht id
    | twoStepSync sync => exact h
    | oneStepSync sync => exact absurd h id
  | sendGeneral msg buf result =>
    cases msg with
    | announce msg => exact ⟨_, h⟩
    | followUp msg => exact h
    | delayResp msg => exact h
  | _ => trivial

variable [F64 F] [ForeignClockRecords R]

/-- In every run in which the timestamp of each event message is reported at most once, each FollowUp
carries the sequence id, the interval and the egress timestamp of a Sync that was sent before it, no
two of them those of the same Sync, and every message is sent in the state that sends it. -/
theorem followUps_match (s : PortState F R) (egress : ℕ → TimeStamp)
    (inputs : List (Env × Feedback)) (w : StampedPort F R) (l : List (Effect F))
    (h : ((StampedPort.start s).run egress inputs).Returns w l) :
    (∃ numbers : List ℕ, numbers.Nodup ∧
      List.Forall₂ (FollowsUp egress) numbers (followUpsAfter [] l)) ∧
    Act.Along (StampedPort.step egress) (fun w i => ∀ w' l', (w.step egress i).Returns w' l' →
      ∀ e ∈ l', e.SentIn w.port.role) (StampedPort.start s) inputs := by
  constructor
  · have hstart : (StampedPort.start s).Matched egress ([] : List (Effect F)) :=
      ⟨rfl, List.nodup_nil, [], List.Sublist.refl _, .nil⟩
    have hmatched := Act.runAll_log (P := fun l w => StampedPort.Matched egress l w) hstart
      (fun _ _ _ _ _ hw hs => hw.step hs) h
    obtain ⟨numbers, hsub, hmatch⟩ := hmatched.followUps
    exact ⟨numbers, hmatched.once.sublist hsub, hmatch⟩
  · apply (Act.along_congr (C := fun _ _ => True) fun w i => ?_).mp Act.along_true
    refine ⟨fun _ w' l' hs e he => ?_, fun _ => trivial⟩
    rcases StampedPort.step_returns hs with ⟨-, -, rfl⟩ | ⟨input, -, hstep, -, -⟩
    · cases he
    · exact (step_only i.1 w.port input w'.port l' hstep e he).sentIn

theorem syncTimeout_message : ¬ (PortInput.system .syncTimeout).IsTimestamp := id

/-- A master of the first clock. -/
def firstMaster : PortState ℚ ForeignClockRecordsVec :=
  PortProfile.default.master (.calm (.fromSecs 0)) ⟨⟨(defaultClock 1).identity, ⟨1⟩⟩, ⟨0⟩⟩
    ⟨⟨⟨defaultClock 1, ⟨1⟩⟩, ⟨⟨(defaultClock 1).identity, ⟨1⟩⟩, .new⟩, ⟨.empty, ⟨1⟩⟩⟩, defaultClock 1⟩

/-- The timestamps of two Sync messages are reported in the other order, and one of them is offered
again. -/
def lateTimestamps : List (Env × Feedback) :=
  [(.calm (.fromSecs 0), .message (.system .syncTimeout) syncTimeout_message),
    (.calm (.fromSecs 1), .message (.system .syncTimeout) syncTimeout_message),
    (.calm (.fromSecs 2), .timestamp 1), (.calm (.fromSecs 2), .timestamp 0),
    (.calm (.fromSecs 2), .timestamp 1)]

/-- One message leaves each second. -/
def egressAt (number : ℕ) : TimeStamp := stampOf (UInt16.ofNat number)

/-- Each Sync is followed up once. -/
theorem followUps_match_late :
    ∃ (w : StampedPort ℚ ForeignClockRecordsVec) (l : List (Effect ℚ)) (numbers : List ℕ),
      ((StampedPort.start firstMaster).run egressAt lateTimestamps).Returns w l ∧
      (followUpsAfter [] l).map (fun sent => (sent.2.sequenceId, sent.2.preciseOriginTimestamp)) =
        [(⟨1⟩, stampOf 1), (⟨0⟩, stampOf 0)] ∧
      numbers.Nodup ∧ List.Forall₂ (FollowsUp egressAt) numbers (followUpsAfter [] l) := by
  have hrun : ∃ (w : StampedPort ℚ ForeignClockRecordsVec) (l : List (Effect ℚ)),
      ((StampedPort.start firstMaster).run egressAt lateTimestamps).Returns w l ∧
      (followUpsAfter [] l).map (fun sent => (sent.2.sequenceId, sent.2.preciseOriginTimestamp)) =
        [(⟨1⟩, stampOf 1), (⟨0⟩, stampOf 0)] :=
    ⟨_, _, rfl, rfl⟩
  obtain ⟨w, l, hrun, hids⟩ := hrun
  obtain ⟨⟨numbers, hnodup, hmatch⟩, -⟩ :=
    followUps_match firstMaster egressAt lateTimestamps w l hrun
  exact ⟨w, l, numbers, hrun, hids, hnodup, hmatch⟩

end Runs

end Rptp
