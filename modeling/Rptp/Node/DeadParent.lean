import Rptp.Foreign.Faithful
import Rptp.Node.Broadcast
import Rptp.Node.Pending

/-! # A parent that fell silent

An Announce makes the port drop the records that are stale, and with them a parent that has been
silent for too long. The clock then asks the port for a decision, and the port leaves the parent. An
Announce whose interval is not supported does neither of this, but it restarts the receipt timeout.
-/

namespace Rptp

open Machine

variable {F R : Type}

/-- What the records of a port take in of a message. -/
def PortState.considered (s : PortState F R) (input : PortInput) : List Announced :=
  match s, input with
  | .initializing _, _ => []
  | .faulty _, _ => []
  | _, .general source (.announce msg) now =>
    match msg.logMessageInterval.logInterval with
    | .ok (some interval) => [⟨source, msg.foreignClockDs, interval, now⟩]
    | _ => []
  | _, _ => []

/-- The decisions that the clock asks for by the reports of its port. -/
def notifications (defaultDs : ClockDS) (l : List (Effect F)) : List StateDecisionSnapshot :=
  l.filterMap fun
    | .trigger _ e => some ⟨defaultDs, e⟩
    | _ => none

theorem notifications_silent {ds : ClockDS} {l : List (Effect F)} (h : ∀ e ∈ l, ¬ e.IsReport) :
    notifications ds l = [] := by
  apply List.filterMap_eq_nil_iff.mpr
  intro e he
  cases e
  case trigger => exact absurd trivial (h _ he)
  all_goals rfl

theorem notifications_reported {ds : ClockDS} {l : List (Effect F)} (h : ∀ e ∈ l, ¬ e.IsReport)
    (port : PortNumber) (e : BestForeignSnapshot) :
    notifications ds (l ++ [.trigger port e]) = [⟨ds, e⟩] := by
  have hl : notifications ds l = [] := notifications_silent h
  unfold notifications at hl ⊢
  rw [List.filterMap_append, hl]
  rfl

/-- The interval is in the range that a port takes in. -/
def LogMessageInterval.Supported (l : LogMessageInterval) : Prop :=
  -20 ≤ l.value.toInt ∧ l.value.toInt ≤ 20

theorem LogMessageInterval.logInterval_eq_none {l : LogMessageInterval} :
    l.logInterval = .ok none ↔ ¬ l.Supported := by
  unfold logInterval
  split_ifs with h
  · refine iff_of_false ?_ (not_not.mpr h)
    rw [LogInterval.new, dif_pos h]
    intro hnone
    cases hnone
  · exact iff_of_true rfl h

section Considered

variable [F64 F] [ForeignClockRecords R] [FaithfulForeignClockRecords R]

omit [F64 F] [FaithfulForeignClockRecords R] [ForeignClockRecords R] in
theorem considered_announce {s : PortState F R} {source : PortIdentity} {msg : AnnounceMessage}
    {now : Instant} {interval : LogInterval} (hactive : ¬ s.role.Idle)
    (hsupported : msg.logMessageInterval.logInterval = .ok (some interval)) :
    s.considered (.general source (.announce msg) now) =
      [⟨source, msg.foreignClockDs, interval, now⟩] := by
  cases s
  case initializing | faulty => exact absurd trivial hactive
  all_goals
    simp only [PortState.considered]
    rw [hsupported]

omit [F64 F] [FaithfulForeignClockRecords R] [ForeignClockRecords R] in
theorem considered_ignored {s : PortState F R} {source : PortIdentity} {msg : AnnounceMessage}
    {now : Instant} (h : s.role.Idle ∨ msg.logMessageInterval.logInterval = .ok none) :
    s.considered (.general source (.announce msg) now) = [] := by
  rcases h with hidle | hunsupported
  · cases s
    case initializing | faulty => rfl
    all_goals cases hidle
  · cases s
    case initializing | faulty => rfl
    all_goals
      simp only [PortState.considered]
      rw [hunsupported]

omit [F64 F] [FaithfulForeignClockRecords R] [ForeignClockRecords R] in
theorem considered_other {s : PortState F R} {input : PortInput} (h : ¬ input.IsAnnounce) :
    s.considered input = [] := by
  cases input with
  | general source msg now =>
    cases msg with
    | announce msg => exact absurd trivial h
    | followUp followUp => cases s <;> rfl
    | delayResp resp => cases s <;> rfl
  | event source msg ts => cases s <;> rfl
  | system msg => cases s <;> rfl

omit [FaithfulForeignClockRecords R] in
theorem step_records {env : Env} {s s' : PortState F R} {input : PortInput} {l : List (Effect F)}
    (hin : ¬ input.IsAnnounce) (h : (s.step env input).Returns s' l) :
    s'.parts.bestForeign = s.parts.bestForeign := by
  rcases step_returns h with hd | ⟨s₁, d, r, l₁, l₂, hd, -, hm, -⟩
  · exact hd.records hin
  · rw [hm.bestForeign, hd.records hin]

/-- The records stay those of the last Announce messages. -/
theorem step_recalls {env : Env} {s s' : PortState F R} {input : PortInput} {l : List (Effect F)}
    {history : List Announced} (hs : s.parts.bestForeign.Recalls history)
    (h : (s.step env input).Returns s' l) :
    s'.parts.bestForeign.Recalls (history ++ s.considered input) := by
  by_cases hin : input.IsAnnounce
  · obtain ⟨source, msg, now, rfl⟩ := hin.eq
    cases (step_announce h).2 with
    | ignored hignored hparts =>
      rw [considered_ignored hignored, List.append_nil, hparts]
      exact hs
    | considered interval current hactive hsupported hrecords =>
      rw [considered_announce hactive hsupported]
      exact hs.consider (a := ⟨source, msg.foreignClockDs, interval, now⟩) hrecords
  · rw [considered_other hin, List.append_nil, step_records hin h]
    exact hs

omit [FaithfulForeignClockRecords R] in
theorem step_decision_quiet {env : Env} {s s' : PortState F R} {snapshot : StateDecisionSnapshot}
    {l : List (Effect F)} (h : (s.step env (.system (.stateDecisionEvent snapshot))).Returns s' l) :
    l = [] := by
  rw [PortState.step, Act.returns_bind] at h
  obtain ⟨⟨s₁, d⟩, l₁, l₂, hd, hrest, rfl⟩ := h
  have hanswer := (dispatch_returns hd).answer
  generalize hinput : PortInput.system (.stateDecisionEvent snapshot) = input at hanswer
  cases hanswer with
  | @decided _ eRbest decision hsnap heval =>
    cases hgate : s.role.gate eRbest decision with
    | none =>
      rw [hgate] at hrest
      obtain ⟨-, rfl⟩ := Act.returns_pure.mp hrest
      rfl
    | some decision =>
      rw [hgate] at hrest
      cases decision <;> cases s₁ <;> first
        | exact absurd hrest Act.returns_abort
        | exact (Act.returns_pure.mp hrest).2
  | quiet hin => exact absurd (hinput ▸ trivial) hin
  | sendFailed hin => exact absurd (hinput ▸ trivial) hin
  | locked hin => exact absurd (hinput ▸ trivial) hin
  | unlocked hin => exact absurd (hinput ▸ trivial) hin
  | expired => cases hinput
  | initialized => cases hinput
  | qualified => cases hinput
  | faultCleared => cases hinput

end Considered

/-- What the infrastructure does next. A decision that the clock asks for waits until it is
delivered, and one that waits behind it may supersede it. -/
inductive Delivery where
  | message (input : PortInput) (h : ¬ input.IsDecision)
  | decision
  | superseded

/-- The best foreign data set is of this parent. -/
def BestForeignSnapshot.Names (parent : ParentPortIdentity) : BestForeignSnapshot → Prop
  | .qualified _ source _ => parent = ⟨source⟩
  | .empty => False

/-- A node with the decisions that wait for its port and the Announce messages that the port has
taken in. -/
structure NodeTrace (F R : Type) where
  node : OrdinaryNode F R
  outstanding : List StateDecisionSnapshot
  history : List Announced

namespace NodeTrace

/-- The port of the node is in the state. -/
def HasPort (w : NodeTrace F R) (s : PortState F R) : Prop := w.node.fsm = .new s

def Tracks (w : NodeTrace F R) (parent : ParentPortIdentity) : Prop :=
  ∃ s, w.HasPort s ∧ s.role.Tracks parent

def considered (w : NodeTrace F R) (input : PortInput) : List Announced :=
  match w.node.fsm.state with
  | some s => s.considered input
  | none => []

variable [F64 F] [ForeignClockRecords R]

/-- A message to the port. -/
def deliver (w : NodeTrace F R) (env : Env) (input : PortInput)
    (outstanding : List StateDecisionSnapshot) : Act (Effect F) (NodeTrace F R) := do
  let (node, calls) ← Act.observe (w.node.process env input)
  pure ⟨node, outstanding ++ notifications w.node.clock.defaultDs calls,
    w.history ++ w.considered input⟩

def step (w : NodeTrace F R) (i : Env × Delivery) : Act (Effect F) (NodeTrace F R) :=
  match i.2, w.outstanding with
  | .message input _, outstanding => w.deliver i.1 input outstanding
  | .decision, snapshot :: rest => w.deliver i.1 (.system (.stateDecisionEvent snapshot)) rest
  | .decision, [] => pure w
  | .superseded, _ :: next :: rest => pure { w with outstanding := next :: rest }
  | .superseded, _ => pure w

def run (w : NodeTrace F R) (deliveries : List (Env × Delivery)) :
    Act (Effect F) (NodeTrace F R) :=
  Act.runAll step w deliveries

theorem deliver_returns {w w' : NodeTrace F R} {env : Env} {input : PortInput}
    {outstanding : List StateDecisionSnapshot} {l : List (Effect F)} {s : PortState F R}
    (hs : w.HasPort s) (h : (w.deliver env input outstanding).Returns w' l) :
    ∃ s', w'.HasPort s' ∧ (s.step env input).Returns s' l ∧
      (w.node.process env input).Returns w'.node l ∧
      w'.outstanding = outstanding ++ notifications w.node.clock.defaultDs l ∧
      w'.history = w.history ++ s.considered input := by
  obtain ⟨node, hprocess, rfl⟩ := Act.returns_observe_pure.mp h
  obtain ⟨s', hs', hstep⟩ := OrdinaryNode.process_step hs hprocess
  have hconsidered : w.considered input = s.considered input := by
    rw [considered, hs]
    rfl
  refine ⟨s', hs', hstep, hprocess, rfl, ?_⟩
  rw [hconsidered]

/-- The last of the waiting decisions is about what the clock holds now, and if none waits then the
port tracks no other parent than the one that the clock holds. -/
structure Settled (w : NodeTrace F R) : Prop where
  agreed : w.node.Agreed
  recalls : ∀ s, w.HasPort s → s.parts.bestForeign.Recalls w.history
  latest : ∀ snapshot, w.outstanding.getLast? = some snapshot →
    snapshot.eBest = w.node.clock.foreignCandidates
  selected : w.outstanding = [] → ∀ parent, w.Tracks parent →
    w.node.clock.foreignCandidates.Names parent

omit [F64 F] [ForeignClockRecords R] in
theorem HasPort.unique {w : NodeTrace F R} {s t : PortState F R} (hs : w.HasPort s)
    (ht : w.HasPort t) : s = t := by
  have heq : PortFsm.new s = PortFsm.new t := hs.symm.trans ht
  cases heq
  rfl

omit [F64 F] in
theorem Settled.held {w : NodeTrace F R} {s : PortState F R} (hw : w.Settled) (hs : w.HasPort s) :
    s.Synced ∧ w.node.clock.foreignCandidates = s.previous := by
  obtain ⟨t, ht, hsynced, hheld⟩ := hw.agreed.port
  obtain rfl := HasPort.unique hs ht
  exact ⟨hsynced, hheld⟩

variable [FaithfulForeignClockRecords R]

theorem Settled.deliver {w w' : NodeTrace F R} {env : Env} {input : PortInput}
    {outstanding : List StateDecisionSnapshot} {l : List (Effect F)} (hw : w.Settled)
    (hlatest : ∀ snapshot, outstanding.getLast? = some snapshot →
      snapshot.eBest = w.node.clock.foreignCandidates)
    (hselected : outstanding = [] → ∀ s s' parent, w.HasPort s → (s.step env input).Returns s' l →
      s'.role.Tracks parent → w.node.clock.foreignCandidates.Names parent)
    (h : (w.deliver env input outstanding).Returns w' l) : w'.Settled := by
  obtain ⟨s, hs, -⟩ := hw.agreed.port
  obtain ⟨s', hs', hstep, hprocess, houtstanding, hhistory⟩ := deliver_returns hs h
  have hagreed : w'.node.Agreed := OrdinaryNode.process_agreed hw.agreed hprocess
  have hrecalls : ∀ t, w'.HasPort t → t.parts.bestForeign.Recalls w'.history := by
    intro t ht
    obtain rfl := hs'.unique ht
    rw [hhistory]
    exact step_recalls (hw.recalls s hs) hstep
  have hheld : w'.node.clock.foreignCandidates = s'.previous := by
    obtain ⟨t, ht, -, hheld⟩ := hagreed.port
    obtain rfl := hs'.unique ht
    exact hheld
  cases step_reported hstep with
  | silent htrigger hlog =>
    have hsame : w'.node.clock.foreignCandidates = w.node.clock.foreignCandidates := by
      rw [hheld, (hw.held hs).2, PortState.previous, PortState.previous, htrigger]
    rw [notifications_silent hlog, List.append_nil] at houtstanding
    refine ⟨hagreed, hrecalls, ?_, ?_⟩
    · rw [houtstanding, hsame]
      exact hlatest
    · rw [houtstanding, hsame]
      rintro hnone parent ⟨t, ht, htracks⟩
      obtain rfl := hs'.unique ht
      exact hselected hnone s s' parent hs hstep htracks
  | reported l₁ hbefore hlog =>
    rw [hlog, notifications_reported hbefore] at houtstanding
    refine ⟨hagreed, hrecalls, ?_, ?_⟩
    · intro snapshot hlast
      rw [houtstanding, List.getLast?_concat] at hlast
      cases hlast
      exact hheld.symm
    · intro hnone
      rw [houtstanding] at hnone
      exact absurd hnone (by simp)

theorem Settled.step {w w' : NodeTrace F R} {i : Env × Delivery} {l : List (Effect F)}
    (hw : w.Settled) (h : (w.step i).Returns w' l) : w'.Settled := by
  obtain ⟨env, delivery⟩ := i
  cases delivery with
  | message input hin =>
    refine hw.deliver hw.latest ?_ h
    intro hnone s s' parent hs hstep htracks
    exact hw.selected hnone parent ⟨s, hs, step_other_tracks hin hstep htracks⟩
  | decision =>
    cases houtstanding : w.outstanding with
    | nil =>
      simp only [NodeTrace.step, houtstanding] at h
      obtain ⟨rfl, -⟩ := Act.returns_pure.mp h
      exact hw
    | cons snapshot rest =>
      simp only [NodeTrace.step, houtstanding] at h
      refine hw.deliver ?_ ?_ h
      · intro last hlast
        apply hw.latest
        rw [houtstanding, List.getLast?_cons, hlast]
        rfl
      · rintro rfl s s' parent - hstep htracks
        obtain ⟨-, ds, source, receiver, hbest, -, rfl, -⟩ := (step_decision_selects hstep htracks).eBest
        have hheld := hw.latest snapshot (by rw [houtstanding]; rfl)
        rw [← hheld, hbest]
        rfl
  | superseded =>
    cases houtstanding : w.outstanding with
    | nil =>
      simp only [NodeTrace.step, houtstanding] at h
      obtain ⟨rfl, -⟩ := Act.returns_pure.mp h
      exact hw
    | cons snapshot rest =>
      cases rest with
      | nil =>
        simp only [NodeTrace.step, houtstanding] at h
        obtain ⟨rfl, -⟩ := Act.returns_pure.mp h
        exact hw
      | cons next rest =>
        simp only [NodeTrace.step, houtstanding] at h
        obtain ⟨rfl, -⟩ := Act.returns_pure.mp h
        refine ⟨hw.agreed, hw.recalls, ?_, fun hnone => by cases hnone⟩
        intro last hlast
        apply hw.latest
        rw [houtstanding, List.getLast?_cons_cons]
        exact hlast

omit [FaithfulForeignClockRecords R] in
theorem step_decision {w w' : NodeTrace F R} {env : Env} {l : List (Effect F)} {s : PortState F R}
    (hs : w.HasPort s) (h : (w.step (env, .decision)).Returns w' l) :
    w'.outstanding = w.outstanding.tail ∧
      ∃ s', w'.HasPort s' ∧ s'.parts.bestForeign = s.parts.bestForeign := by
  cases houtstanding : w.outstanding with
  | nil =>
    simp only [NodeTrace.step, houtstanding] at h
    obtain ⟨rfl, -⟩ := Act.returns_pure.mp h
    exact ⟨houtstanding, s, hs, rfl⟩
  | cons snapshot rest =>
    simp only [NodeTrace.step, houtstanding] at h
    obtain ⟨s', hs', hstep, -, hrest, -⟩ := deliver_returns hs h
    rw [step_decision_quiet hstep] at hrest
    exact ⟨hrest.trans (List.append_nil _), s', hs', step_records id hstep⟩

omit [FaithfulForeignClockRecords R] in
theorem run_decisions {w w' : NodeTrace F R} {envs : List Env} {l : List (Effect F)}
    {s : PortState F R} (hs : w.HasPort s)
    (h : (w.run (envs.map fun env => (env, .decision))).Returns w' l) :
    w'.outstanding = w.outstanding.drop envs.length ∧
      ∃ s', w'.HasPort s' ∧ s'.parts.bestForeign = s.parts.bestForeign := by
  induction envs generalizing w s l with
  | nil =>
    obtain ⟨rfl, -⟩ := Act.returns_pure.mp h
    exact ⟨rfl, s, hs, rfl⟩
  | cons env envs ih =>
    obtain ⟨w₁, l₁, l₂, hstep, hrun, -⟩ := Act.returns_runAll_cons.mp h
    obtain ⟨houtstanding, s₁, hs₁, hrecords₁⟩ := step_decision hs hstep
    obtain ⟨hrest, s', hs', hrecords⟩ := ih hs₁ hrun
    refine ⟨?_, s', hs', hrecords.trans hrecords₁⟩
    rw [hrest, houtstanding, List.drop_tail]
    rfl

omit [F64 F] [FaithfulForeignClockRecords R] in
/-- The parent that the port of a settled node tracks is qualified, if no decision waits. -/
theorem Settled.qualifies {w : NodeTrace F R} {s : PortState F R} {parent : ParentPortIdentity}
    (hw : w.Settled) (hs : w.HasPort s) (hnone : w.outstanding = []) (htracks : w.Tracks parent) :
    s.parts.bestForeign.Qualifies parent.parentPortIdentity := by
  have hnames := hw.selected hnone parent htracks
  obtain ⟨hsynced, hheld⟩ := hw.held hs
  rw [hheld] at hnames
  unfold PortState.Synced at hsynced
  cases hprevious : s.previous with
  | empty =>
    rw [hprevious] at hnames
    cases hnames
  | qualified ds source receiver =>
    rw [hprevious] at hnames hsynced
    cases hnames
    obtain ⟨-, r, hr, hsource, hqualified, -⟩ := BestForeignRecord.snapshot_qualified hsynced
    exact ⟨r, hr, hsource, hqualified⟩

omit [F64 F] [FaithfulForeignClockRecords R] in
theorem settled_new {ds : ClockDS} {domain : DomainNumber} {profile : PortProfile F} {records : R}
    {start : OrdinaryNode F R} (hrecords : ForeignClockRecords.iter records = [])
    (h : OrdinaryNode.new ds domain profile records = .ok (some start)) :
    (⟨start, [], []⟩ : NodeTrace F R).Settled := by
  obtain ⟨-, s, hfsm, hs⟩ := OrdinaryNode.new_port h
  have hport : (⟨start, [], []⟩ : NodeTrace F R).HasPort s := hfsm
  obtain ⟨hrole, -⟩ := newPort_state hs
  refine ⟨OrdinaryNode.agreed_new hrecords h, ?_, ?_, ?_⟩
  · intro t ht
    obtain rfl := hport.unique ht
    obtain ⟨previous, -, hret⟩ := Checked.bind_eq_ok.mp hs
    cases hret
    exact BestForeignRecord.recalls_empty hrecords
  · intro snapshot hlast
    cases hlast
  · rintro - parent ⟨t, ht, htracks⟩
    obtain rfl := hport.unique ht
    rw [hrole] at htracks
    cases htracks

end NodeTrace

section Dropped

variable [F64 F] [ForeignClockRecords R] [FaithfulForeignClockRecords R]

/-- In every run of an ordinary clock, a port that tracks a silent parent does so no longer once an
Announce with a supported interval and the decisions that wait then have been processed. With
another interval the port still tracks it, unless a decision was already waiting. -/
theorem deadParent_dropped {ds : ClockDS} {domain : DomainNumber} {profile : PortProfile F}
    {records : R} {start : OrdinaryNode F R} {before : List (Env × Delivery)}
    {w w₁ w₂ : NodeTrace F R} {l l₁ l₂ : List (Effect F)} {parent : ParentPortIdentity} {env : Env}
    {source : PortIdentity} {msg : AnnounceMessage} {now : Instant} {envs : List Env}
    (hrecords : ForeignClockRecords.iter records = [])
    (hnew : OrdinaryNode.new ds domain profile records = .ok (some start))
    (hrun : (NodeTrace.run ⟨start, [], []⟩ before).Returns w l) (htracks : w.Tracks parent)
    (hsilent : Silent w.history parent.parentPortIdentity now)
    (hannounce : (w.step (env, .message (.general source (.announce msg) now) id)).Returns w₁ l₁)
    (hlength : envs.length = w₁.outstanding.length)
    (hdecisions : (w₁.run (envs.map fun env => (env, .decision))).Returns w₂ l₂) :
    (msg.logMessageInterval.Supported → ¬ w₂.Tracks parent) ∧
      (w.outstanding = [] → ¬ w₂.Tracks parent → msg.logMessageInterval.Supported) := by
  have hw : w.Settled := Act.runAll_preserves (P := NodeTrace.Settled)
    (fun _ _ _ _ hn hs => hn.step hs) (NodeTrace.settled_new hrecords hnew) hrun
  obtain ⟨s, hs, htracked⟩ := htracks
  obtain ⟨s₁, hs₁, hstep, -, houtstanding, -⟩ := NodeTrace.deliver_returns hs hannounce
  obtain ⟨hrole, hheard⟩ := step_announce hstep
  obtain ⟨hrest, s₂, hs₂, hkept⟩ := NodeTrace.run_decisions hs₁ hdecisions
  rw [hlength, List.drop_length] at hrest
  constructor
  · intro hsupported htracks₂
    have hw₂ : w₂.Settled := Act.runAll_preserves (P := NodeTrace.Settled)
      (fun _ _ _ _ hn hs => hn.step hs) (hw.step hannounce) hdecisions
    have hqualifies := hw₂.qualifies hs₂ hrest htracks₂
    rw [hkept] at hqualifies
    cases hheard with
    | ignored hignored =>
      rcases hignored with hidle | hunsupported
      · exact Role.not_idle_of_tracks htracked hidle
      · exact LogMessageInterval.logInterval_eq_none.mp hunsupported hsupported
    | considered interval current _ _ hconsider =>
      exact (hw.recalls s hs).not_qualifies
        (a := ⟨source, msg.foreignClockDs, interval, now⟩) hsilent hconsider hqualifies
  · intro hnone hdropped
    by_contra hunsupported
    have hinterval := LogMessageInterval.logInterval_eq_none.mpr hunsupported
    cases hheard with
    | considered interval current _ hsome => cases hsome.symm.trans hinterval
    | ignored _ _ hlog =>
      rw [hnone, hlog] at houtstanding
      rw [houtstanding] at hlength
      obtain rfl := List.eq_nil_of_length_eq_zero hlength
      obtain ⟨rfl, -⟩ := Act.returns_pure.mp hdecisions
      refine hdropped ⟨s₁, hs₁, ?_⟩
      rw [hrole]
      exact htracked

end Dropped

section Silence

/-- The first clock is heard twice and followed. -/
def followed : List (Env × Delivery) :=
  [(.calm (.fromSecs 0), .message (.system .initialized) id),
    ((announcedAt 0).1, .message (announcedAt 0).2 id),
    ((announcedAt 1).1, .message (announcedAt 1).2 id), (.calm (.fromSecs 1), .decision)]

/-- The third clock is heard at 100 s, with the given interval. -/
def thirdHeard (interval : Int8) : PortInput :=
  .general ⟨(defaultClock 3).identity, ⟨1⟩⟩
    (.announce ⟨⟨0⟩, ⟨interval⟩, defaultClock 3, .ptp⟩) (.fromSecs 100)

def firstParent : ParentPortIdentity := ⟨⟨(defaultClock 1).identity, ⟨1⟩⟩⟩

/-- An Announce without an interval keeps the port with a parent that was last heard 99 s ago, and
postpones the receipt timeout. -/
theorem deadParent_followed :
    ∃ (start : OrdinaryNode ℚ ForeignClockRecordsVec) (w : NodeTrace ℚ ForeignClockRecordsVec)
      (l : List (Effect ℚ)) (w₁ : NodeTrace ℚ ForeignClockRecordsVec) (l₁ : List (Effect ℚ))
      (p : ParentTrackingPort ℚ ForeignClockRecordsVec),
      OrdinaryNode.new (defaultClock 2) ⟨0⟩ .default ForeignClockRecordsVec.new = .ok (some start) ∧
      (NodeTrace.run ⟨start, [], []⟩ followed).Returns w l ∧ w.Tracks firstParent ∧
      Silent w.history firstParent.parentPortIdentity (.fromSecs 100) ∧
      (w.step (.calm (.fromSecs 100), .message (thirdHeard 127) id)).Returns w₁ l₁ ∧
      w₁.outstanding = [] ∧ w₁.HasPort (.uncalibrated p) ∧
      p.bmca.parentPortIdentity = firstParent ∧
      p.announceReceiptTimeout.timeout.deadline = some (.fromSecs 105) := by
  refine ⟨_, _, _, _, _, _, rfl, rfl, ⟨_, rfl, rfl⟩, ?_, rfl, rfl, rfl, rfl, rfl⟩
  intro a ha
  cases ha
  decide

/-- With an interval of one second the port leaves the silent parent. -/
theorem deadParent_dropped_third :
    ∃ (start : OrdinaryNode ℚ ForeignClockRecordsVec) (w : NodeTrace ℚ ForeignClockRecordsVec)
      (l : List (Effect ℚ)) (w₁ : NodeTrace ℚ ForeignClockRecordsVec) (l₁ : List (Effect ℚ))
      (w₂ : NodeTrace ℚ ForeignClockRecordsVec) (l₂ : List (Effect ℚ)),
      OrdinaryNode.new (defaultClock 2) ⟨0⟩ .default ForeignClockRecordsVec.new = .ok (some start) ∧
      (NodeTrace.run ⟨start, [], []⟩ followed).Returns w l ∧ w.Tracks firstParent ∧
      Silent w.history firstParent.parentPortIdentity (.fromSecs 100) ∧
      (w.step (.calm (.fromSecs 100), .message (thirdHeard 0) id)).Returns w₁ l₁ ∧
      w₁.outstanding = [⟨defaultClock 2, .empty⟩] ∧
      (w₁.run ([Env.calm (.fromSecs 100)].map fun env => (env, .decision))).Returns w₂ l₂ ∧
      ¬ w₂.Tracks firstParent := by
  have hrun : ∃ (start : OrdinaryNode ℚ ForeignClockRecordsVec)
      (w : NodeTrace ℚ ForeignClockRecordsVec) (l : List (Effect ℚ))
      (w₁ : NodeTrace ℚ ForeignClockRecordsVec) (l₁ : List (Effect ℚ))
      (w₂ : NodeTrace ℚ ForeignClockRecordsVec) (l₂ : List (Effect ℚ)),
      OrdinaryNode.new (defaultClock 2) ⟨0⟩ .default ForeignClockRecordsVec.new = .ok (some start) ∧
      (NodeTrace.run ⟨start, [], []⟩ followed).Returns w l ∧ w.Tracks firstParent ∧
      Silent w.history firstParent.parentPortIdentity (.fromSecs 100) ∧
      (w.step (.calm (.fromSecs 100), .message (thirdHeard 0) id)).Returns w₁ l₁ ∧
      w₁.outstanding = [⟨defaultClock 2, .empty⟩] ∧
      (w₁.run ([Env.calm (.fromSecs 100)].map fun env => (env, .decision))).Returns w₂ l₂ := by
    refine ⟨_, _, _, _, _, _, _, rfl, rfl, ⟨_, rfl, rfl⟩, ?_, rfl, rfl, rfl⟩
    intro a ha
    cases ha
    decide
  obtain ⟨start, w, l, w₁, l₁, w₂, l₂, hnew, hbefore, htracks, hsilent, hstep, houtstanding, hafter⟩ :=
    hrun
  have hlength : [Env.calm (.fromSecs 100)].length = w₁.outstanding.length := by
    rw [houtstanding]
    rfl
  have hsupported : (⟨0⟩ : LogMessageInterval).Supported := by
    unfold LogMessageInterval.Supported
    decide
  exact ⟨start, w, l, w₁, l₁, w₂, l₂, hnew, hbefore, htracks, hsilent, hstep, houtstanding, hafter,
    (deadParent_dropped rfl hnew hbefore htracks hsilent hstep hlength hafter).1 hsupported⟩

end Silence

end Rptp
