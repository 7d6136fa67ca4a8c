import Rptp.Port.Multicast
import Rptp.Port.Timers

/-! # The deadline of a silent parent

A port that tracks a parent restarts its announce receipt timeout on every Announce, and it gets a
new one when it selects a parent. A slave that loses lock keeps the running timeout. An uncalibrated
port whose servo locks replaces it.
-/

namespace Rptp

open Machine

variable {F R : Type}

/-- The later of two instants, as far as there are any. -/
def laterOf : Option Instant → Option Instant → Option Instant
  | some t, some u => some (if t.nanos ≤ u.nanos then u else t)
  | some t, none => some t
  | none, u => u

theorem le_laterOf_left (t : Instant) (u : Option Instant) :
    ∃ v, laterOf (some t) u = some v ∧ t.nanos ≤ v.nanos := by
  cases u with
  | none => exact ⟨t, rfl, le_rfl⟩
  | some u =>
    refine ⟨_, rfl, ?_⟩
    split_ifs with h
    · exact h
    · exact le_rfl

theorem le_laterOf_right (t : Option Instant) (u : Instant) :
    ∃ v, laterOf t (some u) = some v ∧ u.nanos ≤ v.nanos := by
  cases t with
  | none => exact ⟨u, rfl, le_rfl⟩
  | some t =>
    refine ⟨_, rfl, ?_⟩
    split_ifs with h
    · exact le_rfl
    · omega

theorem Instant.saturatingAdd_le_iff (now t : Instant) (d : Duration) :
    (now.saturatingAdd d).nanos ≤ t.nanos + d.nanos ↔
      now.nanos ≤ t.nanos ∨ 2 ^ 64 - 1 ≤ t.nanos + d.nanos := by
  change min (now.nanos + d.nanos) (2 ^ 64 - 1) ≤ t.nanos + d.nanos ↔ _
  rw [min_le_iff]
  omega

section Locks

variable [F64 F]

/-- The port is uncalibrated and the message completes a sample on which its servo locks. -/
def PortState.Locks (s : PortState F R) (input : PortInput) : Prop :=
  ∃ p, s = .uncalibrated p ∧ input.Samples p.bmca.parentPortIdentity ∧
    ∃ sample, (p.record input).sample = .ok (some sample) ∧
      ∃ servo l, (p.servo.feed sample).Returns (servo, .locked) l

/-- A servo that locks is what makes an uncalibrated port select its master. -/
theorem ParentTrackingPort.feedServo_locks {p p' : ParentTrackingPort F R} {source : PortIdentity}
    {d : Option StateDecision} {l : List (Effect F)}
    (h : (p.feedServo (UncalibratedPort.react source)).Returns (p', d) l) :
    (∃ parent, d = some (.masterClockSelected parent)) ↔
      ∃ sample, p.delayMechanism.sample = .ok (some sample) ∧
        ∃ servo l, (p.servo.feed sample).Returns (servo, .locked) l := by
  rw [feedServo, Act.returns_lift_bind] at h
  obtain ⟨taken, htaken, h⟩ := h
  cases taken with
  | none =>
    obtain ⟨heq, -⟩ := Act.returns_pure.mp h
    cases heq
    constructor
    · rintro ⟨parent, hd⟩
      cases hd
    · rintro ⟨sample, hsample, -⟩
      rw [htaken] at hsample
      cases hsample
  | some a =>
    obtain ⟨l', hfeed, -⟩ := Act.returns_emit_bind.mp h
    obtain ⟨⟨servo, state⟩, hservo, heq⟩ := Act.returns_bind_pure.mp hfeed
    cases heq
    constructor
    · rintro ⟨parent, hd⟩
      cases state with
      | locked => exact ⟨a, htaken, servo, l', hservo⟩
      | unlocked => cases hd
      | calibrating => cases hd
    · rintro ⟨sample, hsample, servo', l'', hlocked⟩
      rw [htaken] at hsample
      cases hsample
      obtain ⟨heq, -⟩ := hservo.unique hlocked
      cases heq
      exact ⟨⟨source⟩, rfl⟩

variable [ForeignClockRecords R]

theorem ParentTrackingPort.handle_locks {k : TrackingRole} {env : Env} {p p' : ParentTrackingPort F R}
    {input : PortInput} {d : Option StateDecision} {l : List (Effect F)}
    (h : (p.handle k.react env input).Returns (p', d) l) :
    (∃ parent, d = some (.masterClockSelected parent)) ↔ (k.state p).Locks input := by
  have neither : (∀ parent, d ≠ some (.masterClockSelected parent)) →
      ¬ input.Samples p.bmca.parentPortIdentity →
      ((∃ parent, d = some (.masterClockSelected parent)) ↔ (k.state p).Locks input) := by
    intro hd hsample
    constructor
    · rintro ⟨parent, heq⟩
      exact absurd heq (hd parent)
    · rintro ⟨q, hq, hsamples, -⟩
      cases k with
      | slave => cases hq
      | uncalibrated =>
        cases hq
        exact absurd hsamples hsample
  cases handle_cases h with
  | recorded _ hsample => exact neither (by simp) hsample
  | announced => exact neither (by simp) id
  | @requested result _ _ =>
    refine neither (fun parent => ?_) id
    cases result <;> simp [PortState.sendDecision]
  | expired => exact neither (by simp) id
  | @decided snapshot _ _ hdecided =>
    refine neither (fun parent heq => ?_) id
    obtain ⟨e, decision, -, -, hevent⟩ := stateDecisionEvent_eq (F := F) p.bmca snapshot
    rw [hevent] at hdecided
    cases hdecided
    obtain ⟨gated, -, hgated⟩ := Option.map_eq_some_iff.mp heq
    cases gated <;> cases hgated
  | @sampled _ source _ _ _ hin _ hfed =>
    cases k with
    | slave =>
      obtain ⟨-, hd⟩ := feedServo_returns hfed
      constructor
      · rintro ⟨parent, rfl⟩
        rcases hd with hd | ⟨state, hd⟩
        · cases hd
        · cases state <;> cases hd
      · rintro ⟨q, hq, -⟩
        cases hq
    | uncalibrated =>
      rw [feedServo_locks hfed]
      constructor
      · rintro ⟨sample, hsample, hlocked⟩
        exact ⟨p, rfl, hin, sample, hsample, hlocked⟩
      · rintro ⟨q, hq, -, sample, hsample, hlocked⟩
        cases hq
        exact ⟨sample, hsample, hlocked⟩

theorem dispatch_locks {env : Env} {s s' : PortState F R} {input : PortInput}
    {d : Option StateDecision} {l : List (Effect F)}
    (h : (s.dispatch env input).Returns (s', d) l) :
    (∃ parent, d = some (.masterClockSelected parent)) ↔ s.Locks input := by
  rcases s.tracking_cases with ⟨k, p, rfl⟩ | huntracked
  · obtain ⟨p', -, hp'⟩ := TrackingRole.dispatch_returns h
    exact ParentTrackingPort.handle_locks hp'
  · constructor
    · rintro ⟨parent, rfl⟩
      have hanswer := (dispatch_returns h).answer
      generalize hsome : some (StateDecision.masterClockSelected parent) = d at hanswer
      cases hanswer with
      | locked _ hrole => exact absurd (by rw [hrole]; rfl) (huntracked _)
      | decided =>
        obtain ⟨gated, -, hgated⟩ := Option.map_eq_some_iff.mp hsome.symm
        cases gated <;> cases hgated
      | quiet => cases hsome
      | expired => cases hsome
      | initialized => cases hsome
      | qualified => cases hsome
      | faultCleared => cases hsome
      | sendFailed => cases hsome
      | unlocked => cases hsome
    · rintro ⟨p, rfl, -⟩
      exact absurd rfl (huntracked p.bmca.parentPortIdentity)

end Locks

section Receipt

variable [F64 F] [ForeignClockRecords R]

/-- A port that tracks a parent restarts its receipt timeout on an Announce and on nothing else. -/
theorem ParentTrackingPort.handle_receipt
    {react : PortIdentity → ServoState → Option StateDecision} {env : Env}
    {p p' : ParentTrackingPort F R} {input : PortInput} {d : Option StateDecision}
    {l : List (Effect F)} (h : (p.handle react env input).Returns (p', d) l) :
    (input.IsAnnounce ∧ d = none ∧
      p'.announceReceiptTimeout = p.announceReceiptTimeout.restart env) ∨
    (¬ input.IsAnnounce ∧ p'.announceReceiptTimeout = p.announceReceiptTimeout) := by
  by_cases hannounce : input.IsAnnounce
  · left
    obtain ⟨source, msg, now, rfl⟩ := hannounce.eq
    obtain ⟨q, hq, hret⟩ := Act.returns_bind_pure.mp h
    cases hret
    obtain ⟨bmca, -, rfl⟩ := Act.returns_bind_pure.mp hq
    exact ⟨hannounce, rfl, rfl⟩
  · right
    refine ⟨hannounce, ?_⟩
    cases handle_cases h with
    | recorded => rfl
    | sampled _ _ hfed =>
      obtain ⟨⟨servo, rfl⟩, -⟩ := feedServo_returns hfed
      rfl
    | announced => exact absurd trivial hannounce
    | requested => rfl
    | expired => rfl
    | decided => rfl

/-- A transition keeps the receipt timeout of a slave that loses lock. Every other transition to a
state that tracks a parent starts a new one. -/
theorem apply_receipt {env : Env} {s s' : PortState F R} {d : StateDecision} {l : List (Effect F)}
    (h : (s.apply env d).Returns s' l) {p' : ParentTrackingPort F R} (hp : s'.tracking = some p') :
    (((∃ parent, d = .recommendedSlave parent) ∨ ∃ parent, d = .masterClockSelected parent) ∧
      p'.announceReceiptTimeout =
        s.handover.profile.armedReceiptTimeout env s.handover.port) ∨
    (d = .synchronizationFault ∧ ∃ p, s.tracking = some p ∧
      p'.announceReceiptTimeout = p.announceReceiptTimeout) := by
  rcases apply_entered h hp with ⟨parent, rfl, rfl⟩ | ⟨parent, p, rfl, rfl, rfl⟩ | ⟨rfl, rfl⟩
  · cases hp
    exact .inl ⟨.inl ⟨parent, rfl⟩, rfl⟩
  · exact .inl ⟨.inr ⟨parent, rfl⟩, rfl⟩
  · exact .inr ⟨rfl, p', rfl, rfl⟩

end Receipt

/-- A port with the instants from which its announce receipt interval counts. -/
structure WatchedPort (F R : Type) where
  port : PortState F R
  announced : Option Instant
  selected : Option Instant

/-- The instant of the last Announce. -/
def PortInput.lastAnnounced (now : Instant) (last : Option Instant) : PortInput → Option Instant
  | .general _ (.announce _) _ => some now
  | _ => last

theorem PortInput.lastAnnounced_of_announce {input : PortInput} (h : input.IsAnnounce) (now : Instant)
    (last : Option Instant) : input.lastAnnounced now last = some now := by
  obtain ⟨source, msg, time, rfl⟩ := h.eq
  rfl

theorem PortInput.lastAnnounced_of_not {input : PortInput} (h : ¬ input.IsAnnounce) (now : Instant)
    (last : Option Instant) : input.lastAnnounced now last = last := by
  unfold lastAnnounced
  split
  · exact absurd trivial h
  · rfl

theorem PortInput.Samples.not_isAnnounce {parent : ParentPortIdentity} {input : PortInput}
    (h : input.Samples parent) : ¬ input.IsAnnounce := by
  intro hannounce
  obtain ⟨source, msg, now, rfl⟩ := hannounce.eq
  exact h

/-- The instant of the last decision to track a parent. -/
def StateDecision.lastSelected (now : Instant) (last : Option Instant) :
    Option StateDecision → Option Instant
  | some (.recommendedSlave _) => some now
  | _ => last

namespace WatchedPort

def start (s : PortState F R) : WatchedPort F R := ⟨s, none, none⟩

/-- The later of the last Announce and the last selection of a parent. -/
def since (w : WatchedPort F R) : Option Instant := laterOf w.announced w.selected

/-- The receipt timeout of a port that tracks a parent ends within the interval. -/
def Timely (interval : Duration) (w : WatchedPort F R) : Prop :=
  ∀ p, w.port.tracking = some p → ∀ deadline, p.announceReceiptTimeout.timeout.deadline = some deadline →
    ∃ t, w.since = some t ∧ deadline.nanos ≤ t.nanos + interval.nanos

/-- A timeout that is restarted now ends within the interval as well: nothing has been postponed, or
the interval reaches to the end of time. -/
def Prompt (interval : Duration) (w : WatchedPort F R) (now : Instant) : Prop :=
  ∃ t, w.since = some t ∧ (now.nanos ≤ t.nanos ∨ 2 ^ 64 - 1 ≤ t.nanos + interval.nanos)

/-- The profile is the one the port was created with, and so is the interval of the timeout. -/
structure Configured (profile : PortProfile F) (w : WatchedPort F R) : Prop where
  unchanged : w.port.handover.profile = profile
  interval : ∀ p, w.port.tracking = some p →
    p.announceReceiptTimeout.interval = profile.announceReceiptTimeoutInterval

variable [F64 F] [ForeignClockRecords R]

/-- The second half of a step. -/
def conclude (env : Env) (s : PortState F R) :
    Option StateDecision → Act (Effect F) (PortState F R)
  | some decision => s.apply env decision
  | none => pure s

def step (w : WatchedPort F R) (i : Env × PortInput) : Act (Effect F) (WatchedPort F R) := do
  let (s, decision) ← w.port.dispatch i.1 i.2
  let port ← conclude i.1 s decision
  pure ⟨port, i.2.lastAnnounced i.1.now w.announced,
    StateDecision.lastSelected i.1.now w.selected decision⟩

def run (w : WatchedPort F R) (inputs : List (Env × PortInput)) : Act (Effect F) (WatchedPort F R) :=
  Act.runAll step w inputs

theorem step_of_port {w : WatchedPort F R} {i : Env × PortInput} {s' : PortState F R}
    {l : List (Effect F)} (h : (w.port.step i.1 i.2).Returns s' l) :
    ∃ w', (w.step i).Returns w' l ∧ w'.port = s' := by
  obtain ⟨⟨s, d⟩, l₁, l₂, hd, hrest, rfl⟩ := Act.returns_bind.mp h
  have hconclude : (conclude i.1 s d).Returns s' l₂ := by
    cases d with
    | none => exact hrest
    | some x => exact hrest
  exact ⟨_, Act.returns_bind.mpr ⟨(s, d), l₁, l₂, hd,
    Act.returns_bind_pure.mpr ⟨s', hconclude, rfl⟩, rfl⟩, rfl⟩

theorem run_of_port {w : WatchedPort F R} {inputs : List (Env × PortInput)} {s' : PortState F R}
    {l : List (Effect F)} (h : (w.port.run inputs).Returns s' l) :
    ∃ w', (w.run inputs).Returns w' l ∧ w'.port = s' := by
  rw [← List.map_id inputs] at h
  exact Act.runAll_ghost (fun w : WatchedPort F R => w.port) id
    (fun w i s' l hs => step_of_port hs) h

theorem step_returns {w w' : WatchedPort F R} {i : Env × PortInput} {l : List (Effect F)}
    (h : (w.step i).Returns w' l) :
    ∃ s d l₁ l₂, (w.port.dispatch i.1 i.2).Returns (s, d) l₁ ∧
      (conclude i.1 s d).Returns w'.port l₂ ∧
      w'.announced = i.2.lastAnnounced i.1.now w.announced ∧
      w'.selected = StateDecision.lastSelected i.1.now w.selected d := by
  obtain ⟨⟨s, d⟩, l₁, l₂, hd, hrest, -⟩ := Act.returns_bind.mp h
  obtain ⟨port, hport, rfl⟩ := Act.returns_bind_pure.mp hrest
  exact ⟨s, d, l₁, l₂, hd, hport, rfl, rfl⟩

/-- The port after a watched step that tracks a parent: its timeout is as before, or it has been
restarted on an Announce or on a selection, or the servo has locked. -/
theorem step_receipt {w w' : WatchedPort F R} {i : Env × PortInput} {l : List (Effect F)}
    (h : (w.step i).Returns w' l) {p' : ParentTrackingPort F R} (hp : w'.port.tracking = some p') :
    (¬ w.port.Locks i.2 ∧ w'.since = w.since ∧ ∃ p, w.port.tracking = some p ∧
      p'.announceReceiptTimeout = p.announceReceiptTimeout) ∨
    (¬ w.port.Locks i.2 ∧ (∃ t, w'.since = some t ∧ i.1.now.nanos ≤ t.nanos) ∧
      ((∃ p, w.port.tracking = some p ∧
          p'.announceReceiptTimeout = p.announceReceiptTimeout.restart i.1) ∨
        p'.announceReceiptTimeout =
          w.port.handover.profile.armedReceiptTimeout i.1 w.port.handover.port)) ∨
    (w.port.Locks i.2 ∧ w'.since = w.since ∧ p'.announceReceiptTimeout =
      w.port.handover.profile.armedReceiptTimeout i.1 w.port.handover.port) := by
  obtain ⟨s, d, l₁, l₂, hd, hconclude, hannounced, hselected⟩ := step_returns h
  have hlocks := dispatch_locks hd
  have hframe := (dispatch_returns hd).frame
  have hport : s.handover.port = w.port.handover.port := congrArg PortFrame.port hframe
  have hprofile : s.handover.profile = w.port.handover.profile := congrArg PortFrame.profile hframe
  have hsince : ¬ i.2.IsAnnounce → w'.selected = w.selected → w'.since = w.since := by
    intro hnot hsame
    rw [since, hannounced, PortInput.lastAnnounced_of_not hnot, hsame]
    rfl
  cases d with
  | none =>
    obtain ⟨heq, -⟩ := Act.returns_pure.mp hconclude
    rw [heq] at hp
    obtain ⟨k, p, hwp, hhandle⟩ := dispatch_tracking hd hp
    have hnot : ¬ w.port.Locks i.2 := by
      intro hlock
      obtain ⟨parent, hsome⟩ := hlocks.mpr hlock
      cases hsome
    rcases ParentTrackingPort.handle_receipt hhandle with ⟨hann, -, hrestart⟩ | ⟨hann, hsame⟩
    · refine .inr (.inl ⟨hnot, ?_, .inl ⟨p, hwp, hrestart⟩⟩)
      rw [since, hannounced, PortInput.lastAnnounced_of_announce hann]
      exact le_laterOf_left _ _
    · exact .inl ⟨hnot, hsince hann hselected, p, hwp, hsame⟩
  | some x =>
    rcases apply_receipt hconclude hp with ⟨hnew, harmed⟩ | ⟨rfl, q, hq, hsame⟩
    · rw [hport, hprofile] at harmed
      rcases hnew with ⟨parent, rfl⟩ | ⟨parent, rfl⟩
      · refine .inr (.inl ⟨fun hlock => ?_, ?_, .inr harmed⟩)
        · obtain ⟨parent', hsome⟩ := hlocks.mpr hlock
          cases hsome
        · rw [since, hselected]
          exact le_laterOf_right _ _
      · have hlock := hlocks.mp ⟨parent, rfl⟩
        have hann : ¬ i.2.IsAnnounce := by
          obtain ⟨p, -, hsamples, -⟩ := hlock
          exact hsamples.not_isAnnounce
        exact .inr (.inr ⟨hlock, hsince hann hselected, harmed⟩)
    · obtain ⟨k, p, hwp, hhandle⟩ := dispatch_tracking hd hq
      have hnot : ¬ w.port.Locks i.2 := by
        intro hlock
        obtain ⟨parent, hsome⟩ := hlocks.mpr hlock
        cases hsome
      rcases ParentTrackingPort.handle_receipt hhandle with ⟨-, hnone, -⟩ | ⟨hann, hkept⟩
      · cases hnone
      · exact .inl ⟨hnot, hsince hann hselected, p, hwp, hsame.trans hkept⟩

theorem step_locks {w w' : WatchedPort F R} {i : Env × PortInput} {l : List (Effect F)}
    (h : (w.step i).Returns w' l) (hlocks : w.port.Locks i.2) :
    ∃ p', w'.port.tracking = some p' := by
  obtain ⟨s, d, l₁, l₂, hd, hconclude, -, -⟩ := step_returns h
  obtain ⟨parent, rfl⟩ := (dispatch_locks hd).mpr hlocks
  cases s
  case uncalibrated p =>
    obtain ⟨heq, -⟩ := Act.returns_pure.mp hconclude
    rw [heq]
    exact ⟨_, rfl⟩
  all_goals exact absurd hconclude Act.returns_abort

theorem Configured.step {profile : PortProfile F} {w w' : WatchedPort F R} {i : Env × PortInput}
    {l : List (Effect F)} (hw : w.Configured profile) (h : (w.step i).Returns w' l) :
    w'.Configured profile := by
  constructor
  · obtain ⟨s, d, l₁, l₂, hd, hconclude, -, -⟩ := step_returns h
    have hframe := (dispatch_returns hd).frame
    have hmoved : w'.port.frame = s.frame := by
      cases d with
      | none => rw [(Act.returns_pure.mp hconclude).1]
      | some x =>
        obtain ⟨r, -, hm⟩ := apply_returns hconclude
        exact hm.frame
    rw [← hw.unchanged]
    exact congrArg PortFrame.profile (hmoved.trans hframe)
  · intro p' hp
    rcases step_receipt h hp with ⟨-, -, p, hwp, hsame⟩ | ⟨-, -, ⟨p, hwp, hsame⟩ | hnew⟩ | ⟨-, -, hnew⟩
    · rw [hsame]
      exact hw.interval p hwp
    · rw [hsame]
      exact hw.interval p hwp
    · rw [hnew, hw.unchanged]
      rfl
    · rw [hnew, hw.unchanged]
      rfl

theorem restarted_within {env : Env} {timeout : Timeout} {interval : Duration} {t : Instant}
    (h : env.now.nanos ≤ t.nanos) {deadline : Instant}
    (hd : (timeout.restart env interval).deadline = some deadline) :
    deadline.nanos ≤ t.nanos + interval.nanos := by
  cases hd
  exact (Instant.saturatingAdd_le_iff env.now t interval).mpr (.inl h)

/-- A step keeps the deadline exactly when a servo that locks does so in time. -/
theorem step_timely {profile : PortProfile F} {w w' : WatchedPort F R} {i : Env × PortInput}
    {l : List (Effect F)} (hw : w.Configured profile)
    (htimely : w.Timely profile.announceReceiptTimeoutInterval) (h : (w.step i).Returns w' l) :
    w'.Timely profile.announceReceiptTimeoutInterval ↔
      (w.port.Locks i.2 → w.Prompt profile.announceReceiptTimeoutInterval i.1.now) := by
  by_cases hlocks : w.port.Locks i.2
  · obtain ⟨p', hp⟩ := step_locks h hlocks
    rcases step_receipt h hp with ⟨hnot, -⟩ | ⟨hnot, -⟩ | ⟨-, hsince, hnew⟩
    · exact absurd hlocks hnot
    · exact absurd hlocks hnot
    · rw [hw.unchanged] at hnew
      have hdeadline : p'.announceReceiptTimeout.timeout.deadline =
          some (i.1.now.saturatingAdd profile.announceReceiptTimeoutInterval) := by
        rw [hnew]
        rfl
      constructor
      · intro htimely' _
        obtain ⟨t, ht, hle⟩ := htimely' p' hp _ hdeadline
        rw [hsince] at ht
        exact ⟨t, ht, (Instant.saturatingAdd_le_iff _ _ _).mp hle⟩
      · intro hprompt q hq deadline hd
        rw [hp] at hq
        cases hq
        rw [hdeadline] at hd
        cases hd
        obtain ⟨t, ht, hle⟩ := hprompt hlocks
        exact ⟨t, hsince.trans ht, (Instant.saturatingAdd_le_iff _ _ _).mpr hle⟩
  · refine ⟨fun _ hlock => absurd hlock hlocks, fun _ p' hp deadline hd => ?_⟩
    rcases step_receipt h hp with ⟨-, hsince, p, hwp, hsame⟩ | ⟨-, ⟨t, ht, hle⟩, hrestart⟩ | ⟨hlock, -⟩
    · rw [hsame] at hd
      rw [hsince]
      exact htimely p hwp deadline hd
    · refine ⟨t, ht, ?_⟩
      rcases hrestart with ⟨p, hwp, hsame⟩ | hnew
      · rw [hsame, AnnounceReceiptTimeout.restart, hw.interval p hwp] at hd
        exact restarted_within hle hd
      · rw [hnew, hw.unchanged] at hd
        exact restarted_within hle hd
    · exact absurd hlock hlocks

end WatchedPort

/-- In every run of a port, the receipt timeout of the parent that it tracks ends within the interval
after the last Announce or the selection of the parent in every state that is reached, exactly when
no servo locks later than that. -/
theorem receiptDeadline_iff [F64 F] [ForeignClockRecords R] (profile : PortProfile F)
    (port : DomainPort) (parts : BmcaParts R) (inputs : List (Env × PortInput)) (s : PortState F R)
    (l : List (Effect F)) (h : ((profile.initializing port parts).run inputs).Returns s l) :
    ∃ w, ((WatchedPort.start (profile.initializing port parts)).run inputs).Returns w l ∧ w.port = s ∧
      (Act.Along WatchedPort.step (fun w i => ∀ w' l', (w.step i).Returns w' l' →
          w'.Timely profile.announceReceiptTimeoutInterval)
          (.start (profile.initializing port parts)) inputs ↔
        Act.Along WatchedPort.step (fun w i => w.port.Locks i.2 →
          w.Prompt profile.announceReceiptTimeoutInterval i.1.now)
          (.start (profile.initializing port parts)) inputs) := by
  obtain ⟨w, hrun, hw⟩ := WatchedPort.run_of_port (w := .start (profile.initializing port parts)) h
  refine ⟨w, hrun, hw, ?_⟩
  apply Act.along_reaches_iff (Q := WatchedPort.Configured profile)
    (fun _ _ _ _ hw hs => hw.step hs) (fun _ _ _ _ hw ht hs => WatchedPort.step_timely hw ht hs) _ _ hrun
  · refine ⟨rfl, fun p hp => ?_⟩
    cases hp
  · intro p hp
    cases hp

/-- A port of the second clock selects the first at 2 s, measures the delay and receives a one-step
Sync. -/
def lockInputs (locked : Instant) : List (Env × PortInput) :=
  [(.calm (.fromSecs 0), .system .initialized),
    (.calm (.fromSecs 2), .system (.stateDecisionEvent heardSnapshot))] ++ delayInputs ++
    [responseTo (defaultClock 2) (stampOf 10), (.calm locked, syncInput.2)]

/-- The servo locks at 4 s. The receipt timeout of 5 s, running since 2 s, now ends at 9 s. -/
theorem receiptDeadline_postponed :
    ∃ (w : WatchedPort ℚ ForeignClockRecordsVec) (l : List (Effect ℚ))
      (p : ParentTrackingPort ℚ ForeignClockRecordsVec),
      ((WatchedPort.start (PortProfile.default.initializing
        ⟨⟨(defaultClock 2).identity, ⟨1⟩⟩, ⟨0⟩⟩ secondParts)).run (lockInputs (.fromSecs 4))).Returns w l ∧
      w.port = .slave p ∧ w.announced = none ∧ w.selected = some (.fromSecs 2) ∧
      p.announceReceiptTimeout.timeout.deadline = some (.fromSecs 9) ∧
      ¬ w.Timely (PortProfile.default (F := ℚ)).announceReceiptTimeoutInterval := by
  have hrun : ∃ (w : WatchedPort ℚ ForeignClockRecordsVec) (l : List (Effect ℚ))
      (p : ParentTrackingPort ℚ ForeignClockRecordsVec),
      ((WatchedPort.start (PortProfile.default.initializing
        ⟨⟨(defaultClock 2).identity, ⟨1⟩⟩, ⟨0⟩⟩ secondParts)).run (lockInputs (.fromSecs 4))).Returns w l ∧
      w.port = .slave p ∧ w.announced = none ∧ w.selected = some (.fromSecs 2) ∧
      p.announceReceiptTimeout.timeout.deadline = some (.fromSecs 9) :=
    ⟨_, _, _, rfl, rfl, rfl, rfl, rfl⟩
  obtain ⟨w, l, p, hrun, hport, hannounced, hselected, hdeadline⟩ := hrun
  refine ⟨w, l, p, hrun, hport, hannounced, hselected, hdeadline, fun htimely => ?_⟩
  obtain ⟨t, ht, hle⟩ := htimely p (by rw [hport]; rfl) _ hdeadline
  rw [WatchedPort.since, hannounced, hselected] at ht
  cases ht
  exact absurd hle (by decide)

/-- A servo that locks at 2 s postpones nothing. -/
theorem receiptDeadline_prompt :
    ∃ (s : PortState ℚ ForeignClockRecordsVec) (l : List (Effect ℚ)),
      ((PortProfile.default.initializing ⟨⟨(defaultClock 2).identity, ⟨1⟩⟩, ⟨0⟩⟩ secondParts).run
        (lockInputs (.fromSecs 2))).Returns s l ∧
      s.role = .slave ⟨⟨(defaultClock 1).identity, ⟨1⟩⟩⟩ ∧
      Act.Along WatchedPort.step (fun (w : WatchedPort ℚ ForeignClockRecordsVec) i =>
        ∀ w' l', (w.step i).Returns w' l' →
        w'.Timely (PortProfile.default (F := ℚ)).announceReceiptTimeoutInterval)
        (.start (PortProfile.default.initializing ⟨⟨(defaultClock 2).identity, ⟨1⟩⟩, ⟨0⟩⟩ secondParts))
        (lockInputs (.fromSecs 2)) := by
  have hrun : ∃ (s : PortState ℚ ForeignClockRecordsVec) (l : List (Effect ℚ)),
      ((PortProfile.default.initializing ⟨⟨(defaultClock 2).identity, ⟨1⟩⟩, ⟨0⟩⟩ secondParts).run
        (lockInputs (.fromSecs 2))).Returns s l ∧
      s.role = .slave ⟨⟨(defaultClock 1).identity, ⟨1⟩⟩⟩ := ⟨_, _, rfl, rfl⟩
  obtain ⟨s, l, hrun, hrole⟩ := hrun
  obtain ⟨w, -, -, hiff⟩ := receiptDeadline_iff PortProfile.default _ secondParts
    (lockInputs (.fromSecs 2)) s l hrun
  refine ⟨s, l, hrun, hrole, hiff.mpr ?_⟩
  -- Before the selection the port is not uncalibrated, and afterwards no time passes.
  have selected : ∀ {w : WatchedPort ℚ ForeignClockRecordsVec} {input : PortInput},
      w.since = some (.fromSecs 2) → (w.port.Locks input →
        w.Prompt (PortProfile.default (F := ℚ)).announceReceiptTimeoutInterval (.fromSecs 2)) :=
    fun hsince _ => ⟨_, hsince, .inl le_rfl⟩
  refine Act.along_cons rfl (by rintro ⟨p, hp, -⟩; cases hp) ?_
  refine Act.along_cons rfl (by rintro ⟨p, hp, -⟩; cases hp) ?_
  refine Act.along_cons rfl (selected rfl) ?_
  refine Act.along_cons rfl (selected rfl) ?_
  refine Act.along_cons rfl (selected rfl) ?_
  exact Act.along_cons rfl (selected rfl) trivial

end Rptp
