import Rptp.Port.SyncOnce

/-! # A FollowUp that overtakes its Sync

The delay mechanism takes the two messages of a two-step exchange in either order, and its sample is
the same. The port takes a sample only on the FollowUp. When the Sync arrives last, the pair is
complete but nobody looks at it.
-/

namespace Rptp

open Machine

variable {F R : Type}

/-- A two-step Sync with its ingress timestamp, and the FollowUp of the same exchange. -/
structure SyncPair where
  sync : TwoStepSyncMessage
  ingress : TimeStamp
  followUp : FollowUpMessage
  paired : followUp.sequenceId = sync.sequenceId

namespace SyncPair

def syncInput (pair : SyncPair) (source : PortIdentity) : PortInput :=
  .event source (.twoStepSync pair.sync) pair.ingress

def followUpInput (pair : SyncPair) (source : PortIdentity) (now : Instant) : PortInput :=
  .general source (.followUp pair.followUp) now

/-- The pair as it was sent, with the environments in which its messages are processed. -/
def inOrder (pair : SyncPair) (source : PortIdentity) (env env' : Env) (now : Instant) :
    List (Env × PortInput) :=
  [(env, pair.syncInput source), (env', pair.followUpInput source now)]

/-- No stored two-step Sync has the sequence identifier of the pair. -/
def Fresh (pair : SyncPair) (m : EndToEndDelayMechanism) : Prop :=
  ∀ sync ts, m.syncExchange.twoStepSyncWindow.current = some (sync, ts) →
    sync.sequenceId ≠ pair.sync.sequenceId

theorem fresh_of_empty (pair : SyncPair) {m : EndToEndDelayMechanism}
    (h : m.syncExchange.twoStepSyncWindow.current = none) : pair.Fresh m := by
  intro sync ts hstored
  rw [h] at hstored
  cases hstored

/-- The offset of the pair in a delay exchange. -/
def offset (pair : SyncPair) (receipt egress : TimeStamp) : ℤ :=
  ((pair.ingress.ns - pair.followUp.preciseOriginTimestamp.ns) - (receipt.ns - egress.ns)).tdiv 2

/-- A one-step Sync is stored that measures what the pair measures, at the same ingress. -/
def Repeats (pair : SyncPair) (m : EndToEndDelayMechanism) (receipt egress : TimeStamp) : Prop :=
  m.syncIngressTimestamp = some pair.ingress ∧ ∃ sync ts, m.syncExchange.oneStepSync = some (sync, ts) ∧
    ((ts.ns - sync.originTimestamp.ns) - (receipt.ns - egress.ns)).tdiv 2 = pair.offset receipt egress

/-- The mechanism with both messages of the pair. -/
def recorded (pair : SyncPair) (m : EndToEndDelayMechanism) : EndToEndDelayMechanism :=
  (m.recordTwoStepSync pair.sync pair.ingress).recordFollowUp pair.followUp

theorem recorded_sample (pair : SyncPair) {m : EndToEndDelayMechanism} {receipt egress : TimeStamp}
    (hdelay : m.delayExchange.times = some (receipt, egress)) :
    ∃ a, (pair.recorded m).sample = .ok (some a) ∧ a.ingress = pair.ingress ∧
      a.offset.ns = pair.offset receipt egress := by
  have hsync : (pair.recorded m).syncExchange.times =
      some (pair.ingress, pair.followUp.preciseOriginTimestamp) := by
    change (if pair.followUp.sequenceId = pair.sync.sequenceId then _ else none) = _
    rw [if_pos pair.paired]
  exact EndToEndDelayMechanism.sample_of_times hsync hdelay rfl

/-- The FollowUp of a fresh pair completes nothing but a stored one-step Sync. -/
theorem Fresh.followUp_sample {pair : SyncPair} {m : EndToEndDelayMechanism}
    {receipt egress : TimeStamp} (hfresh : pair.Fresh m)
    (hdelay : m.delayExchange.times = some (receipt, egress)) :
    ((m.recordFollowUp pair.followUp).sample = .ok none ∧ ¬ pair.Repeats m receipt egress) ∨
      ∃ b, (m.recordFollowUp pair.followUp).sample = .ok (some b) ∧
        (b.ingress = pair.ingress ∧ b.offset.ns = pair.offset receipt egress ↔
          pair.Repeats m receipt egress) := by
  cases hone : m.syncExchange.oneStepSync with
  | none =>
    left
    constructor
    · have htimes : (m.recordFollowUp pair.followUp).syncExchange.times = none := by
        cases htwo : m.syncExchange.twoStepSyncWindow.current with
        | none =>
          simp [EndToEndDelayMechanism.recordFollowUp, SyncExchange.recordFollowUp,
            MessageWindow.record, SyncExchange.times, hone, htwo]
        | some stored =>
          obtain ⟨sync, ts⟩ := stored
          have hne := hfresh sync ts htwo
          rw [← pair.paired] at hne
          simp [EndToEndDelayMechanism.recordFollowUp, SyncExchange.recordFollowUp,
            MessageWindow.record, SyncExchange.times, hone, htwo, hne.symm]
      rcases (m.recordFollowUp pair.followUp).sample_spec with ⟨h, -⟩ | ⟨a, t₂, t₁, t₄, t₃, -, h⟩
      · exact h
      · rw [h.sync] at htimes
        cases htimes
    · rintro ⟨-, sync, ts, hsync, -⟩
      rw [hone] at hsync
      cases hsync
  | some stored =>
    obtain ⟨sync, ts⟩ := stored
    have htimes : (m.recordFollowUp pair.followUp).syncExchange.times =
        some (ts, sync.originTimestamp) := by
      simp [EndToEndDelayMechanism.recordFollowUp, SyncExchange.recordFollowUp, SyncExchange.times,
        hone]
    cases hingress : m.syncIngressTimestamp with
    | none =>
      left
      constructor
      · rcases (m.recordFollowUp pair.followUp).sample_spec with ⟨h, -⟩ | ⟨a, t₂, t₁, t₄, t₃, -, h⟩
        · exact h
        · exact absurd (hingress.symm.trans h.taken) (by simp)
      · rintro ⟨htaken, -⟩
        rw [hingress] at htaken
        cases htaken
    | some ingress =>
      right
      obtain ⟨b, hb, hbingress, hboffset⟩ :=
        EndToEndDelayMechanism.sample_of_times (m := m.recordFollowUp pair.followUp) htimes hdelay hingress
      refine ⟨b, hb, ?_⟩
      rw [hbingress, hboffset]
      constructor
      · rintro ⟨rfl, hoffset⟩
        exact ⟨hingress, sync, ts, hone, hoffset⟩
      · rintro ⟨htaken, sync', ts', hone', hoffset⟩
        rw [hingress] at htaken
        rw [hone] at hone'
        cases htaken
        cases hone'
        exact ⟨rfl, hoffset⟩

end SyncPair

/-- The state in which a port is left by the answer of its servo. -/
def TrackingRole.after [F64 F] (env : Env) (p : ParentTrackingPort F R) :
    TrackingRole → ServoState → PortState F R
  | slave, .locked => .slave p
  | slave, _ => .uncalibrated p
  | uncalibrated, .locked => p.profile.slave env p.port p.bmca p.delayMechanism p.servo
  | uncalibrated, _ => .uncalibrated p

section Steps

variable [F64 F] [ForeignClockRecords R]

namespace TrackingRole

theorem step_twoStepSync (k : TrackingRole) {p : ParentTrackingPort F R} {source : PortIdentity}
    (hparent : p.bmca.matchesParent source = true) (env : Env) (sync : TwoStepSyncMessage)
    (ts : TimeStamp) : (k.state p).step env (.event source (.twoStepSync sync) ts) =
      pure (k.state { p with delayMechanism := p.delayMechanism.recordTwoStepSync sync ts }) := by
  rw [PortState.step, k.dispatch_state, ParentTrackingPort.handle,
    ParentTrackingPort.processTwoStepSync, if_pos hparent]
  rfl

theorem step_followUp_unfed (k : TrackingRole) {p : ParentTrackingPort F R} {source : PortIdentity}
    (hparent : p.bmca.matchesParent source = true) {followUp : FollowUpMessage}
    (hsample : (p.delayMechanism.recordFollowUp followUp).sample = .ok none) (env : Env)
    (now : Instant) : (k.state p).step env (.general source (.followUp followUp) now) =
      pure (k.state { p with delayMechanism := p.delayMechanism.recordFollowUp followUp }) := by
  rw [PortState.step, k.dispatch_state, ParentTrackingPort.handle,
    ParentTrackingPort.processFollowUp, if_pos hparent, ParentTrackingPort.feedServo, hsample]
  rfl

theorem step_followUp_fed (k : TrackingRole) {p : ParentTrackingPort F R} {source : PortIdentity}
    (hparent : p.bmca.matchesParent source = true) {followUp : FollowUpMessage} {a : ServoSample}
    (hsample : (p.delayMechanism.recordFollowUp followUp).sample = .ok (some a)) (env : Env)
    (now : Instant) : (k.state p).step env (.general source (.followUp followUp) now) = (do
      Act.emit (.servoFeed a)
      let r ← p.servo.feed a
      pure (k.after env { p with
        delayMechanism := p.delayMechanism.recordFollowUp followUp, servo := r.1 } r.2)) := by
  rw [PortState.step, k.dispatch_state, ParentTrackingPort.handle,
    ParentTrackingPort.processFollowUp, if_pos hparent, ParentTrackingPort.feedServo, hsample,
    Act.lift_ok, pure_bind]
  simp only [bind_assoc, pure_bind]
  congr 1
  funext _
  congr 1
  funext r
  obtain ⟨servo, state⟩ := r
  cases k <;> cases state <;> rfl

/-- The Sync may as well be recorded before the servo has answered. -/
theorem after_step_twoStepSync (k : TrackingRole) {p : ParentTrackingPort F R}
    {source : PortIdentity} (hparent : p.bmca.matchesParent source = true) (env env' : Env)
    (state : ServoState) (sync : TwoStepSyncMessage) (ts : TimeStamp) :
    (k.after env p state).step env' (.event source (.twoStepSync sync) ts) =
      pure (k.after env
        { p with delayMechanism := p.delayMechanism.recordTwoStepSync sync ts } state) := by
  cases k with
  | slave =>
    cases state with
    | locked => exact step_twoStepSync .slave hparent env' sync ts
    | unlocked => exact step_twoStepSync .uncalibrated hparent env' sync ts
    | calibrating => exact step_twoStepSync .uncalibrated hparent env' sync ts
  | uncalibrated =>
    cases state with
    | locked =>
      exact step_twoStepSync .slave hparent env' sync ts
        (p := { p with announceReceiptTimeout := p.profile.armedReceiptTimeout env p.port })
    | unlocked => exact step_twoStepSync .uncalibrated hparent env' sync ts
    | calibrating => exact step_twoStepSync .uncalibrated hparent env' sync ts

end TrackingRole

variable {k : TrackingRole} {p : ParentTrackingPort F R} {source : PortIdentity}

/-- In the order of sending, the port feeds the sample of the pair. -/
theorem SyncPair.inOrder_run (pair : SyncPair) (hparent : p.bmca.matchesParent source = true)
    {a : ServoSample} (ha : (pair.recorded p.delayMechanism).sample = .ok (some a)) (env env' : Env)
    (now : Instant) : (k.state p).run (pair.inOrder source env env' now) = (do
      Act.emit (.servoFeed a)
      let r ← p.servo.feed a
      pure (k.after env' { p with
        delayMechanism := pair.recorded p.delayMechanism, servo := r.1 } r.2)) := by
  rw [PortState.run, SyncPair.inOrder, Act.runAll_cons, SyncPair.syncInput,
    k.step_twoStepSync hparent, pure_bind, Act.runAll_cons, SyncPair.followUpInput]
  rw [k.step_followUp_fed (p := { p with
    delayMechanism := p.delayMechanism.recordTwoStepSync pair.sync pair.ingress }) hparent ha]
  simp only [bind_assoc, pure_bind]
  rfl

/-- In the other order, the port feeds what the FollowUp completes without its Sync. -/
theorem SyncPair.reverse_run (pair : SyncPair) (hparent : p.bmca.matchesParent source = true)
    {b : ServoSample} (hb : (p.delayMechanism.recordFollowUp pair.followUp).sample = .ok (some b))
    (env env' : Env) (now : Instant) :
    (k.state p).run (pair.inOrder source env env' now).reverse = (do
      Act.emit (.servoFeed b)
      let r ← p.servo.feed b
      pure (k.after env' { p with
        delayMechanism := pair.recorded p.delayMechanism, servo := r.1 } r.2)) := by
  change Act.runAll _ _ [(env', pair.followUpInput source now), (env, pair.syncInput source)] = _
  rw [Act.runAll_cons, SyncPair.followUpInput, k.step_followUp_fed hparent hb]
  simp only [bind_assoc, pure_bind]
  congr 1
  funext _
  congr 1
  funext r
  rw [Act.runAll_cons, SyncPair.syncInput, k.after_step_twoStepSync (p := { p with
    delayMechanism := p.delayMechanism.recordFollowUp pair.followUp, servo := r.1 }) hparent, pure_bind]
  rfl

theorem SyncPair.reverse_run_unfed (pair : SyncPair) (hparent : p.bmca.matchesParent source = true)
    (hb : (p.delayMechanism.recordFollowUp pair.followUp).sample = .ok none) (env env' : Env)
    (now : Instant) : (k.state p).run (pair.inOrder source env env' now).reverse =
      pure (k.state { p with delayMechanism := pair.recorded p.delayMechanism }) := by
  change Act.runAll _ _ [(env', pair.followUpInput source now), (env, pair.syncInput source)] = _
  rw [Act.runAll_cons, SyncPair.followUpInput, k.step_followUp_unfed hparent hb, pure_bind,
    Act.runAll_cons, SyncPair.syncInput]
  rw [k.step_twoStepSync (p := { p with
    delayMechanism := p.delayMechanism.recordFollowUp pair.followUp }) hparent, pure_bind]
  rfl

end Steps

section Order

variable [F64 F] [ForeignClockRecords R]

/-- Sync and FollowUp of one exchange have the same effect in both orders exactly when the FollowUp
alone repeats the measurement, which takes a one-step Sync with the same ingress and offset. -/
theorem syncPair_reordered_iff (k : TrackingRole) (p : ParentTrackingPort F R) (source : PortIdentity)
    (pair : SyncPair) (receipt egress : TimeStamp) (env env' : Env) (now : Instant)
    (s s' : PortState F R) (l l' : List (Effect F))
    (hparent : p.bmca.matchesParent source = true)
    (hdelay : p.delayMechanism.delayExchange.times = some (receipt, egress))
    (hfresh : pair.Fresh p.delayMechanism)
    (h : ((k.state p).run (pair.inOrder source env env' now)).Returns s l)
    (h' : ((k.state p).run (pair.inOrder source env env' now).reverse).Returns s' l') :
    l = l' ∧ s = s' ↔ pair.Repeats p.delayMechanism receipt egress := by
  obtain ⟨a, ha, hingress, hoffset⟩ := pair.recorded_sample hdelay
  rw [pair.inOrder_run hparent ha] at h
  rcases hfresh.followUp_sample hdelay with ⟨hnone, hrepeats⟩ | ⟨b, hb, hrepeats⟩
  · rw [pair.reverse_run_unfed hparent hnone] at h'
    obtain ⟨-, rfl⟩ := Act.returns_pure.mp h'
    constructor
    · rintro ⟨rfl, -⟩
      obtain ⟨rest, -, hlog⟩ := Act.returns_emit_bind.mp h
      cases hlog
    · intro hpair
      exact absurd hpair hrepeats
  · rw [pair.reverse_run hparent hb] at h'
    rw [← hrepeats]
    constructor
    · rintro ⟨rfl, -⟩
      obtain ⟨rest, -, hlog⟩ := Act.returns_emit_bind.mp h
      obtain ⟨rest', -, hlog'⟩ := Act.returns_emit_bind.mp h'
      rw [hlog] at hlog'
      cases hlog'
      exact ⟨hingress, hoffset⟩
    · rintro ⟨hbingress, hboffset⟩
      have hsame : b.offset = a.offset := TimeInterval.ns_injective (hboffset.trans hoffset.symm)
      obtain rfl : b = a := by
        cases a
        cases b
        exact congrArg₂ ServoSample.mk (hbingress.trans hingress.symm) hsame
      obtain ⟨hs, hl⟩ := h.unique h'
      exact ⟨hl, hs⟩

end Order

theorem TwoStepSyncMessage.followUp_sequenceId (m : TwoStepSyncMessage) (origin : TimeStamp) :
    (m.followUp origin).sequenceId = m.sequenceId := rfl

/-- A two-step exchange of the first clock at 11 s. -/
def pairAtEleven : SyncPair :=
  ⟨⟨⟨7⟩, ⟨0⟩⟩, stampOf 11, TwoStepSyncMessage.followUp ⟨⟨7⟩, ⟨0⟩⟩ (stampOf 11),
    TwoStepSyncMessage.followUp_sequenceId _ _⟩

/-- Its messages arrive at 2 s and 3 s. -/
def eleventhInputs : List (Env × PortInput) :=
  pairAtEleven.inOrder ⟨(defaultClock 1).identity, ⟨1⟩⟩ (.calm (.fromSecs 2)) (.calm (.fromSecs 3))
    (.fromSecs 3)

/-- After a delay exchange, the port feeds the pair to its servo and becomes slave. If the FollowUp
comes first, nothing is fed and the port stays uncalibrated. -/
theorem syncPair_overtaken :
    ∃ (p : ParentTrackingPort ℚ ForeignClockRecordsVec) (l₀ l l' : List (Effect ℚ))
      (s s' : PortState ℚ ForeignClockRecordsVec),
      (trackingPort.run (delayInputs ++ [responseTo (defaultClock 2) (stampOf 10)])).Returns
        (TrackingRole.uncalibrated.state p) l₀ ∧
      p.delayMechanism.delayExchange.times = some (stampOf 10, stampOf 10) ∧
      pairAtEleven.Fresh p.delayMechanism ∧
      ((TrackingRole.uncalibrated.state p).run eleventhInputs).Returns s l ∧
      ((TrackingRole.uncalibrated.state p).run eleventhInputs.reverse).Returns s' l' ∧
      (feeds l).length = 1 ∧ feeds l' = [] ∧
      s.role = .slave ⟨⟨(defaultClock 1).identity, ⟨1⟩⟩⟩ ∧
      s'.role = .uncalibrated ⟨⟨(defaultClock 1).identity, ⟨1⟩⟩⟩ :=
  ⟨_, _, _, _, _, _, rfl, rfl, pairAtEleven.fresh_of_empty rfl, rfl, rfl, rfl, rfl, rfl, rfl⟩

/-- A one-step Sync at 11 s has been measured before, so that both orders feed its sample again. -/
theorem syncPair_reordered_repeated :
    ∃ (p : ParentTrackingPort ℚ ForeignClockRecordsVec) (l₀ l l' : List (Effect ℚ))
      (s s' : PortState ℚ ForeignClockRecordsVec),
      (trackingPort.run (delayInputs ++ [responseTo (defaultClock 2) (stampOf 10), syncInput])).Returns
        (TrackingRole.slave.state p) l₀ ∧
      pairAtEleven.Repeats p.delayMechanism (stampOf 10) (stampOf 10) ∧
      ((TrackingRole.slave.state p).run eleventhInputs).Returns s l ∧
      ((TrackingRole.slave.state p).run eleventhInputs.reverse).Returns s' l' ∧ l = l' ∧ s = s' := by
  have hrun : ∃ (p : ParentTrackingPort ℚ ForeignClockRecordsVec) (l₀ l l' : List (Effect ℚ))
      (s s' : PortState ℚ ForeignClockRecordsVec),
      (trackingPort.run (delayInputs ++ [responseTo (defaultClock 2) (stampOf 10), syncInput])).Returns
        (TrackingRole.slave.state p) l₀ ∧
      p.bmca.matchesParent ⟨(defaultClock 1).identity, ⟨1⟩⟩ = true ∧
      p.delayMechanism.delayExchange.times = some (stampOf 10, stampOf 10) ∧
      pairAtEleven.Fresh p.delayMechanism ∧
      pairAtEleven.Repeats p.delayMechanism (stampOf 10) (stampOf 10) ∧
      ((TrackingRole.slave.state p).run eleventhInputs).Returns s l ∧
      ((TrackingRole.slave.state p).run eleventhInputs.reverse).Returns s' l' :=
    ⟨_, _, _, _, _, _, rfl, rfl, rfl, pairAtEleven.fresh_of_empty rfl, ⟨rfl, _, _, rfl, rfl⟩,
      rfl, rfl⟩
  obtain ⟨p, l₀, l, l', s, s', hrun, hparent, hdelay, hfresh, hrepeats, h, h'⟩ := hrun
  refine ⟨p, l₀, l, l', s, s', hrun, hrepeats, h, h', ?_⟩
  exact (syncPair_reordered_iff .slave p _ pairAtEleven (stampOf 10) (stampOf 10) _ _ _ s s' l l'
    hparent hdelay hfresh h h').mpr hrepeats

end Rptp
