import Rptp.Port.Environment
import Rptp.Time.Arithmetic

/-! # The end-to-end delay mechanism

The mechanism keeps the latest fragment of each kind: Sync, FollowUp, DelayReq egress and DelayResp.
A sample joins the latest Sync exchange with the latest delay exchange.
-/

namespace Rptp

open Machine

/-- A window of one message. -/
structure MessageWindow (M : Type) where
  current : Option M

namespace MessageWindow

variable {M N T : Type}

def new : MessageWindow M := ⟨none⟩

def record (_ : MessageWindow M) (msg : M) : MessageWindow M := ⟨some msg⟩

def combineLatest (w : MessageWindow M) (other : MessageWindow N)
    (combine : M → N → Checked (Option T)) : Checked (Option T) :=
  match w.current, other.current with
  | some m, some n => combine m n
  | _, _ => pure none

end MessageWindow

/-- A one-step Sync stays in front until a two-step Sync clears it. -/
structure SyncExchange where
  oneStepSync : Option (OneStepSyncMessage × TimeStamp)
  twoStepSyncWindow : MessageWindow (TwoStepSyncMessage × TimeStamp)
  followUpWindow : MessageWindow FollowUpMessage

namespace SyncExchange

def new : SyncExchange := ⟨none, .new, .new⟩

def recordOneStepSync (e : SyncExchange) (sync : OneStepSyncMessage) (timestamp : TimeStamp) :
    SyncExchange :=
  { e with oneStepSync := some (sync, timestamp) }

def recordTwoStepSync (e : SyncExchange) (sync : TwoStepSyncMessage) (timestamp : TimeStamp) :
    SyncExchange :=
  { e with oneStepSync := none, twoStepSyncWindow := e.twoStepSyncWindow.record (sync, timestamp) }

def recordFollowUp (e : SyncExchange) (followUp : FollowUpMessage) : SyncExchange :=
  { e with followUpWindow := e.followUpWindow.record followUp }

def masterSlaveOffset (e : SyncExchange) : Checked (Option TimeInterval) :=
  match e.oneStepSync with
  | some (sync, ts) => some <$> sync.masterSlaveOffset ts
  | none => e.followUpWindow.combineLatest e.twoStepSyncWindow fun followUp (sync, ts) =>
      followUp.masterSlaveOffset sync ts

end SyncExchange

structure DelayExchange where
  delayRequestWindow : MessageWindow (DelayRequestMessage × TimeStamp)
  delayResponseWindow : MessageWindow DelayResponseMessage

namespace DelayExchange

def new : DelayExchange := ⟨.new, .new⟩

def recordDelayRequest (e : DelayExchange) (req : DelayRequestMessage) (timestamp : TimeStamp) :
    DelayExchange :=
  { e with delayRequestWindow := e.delayRequestWindow.record (req, timestamp) }

def recordDelayResponse (e : DelayExchange) (resp : DelayResponseMessage) : DelayExchange :=
  { e with delayResponseWindow := e.delayResponseWindow.record resp }

def slaveMasterOffset (e : DelayExchange) : Checked (Option TimeInterval) :=
  e.delayResponseWindow.combineLatest e.delayRequestWindow fun resp (req, ts) =>
    resp.slaveMasterOffset req ts

end DelayExchange

/-- The DelayReq cadence. -/
structure DelayCycle where
  sequenceId : SequenceId
  timeout : Timeout
  logInterval : LogInterval

namespace DelayCycle

def next (env : Env) (c : DelayCycle) : DelayCycle :=
  { c with
    timeout := c.timeout.restart env c.logInterval.duration
    sequenceId := c.sequenceId.next }

def delayRequest (c : DelayCycle) : DelayRequestMessage := ⟨c.sequenceId⟩

end DelayCycle

structure EndToEndDelayMechanism where
  delayCycle : DelayCycle
  syncExchange : SyncExchange
  delayExchange : DelayExchange
  syncIngressTimestamp : Option TimeStamp

namespace EndToEndDelayMechanism

def new (delayCycle : DelayCycle) : EndToEndDelayMechanism := ⟨delayCycle, .new, .new, none⟩

/-- The next DelayReq. The cycle advances before the message is sent. -/
def delayRequest (env : Env) (m : EndToEndDelayMechanism) :
    EndToEndDelayMechanism × DelayRequestMessage :=
  ({ m with delayCycle := m.delayCycle.next env }, m.delayCycle.delayRequest)

def recordOneStepSync (m : EndToEndDelayMechanism) (sync : OneStepSyncMessage)
    (timestamp : TimeStamp) : EndToEndDelayMechanism :=
  { m with
    syncExchange := m.syncExchange.recordOneStepSync sync timestamp
    syncIngressTimestamp := some timestamp }

def recordTwoStepSync (m : EndToEndDelayMechanism) (sync : TwoStepSyncMessage)
    (timestamp : TimeStamp) : EndToEndDelayMechanism :=
  { m with
    syncExchange := m.syncExchange.recordTwoStepSync sync timestamp
    syncIngressTimestamp := some timestamp }

def recordFollowUp (m : EndToEndDelayMechanism) (followUp : FollowUpMessage) :
    EndToEndDelayMechanism :=
  { m with syncExchange := m.syncExchange.recordFollowUp followUp }

def recordDelayRequest (m : EndToEndDelayMechanism) (req : DelayRequestMessage)
    (timestamp : TimeStamp) : EndToEndDelayMechanism :=
  { m with delayExchange := m.delayExchange.recordDelayRequest req timestamp }

def recordDelayResponse (m : EndToEndDelayMechanism) (resp : DelayResponseMessage) :
    EndToEndDelayMechanism :=
  { m with delayExchange := m.delayExchange.recordDelayResponse resp }

/-- Half of the difference of the two offsets, at the ingress of the latest Sync. -/
def sample (m : EndToEndDelayMechanism) : Checked (Option ServoSample) := do
  match ← m.syncExchange.masterSlaveOffset with
  | none => pure none
  | some msOffset =>
    match ← m.delayExchange.slaveMasterOffset with
    | none => pure none
    | some smOffset =>
      match m.syncIngressTimestamp with
      | some syncIngress => do
        let offsetFromMaster ← (← msOffset.sub smOffset).half
        pure (some ⟨syncIngress, offsetFromMaster⟩)
      | none => pure none

end EndToEndDelayMechanism

section Exactness

/-- A difference of timestamps, if there are two. -/
def differenceOf : Option (TimeStamp × TimeStamp) → Checked (Option TimeInterval)
  | some (t, u) => some <$> t.sub u
  | none => pure none

theorem differenceOf_some (t u : TimeStamp) :
    ∃ d, differenceOf (some (t, u)) = .ok (some d) ∧ d.ns = t.ns - u.ns := by
  obtain ⟨d, hd, hns⟩ := t.sub_spec u
  exact ⟨d, by rw [differenceOf, hd]; rfl, hns⟩

/-- The ingress and the origin of the Sync that a sample is taken from. -/
def SyncExchange.times (e : SyncExchange) : Option (TimeStamp × TimeStamp) :=
  match e.oneStepSync, e.followUpWindow.current, e.twoStepSyncWindow.current with
  | some (sync, ts), _, _ => some (ts, sync.originTimestamp)
  | none, some followUp, some (sync, ts) =>
    if followUp.sequenceId = sync.sequenceId then some (ts, followUp.preciseOriginTimestamp) else none
  | _, _, _ => none

/-- The receipt and the egress of the DelayReq that a sample is taken from. -/
def DelayExchange.times (e : DelayExchange) : Option (TimeStamp × TimeStamp) :=
  match e.delayResponseWindow.current, e.delayRequestWindow.current with
  | some resp, some (req, ts) =>
    if resp.sequenceId = req.sequenceId then some (resp.receiveTimestamp, ts) else none
  | _, _ => none

theorem SyncExchange.masterSlaveOffset_eq (e : SyncExchange) :
    e.masterSlaveOffset = differenceOf e.times := by
  obtain ⟨oneStep, ⟨twoStep⟩, ⟨followUp⟩⟩ := e
  cases oneStep with
  | some sync => rfl
  | none =>
    cases followUp with
    | none => rfl
    | some followUp =>
      cases twoStep with
      | none => rfl
      | some sync =>
        simp only [masterSlaveOffset, MessageWindow.combineLatest, times,
          FollowUpMessage.masterSlaveOffset]
        split_ifs
        · rfl
        · rfl

theorem DelayExchange.slaveMasterOffset_eq (e : DelayExchange) :
    e.slaveMasterOffset = differenceOf e.times := by
  obtain ⟨⟨request⟩, ⟨response⟩⟩ := e
  cases response with
  | none => rfl
  | some response =>
    cases request with
    | none => rfl
    | some request =>
      simp only [slaveMasterOffset, MessageWindow.combineLatest, times,
        DelayResponseMessage.slaveMasterOffset]
      split_ifs
      · rfl
      · rfl

/-- The sample is half of the exact difference of the two offsets, truncated towards zero. -/
structure EndToEndDelayMechanism.Measures (m : EndToEndDelayMechanism) (s : ServoSample)
    (ingress origin receipt egress : TimeStamp) : Prop where
  sync : m.syncExchange.times = some (ingress, origin)
  delay : m.delayExchange.times = some (receipt, egress)
  taken : m.syncIngressTimestamp = some s.ingress
  offset : s.offset.ns = ((ingress.ns - origin.ns) - (receipt.ns - egress.ns)).tdiv 2

/-- Sampling returns, and a sample is as exact as its timestamps. There is none only when a
timestamp is missing. -/
theorem EndToEndDelayMechanism.sample_spec (m : EndToEndDelayMechanism) :
    (m.sample = .ok none ∧ (m.syncExchange.times = none ∨ m.delayExchange.times = none ∨
      m.syncIngressTimestamp = none)) ∨
      ∃ s t₂ t₁ t₄ t₃, m.sample = .ok (some s) ∧ m.Measures s t₂ t₁ t₄ t₃ := by
  rw [sample, SyncExchange.masterSlaveOffset_eq]
  cases hsync : m.syncExchange.times with
  | none => exact .inl ⟨rfl, .inl rfl⟩
  | some sync =>
    obtain ⟨t₂, t₁⟩ := sync
    obtain ⟨ms, hms, hmsns⟩ := differenceOf_some t₂ t₁
    rw [hms, Checked.ok_bind]
    dsimp only
    rw [DelayExchange.slaveMasterOffset_eq]
    cases hdelay : m.delayExchange.times with
    | none => exact .inl ⟨rfl, .inr (.inl rfl)⟩
    | some delay =>
      obtain ⟨t₄, t₃⟩ := delay
      obtain ⟨sm, hsm, hsmns⟩ := differenceOf_some t₄ t₃
      rw [hsm, Checked.ok_bind]
      cases hingress : m.syncIngressTimestamp with
      | none => exact .inl ⟨rfl, .inr (.inr rfl)⟩
      | some ingress =>
        obtain ⟨d, hd, hdns⟩ := TimeInterval.sub_spec
          ((TimeStamp.sub_within hmsns).mono (by norm_num))
          ((TimeStamp.sub_within hsmns).mono (by norm_num))
        obtain ⟨half, hhalf, hhalfns⟩ := d.half_spec
        refine .inr ⟨⟨ingress, half⟩, t₂, t₁, t₄, t₃, ?_, hsync, hdelay, hingress, ?_⟩
        · simp only [hd, Checked.ok_bind, hhalf, Checked.pure_eq]
        · rw [hhalfns, hdns, hmsns, hsmns]

theorem EndToEndDelayMechanism.sample_of_times {m : EndToEndDelayMechanism}
    {t₂ t₁ t₄ t₃ ingress : TimeStamp} (hsync : m.syncExchange.times = some (t₂, t₁))
    (hdelay : m.delayExchange.times = some (t₄, t₃))
    (hingress : m.syncIngressTimestamp = some ingress) :
    ∃ a, m.sample = .ok (some a) ∧ a.ingress = ingress ∧
      a.offset.ns = ((t₂.ns - t₁.ns) - (t₄.ns - t₃.ns)).tdiv 2 := by
  rcases m.sample_spec with ⟨-, hmissing⟩ | ⟨a, u₂, u₁, u₄, u₃, ha, hmeasures⟩
  · simp [hsync, hdelay, hingress] at hmissing
  · have hsync' := hmeasures.sync
    have hdelay' := hmeasures.delay
    have htaken := hmeasures.taken
    rw [hsync] at hsync'
    rw [hdelay] at hdelay'
    rw [hingress] at htaken
    cases hsync'
    cases hdelay'
    exact ⟨a, ha, (Option.some.inj htaken).symm, hmeasures.offset⟩

end Exactness

end Rptp
