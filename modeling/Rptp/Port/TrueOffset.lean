import Rptp.Port.Coherence
import Rptp.Port.Fragments

/-! # Samples and the true offset of the local clock

A world is a port with its local clock, on a path with the same constant delay in both directions.
Time is the time of the master, in nanoseconds. The local clock runs at the rate of the master and
is changed by the steps of the servo only. A sample joins a Sync exchange with a delay exchange. If
the local clock was not stepped between the two, the sample carries the true offset, and its readings
of the local clock are all from before or all from after each step.
-/

namespace Rptp

open Machine

variable {F R : Type}

/-- The offset of the local clock from the master: at first, and after each step, the latest step in
front. A step is kept with its time. -/
structure LocalClock where
  initial : ℤ
  steps : List (ℤ × ℤ)

namespace LocalClock

/-- The offset at a time. A step changes what is read after it. -/
def offsetAt (c : LocalClock) (t : ℤ) : ℤ :=
  match c.steps.find? fun step => decide (step.1 < t) with
  | some step => step.2
  | none => c.initial

/-- A step sets the clock to the given timestamp. -/
def call (now : ℤ) (c : LocalClock) : Effect F → LocalClock
  | .step ts => { c with steps := (now, ts.ns - now) :: c.steps }
  | _ => c

def after (now : ℤ) (c : LocalClock) (calls : List (Effect F)) : LocalClock :=
  calls.foldl (call now) c

/-- Every step lies before both times or after both. -/
def Unstepped (c : LocalClock) (s t : ℤ) : Prop := ∀ step ∈ c.steps, step.1 < s ↔ step.1 < t

instance (c : LocalClock) (s t : ℤ) : Decidable (c.Unstepped s t) :=
  inferInstanceAs (Decidable (∀ step ∈ c.steps, step.1 < s ↔ step.1 < t))

theorem Unstepped.offsetAt_eq {c : LocalClock} {s t : ℤ} (h : c.Unstepped s t) :
    c.offsetAt s = c.offsetAt t := by
  have hfind : c.steps.find? (fun step => decide (step.1 < s)) =
      c.steps.find? fun step => decide (step.1 < t) :=
    List.find?_congr fun step hstep => decide_eq_decide.mpr (h step hstep)
  rw [offsetAt, offsetAt, hfind]

theorem offsetAt_call {c : LocalClock} {now t : ℤ} (h : t ≤ now) (e : Effect F) :
    (c.call now e).offsetAt t = c.offsetAt t := by
  cases e
  case step ts =>
    have hnot : ¬ now < t := by omega
    simp [call, offsetAt, hnot]
  all_goals rfl

theorem offsetAt_after {c : LocalClock} {now t : ℤ} (h : t ≤ now) (calls : List (Effect F)) :
    (c.after now calls).offsetAt t = c.offsetAt t := by
  induction calls generalizing c with
  | nil => rfl
  | cons e calls ih => exact (ih (c := c.call now e)).trans (offsetAt_call h e)

end LocalClock

/-- The times of the exchanges that the latest fragments belong to: the ingress of the Sync, the
ingress of the Sync that the FollowUp is for, the egress of the DelayReq, and the egress of the
DelayReq that the DelayResp is for. -/
structure Exchanges where
  sync : ℤ
  followUp : ℤ
  request : ℤ
  response : ℤ

/-- A message with the time at which the port processes it, and the time of the ingress or egress
that it is about. -/
structure Timed where
  env : Env
  input : PortInput
  now : ℤ
  taken : ℤ

/-- The exchanges after the port has recorded a fragment. -/
def Exchanges.record (g : Exchanges) (p : ParentTrackingPort F R) (i : Timed) : Exchanges :=
  match i.input with
  | .event source (.oneStepSync _) _ =>
    if p.bmca.matchesParent source then { g with sync := i.taken } else g
  | .event source (.twoStepSync _) _ =>
    if p.bmca.matchesParent source then { g with sync := i.taken } else g
  | .general source (.followUp _) _ =>
    if p.bmca.matchesParent source then { g with followUp := i.taken } else g
  | .general source (.delayResp _) _ =>
    if p.bmca.matchesParent source then { g with response := i.taken } else g
  | .system (.timestamp ⟨.delayReq _, _⟩) => { g with request := i.taken }
  | _ => g

structure World (F R : Type) where
  port : PortState F R
  clock : LocalClock
  exchanges : Exchanges
  now : ℤ

namespace World

def record (w : World F R) (i : Timed) : Exchanges :=
  match w.port.tracking with
  | some p => w.exchanges.record p i
  | none => w.exchanges

variable [F64 F] [ForeignClockRecords R]

def step (w : World F R) (i : Timed) : Act (Effect F) (World F R) := do
  let (port, calls) ← Act.observe (w.port.step i.env i.input)
  pure ⟨port, w.clock.after i.now calls, w.record i, i.now⟩

def run (w : World F R) (inputs : List Timed) : Act (Effect F) (World F R) :=
  Act.runAll step w inputs

theorem step_world {w w' : World F R} {i : Timed} {l : List (Effect F)}
    (h : (w.step i).Returns w' l) :
    (w.port.step i.env i.input).Returns w'.port l ∧ w'.clock = w.clock.after i.now l ∧
      w'.exchanges = w.record i ∧ w'.now = i.now := by
  obtain ⟨port, hstep, rfl⟩ := Act.returns_observe_pure.mp h
  exact ⟨hstep, rfl, rfl, rfl⟩

end World

/-- The timestamps that a message carries are those of the master and of the local clock, on a path
with the given delay. -/
def Stamped (delay : ℤ) (clock : LocalClock) (p : ParentTrackingPort F R) (i : Timed) : Prop :=
  match i.input with
  | .event source (.oneStepSync sync) ts => p.bmca.matchesParent source = true →
    ts.ns = i.taken + clock.offsetAt i.taken ∧ sync.originTimestamp.ns + delay = i.taken
  | .event source (.twoStepSync _) ts => p.bmca.matchesParent source = true →
    ts.ns = i.taken + clock.offsetAt i.taken
  | .general source (.followUp followUp) _ => p.bmca.matchesParent source = true →
    followUp.preciseOriginTimestamp.ns + delay = i.taken
  | .general source (.delayResp resp) _ => p.bmca.matchesParent source = true →
    resp.receiveTimestamp.ns = i.taken + delay
  | .system (.timestamp ⟨.delayReq _, ts⟩) => ts.ns = i.taken + clock.offsetAt i.taken
  | _ => True

/-- What the path and the clocks promise about the next message of a world. -/
structure Genuine (delay : ℤ) (w : World F R) (i : Timed) : Prop where
  order : w.now ≤ i.now
  past : i.taken ≤ i.now
  stamped : ∀ p, w.port.tracking = some p → Stamped delay w.clock p i

/-- A sample that the next message completes joins the halves of one Sync exchange and of one delay
exchange, and the local clock was not stepped between the egress of the DelayReq and the ingress of
the Sync. -/
def Joined (w : World F R) (i : Timed) : Prop :=
  ∀ p, w.port.tracking = some p → i.input.Samples p.bmca.parentPortIdentity →
    (p.record i.input).syncExchange.times.isSome → (p.record i.input).delayExchange.times.isSome →
    ((p.record i.input).syncExchange.oneStepSync = none →
      (w.exchanges.record p i).followUp = (w.exchanges.record p i).sync) ∧
    (w.exchanges.record p i).response = (w.exchanges.record p i).request ∧
    w.clock.Unstepped (w.exchanges.record p i).request (w.exchanges.record p i).sync

section Faithful

/-- The local clock showed the timestamp at a time. -/
def LocalClock.Showed (c : LocalClock) (t : ℤ) (ts : TimeStamp) : Prop := ts.ns = t + c.offsetAt t

/-- The fragments are those of the exchanges, all of the past. -/
structure Fragments.Faithful (delay : ℤ) (c : LocalClock) (g : Exchanges) (now : ℤ)
    (f : Fragments) : Prop where
  oneStep : ∀ sync ts, f.sync.oneStepSync = some (sync, ts) →
    g.sync ≤ now ∧ c.Showed g.sync ts ∧ f.ingress = some ts ∧
      sync.originTimestamp.ns + delay = g.sync
  twoStep : ∀ sync ts, f.sync.oneStepSync = none →
    f.sync.twoStepSyncWindow.current = some (sync, ts) →
    g.sync ≤ now ∧ c.Showed g.sync ts ∧ f.ingress = some ts
  followUp : ∀ msg, f.sync.followUpWindow.current = some msg →
    msg.preciseOriginTimestamp.ns + delay = g.followUp
  request : ∀ req ts, f.delay.delayRequestWindow.current = some (req, ts) →
    g.request ≤ now ∧ c.Showed g.request ts
  response : ∀ msg, f.delay.delayResponseWindow.current = some msg →
    msg.receiveTimestamp.ns = g.response + delay

namespace Fragments.Faithful

variable {delay now : ℤ} {c : LocalClock} {g : Exchanges} {f : Fragments}

theorem fresh (cycle : DelayCycle) :
    (EndToEndDelayMechanism.new cycle).fragments.Faithful delay c g now where
  oneStep _ _ h := nomatch h
  twoStep _ _ _ h := nomatch h
  followUp _ h := nomatch h
  request _ _ h := nomatch h
  response _ h := nomatch h

theorem later {now' : ℤ} (h : f.Faithful delay c g now) (hnow : now ≤ now') :
    f.Faithful delay c g now' where
  oneStep sync ts hs := ⟨(h.oneStep sync ts hs).1.trans hnow, (h.oneStep sync ts hs).2⟩
  twoStep sync ts hnone hs :=
    ⟨(h.twoStep sync ts hnone hs).1.trans hnow, (h.twoStep sync ts hnone hs).2⟩
  followUp := h.followUp
  request req ts hs := ⟨(h.request req ts hs).1.trans hnow, (h.request req ts hs).2⟩
  response := h.response

/-- A step of the local clock does not touch the fragments of the past. -/
theorem after (h : f.Faithful delay c g now) (calls : List (Effect F)) :
    f.Faithful delay (c.after now calls) g now := by
  have showed : ∀ {t : ℤ} {ts : TimeStamp}, t ≤ now → c.Showed t ts →
      (c.after now calls).Showed t ts := by
    intro t ts ht hs
    rw [LocalClock.Showed, LocalClock.offsetAt_after ht]
    exact hs
  constructor
  · intro sync ts hs
    obtain ⟨hpast, hshowed, hrest⟩ := h.oneStep sync ts hs
    exact ⟨hpast, showed hpast hshowed, hrest⟩
  · intro sync ts hnone hs
    obtain ⟨hpast, hshowed, hrest⟩ := h.twoStep sync ts hnone hs
    exact ⟨hpast, showed hpast hshowed, hrest⟩
  · exact h.followUp
  · intro req ts hs
    obtain ⟨hpast, hshowed⟩ := h.request req ts hs
    exact ⟨hpast, showed hpast hshowed⟩
  · exact h.response

end Fragments.Faithful

theorem record_faithful {delay : ℤ} {w : World F R} {i : Timed} {p : ParentTrackingPort F R}
    (hp : w.port.tracking = some p) (hi : Genuine delay w i)
    (h : p.delayMechanism.fragments.Faithful delay w.clock w.exchanges w.now) :
    (p.record i.input).fragments.Faithful delay w.clock (w.exchanges.record p i) i.now := by
  have hkept := h.later hi.order
  have hpast := hi.past
  have hstamped := hi.stamped p hp
  obtain ⟨env, input, now, taken⟩ := i
  cases input with
  | event source msg ts =>
    cases msg with
    | delayReq req => exact hkept
    | oneStepSync sync =>
      by_cases hparent : p.bmca.matchesParent source = true
      · obtain ⟨hshowed, horigin⟩ := hstamped hparent
        simp only [ParentTrackingPort.record, Exchanges.record, if_pos hparent]
        exact {
          oneStep := by rintro _ _ ⟨⟩; exact ⟨hpast, hshowed, rfl, horigin⟩
          twoStep := by rintro _ _ ⟨⟩
          followUp := hkept.followUp
          request := hkept.request
          response := hkept.response }
      · simp only [ParentTrackingPort.record, Exchanges.record, if_neg hparent]
        exact hkept
    | twoStepSync sync =>
      by_cases hparent : p.bmca.matchesParent source = true
      · have hshowed := hstamped hparent
        simp only [ParentTrackingPort.record, Exchanges.record, if_pos hparent]
        exact {
          oneStep := by rintro _ _ ⟨⟩
          twoStep := by rintro _ _ - ⟨⟩; exact ⟨hpast, hshowed, rfl⟩
          followUp := hkept.followUp
          request := hkept.request
          response := hkept.response }
      · simp only [ParentTrackingPort.record, Exchanges.record, if_neg hparent]
        exact hkept
  | general source msg received =>
    cases msg with
    | announce msg => exact hkept
    | followUp msg =>
      by_cases hparent : p.bmca.matchesParent source = true
      · have horigin := hstamped hparent
        simp only [ParentTrackingPort.record, Exchanges.record, if_pos hparent]
        exact { hkept with followUp := by rintro _ ⟨⟩; exact horigin }
      · simp only [ParentTrackingPort.record, Exchanges.record, if_neg hparent]
        exact hkept
    | delayResp msg =>
      by_cases hparent : p.bmca.matchesParent source = true
      · have hreceipt := hstamped hparent
        simp only [ParentTrackingPort.record, Exchanges.record, if_pos hparent]
        exact { hkept with response := by rintro _ ⟨⟩; exact hreceipt }
      · simp only [ParentTrackingPort.record, Exchanges.record, if_neg hparent]
        exact hkept
  | system msg =>
    cases msg
    case timestamp msg =>
      obtain ⟨msg, ts⟩ := msg
      cases msg with
      | delayReq req => exact { hkept with request := by rintro _ _ ⟨⟩; exact ⟨hpast, hstamped⟩ }
      | oneStepSync sync => exact hkept
      | twoStepSync sync => exact hkept
    all_goals exact hkept

/-- The port of the world stores what happened. -/
def World.Faithful (delay : ℤ) (w : World F R) : Prop :=
  ∀ p, w.port.tracking = some p →
    p.delayMechanism.fragments.Faithful delay w.clock w.exchanges w.now

/-- A port that measures nothing yet. -/
def World.Fresh (w : World F R) : Prop :=
  ∀ p, w.port.tracking = some p → ∃ cycle, p.delayMechanism = .new cycle

theorem World.Fresh.faithful {delay : ℤ} {w : World F R} (h : w.Fresh) : w.Faithful delay := by
  intro p hp
  obtain ⟨cycle, hcycle⟩ := h p hp
  rw [hcycle]
  exact .fresh cycle

end Faithful

section Samples

variable {delay now : ℤ} {f : Fragments} {c : LocalClock} {g : Exchanges}

/-- The Sync half of a sample: the ingress and the origin of one Sync. -/
theorem syncTimes_faithful {ingress origin : TimeStamp} (h : f.Faithful delay c g now)
    (hsame : f.sync.oneStepSync = none → g.followUp = g.sync)
    (htimes : f.sync.times = some (ingress, origin)) :
    c.Showed g.sync ingress ∧ origin.ns + delay = g.sync ∧ f.ingress = some ingress := by
  rw [SyncExchange.times] at htimes
  split at htimes
  case h_1 _ _ _ sync ts hone =>
    cases htimes
    obtain ⟨-, hshowed, hingress, horigin⟩ := h.oneStep sync _ hone
    exact ⟨hshowed, horigin, hingress⟩
  case h_2 followUp sync ts hone hfollowUp htwo =>
    split_ifs at htimes
    cases htimes
    obtain ⟨-, hshowed, hingress⟩ := h.twoStep sync _ hone htwo
    exact ⟨hshowed, (h.followUp followUp hfollowUp).trans (hsame hone), hingress⟩
  case h_3 => cases htimes

/-- The delay half of a sample: the receipt and the egress of one DelayReq. -/
theorem delayTimes_faithful {receipt egress : TimeStamp} (h : f.Faithful delay c g now)
    (hsame : g.response = g.request) (htimes : f.delay.times = some (receipt, egress)) :
    c.Showed g.request egress ∧ receipt.ns = g.request + delay := by
  rw [DelayExchange.times] at htimes
  split at htimes
  case h_1 resp req ts hresp hreq =>
    split_ifs at htimes
    cases htimes
    obtain ⟨-, hshowed⟩ := h.request req _ hreq
    exact ⟨hshowed, hsame ▸ h.response resp hresp⟩
  case h_2 => cases htimes

/-- A sample is measured with two readings of the local clock, at the ingress of a Sync and at the
egress of a DelayReq. The delay cancels: the sample is the mean of the offsets at the two. -/
structure Averages (m : EndToEndDelayMechanism) (c : LocalClock) (g : Exchanges)
    (sample : ServoSample) (origin receipt egress : TimeStamp) : Prop where
  measures : m.Measures sample sample.ingress origin receipt egress
  ingress : c.Showed g.sync sample.ingress
  egress : c.Showed g.request egress
  mean : sample.offset.ns = (c.offsetAt g.sync + c.offsetAt g.request).tdiv 2

theorem sample_averages {m : EndToEndDelayMechanism} {sample : ServoSample}
    {ingress origin receipt egress : TimeStamp} (h : m.fragments.Faithful delay c g now)
    (hsync : m.syncExchange.oneStepSync = none → g.followUp = g.sync)
    (hdelay : g.response = g.request) (hm : m.Measures sample ingress origin receipt egress) :
    Averages m c g sample origin receipt egress := by
  obtain ⟨hshowed, horigin, hingress⟩ := syncTimes_faithful h hsync hm.sync
  obtain ⟨hegress, hreceipt⟩ := delayTimes_faithful h hdelay hm.delay
  obtain rfl : sample.ingress = ingress := Option.some.inj (hm.taken.symm.trans hingress)
  refine ⟨hm, hshowed, hegress, ?_⟩
  rw [LocalClock.Showed] at hshowed hegress
  have hsum : (sample.ingress.ns - origin.ns) - (receipt.ns - egress.ns) =
      c.offsetAt g.sync + c.offsetAt g.request := by
    omega
  rw [hm.offset, hsum]

/-- Without a step between its readings a sample is the true offset. -/
theorem Averages.offset_eq {m : EndToEndDelayMechanism} {sample : ServoSample}
    {origin receipt egress : TimeStamp} (h : Averages m c g sample origin receipt egress)
    (hsteps : c.Unstepped g.request g.sync) : sample.offset.ns = c.offsetAt g.sync := by
  rw [h.mean, hsteps.offsetAt_eq, ← two_mul]
  exact Int.mul_tdiv_cancel_left _ two_ne_zero

theorem sample_joined {w : World F R} {i : Timed} {p : ParentTrackingPort F R}
    {sample : ServoSample} (hw : w.Faithful delay) (hi : Genuine delay w i) (hjoined : Joined w i)
    (hp : w.port.tracking = some p) (hsamples : i.input.Samples p.bmca.parentPortIdentity)
    (hsample : (p.record i.input).sample = .ok (some sample)) :
    ∃ origin receipt egress,
      Averages (p.record i.input) w.clock (w.exchanges.record p i) sample origin receipt egress ∧
      w.clock.Unstepped (w.exchanges.record p i).request (w.exchanges.record p i).sync := by
  obtain ⟨hnone, -⟩ | ⟨s, ingress, origin, receipt, egress, hs, hm⟩ := (p.record i.input).sample_spec
  · rw [hnone] at hsample
    cases hsample
  · obtain rfl : s = sample := Option.some.inj (Except.ok.inj (hs.symm.trans hsample))
    obtain ⟨hsync, hdelay, hsteps⟩ := hjoined p hp hsamples (by rw [hm.sync]; rfl)
      (by rw [hm.delay]; rfl)
    exact ⟨origin, receipt, egress,
      sample_averages (record_faithful hp hi (hw p hp)) hsync hdelay hm, hsteps⟩

end Samples

section Runs

variable [F64 F] [ForeignClockRecords R] {delay : ℤ} {w w' : World F R} {i : Timed}
  {l : List (Effect F)}

theorem step_faithful (hw : w.Faithful delay) (hi : Genuine delay w i)
    (h : (w.step i).Returns w' l) : w'.Faithful delay := by
  obtain ⟨hstep, hclock, hexchanges, hnow⟩ := World.step_world h
  intro p' hp'
  rcases (step_measured hstep).fragments p' hp' with ⟨cycle, hnew⟩ | ⟨p, hp, hfragments⟩
  · rw [hnew]
    exact .fresh cycle
  · have hrecord : w.record i = w.exchanges.record p i := by rw [World.record, hp]
    rw [hfragments, hclock, hexchanges, hnow, hrecord]
    exact (record_faithful hp hi (hw p hp)).after l

theorem run_faithful {inputs : List Timed} (hw : w.Faithful delay)
    (hin : Act.Along World.step (Genuine delay) w inputs) (h : (w.run inputs).Returns w' l) :
    w'.Faithful delay :=
  Act.runAll_invariant (fun _ _ _ _ hw hi hs => step_faithful hw hi hs) hw hin h

/-- In a run whose messages are genuine, and whose every sample joins halves that belong together
with no step of the local clock between them, each sample carries the true offset of the local clock
at its ingress, and no step of the local clock lies between the two readings that it is measured
with. -/
theorem samples_trueOffset (delay : ℤ) (w w' w'' : World F R) (before after : List Timed)
    (i : Timed) (l l' : List (Effect F)) (sample : ServoSample) (hfresh : w.Fresh)
    (hgenuine : Act.Along World.step (Genuine delay) w (before ++ i :: after))
    (hjoined : Act.Along World.step Joined w (before ++ i :: after))
    (hbefore : (w.run before).Returns w' l) (hstep : (w'.step i).Returns w'' l')
    (hfed : Effect.servoFeed sample ∈ l') :
    (w'.clock.Showed w''.exchanges.sync sample.ingress ∧
      sample.offset.ns = w'.clock.offsetAt w''.exchanges.sync) ∧
    ∃ p origin receipt egress, w'.port.tracking = some p ∧
      (p.record i.input).Measures sample sample.ingress origin receipt egress ∧
      w'.clock.Showed w''.exchanges.request egress ∧
      w'.clock.Unstepped w''.exchanges.request w''.exchanges.sync := by
  have hw' : w'.Faithful delay :=
    run_faithful hfresh.faithful (Act.along_left hgenuine) hbefore
  obtain ⟨hport, -, hexchanges, -⟩ := World.step_world hstep
  obtain ⟨p, hp, hsamples, hsample⟩ := (step_measured hport).fed sample hfed
  have hrecord : w'.record i = w'.exchanges.record p i := by rw [World.record, hp]
  rw [hexchanges, hrecord]
  obtain ⟨origin, receipt, egress, haverages, hsteps⟩ :=
    sample_joined hw' (Act.along_append hgenuine hbefore).1 (Act.along_append hjoined hbefore).1 hp
      hsamples hsample
  exact ⟨⟨haverages.ingress, haverages.offset_eq hsteps⟩,
    p, origin, receipt, egress, hp, haverages.measures, haverages.egress, hsteps⟩

end Runs

section Witness

/-- A message at a time about an earlier one, both in seconds. -/
def timed (now taken : ℤ) (input : PortInput) : Timed :=
  ⟨.calm (.fromSecs 2), input, now * 1000000000, taken * 1000000000⟩

/-- The port that tracks the first clock, with a local clock that is ahead by ten seconds. -/
def aheadWorld : World ℚ ForeignClockRecordsVec :=
  ⟨trackingPort, ⟨10000000000, []⟩, ⟨0, 0, 0, 0⟩, 0⟩

/-- The port sends a DelayReq, and has its response two seconds later. -/
def delayExchangeAt (sequenceId : UInt16) (sent : ℤ) (egress receipt : TimeStamp) : List Timed :=
  [timed sent sent (.system .delayRequestTimeout),
    timed sent sent (.system (.timestamp ⟨.delayReq ⟨⟨sequenceId⟩⟩, egress⟩)),
    timed (sent + 2) sent (.general ⟨(defaultClock 1).identity, ⟨1⟩⟩
      (.delayResp ⟨⟨sequenceId⟩, ⟨0⟩, receipt, ⟨(defaultClock 2).identity, ⟨1⟩⟩⟩) (.fromSecs 2))]

/-- A one-step Sync of the first clock. -/
def syncAt (sequenceId : UInt16) (received : ℤ) (origin ingress : TimeStamp) : Timed :=
  timed received received (.event ⟨(defaultClock 1).identity, ⟨1⟩⟩
    (.oneStepSync ⟨⟨sequenceId⟩, ⟨0⟩, origin⟩) ingress)

/-- The first exchanges, on a path with a delay of one second. Their sample steps the clock. -/
def firstExchanges : List Timed :=
  delayExchangeAt 0 100 (stampOf 110) (stampOf 101) ++ [syncAt 0 201 (stampOf 200) (stampOf 211)]

/-- A delay exchange after the step. -/
def remeasured : List Timed :=
  firstExchanges ++ delayExchangeAt 1 250 (stampOf 250) (stampOf 251)

/-- A Sync after the step. -/
def secondSync : Timed := syncAt 1 301 (stampOf 300) (stampOf 301)

theorem aheadWorld_fresh : aheadWorld.Fresh := by
  intro p hp
  cases hp
  exact ⟨_, rfl⟩

theorem firstExchanges_genuine :
    Act.Along World.step (Genuine 1000000000) aheadWorld (firstExchanges ++ [secondSync]) := by
  refine Act.along_cons rfl ⟨by decide, by decide, ?_⟩ ?_
  · rintro p ⟨⟩
    trivial
  refine Act.along_cons rfl ⟨by decide, by decide, ?_⟩ ?_
  · rintro p ⟨⟩
    rfl
  refine Act.along_cons rfl ⟨by decide, by decide, ?_⟩ ?_
  · rintro p ⟨⟩ -
    rfl
  refine Act.along_cons rfl ⟨by decide, by decide, ?_⟩ ?_
  · rintro p ⟨⟩ -
    exact ⟨rfl, rfl⟩
  refine Act.along_cons rfl ⟨by decide, by decide, ?_⟩ trivial
  rintro p ⟨⟩ -
  exact ⟨by decide +kernel, rfl⟩

/-- The sample of a Sync after the step is the true offset, zero, and does not reach back over the
step, if the delay is measured again before it. -/
theorem samples_trueOffset_remeasured :
    ∃ w' w'' l l' sample, (aheadWorld.run remeasured).Returns w' l ∧
      (w'.step secondSync).Returns w'' l' ∧ Effect.servoFeed sample ∈ l' ∧
      w'.clock.offsetAt w''.exchanges.sync = 0 ∧ w'.clock.steps.length = 1 ∧
      sample.offset.ns = w'.clock.offsetAt w''.exchanges.sync ∧
      w'.clock.Unstepped w''.exchanges.request w''.exchanges.sync := by
  have hgenuine : Act.Along World.step (Genuine 1000000000) aheadWorld
      (remeasured ++ secondSync :: []) := by
    refine Act.along_cons rfl ⟨by decide, by decide, by rintro p ⟨⟩; trivial⟩ ?_
    refine Act.along_cons rfl ⟨by decide, by decide, by rintro p ⟨⟩; rfl⟩ ?_
    refine Act.along_cons rfl ⟨by decide, by decide, by rintro p ⟨⟩ -; rfl⟩ ?_
    refine Act.along_cons rfl ⟨by decide, by decide, by rintro p ⟨⟩ -; exact ⟨rfl, rfl⟩⟩ ?_
    refine Act.along_cons rfl ⟨by decide, by decide, by rintro p ⟨⟩; trivial⟩ ?_
    refine Act.along_cons rfl ⟨by decide, by decide, ?_⟩ ?_
    · rintro p ⟨⟩
      change (_ : ℤ) = _
      decide +kernel
    refine Act.along_cons rfl ⟨by decide, by decide, by rintro p ⟨⟩ -; rfl⟩ ?_
    exact Act.along_cons rfl
      ⟨by decide, by decide, by rintro p ⟨⟩ -; exact ⟨by decide +kernel, rfl⟩⟩ trivial
  have hjoined : Act.Along World.step Joined aheadWorld (remeasured ++ secondSync :: []) := by
    refine Act.along_cons rfl (fun _ _ hs => absurd hs id) ?_
    refine Act.along_cons rfl (fun _ _ hs => absurd hs id) ?_
    refine Act.along_cons rfl (fun _ _ hs => absurd hs id) ?_
    refine Act.along_cons rfl (by rintro p ⟨⟩ - - -; exact ⟨nofun, rfl, by decide +kernel⟩) ?_
    refine Act.along_cons rfl (fun _ _ hs => absurd hs id) ?_
    refine Act.along_cons rfl (fun _ _ hs => absurd hs id) ?_
    refine Act.along_cons rfl (fun _ _ hs => absurd hs id) ?_
    exact Act.along_cons rfl
      (by rintro p ⟨⟩ - - -; exact ⟨nofun, rfl, by decide +kernel⟩) trivial
  have hrun : ∃ w' w'' l l' sample, (aheadWorld.run remeasured).Returns w' l ∧
      (w'.step secondSync).Returns w'' l' ∧ l'.head? = some (Effect.servoFeed sample) ∧
      w'.clock.offsetAt w''.exchanges.sync = 0 ∧ w'.clock.steps.length = 1 :=
    ⟨_, _, _, _, _, rfl, rfl, rfl, by decide +kernel, by decide +kernel⟩
  obtain ⟨w', w'', l, l', sample, hbefore, hstep, hfed, hzero, hone⟩ := hrun
  have hmem := List.mem_of_head? hfed
  obtain ⟨⟨-, htrue⟩, -, -, -, -, -, -, -, hsteps⟩ :=
    samples_trueOffset 1000000000 aheadWorld w' w'' remeasured [] secondSync l l' sample
      aheadWorld_fresh hgenuine hjoined hbefore hstep hmem
  exact ⟨w', w'', l, l', sample, hbefore, hstep, hmem, hzero, hone, htrue, hsteps⟩

/-- The delay exchange of before the step is kept: the sample of the next Sync is off by five
seconds. -/
theorem samples_join_across_step :
    aheadWorld.Fresh ∧
      Act.Along World.step (Genuine 1000000000) aheadWorld (firstExchanges ++ [secondSync]) ∧
      ∃ w' w'' l l' sample, (aheadWorld.run firstExchanges).Returns w' l ∧
        (w'.step secondSync).Returns w'' l' ∧ Effect.servoFeed sample ∈ l' ∧
        w'.clock.offsetAt w''.exchanges.sync = 0 ∧ sample.offset.ns = 5000000000 := by
  have hrun : ∃ w' w'' l l' sample, (aheadWorld.run firstExchanges).Returns w' l ∧
      (w'.step secondSync).Returns w'' l' ∧ l'.head? = some (Effect.servoFeed sample) ∧
      w'.clock.offsetAt w''.exchanges.sync = 0 ∧ sample.offset.ns = 5000000000 :=
    ⟨_, _, _, _, _, rfl, rfl, rfl, by decide +kernel, by decide +kernel⟩
  obtain ⟨w', w'', l, l', sample, hbefore, hstep, hfed, htrue, hoffset⟩ := hrun
  exact ⟨aheadWorld_fresh, firstExchanges_genuine, w', w'', l, l', sample, hbefore, hstep,
    List.mem_of_head? hfed, htrue, hoffset⟩

end Witness

end Rptp
