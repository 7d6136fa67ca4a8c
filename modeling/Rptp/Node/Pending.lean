import Rptp.Node.Boundary
import Rptp.Port.Coherence
import Rptp.Port.Reports

/-! # A listening port with a qualified master

A listening port leaves its state by a state decision or by a receipt timeout, and every Announce
restarts the timeout. A decision is triggered when the best foreign data set changes. A port that
starts to listen with nothing to report has therefore triggered one once a master is qualified. A
port that starts to listen with a qualified master has not.
-/

namespace Rptp

open Machine

variable {F R : Type}

instance : DecidablePred (Effect.IsReport : Effect F → Prop)
  | .trigger .. => .isTrue trivial
  | .sendEvent .. => .isFalse id
  | .sendGeneral .. => .isFalse id
  | .stampEgress .. => .isFalse id
  | .servoFeed .. => .isFalse id
  | .recordOffsetFromMaster .. => .isFalse id
  | .step .. => .isFalse id
  | .adjust .. => .isFalse id

/-- A port, and whether it has triggered a state decision since it started to listen last. -/
structure MonitoredPort (F R : Type) where
  port : PortState F R
  triggered : Bool

section Monitor

variable [F64 F] [ForeignClockRecords R]

namespace MonitoredPort

def step (m : MonitoredPort F R) (i : Env × PortInput) :
    Act (Effect F) (MonitoredPort F R) := do
  let (port, calls) ← Act.observe (m.port.step i.1 i.2)
  let entered := decide (port.role = .listening ∧ m.port.role ≠ .listening)
  pure ⟨port, !entered && (m.triggered || calls.any fun e => decide e.IsReport)⟩

def run (m : MonitoredPort F R) (inputs : List (Env × PortInput)) :
    Act (Effect F) (MonitoredPort F R) :=
  Act.runAll step m inputs

theorem step_returns {m m' : MonitoredPort F R} {i : Env × PortInput} {l : List (Effect F)}
    (h : (m.step i).Returns m' l) :
    (m.port.step i.1 i.2).Returns m'.port l ∧
      m'.triggered = (!decide (m'.port.role = .listening ∧ m.port.role ≠ .listening) &&
        (m.triggered || l.any fun e => decide e.IsReport)) := by
  obtain ⟨port, hstep, rfl⟩ := Act.returns_observe_pure.mp h
  exact ⟨hstep, rfl⟩

end MonitoredPort

/-- The step makes the port listen while its records have a qualified master. -/
def PortState.EntersQualified (s : PortState F R) (input : PortInput) : Prop :=
  s.role = .initializing ∧ input = .system .initialized ∧
    s.parts.bestForeign.snapshot ≠ .ok .empty

/-- A port starts to listen only when it is initialized. -/
theorem step_listening {env : Env} {s s' : PortState F R} {input : PortInput} {l : List (Effect F)}
    (h : (s.step env input).Returns s' l) (hs' : s'.role = .listening) :
    s.role = .listening ∨ (s.role = .initializing ∧ input = .system .initialized) := by
  rcases step_returns h with hd | ⟨s₁, d, r, l₁, l₂, hd, hnext, hm, -⟩
  · exact .inl (hd.role.symm.trans hs')
  · rw [hm.role] at hs'
    subst hs'
    have hanswer := hd.answer
    generalize hsome : some d = d' at hanswer
    cases hanswer with
    | initialized hrole => exact .inr ⟨hrole, rfl⟩
    | quiet => cases hsome
    | decided hsnap heval =>
      obtain ⟨decision, -, rfl⟩ := Option.map_eq_some_iff.mp hsome.symm
      cases decision <;> cases hr : s.role <;> rw [hr] at hnext <;> cases hnext
    | expired =>
      cases hsome
      cases hr : s.role <;> rw [hr] at hnext <;> cases hnext
    | qualified hrole =>
      cases hsome
      rw [hrole] at hnext
      cases hnext
    | faultCleared hrole =>
      cases hsome
      rw [hrole] at hnext
      cases hnext
    | sendFailed =>
      cases hsome
      cases hr : s.role <;> rw [hr] at hnext <;> cases hnext
    | locked _ hrole =>
      cases hsome
      rw [hrole] at hnext
      cases hnext
    | unlocked _ hrole =>
      cases hsome
      rw [hrole] at hnext
      cases hnext

/-- The port has reported its records, and if it listens it has triggered since, or has nothing to
report. -/
structure MonitoredPort.Watched (m : MonitoredPort F R) : Prop where
  synced : m.port.Synced
  listening : m.port.role = .listening → m.triggered = true ∨ m.port.previous = .empty

theorem MonitoredPort.step_watched {m m' : MonitoredPort F R} {i : Env × PortInput}
    {l : List (Effect F)} (hm : m.Watched) (hin : ¬ m.port.EntersQualified i.2)
    (h : (m.step i).Returns m' l) : m'.Watched := by
  obtain ⟨hstep, htriggered⟩ := step_returns h
  refine ⟨step_synced hm.synced hstep, fun hlistening => ?_⟩
  rcases step_listening hstep hlistening with hrole | ⟨hrole, hinput⟩
  · rw [decide_eq_false (by simp [hrole]), Bool.not_false, Bool.true_and] at htriggered
    cases step_reported hstep with
    | silent htrigger _ _ =>
      rcases hm.listening hrole with hbefore | hempty
      · left
        rw [htriggered, hbefore, Bool.true_or]
      · right
        rw [PortState.previous, htrigger]
        exact hempty
    | reported l₁ _ hlog _ =>
      left
      rw [htriggered, hlog, Bool.or_eq_true, List.any_eq_true]
      exact .inr ⟨_, List.mem_append_right _ (List.mem_singleton_self _), rfl⟩
  · -- The port starts to listen, and it has nothing to report.
    right
    have hempty : m.port.parts.bestForeign.snapshot = .ok .empty := by
      by_contra hne
      exact hin ⟨hrole, hinput, hne⟩
    have hprevious : m.port.previous = .empty :=
      Except.ok.inj (hm.synced.symm.trans hempty)
    rw [hinput] at hstep
    obtain ⟨port, triggered⟩ := m
    cases port
    case initializing p =>
      obtain ⟨hport, -⟩ := Act.returns_pure.mp hstep
      rw [hport]
      exact hprevious
    all_goals cases hrole

end Monitor

section Created

variable [ForeignClockRecords R]

/-- A port as its clock creates it. -/
def PortState.Created (s : PortState F R) : Prop :=
  (∃ (clock clock' : OrdinaryClock F) (records : R), clock.port records = .ok (clock', some s)) ∨
    ∃ (clock clock' : BoundaryClock) (records : R), clock.port records = .ok (clock', some s)

theorem PortState.Created.new {s : PortState F R} (h : s.Created) :
    ∃ profile ds domain number records, newPort profile ds domain number records = .ok s := by
  rcases h with ⟨clock, clock', records, h⟩ | ⟨clock, clock', records, h⟩
  all_goals
    obtain ⟨⟨enumeration, number⟩, -, hrest⟩ := Checked.bind_eq_ok.mp h
    cases number with
    | none => cases hrest
    | some number =>
      obtain ⟨state, hstate, hret⟩ := Checked.bind_eq_ok.mp hrest
      cases hret
      exact ⟨_, _, _, _, _, hstate⟩

theorem PortState.Created.watched {s : PortState F R} (h : s.Created) :
    MonitoredPort.Watched ⟨s, false⟩ := by
  obtain ⟨profile, ds, domain, number, records, hnew⟩ := h.new
  obtain ⟨previous, hsnap, hret⟩ := Checked.bind_eq_ok.mp hnew
  cases hret
  exact ⟨hsnap, fun hrole => by cases hrole⟩

variable [F64 F]

/-- If no port starts to listen while its records have a qualified master, then every listening
port with a qualified master has triggered a state decision since it started to listen. -/
theorem listening_triggered (s : PortState F R) (hs : s.Created) (inputs : List (Env × PortInput))
    (m : MonitoredPort F R) (l : List (Effect F))
    (hrun : (MonitoredPort.run ⟨s, false⟩ inputs).Returns m l)
    (hin : Act.Along MonitoredPort.step (fun m i => ¬ m.port.EntersQualified i.2) ⟨s, false⟩ inputs)
    (hrole : m.port.role = .listening) (ds : ClockDS) (source receiver : PortIdentity)
    (hsnap : m.port.parts.bestForeign.snapshot = .ok (.qualified ds source receiver)) :
    m.triggered = true := by
  have hm : m.Watched := Act.runAll_invariant (P := MonitoredPort.Watched)
    (fun _ _ _ _ hm hC h => MonitoredPort.step_watched hm hC h) hs.watched hin hrun
  rcases hm.listening hrole with htriggered | hempty
  · exact htriggered
  · have hsynced := hm.synced
    rw [PortState.Synced, hempty, hsnap] at hsynced
    cases hsynced

end Created

/-- An Announce of the first clock at the given second. -/
def announcedAt (seconds : UInt16) : Env × PortInput :=
  (.calm (.fromSecs seconds.toUInt32), .general ⟨(defaultClock 1).identity, ⟨1⟩⟩
    (announceOfFirst seconds) (.fromSecs seconds.toUInt32))

/-- The port of the second clock hears the first one twice while it listens. -/
def firstHeard : List (Env × PortInput) :=
  [(.calm (.fromSecs 0), .system .initialized), announcedAt 0, announcedAt 1]

/-- It follows the first clock, fails to send a DelayReq, and is initialized again. -/
def recovered : List (Env × PortInput) :=
  [(.calm (.fromSecs 1), .system (.stateDecisionEvent heardSnapshot)),
    (⟨.fromSecs 1, .ptp, .error ⟨⟩⟩, .system .delayRequestTimeout),
    (.calm (.fromSecs 2), .system .faultCleared), (.calm (.fromSecs 2), .system .initialized)]

/-- A port that hears its first master has triggered a decision. -/
theorem listening_triggered_first :
    ∃ (s : PortState ℚ ForeignClockRecordsVec) (m : MonitoredPort ℚ ForeignClockRecordsVec)
      (l : List (Effect ℚ)), s.Created ∧ (MonitoredPort.run ⟨s, false⟩ firstHeard).Returns m l ∧
      m.port.role = .listening ∧ m.port.parts.bestForeign.snapshot = .ok heardSnapshot.eBest ∧
      m.triggered = true := by
  have hclock : ∃ (clock clock' : OrdinaryClock ℚ) (s : PortState ℚ ForeignClockRecordsVec)
      (m : MonitoredPort ℚ ForeignClockRecordsVec) (l : List (Effect ℚ)),
      clock.port ForeignClockRecordsVec.new = .ok (clock', some s) ∧
      (MonitoredPort.run ⟨s, false⟩ firstHeard).Returns m l ∧
      Act.Along MonitoredPort.step (fun m i => ¬ m.port.EntersQualified i.2) ⟨s, false⟩ firstHeard ∧
      m.port.role = .listening ∧ m.port.parts.bestForeign.snapshot = .ok heardSnapshot.eBest := by
    refine ⟨⟨defaultClock 2, ⟨0⟩, ⟨1, 1⟩, .empty, none, .default⟩, _, _, _, _, rfl, rfl, ?_, rfl, rfl⟩
    refine Act.along_cons rfl (fun h => h.2.2 rfl) ?_
    refine Act.along_cons rfl (fun h => by cases h.1) ?_
    exact Act.along_cons rfl (fun h => by cases h.1) trivial
  obtain ⟨clock, clock', s, m, l, hport, hrun, hin, hrole, hsnap⟩ := hclock
  have hs : s.Created := .inl ⟨clock, clock', _, hport⟩
  exact ⟨s, m, l, hs, hrun, hrole, hsnap,
    listening_triggered s hs firstHeard m l hrun hin hrole _ _ _ hsnap⟩

/-- A port that is initialized again after a fault still has its qualified master on record. The
next Announce of that master triggers nothing. -/
theorem listening_not_triggered :
    ∃ (s : PortState ℚ ForeignClockRecordsVec) (m : MonitoredPort ℚ ForeignClockRecordsVec)
      (l : List (Effect ℚ)), s.Created ∧
      (MonitoredPort.run ⟨s, false⟩ (firstHeard ++ recovered ++ [announcedAt 2])).Returns m l ∧
      m.port.role = .listening ∧ m.port.parts.bestForeign.snapshot = .ok heardSnapshot.eBest ∧
      m.triggered = false := by
  have hclock : ∃ (clock clock' : OrdinaryClock ℚ) (s : PortState ℚ ForeignClockRecordsVec)
      (m : MonitoredPort ℚ ForeignClockRecordsVec) (l : List (Effect ℚ)),
      clock.port ForeignClockRecordsVec.new = .ok (clock', some s) ∧
      (MonitoredPort.run ⟨s, false⟩ (firstHeard ++ recovered ++ [announcedAt 2])).Returns m l ∧
      m.port.role = .listening ∧ m.port.parts.bestForeign.snapshot = .ok heardSnapshot.eBest ∧
      m.triggered = false :=
    ⟨⟨defaultClock 2, ⟨0⟩, ⟨1, 1⟩, .empty, none, .default⟩, _, _, _, _, rfl, rfl, rfl, rfl, rfl⟩
  obtain ⟨clock, clock', s, m, l, hport, hrun⟩ := hclock
  exact ⟨s, m, l, .inl ⟨clock, clock', _, hport⟩, hrun⟩

end Rptp
