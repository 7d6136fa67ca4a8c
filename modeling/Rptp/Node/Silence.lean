import Rptp.Node.Ordinary
import Rptp.Port.Coherence

/-! # A port whose master falls silent

An expired announce receipt timeout makes a port master and triggers a state decision event. The
event is decided on the records as they are: nothing prunes the record of the silent master on this
path. The port stays on the master side exactly when its own clock beats that record.
-/

namespace Rptp

open Machine

variable {F R : Type} [F64 F] [ForeignClockRecords R]

/-- Every record is older than its window. -/
def BestForeignRecord.AllStale (b : BestForeignRecord R) (now : Instant) : Prop :=
  ∀ r ∈ ForeignClockRecords.iter b.foreignClockRecords, r.isStale now = true

/-- The local data set is better than every qualified record of the port. -/
def BestForeignRecord.LosesTo (b : BestForeignRecord R) (ds : ClockDS) : Prop :=
  ∃ e, b.snapshot = .ok e ∧ LocalDS.isBetterOrBetterByTopology ds e = .ok (.ok ds)

theorem step_expired {env : Env} {s : PortState F R}
    (hrole : (s.role.next s.parts.bmca.d0 .announceReceiptTimeoutExpired).isSome) :
    s.step env (.system .announceReceiptTimeout) = s.handover.announceReceiptTimeoutExpired env := by
  cases s with
  | listening p => exact pure_bind _ _
  | slave p => exact pure_bind _ _
  | uncalibrated p => exact pure_bind _ _
  | passive p => exact pure_bind _ _
  | initializing p => cases hrole
  | master p => cases hrole
  | preMaster p => cases hrole
  | faulty p => cases hrole

/-- A master that hears no Announce, decides nothing and whose sends succeed keeps its records and
its role. -/
theorem step_master_quiet {env : Env} {s s' : PortState F R} {input : PortInput}
    {l : List (Effect F)} {ds : ClockDS} (hrole : s.role = .master ds) (hin : ¬ input.IsDecision)
    (hannounce : ¬ input.IsAnnounce) (hsent : ∀ e ∈ l, ¬ e.FailedSend)
    (h : (s.step env input).Returns s' l) :
    s'.role = .master ds ∧ s'.parts.bestForeign = s.parts.bestForeign := by
  rcases step_returns h with hd | ⟨s₁, d, r, l₁, l₂, hd, hnext, hm, rfl⟩
  · exact ⟨hd.role.trans hrole, hd.records hannounce⟩
  · have hanswer := hd.answer
    generalize hsome : some d = d' at hanswer
    rw [hrole] at hnext
    cases hanswer with
    | quiet => cases hsome
    | decided => exact absurd trivial hin
    | sendFailed _ _ he hfailed => exact absurd hfailed (hsent _ (List.mem_append_left _ he))
    | expired =>
      cases hsome
      cases hnext
    | initialized hother => cases hrole.symm.trans hother
    | qualified hother => cases hrole.symm.trans hother
    | faultCleared hother => cases hrole.symm.trans hother
    | locked _ hother => cases hrole.symm.trans hother
    | unlocked _ hother => cases hrole.symm.trans hother

theorem Role.Tracks.not_announces {r : Role} {parent : ParentPortIdentity} {gm : ClockDS}
    (h : r.Tracks parent) : ¬ r.Announces gm := by
  cases r <;> first | exact id | exact absurd h id

theorem evaluate_own {b : BestForeignRecord R} {portNumber : PortNumber} {ds : ClockDS}
    {e : BestForeignSnapshot} {decision : BmcaDecision} {r : Role}
    (hport : b.receiver.portNumber = portNumber) (hsnap : b.snapshot = .ok e)
    (heval : BestMasterClockAlgorithm.evaluate portNumber ds e e = .ok decision)
    (hr : decision.Realized r) : (∃ gm, r.Announces gm) ↔ b.LosesTo ds := by
  have hloses : b.LosesTo ds ↔ LocalDS.isBetterOrBetterByTopology ds e = .ok (.ok ds) := by
    constructor
    · rintro ⟨e', hsnap', hbetter⟩
      rw [hsnap] at hsnap'
      cases hsnap'
      exact hbetter
    · intro hbetter
      exact ⟨e, hsnap, hbetter⟩
  rw [hloses]
  rcases BestMasterClockAlgorithm.evaluate_cases portNumber ds e e with
    ⟨-, hbetter, h⟩ | ⟨-, hworse, h⟩ | ⟨-, hbetter, h⟩ |
      ⟨fds, source, receiver, -, rfl, hworse, ⟨-, h⟩ | ⟨hne, -⟩⟩
  · rw [h] at heval
    cases heval
    exact ⟨fun _ => hbetter, fun _ => ⟨ds, hr⟩⟩
  · rw [h] at heval
    cases heval
    cases hr
    exact ⟨fun ⟨gm, hgm⟩ => absurd hgm id, fun hbetter => absurd hbetter hworse⟩
  · rw [h] at heval
    cases heval
    exact ⟨fun _ => hbetter, fun _ => ⟨ds, hr⟩⟩
  · rw [h] at heval
    cases heval
    constructor
    · rintro ⟨gm, hgm⟩
      exact absurd hgm (Role.Tracks.not_announces hr)
    · intro hbetter
      rw [hworse] at hbetter
      cases hbetter
  · have hreceived := snapshot_receivedBy hsnap
    exact absurd ((congrArg PortIdentity.portNumber hreceived).trans hport) hne

omit [F64 F] in
theorem OrdinaryClock.notifyClock_trigger {env : Env} {clock clock' : OrdinaryClock F}
    {port : PortNumber} {e : BestForeignSnapshot}
    (h : notifyClock env clock [(.trigger port e : Effect F)] = .ok clock') :
    clock'.portNotification = clock.portNotification.map fun timeout =>
      timeout.restartWithMessage env (.stateDecisionEvent ⟨clock.defaultDs, e⟩) (.fromSecs 0) := by
  obtain ⟨notified, htrigger, hret⟩ := Checked.bind_eq_ok.mp h
  cases hret
  obtain ⟨remembered, hremember, hnotify⟩ := Checked.bind_eq_ok.mp htrigger
  obtain ⟨-, -, hrest⟩ := Checked.bind_eq_ok.mp hremember
  obtain ⟨-, -, hok⟩ := Checked.bind_eq_ok.mp hrest
  cases hok
  cases hnotify
  rfl

/-- While nothing is decided and nothing is heard, the port of a master node stays as it is. -/
theorem OrdinaryNode.run_master_quiet {node node' : OrdinaryNode F R} {s : PortState F R}
    {inputs : List (Env × PortInput)} {l : List (Effect F)} {ds : ClockDS}
    (hfsm : node.fsm = .new s) (hrole : s.role = .master ds)
    (hin : ∀ i ∈ inputs, ¬ i.2.IsDecision ∧ ¬ i.2.IsAnnounce) (hsent : ∀ e ∈ l, ¬ e.FailedSend)
    (h : (node.run inputs).Returns node' l) :
    ∃ s', node'.fsm = .new s' ∧ s'.role = .master ds ∧
      s'.parts.bestForeign = s.parts.bestForeign ∧ s'.frame = s.frame := by
  induction inputs generalizing node s l with
  | nil =>
    obtain ⟨rfl, rfl⟩ := Act.returns_pure.mp h
    exact ⟨s, hfsm, hrole, rfl, rfl⟩
  | cons i inputs ih =>
    obtain ⟨node₁, l₁, l₂, hprocess, hrun, rfl⟩ := Act.returns_runAll_cons.mp h
    obtain ⟨s₁, hfsm₁, hstep⟩ := process_step hfsm hprocess
    obtain ⟨hdecision, hannounce⟩ := hin i List.mem_cons_self
    obtain ⟨hrole₁, hrecords₁⟩ := step_master_quiet hrole hdecision hannounce
      (fun e he => hsent e (List.mem_append_left _ he)) hstep
    obtain ⟨s', hfsm', hrole', hrecords, hframe⟩ := ih hfsm₁ hrole₁
      (fun j hj => hin j (List.mem_cons_of_mem _ hj))
      (fun e he => hsent e (List.mem_append_right _ he)) hrun
    exact ⟨s', hfsm', hrole', hrecords.trans hrecords₁, hframe.trans (step_frame hstep)⟩

/-- After an announce receipt timeout, processing the state decision event that it triggered leaves
the port on the master side exactly when the local data set beats the records of the port. Whether
these are stale makes no difference. -/
theorem receiptTimeout_staysMaster_iff (ds : ClockDS) (domain : DomainNumber)
    (profile : PortProfile F) (records : R) (node₀ node₁ node₂ node₃ : OrdinaryNode F R)
    (earlier between : List (Env × PortInput)) (s : PortState F R) (env env' : Env)
    (timeout : Timeout) (l₁ l₂ l₃ : List (Effect F))
    (hnew : OrdinaryNode.new ds domain profile records = .ok (some node₀))
    (hearlier : (node₀.run earlier).Returns node₁ l₁) (hs : node₁.fsm = .new s)
    (hrole : s.role = .listening ∨ (∃ parent, s.role.Tracks parent) ∨ s.role = .passive)
    (hexpired : (node₁.process env (.system .announceReceiptTimeout)).Returns node₂ l₂)
    (hpending : node₂.clock.portNotification = some timeout)
    (hbetween : ∀ i ∈ between, ¬ i.2.IsDecision ∧ ¬ i.2.IsAnnounce)
    (hsent : ∀ e ∈ l₃, ¬ e.FailedSend)
    (hdecided : (node₂.run (between ++ [(env', .system timeout.msg)])).Returns node₃ l₃) :
    (∃ t gm, node₃.fsm = .new t ∧ t.role.Announces gm) ↔ s.parts.bestForeign.LosesTo ds := by
  obtain ⟨hds, s', hs', hparts, -⟩ :=
    OrdinaryNode.run_owns (OrdinaryNode.owns_new hnew) hearlier
  obtain rfl : s = s' := Option.some.inj (congrArg PortFsm.state (hs.symm.trans hs'))
  -- The timeout makes the port master and reports its records as they are.
  obtain ⟨s₂, hs₂, hstep⟩ := OrdinaryNode.process_step hs hexpired
  have hlegal : (s.role.next s.parts.bmca.d0 .announceReceiptTimeoutExpired).isSome := by
    rcases hrole with h | ⟨parent, h⟩ | h
    · rw [h]
      rfl
    · revert h
      cases s.role <;> first | exact fun _ => rfl | exact fun h => absurd h id
    · rw [h]
      rfl
  rw [step_expired hlegal] at hstep
  obtain ⟨e, hsnap, hreturns⟩ := s.handover.announceReceiptTimeoutExpired_returns env
  obtain ⟨rfl, rfl⟩ := hstep.unique hreturns
  -- The clock notifies the port of this report.
  have hmsg : timeout.msg = .stateDecisionEvent ⟨ds, e⟩ := by
    rw [OrdinaryClock.notifyClock_trigger (OrdinaryNode.process_returns hexpired).2, hds] at hpending
    obtain ⟨old, -, rfl⟩ := Option.map_eq_some_iff.mp hpending
    rfl
  -- Nothing changes until the port is notified.
  obtain ⟨node, l, l', hquiet, hlast, rfl⟩ := Act.returns_runAll_append.mp hdecided
  obtain ⟨t, ht, htrole, htrecords, htframe⟩ := OrdinaryNode.run_master_quiet hs₂ rfl hbetween
    (fun e he => hsent e (List.mem_append_left _ he)) hquiet
  obtain ⟨node', l₄, l₅, hprocess, hend, -⟩ := Act.returns_runAll_cons.mp hlast
  obtain ⟨rfl, -⟩ := Act.returns_pure.mp hend
  obtain ⟨u, hu, hdecide⟩ := OrdinaryNode.process_step ht hprocess
  rw [hmsg] at hdecide
  obtain ⟨eRbest, decision, hown, heval, hrealized⟩ := step_realizes
    (by rw [htrole]; exact id) (by rw [htrole]; rintro ⟨h, -⟩; cases h) hdecide
  rw [htrecords] at hown
  obtain rfl : e = eRbest := Except.ok.inj (hsnap.symm.trans hown)
  have hport : s.parts.bestForeign.receiver.portNumber = t.parts.bmca.portNumber := by
    have hs1 := congrArg PartsFrame.receiver hparts
    have ht1 : t.parts.bmca.portNumber = s.parts.bmca.portNumber :=
      congrArg (fun f => f.portNumber) htframe
    have hs2 : s.parts.bmca.portNumber = ⟨1⟩ := congrArg PartsFrame.portNumber hparts
    rw [ht1, hs2]
    exact congrArg PortIdentity.portNumber hs1
  rw [← evaluate_own hport hsnap heval hrealized]
  constructor
  · rintro ⟨t', gm, ht', hgm⟩
    obtain rfl : u = t' := Option.some.inj (congrArg PortFsm.state (hu.symm.trans ht'))
    exact ⟨gm, hgm⟩
  · rintro ⟨gm, hgm⟩
    exact ⟨u, gm, hu, hgm⟩

/-- A clock is heard twice, one second apart. -/
def heardInputs (ds : ClockDS) : List (Env × PortInput) :=
  [(.calm (.fromSecs 0), .system .initialized),
    (.calm (.fromSecs 0), .general ⟨ds.identity, ⟨1⟩⟩ (.announce ⟨⟨0⟩, ⟨0⟩, ds, .ptp⟩) (.fromSecs 0)),
    (.calm (.fromSecs 1), .general ⟨ds.identity, ⟨1⟩⟩ (.announce ⟨⟨1⟩, ⟨0⟩, ds, .ptp⟩) (.fromSecs 1))]

/-- The first clock does not go back to the second, which is worse. -/
theorem receiptTimeout_staysMaster_first :
    ∃ (node₀ node₁ node₂ node₃ : OrdinaryNode ℚ ForeignClockRecordsVec)
      (s : PortState ℚ ForeignClockRecordsVec) (timeout : Timeout) (l₁ l₂ l₃ : List (Effect ℚ)),
      OrdinaryNode.new (defaultClock 1) ⟨0⟩ .default ForeignClockRecordsVec.new = .ok (some node₀) ∧
      (node₀.run (heardInputs (defaultClock 2))).Returns node₁ l₁ ∧ node₁.fsm = .new s ∧
      (node₁.process (.calm (.fromSecs 6)) (.system .announceReceiptTimeout)).Returns node₂ l₂ ∧
      node₂.clock.portNotification = some timeout ∧
      (node₂.run ([(.calm (.fromSecs 6), .system .announceSendTimeout)] ++
        [(.calm (.fromSecs 6), .system timeout.msg)])).Returns node₃ l₃ ∧
      ((∃ t gm, node₃.fsm = .new t ∧ t.role.Announces gm) ↔
        s.parts.bestForeign.LosesTo (defaultClock 1)) := by
  have hrun : ∃ (node₀ node₁ node₂ node₃ : OrdinaryNode ℚ ForeignClockRecordsVec)
      (s : PortState ℚ ForeignClockRecordsVec) (timeout : Timeout) (l₁ l₂ l₃ : List (Effect ℚ))
      (msg : GeneralMessage) (buf : List UInt8),
      OrdinaryNode.new (defaultClock 1) ⟨0⟩ .default ForeignClockRecordsVec.new = .ok (some node₀) ∧
      (node₀.run (heardInputs (defaultClock 2))).Returns node₁ l₁ ∧ node₁.fsm = .new s ∧
      s.role = .listening ∧
      (node₁.process (.calm (.fromSecs 6)) (.system .announceReceiptTimeout)).Returns node₂ l₂ ∧
      node₂.clock.portNotification = some timeout ∧
      (node₂.run ([(.calm (.fromSecs 6), .system .announceSendTimeout)] ++
        [(.calm (.fromSecs 6), .system timeout.msg)])).Returns node₃ l₃ ∧
      l₃ = [.sendGeneral msg buf (.ok ())] :=
    ⟨_, _, _, _, _, _, _, _, _, _, _, rfl, rfl, rfl, rfl, rfl, rfl, rfl, rfl⟩
  obtain ⟨node₀, node₁, node₂, node₃, s, timeout, l₁, l₂, l₃, msg, buf, hnew, hearlier, hs, hrole,
    hexpired, hpending, hdecided, hl₃⟩ := hrun
  refine ⟨node₀, node₁, node₂, node₃, s, timeout, l₁, l₂, l₃, hnew, hearlier, hs, hexpired,
    hpending, hdecided, ?_⟩
  exact receiptTimeout_staysMaster_iff (defaultClock 1) ⟨0⟩ .default ForeignClockRecordsVec.new
    node₀ node₁ node₂ node₃ (heardInputs (defaultClock 2))
    [(.calm (.fromSecs 6), .system .announceSendTimeout)] s (.calm (.fromSecs 6))
    (.calm (.fromSecs 6)) timeout l₁ l₂ l₃ hnew hearlier hs (.inl hrole) hexpired hpending
    (by simp [PortInput.IsDecision, PortInput.IsAnnounce]) (by simp [hl₃, Effect.FailedSend])
    hdecided

/-- The second clock follows the first until it has been silent for five seconds, one more than its
window. The port becomes master and goes straight back to its silent parent. -/
theorem receiptTimeout_returns_to_parent :
    ∃ (node₀ node₁ node₂ node₃ : OrdinaryNode ℚ ForeignClockRecordsVec)
      (s t u : PortState ℚ ForeignClockRecordsVec) (timeout : Timeout)
      (l₁ l₂ l₃ : List (Effect ℚ)),
      OrdinaryNode.new (defaultClock 2) ⟨0⟩ .default ForeignClockRecordsVec.new = .ok (some node₀) ∧
      (node₀.run (heardInputs (defaultClock 1) ++
        [(.calm (.fromSecs 1), .system (.stateDecisionEvent heardSnapshot))])).Returns node₁ l₁ ∧
      node₁.fsm = .new s ∧ s.role = .uncalibrated ⟨⟨(defaultClock 1).identity, ⟨1⟩⟩⟩ ∧
      s.parts.bestForeign.AllStale (.fromSecs 6) ∧
      (node₁.process (.calm (.fromSecs 6)) (.system .announceReceiptTimeout)).Returns node₂ l₂ ∧
      node₂.fsm = .new t ∧ t.role = .master (defaultClock 2) ∧
      node₂.clock.portNotification = some timeout ∧
      (node₂.process (.calm (.fromSecs 6)) (.system timeout.msg)).Returns node₃ l₃ ∧
      node₃.fsm = .new u ∧ u.role = .uncalibrated ⟨⟨(defaultClock 1).identity, ⟨1⟩⟩⟩ := by
  refine ⟨_, _, _, _, _, _, _, _, _, _, _, rfl, rfl, rfl, rfl, ?_, rfl, rfl, rfl, rfl, rfl, rfl, rfl⟩
  intro r hr
  rw [List.mem_singleton.mp hr]
  rfl

end Rptp
