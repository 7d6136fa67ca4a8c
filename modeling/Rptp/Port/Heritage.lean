import Rptp.Foreign.Faithful
import Rptp.Port.Coherence
import Rptp.Port.Mastering
import Rptp.Port.Reports
import Rptp.Port.Sends

/-! # Where the data sets of a port come from

A port announces the data set of its own clock, or one that its clock was told of with one step
added, and it follows or yields to nothing that its clock was not told of. A clock that has one port
only never announces what it was told.
-/

namespace Rptp

open Machine

/-- Where a clock stands: its data set, the numbers of its ports, and the data sets that it may be
told of, each with the port that announces it. -/
structure Standpoint where
  own : ClockDS
  Port : PortNumber → Prop
  Told : PortIdentity → ClockDS → Prop

variable {F R : Type} {v : Standpoint}

/-- A port of the clock. -/
def Standpoint.IsPort (v : Standpoint) (p : PortIdentity) : Prop :=
  p.clockIdentity = v.own.identity ∧ v.Port p.portNumber

/-- The clock was told of the data set, and its own is not better. -/
def Outdone (v : Standpoint) (source : PortIdentity) (ds : ClockDS) : Prop :=
  v.Told source ds ∧ ∃ receiver, v.IsPort receiver ∧
    LocalDS.isBetterOrBetterByTopology v.own (.qualified ds source receiver) =
      .ok (.error ⟨ds, source, receiver⟩)

/-- The data sets that a clock announces. What it was told of goes from one port to another. -/
def Announceable (v : Standpoint) (ds : ClockDS) : Prop :=
  ds = v.own ∨ (∃ n m, v.Port n ∧ v.Port m ∧ n ≠ m) ∧
    ∃ source told, Outdone v source told ∧ ds = told.withAddedStep

/-- A snapshot of what the clock was told, by one of its ports. -/
def BestForeignSnapshot.Told (v : Standpoint) : BestForeignSnapshot → Prop
  | qualified ds source receiver => v.Told source ds ∧ v.IsPort receiver
  | empty => True

/-- An Announce that the clock may be told, or a state decision on what it was told. -/
def PortInput.Told (v : Standpoint) : PortInput → Prop
  | .general source (.announce msg) _ => v.Told source msg.foreignClockDs
  | .system (.stateDecisionEvent snapshot) => snapshot.d0 = v.own ∧ snapshot.eBest.Told v
  | _ => True

/-- The role rests on what the clock was told. -/
def Role.Supported (v : Standpoint) : Role → Prop
  | slave parent => ∃ ds, Outdone v parent.parentPortIdentity ds
  | uncalibrated parent => ∃ ds, Outdone v parent.parentPortIdentity ds
  | master ds => Announceable v ds
  | preMaster ds => Announceable v ds
  | passive => ∃ source ds, Outdone v source ds
  | _ => True

theorem Role.Supported.tracks {r : Role} {parent : ParentPortIdentity} (h : r.Supported v)
    (hparent : r.Tracks parent) : ∃ ds, Outdone v parent.parentPortIdentity ds := by
  cases r
  case slave p | uncalibrated p =>
    cases (hparent : p = parent)
    exact h
  all_goals exact absurd hparent id

theorem Role.Supported.announces {r : Role} {ds : ClockDS} (h : r.Supported v)
    (hds : r.Announces ds) : Announceable v ds := by
  cases r
  case master d | preMaster d =>
    cases (hds : d = ds)
    exact h
  all_goals exact absurd hds id

def StateDecision.Supported (v : Standpoint) : StateDecision → Prop
  | recommendedSlave parent => ∃ ds, Outdone v parent.parentPortIdentity ds
  | recommendedMaster decision => Announceable v decision.grandmasterDs
  | recommendedPassive => ∃ source ds, Outdone v source ds
  | _ => True

theorem outdone_of_snapshot {e : BestForeignSnapshot} (he : e.Told v)
    (hbetter : LocalDS.isBetterOrBetterByTopology v.own e ≠ .ok (.ok v.own)) :
    ∃ ds source receiver, e = .qualified ds source receiver ∧ Outdone v source ds := by
  rcases LocalDS.isBetter_returns v.own e with h | ⟨ds, source, receiver, rfl, h⟩
  · exact absurd h hbetter
  · exact ⟨ds, source, receiver, rfl, he.1, receiver, he.2, h⟩

/-- A decision rests on what it was taken on. -/
theorem evaluate_supported {portNumber : PortNumber} {eBest eRbest : BestForeignSnapshot}
    {decision : BmcaDecision} (hport : v.Port portNumber) (hbest : eBest.Told v)
    (hrbest : eRbest.Told v)
    (h : BestMasterClockAlgorithm.evaluate portNumber v.own eBest eRbest = .ok decision) :
    decision.toStateDecision.Supported v := by
  rcases BestMasterClockAlgorithm.evaluate_cases portNumber v.own eBest eRbest with
    ⟨-, -, heq⟩ | ⟨-, hlocal, heq⟩ | ⟨-, -, heq⟩ | ⟨ds, source, receiver, -, rfl, hlocal, hcases⟩
  · cases heq.symm.trans h
    exact .inl rfl
  · cases heq.symm.trans h
    obtain ⟨ds, source, receiver, -, hout⟩ := outdone_of_snapshot hrbest hlocal
    exact ⟨source, ds, hout⟩
  · cases heq.symm.trans h
    exact .inl rfl
  · have hout : Outdone v source ds := ⟨hbest.1, receiver, hbest.2, hlocal⟩
    rcases hcases with ⟨-, heq⟩ | ⟨hother, heq | heq⟩
    · cases heq.symm.trans h
      exact ⟨ds, hout⟩
    · cases heq.symm.trans h
      exact ⟨source, ds, hout⟩
    · cases heq.symm.trans h
      exact .inr ⟨⟨_, _, hbest.2.2, hport, hother⟩, source, ds, hout, rfl⟩

theorem Role.Supported.next {r r' : Role} {d : StateDecision} (hr : r.Supported v)
    (hd : d.Supported v) (h : r.next v.own d = some r') : r'.Supported v := by
  cases r <;> cases d <;> cases h
  all_goals first
    | trivial
    | exact hr
    | exact hd
    | exact .inl rfl

namespace BestForeignRecord

variable [ForeignClockRecords R]

/-- The records hold what the clock was told, one record of each source. -/
structure Told (v : Standpoint) (b : BestForeignRecord R) : Prop where
  unique : Keyed.Unique ForeignClockRecord.sourcePortIdentity
    (ForeignClockRecords.iter b.foreignClockRecords)
  told : ∀ r ∈ ForeignClockRecords.iter b.foreignClockRecords,
    v.Told r.sourcePortIdentity r.foreignClockDs

theorem told_empty {b : BestForeignRecord R}
    (h : ForeignClockRecords.iter b.foreignClockRecords = []) : b.Told v := by
  constructor
  · rw [h]
    exact Keyed.unique_nil
  · rw [h]
    intro r hr
    cases hr

theorem Told.snapshot {b : BestForeignRecord R} {e : BestForeignSnapshot} (hb : b.Told v)
    (hreceiver : v.IsPort b.receiver) (h : b.snapshot = .ok e) :
    e.Told v := by
  cases e with
  | empty => trivial
  | qualified ds source receiver =>
    obtain ⟨rfl, r, hr, rfl, -, rfl⟩ := snapshot_qualified h
    exact ⟨hb.told r hr, hreceiver⟩

variable [FaithfulForeignClockRecords R]

theorem Told.consider {b b' : BestForeignRecord R} {source : PortIdentity} {ds : ClockDS}
    {interval : LogInterval} {now : Instant} (hb : b.Told v) (htold : v.Told source ds)
    (h : b.consider source ds interval now = .ok b') : b'.Told v := by
  obtain ⟨records, hremember, hret⟩ := Checked.bind_eq_ok.mp h
  cases hret
  have hpruned := FaithfulForeignClockRecords.iter_pruneStale b.foreignClockRecords now
  have hkept : Kept ((ForeignClockRecords.iter b.foreignClockRecords).filter
      fun r => !r.isStale now) (.new source ds interval now) (ForeignClockRecords.iter records) := by
    rw [← hpruned]
    refine FaithfulForeignClockRecords.kept _ _ _ ?_ hremember
    rw [hpruned]
    exact hb.unique.filter _
  refine ⟨hkept.unique, fun r hr => ?_⟩
  rcases hkept.mem r hr with ⟨hold, -⟩ | rfl | ⟨old, -, hsame, rfl⟩
  · exact hb.told r (List.mem_filter.mp hold).1
  · exact htold
  · change v.Told old.sourcePortIdentity ds
    rw [hsame]
    exact htold

end BestForeignRecord

variable [F64 F] [ForeignClockRecords R]

theorem waiting_dispatch {env : Env} {s : PortState F R} {input : PortInput}
    (hannounce : ¬ input.IsAnnounce) (hdecision : ¬ input.IsDecision)
    (htracking : s.tracking = none) (hmaster : ∀ ds, s.role ≠ .master ds) :
    ∃ d, s.dispatch env input = pure (s, d) := by
  cases s
  case slave p | uncalibrated p => cases htracking
  case master p => exact absurd rfl (hmaster _)
  all_goals
    cases input with
    | event source msg ts => exact ⟨none, by cases msg <;> rfl⟩
    | general source msg now =>
      cases msg
      case announce msg => exact absurd trivial hannounce
      all_goals exact ⟨none, rfl⟩
    | system msg =>
      cases msg
      case stateDecisionEvent snapshot => exact absurd trivial hdecision
      case timestamp msg =>
        obtain ⟨eventMsg, egress⟩ := msg
        exact ⟨none, by cases eventMsg <;> rfl⟩
      all_goals exact ⟨_, rfl⟩

theorem dispatch_bmca {env : Env} {s s' : PortState F R} {input : PortInput}
    {d : Option StateDecision} {l : List (Effect F)} (hannounce : ¬ input.IsAnnounce)
    (hdecision : ¬ input.IsDecision) (h : (s.dispatch env input).Returns (s', d) l) :
    s'.parts.bmca = s.parts.bmca := by
  rcases s.tracking_cases with ⟨k, p, rfl⟩ | huntracked
  · obtain ⟨p', rfl, hp'⟩ := TrackingRole.dispatch_returns h
    have hbmca : p'.bmca = p.bmca := by
      cases ParentTrackingPort.handle_cases hp' with
      | recorded => rfl
      | sampled _ _ hfed =>
        obtain ⟨⟨servo, rfl⟩, -⟩ := ParentTrackingPort.feedServo_returns hfed
        rfl
      | announced => exact absurd trivial hannounce
      | requested => rfl
      | expired => rfl
      | decided => exact absurd trivial hdecision
    cases k <;> exact congrArg (fun b : ParentTrackingBmca R => b.bmca) hbmca
  · by_cases hmaster : ∃ ds, s.role = .master ds
    · obtain ⟨ds, hrole⟩ := hmaster
      cases s
      case master p =>
        obtain ⟨p', rfl, hp'⟩ := MasterPort.dispatch_cases h
        cases hp' with
        | heard => exact absurd trivial hannounce
        | decided => exact absurd trivial hdecision
        | announced =>
          unfold MasterPort.afterAnnounce
          split <;> rfl
        | synced =>
          unfold MasterPort.afterSync
          split <;> rfl
        | _ => rfl
      all_goals cases hrole
    · have hwaiting : ∃ x, s.dispatch env input = pure (s, x) :=
        waiting_dispatch hannounce hdecision (PortState.tracking_eq_none huntracked)
          (not_exists.mp hmaster)
      obtain ⟨x, hx⟩ := hwaiting
      rw [hx] at h
      cases (Act.returns_pure.mp h).1
      rfl

/-- What a port knows and does rests on what its clock was told. -/
structure PortState.Informed (v : Standpoint) (s : PortState F R) : Prop where
  records : s.parts.bestForeign.Told v
  number : v.Port s.parts.bmca.portNumber
  receiver : v.IsPort s.parts.bestForeign.receiver
  sender : v.IsPort s.handover.port.portIdentity
  d0 : s.parts.bmca.d0 = v.own
  role : s.role.Supported v

/-- A message that rests on what the clock was told, if it is an Announce. -/
def GeneralMessage.Told (v : Standpoint) : GeneralMessage → Prop
  | .announce msg => Announceable v msg.foreignClockDs
  | _ => True

/-- A call that passes on what the clock was told: a report of it, or a message that rests on it and
that a port of the clock signs. -/
def Effect.Told (v : Standpoint) : Effect F → Prop
  | .trigger _ e => e.Told v
  | .sendGeneral msg buf _ => msg.Told v ∧ ∃ domain source,
      v.IsPort source ∧ buf = msg.toWire (.new domain source)
  | _ => True

omit [F64 F] in
/-- The answer to what the clock is told rests on it. -/
theorem Answer.supported {s : PortState F R} {input : PortInput} {l : List (Effect F)}
    {d : StateDecision} (hs : s.Informed v) (hin : input.Told v)
    (h : Answer s input l (some d)) : d.Supported v := by
  generalize hd : some d = answer at h
  cases h with
  | quiet => cases hd
  | @decided snapshot eRbest decision hsnap heval =>
    obtain ⟨gated, hgate, rfl⟩ := Option.map_eq_some_iff.mp hd.symm
    rw [Role.gate_eq hgate]
    rw [hin.1] at heval
    exact evaluate_supported hs.number hin.2 (hs.records.snapshot hs.receiver hsnap) heval
  | expired | initialized | qualified | faultCleared | sendFailed | locked | unlocked =>
    cases hd
    trivial

theorem dispatch_d0 {env : Env} {s s' : PortState F R} {input : PortInput}
    {d : Option StateDecision} {l : List (Effect F)} (hs : s.parts.bmca.d0 = v.own)
    (hin : input.Told v) (hannounce : ¬ input.IsAnnounce)
    (h : (s.dispatch env input).Returns (s', d) l) : s'.parts.bmca.d0 = v.own := by
  by_cases hdecision : input.IsDecision
  · obtain ⟨snapshot, rfl⟩ := hdecision.eq
    obtain ⟨eRbest, decision, -, hd⟩ := dispatch_decision env s snapshot
    cases (h.unique hd).1
    rw [PortState.remember_eq_self (.inr (hs.trans hin.1.symm)), hs]
  · rw [dispatch_bmca hannounce hdecision h, hs]

theorem PortState.Informed.number_step {env : Env} {s s' : PortState F R} {input : PortInput}
    {l : List (Effect F)} (hs : s.Informed v) (h : (s.step env input).Returns s' l) :
    v.Port s'.parts.bmca.portNumber := by
  have hnumber : s'.parts.bmca.portNumber = s.parts.bmca.portNumber :=
    congrArg (fun f : PortFrame F => f.portNumber) (step_frame h)
  rw [hnumber]
  exact hs.number

theorem PortState.Informed.receiver_step {env : Env} {s s' : PortState F R} {input : PortInput}
    {l : List (Effect F)} (hs : s.Informed v) (h : (s.step env input).Returns s' l) :
    v.IsPort s'.parts.bestForeign.receiver := by
  have hreceiver : s'.parts.bestForeign.receiver = s.parts.bestForeign.receiver :=
    congrArg (fun f : PortFrame F => f.receiver) (step_frame h)
  rw [hreceiver]
  exact hs.receiver

theorem PortState.Informed.sender_step {env : Env} {s s' : PortState F R} {input : PortInput}
    {l : List (Effect F)} (hs : s.Informed v) (h : (s.step env input).Returns s' l) :
    v.IsPort s'.handover.port.portIdentity := by
  have hport : s'.handover.port = s.handover.port := congrArg PortFrame.port (step_frame h)
  rw [hport]
  exact hs.sender

variable [FaithfulForeignClockRecords R]

theorem announce_informed {env : Env} {s s' : PortState F R} {source : PortIdentity}
    {msg : AnnounceMessage} {now : Instant} {l : List (Effect F)} (hs : s.Informed v)
    (hin : v.Told source msg.foreignClockDs)
    (h : (s.step env (.general source (.announce msg) now)).Returns s' l) : s'.Informed v := by
  obtain ⟨hrole, hheard⟩ := step_announce h
  refine ⟨?_, hs.number_step h, hs.receiver_step h, hs.sender_step h, ?_, by rw [hrole]; exact hs.role⟩
  · cases hheard with
    | ignored _ hparts _ =>
      rw [hparts]
      exact hs.records
    | considered _ _ _ _ hconsider _ _ _ _ => exact hs.records.consider hin hconsider
  · cases hheard with
    | ignored _ hparts _ => rw [hparts, hs.d0]
    | considered _ _ _ _ _ _ hbmca _ _ => rw [hbmca, hs.d0]

/-- A port that is told what it may be told stays informed by it. -/
theorem step_informed {env : Env} {s s' : PortState F R} {input : PortInput} {l : List (Effect F)}
    (hs : s.Informed v) (hin : input.Told v) (h : (s.step env input).Returns s' l) :
    s'.Informed v := by
  by_cases hannounce : input.IsAnnounce
  · obtain ⟨source, msg, now, rfl⟩ := hannounce.eq
    exact announce_informed hs hin h
  · have hnumber := hs.number_step h
    have hreceiver := hs.receiver_step h
    have hsender := hs.sender_step h
    rw [PortState.step, Act.returns_bind] at h
    obtain ⟨⟨s₁, d⟩, l₁, l₂, hd, hrest, rfl⟩ := h
    have hdispatched := dispatch_returns hd
    have hd0 : s₁.parts.bmca.d0 = v.own := dispatch_d0 hs.d0 hin hannounce hd
    have hrecords : s₁.parts.bestForeign.Told v := by
      rw [hdispatched.records hannounce]
      exact hs.records
    have hrole : s₁.role.Supported v := by
      rw [hdispatched.role]
      exact hs.role
    cases d with
    | none =>
      obtain ⟨rfl, -⟩ := Act.returns_pure.mp hrest
      exact ⟨hrecords, hnumber, hreceiver, hsender, hd0, hrole⟩
    | some decision =>
      obtain ⟨r, hr, hm⟩ := apply_returns hrest
      rw [hd0] at hr
      refine ⟨by rw [hm.bestForeign]; exact hrecords, hnumber, hreceiver, hsender,
        by rw [hm.bmca, hd0], ?_⟩
      rw [hm.role]
      exact hrole.next (hdispatched.answer.supported hs hin) hr

/-- A port passes on nothing but what its clock was told. -/
theorem step_tells {env : Env} {s s' : PortState F R} {input : PortInput} {l : List (Effect F)}
    (hs : s.Informed v) (hin : input.Told v) (h : (s.step env input).Returns s' l) :
    ∀ e ∈ l, e.Told v := by
  have hs' := step_informed hs hin h
  intro e he
  have hperforms := step_only env s input s' l h e he
  cases e with
  | trigger port snapshot =>
    cases step_reported h with
    | silent _ hlog _ => exact absurd trivial (hlog _ he)
    | reported l₁ hbefore hlog hsynced =>
      rw [hlog] at he
      rcases List.mem_append.mp he with he | he
      · exact absurd trivial (hbefore _ he)
      · cases List.mem_singleton.mp he
        exact hs'.records.snapshot hs'.receiver hsynced
  | sendGeneral msg buf result =>
    refine ⟨?_, _, _, hs.sender, (step_answersTo h _ he).general⟩
    cases msg with
    | announce msg =>
      have hrole := hs.role
      rw [show s.role = .master msg.foreignClockDs from hperforms] at hrole
      exact hrole
    | followUp msg => trivial
    | delayResp msg => trivial
  | sendEvent msg buf result => trivial
  | stampEgress msg => trivial
  | servoFeed sample => trivial
  | recordOffsetFromMaster offset => trivial
  | step ts => trivial
  | adjust rate => trivial

end Rptp
