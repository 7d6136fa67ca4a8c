import Rptp.Port.Coherence
import Rptp.Port.Mastering

/-! # The cadence of a master

Whenever a port becomes a master it numbers its Announces and its Syncs from 0 on, and it counts on
as long as it stays one. All the Announces of a stay carry the data set that the port became a master
with.
-/

namespace Rptp

open Machine

variable {F R : Type}

/-- What an Announce says besides the time scale. -/
abbrev Announcement := SequenceId × LogMessageInterval × ClockDS

/-- The Announces that were sent. -/
def announced (l : List (Effect F)) : List Announcement :=
  l.filterMap fun
    | .sendGeneral (.announce msg) _ (.ok _) =>
      some (msg.sequenceId, msg.logMessageInterval, msg.foreignClockDs)
    | _ => none

/-- The two-step Syncs that were sent. -/
def synced (l : List (Effect F)) : List TwoStepSyncMessage :=
  l.filterMap fun
    | .sendEvent (.twoStepSync msg) _ (.ok _) => some msg
    | _ => none

theorem announced_append (l l' : List (Effect F)) : announced (l ++ l') = announced l ++ announced l' :=
  List.filterMap_append

theorem synced_append (l l' : List (Effect F)) : synced (l ++ l') = synced l ++ synced l' :=
  List.filterMap_append

/-- A call with which a master sends neither an Announce nor a Sync. -/
def Effect.OffCadence : Effect F → Prop
  | .sendGeneral (.announce _) _ _ => False
  | .sendEvent (.twoStepSync _) _ _ => False
  | _ => True

theorem Effect.OffCadence.eq_none {e : Effect F} (h : e.OffCadence) :
    announced [e] = [] ∧ synced [e] = [] := by
  cases e with
  | sendEvent msg buf result =>
    cases msg with
    | twoStepSync sync => exact absurd h id
    | oneStepSync sync => exact ⟨rfl, rfl⟩
    | delayReq req => exact ⟨rfl, rfl⟩
  | sendGeneral msg buf result =>
    cases msg with
    | announce msg => exact absurd h id
    | followUp msg => exact ⟨rfl, rfl⟩
    | delayResp msg => exact ⟨rfl, rfl⟩
  | _ => exact ⟨rfl, rfl⟩

theorem offCadence_eq_nil {l : List (Effect F)} (h : ∀ e ∈ l, e.OffCadence) :
    announced l = [] ∧ synced l = [] := by
  induction l with
  | nil => exact ⟨rfl, rfl⟩
  | cons e l ih =>
    obtain ⟨he, he'⟩ := (h e List.mem_cons_self).eq_none
    obtain ⟨hl, hl'⟩ := ih fun e he => h e (List.mem_cons_of_mem _ he)
    rw [← List.singleton_append, announced_append, synced_append, he, he', hl, hl']
    exact ⟨rfl, rfl⟩

theorem offCadence_of_triggers {l : List (Effect F)}
    (h : ∀ e ∈ l, ∃ port snapshot, e = .trigger port snapshot) : announced l = [] ∧ synced l = [] := by
  apply offCadence_eq_nil
  intro e he
  obtain ⟨port, snapshot, rfl⟩ := h e he
  trivial

/-- The `k`th sequence id from 0 on. -/
def SequenceId.nth (k : ℕ) : SequenceId := ⟨.ofNat k⟩

theorem SequenceId.nth_next (k : ℕ) : (nth k).next = nth (k + 1) :=
  congrArg SequenceId.mk (UInt16.ofNat_add k 1).symm

/-- A stay of a port in the master state: what it announces, and how often it has announced it and
sent a Sync so far. -/
structure Stay where
  grandmasterDs : ClockDS
  announces : ℕ
  syncs : ℕ

namespace Stay

/-- The Announces of a stay. -/
def announced (profile : PortProfile F) (stay : Stay) : List Announcement :=
  (List.range stay.announces).map fun k =>
    (.nth k, profile.logAnnounceInterval.logMessageInterval, stay.grandmasterDs)

def synced (profile : PortProfile F) (stay : Stay) : List TwoStepSyncMessage :=
  (List.range stay.syncs).map fun k => ⟨.nth k, profile.logSyncInterval.logMessageInterval⟩

def begin (grandmasterDs : ClockDS) : Stay := ⟨grandmasterDs, 0, 0⟩

end Stay

/-- The master goes on with the stay. -/
structure MasterPort.Keeps (p : MasterPort F R) (profile : PortProfile F) (stay : Stay) : Prop where
  grandmaster : p.bmca.grandmasterDs = stay.grandmasterDs
  announceId : p.announceCycle.sequenceId = .nth stay.announces
  announceInterval : p.announceCycle.logInterval = profile.logAnnounceInterval
  syncId : p.syncCycle.sequenceId = .nth stay.syncs
  syncInterval : p.syncCycle.logInterval = profile.logSyncInterval

theorem PortProfile.master_keeps {profile : PortProfile F} {port : DomainPort}
    {bmca : GrandMasterTrackingBmca R} {p : MasterPort F R}
    (h : .master p = profile.master env port bmca) :
    p.Keeps profile (.begin p.bmca.grandmasterDs) := by
  cases h
  exact ⟨rfl, rfl, rfl, rfl, rfl⟩

/-- The calls add to a stay what the later stay has more than the earlier one. -/
structure Stay.Adds (profile : PortProfile F) (stay stay' : Stay) (l : List (Effect F)) : Prop where
  grandmaster : stay'.grandmasterDs = stay.grandmasterDs
  announces : stay'.announced profile = stay.announced profile ++ Rptp.announced l
  syncs : stay'.synced profile = stay.synced profile ++ Rptp.synced l

namespace Stay.Adds

variable {profile : PortProfile F} {stay stay' : Stay} {l l' : List (Effect F)}

theorem nothing (h : Rptp.announced l = [] ∧ Rptp.synced l = []) : stay.Adds profile stay l :=
  ⟨rfl, by rw [h.1, List.append_nil], by rw [h.2, List.append_nil]⟩

theorem append (h : stay.Adds profile stay' l) (hl' : Rptp.announced l' = [] ∧ Rptp.synced l' = []) :
    stay.Adds profile stay' (l ++ l') := by
  refine ⟨h.grandmaster, ?_, ?_⟩
  · rw [announced_append, hl'.1, List.append_nil, h.announces]
  · rw [synced_append, hl'.2, List.append_nil, h.syncs]

end Stay.Adds

variable [F64 F] [ForeignClockRecords R] {env : Env} {profile : PortProfile F} {stay : Stay}
  {d : Option StateDecision} {l : List (Effect F)}

namespace MasterPort.Keeps

variable {p : MasterPort F R}

omit [F64 F] [ForeignClockRecords R] in
theorem afterAnnounce (hp : p.Keeps profile stay) :
    ∃ stay', (p.afterAnnounce env).Keeps profile stay' ∧ stay.Adds profile stay'
      (p.generalCalls env (.announce (p.announceCycle.announce env p.bmca.grandmasterDs))) := by
  unfold MasterPort.afterAnnounce MasterPort.generalCalls
  cases env.sendResult with
  | error e => exact ⟨stay, hp, .nothing ⟨rfl, rfl⟩⟩
  | ok u =>
    refine ⟨{ stay with announces := stay.announces + 1 }, ⟨hp.grandmaster, ?_,
      hp.announceInterval, hp.syncId, hp.syncInterval⟩, ⟨rfl, ?_, (List.append_nil _).symm⟩⟩
    · exact (congrArg SequenceId.next hp.announceId).trans (SequenceId.nth_next _)
    · have hsent : ∀ buf, announced [(Effect.sendGeneral (.announce
          (p.announceCycle.announce env p.bmca.grandmasterDs)) buf (.ok u) : Effect F)] =
            [(.nth stay.announces, profile.logAnnounceInterval.logMessageInterval,
              stay.grandmasterDs)] := by
        intro buf
        rw [← hp.announceId, ← hp.announceInterval, ← hp.grandmaster]
        rfl
      rw [hsent, Stay.announced, List.range_succ, List.map_append]
      rfl

omit [F64 F] [ForeignClockRecords R] in
theorem afterSync (hp : p.Keeps profile stay) :
    ∃ stay', (p.afterSync env).Keeps profile stay' ∧ stay.Adds profile stay'
      (p.port.eventCalls env (.twoStepSync p.syncCycle.twoStepSync)) := by
  unfold MasterPort.afterSync DomainPort.eventCalls
  cases env.sendResult with
  | error e => exact ⟨stay, hp, .nothing ⟨rfl, rfl⟩⟩
  | ok u =>
    refine ⟨{ stay with syncs := stay.syncs + 1 }, ⟨hp.grandmaster, hp.announceId,
      hp.announceInterval, ?_, hp.syncInterval⟩, ⟨rfl, (List.append_nil _).symm, ?_⟩⟩
    · exact (congrArg SequenceId.next hp.syncId).trans (SequenceId.nth_next _)
    · have hsent : ∀ buf, synced [(Effect.sendEvent (.twoStepSync p.syncCycle.twoStepSync) buf
          (.ok u) : Effect F), .stampEgress (.twoStepSync p.syncCycle.twoStepSync)] =
          [⟨.nth stay.syncs, profile.logSyncInterval.logMessageInterval⟩] := by
        intro buf
        rw [← hp.syncId, ← hp.syncInterval]
        rfl
      rw [hsent, Stay.synced, List.range_succ, List.map_append]
      rfl

omit [F64 F] [ForeignClockRecords R] in
theorem generalCalls_offCadence {msg : GeneralMessage} (hmsg : ∀ announce, msg ≠ .announce announce) :
    announced (p.generalCalls env msg) = [] ∧ synced (p.generalCalls env msg) = [] := by
  apply offCadence_eq_nil
  intro e he
  rw [List.mem_singleton.mp he]
  cases msg with
  | announce msg => exact absurd rfl (hmsg msg)
  | followUp msg => trivial
  | delayResp msg => trivial

/-- A message keeps the stay, or it counts one more. -/
theorem dispatch {s' : PortState F R} {input : PortInput} (hp : p.Keeps profile stay)
    (h : ((PortState.master p).dispatch env input).Returns (s', d) l) :
    ∃ p' stay', s' = .master p' ∧ p'.Keeps profile stay' ∧ stay.Adds profile stay' l := by
  have hrole := (dispatch_returns h).role
  obtain ⟨p', rfl, hp'⟩ := dispatch_cases h
  have hgrandmaster : p'.bmca.grandmasterDs = stay.grandmasterDs :=
    (Role.master.inj hrole).trans hp.grandmaster
  refine ⟨p', ?_⟩
  cases hp' with
  | announced =>
    obtain ⟨stay', hkeeps, hadds⟩ := hp.afterAnnounce
    exact ⟨stay', rfl, hkeeps, hadds⟩
  | synced =>
    obtain ⟨stay', hkeeps, hadds⟩ := hp.afterSync
    exact ⟨stay', rfl, hkeeps, hadds⟩
  | answered => exact ⟨stay, rfl, hp, .nothing (generalCalls_offCadence (by simp))⟩
  | followedUp => exact ⟨stay, rfl, hp, .nothing (generalCalls_offCadence (by simp))⟩
  | heard hfed =>
    obtain ⟨-, -, -, -, -, htriggers⟩ := feedBmca_returns hfed
    exact ⟨stay, rfl, ⟨hgrandmaster, hp.announceId, hp.announceInterval, hp.syncId, hp.syncInterval⟩,
      .nothing (offCadence_of_triggers htriggers)⟩
  | decided => exact ⟨stay, rfl, ⟨hgrandmaster, hp.announceId, hp.announceInterval, hp.syncId,
      hp.syncInterval⟩, .nothing ⟨rfl, rfl⟩⟩
  | expired => exact ⟨stay, rfl, hp, .nothing ⟨rfl, rfl⟩⟩
  | ignored => exact ⟨stay, rfl, hp, .nothing ⟨rfl, rfl⟩⟩

end MasterPort.Keeps

omit [F64 F] [ForeignClockRecords R] in
theorem Role.next_master {ds d0 : ClockDS} {d : StateDecision} {r : Role}
    (h : (Role.master ds).next d0 d = some r) : ∀ ds', r ≠ .master ds' := by
  rintro ds' rfl
  cases d <;> cases h

theorem apply_begins {s : PortState F R} {d : StateDecision} {p : MasterPort F R}
    (h : (s.apply env d).Returns (.master p) l) :
    p.Keeps s.handover.profile (.begin p.bmca.grandmasterDs) := by
  have expired : ∀ {handover : Handover F R},
      (handover.announceReceiptTimeoutExpired env).Returns (.master p) l →
      p.Keeps handover.profile (.begin p.bmca.grandmasterDs) := by
    intro handover hexpired
    obtain ⟨e, -, hmaster⟩ := handover.announceReceiptTimeoutExpired_returns env
    exact PortProfile.master_keeps (hexpired.unique hmaster).1
  cases d with
  | announceReceiptTimeoutExpired =>
    cases s
    case listening | slave | uncalibrated | passive => exact expired h
    all_goals exact absurd h Act.returns_abort
  | qualificationTimeoutExpired =>
    cases s
    case preMaster q =>
      exact PortProfile.master_keeps (Act.returns_pure.mp h).1
    all_goals exact absurd h Act.returns_abort
  | _ =>
    cases s
    all_goals first
      | exact absurd h Act.returns_abort
      | cases (Act.returns_pure.mp h).1

theorem dispatch_offCadence {s s' : PortState F R} {input : PortInput}
    (hs : ∀ ds, s.role ≠ .master ds) (h : (s.dispatch env input).Returns (s', d) l) :
    announced l = [] ∧ synced l = [] := by
  apply offCadence_eq_nil
  intro e he
  have hperforms := dispatch_only env s input (s', d) l h e he
  cases e with
  | sendEvent msg buf result =>
    cases msg with
    | twoStepSync sync =>
      obtain ⟨ds, hds⟩ := hperforms
      exact absurd hds (hs ds)
    | oneStepSync sync => trivial
    | delayReq req => trivial
  | sendGeneral msg buf result =>
    cases msg with
    | announce msg => exact absurd hperforms (hs msg.foreignClockDs)
    | followUp msg => trivial
    | delayResp msg => trivial
  | _ => trivial

theorem MasterPort.Keeps.step {p : MasterPort F R} {s' : PortState F R} {input : PortInput}
    (hp : p.Keeps profile stay) (h : ((PortState.master p).step env input).Returns s' l) :
    ∃ stay', stay.Adds profile stay' l ∧ ∀ p', s' = .master p' → p'.Keeps profile stay' := by
  rw [PortState.step, Act.returns_bind] at h
  obtain ⟨⟨s₁, d⟩, l₁, l₂, hd, hrest, rfl⟩ := h
  obtain ⟨p₁, stay', rfl, hkeeps, hadds⟩ := hp.dispatch hd
  cases d with
  | none =>
    obtain ⟨rfl, rfl⟩ := Act.returns_pure.mp hrest
    refine ⟨stay', hadds.append ⟨rfl, rfl⟩, ?_⟩
    rintro p' ⟨⟩
    exact hkeeps
  | some decision =>
    obtain ⟨r, hr, hmoved⟩ := apply_returns hrest
    refine ⟨stay', hadds.append (offCadence_of_triggers hmoved.triggers), ?_⟩
    rintro p' rfl
    exact absurd hmoved.role.symm (Role.next_master hr _)

/-- A step of any other port sends neither an Announce nor a Sync, and it may begin a stay. -/
theorem step_begins {s s' : PortState F R} {input : PortInput} (hs : ∀ ds, s.role ≠ .master ds)
    (h : (s.step env input).Returns s' l) : (announced l = [] ∧ synced l = []) ∧
      ∀ p', s' = .master p' → p'.Keeps s.handover.profile (.begin p'.bmca.grandmasterDs) := by
  rw [PortState.step, Act.returns_bind] at h
  obtain ⟨⟨s₁, d⟩, l₁, l₂, hd, hrest, rfl⟩ := h
  have hdispatched := dispatch_returns hd
  have hquiet := dispatch_offCadence hs hd
  cases d with
  | none =>
    obtain ⟨rfl, rfl⟩ := Act.returns_pure.mp hrest
    rw [List.append_nil]
    refine ⟨hquiet, ?_⟩
    rintro p' rfl
    exact absurd hdispatched.role.symm (hs _)
  | some decision =>
    obtain ⟨r, -, hmoved⟩ := apply_returns hrest
    have htriggers := offCadence_of_triggers hmoved.triggers
    rw [announced_append, synced_append, hquiet.1, hquiet.2, htriggers.1, htriggers.2]
    refine ⟨⟨rfl, rfl⟩, ?_⟩
    rintro p' rfl
    have hprofile : s₁.handover.profile = s.handover.profile :=
      congrArg PortFrame.profile hdispatched.frame
    rw [← hprofile]
    exact apply_begins hrest

/-- A port and the data sets with which it has become a master. -/
structure StayingPort (F R : Type) where
  port : PortState F R
  entered : List ClockDS

/-- What the port announces if it has become a master. -/
def PortState.entry : PortState F R → PortState F R → List ClockDS
  | .master _, _ => []
  | _, .master p => [p.bmca.grandmasterDs]
  | _, _ => []

omit [F64 F] [ForeignClockRecords R] in
theorem PortState.entry_of_master {s s' : PortState F R} {ds : ClockDS} (hs : s.role = .master ds) :
    s.entry s' = [] := by
  cases s
  case master p => rfl
  all_goals cases hs

omit [F64 F] [ForeignClockRecords R] in
theorem PortState.entry_eq_nil {s s' : PortState F R} (hs' : ∀ p, s' ≠ .master p) :
    s.entry s' = [] := by
  cases s'
  case master p => exact absurd rfl (hs' p)
  all_goals cases s <;> rfl

omit [F64 F] [ForeignClockRecords R] in
theorem PortState.entry_eq {s : PortState F R} {p : MasterPort F R} (hs : ∀ ds, s.role ≠ .master ds) :
    s.entry (.master p) = [p.bmca.grandmasterDs] := by
  cases s
  case master q => exact absurd rfl (hs _)
  all_goals rfl

namespace StayingPort

def step (w : StayingPort F R) (i : Env × PortInput) : Act (Effect F) (StayingPort F R) := do
  let port ← w.port.step i.1 i.2
  pure ⟨port, w.entered ++ w.port.entry port⟩

def run (w : StayingPort F R) (inputs : List (Env × PortInput)) : Act (Effect F) (StayingPort F R) :=
  Act.runAll step w inputs

/-- The stays so far: those that have ended, and the one that the port goes on with. -/
structure Counted (profile : PortProfile F) (l : List (Effect F)) (w : StayingPort F R)
    (stays : List Stay) : Prop where
  profile_eq : w.port.handover.profile = profile
  entered : stays.map Stay.grandmasterDs = w.entered
  announces : announced l = stays.flatMap (Stay.announced profile)
  syncs : synced l = stays.flatMap (Stay.synced profile)
  current : ∀ p, w.port = .master p → ∃ ended stay, stays = ended ++ [stay] ∧ p.Keeps profile stay

namespace Counted

variable {l' : List (Effect F)} {w : StayingPort F R} {stays : List Stay} {port : PortState F R}
  {input : PortInput}

theorem goOn (hw : w.Counted profile l stays) {ds : ClockDS} (hrole : w.port.role = .master ds)
    (h : (w.port.step env input).Returns port l') :
    ∃ stays', Counted profile (l ++ l') ⟨port, w.entered ++ w.port.entry port⟩ stays' := by
  obtain ⟨p, hp⟩ : ∃ p, w.port = .master p := by
    cases hport : w.port
    case master p => exact ⟨p, rfl⟩
    all_goals
      rw [hport] at hrole
      cases hrole
  obtain ⟨ended, stay, rfl, hkeeps⟩ := hw.current p hp
  have hprofile : port.handover.profile = profile :=
    (congrArg PortFrame.profile (step_frame h)).trans hw.profile_eq
  rw [hp] at h
  obtain ⟨stay', hadds, hcurrent⟩ := hkeeps.step h
  refine ⟨ended ++ [stay'], hprofile, ?_, ?_, ?_, fun p' hp' => ⟨ended, stay', rfl, hcurrent p' hp'⟩⟩
  · rw [PortState.entry_of_master hrole, List.append_nil, ← hw.entered, List.map_append,
      List.map_append, List.map_singleton, List.map_singleton, hadds.grandmaster]
  · rw [announced_append, hw.announces, List.flatMap_append, List.flatMap_append,
      List.flatMap_singleton, List.flatMap_singleton, hadds.announces, List.append_assoc]
  · rw [synced_append, hw.syncs, List.flatMap_append, List.flatMap_append,
      List.flatMap_singleton, List.flatMap_singleton, hadds.syncs, List.append_assoc]

theorem enter (hw : w.Counted profile l stays) (hs : ∀ ds, w.port.role ≠ .master ds)
    (h : (w.port.step env input).Returns port l') :
    ∃ stays', Counted profile (l ++ l') ⟨port, w.entered ++ w.port.entry port⟩ stays' := by
  have hprofile : port.handover.profile = profile :=
    (congrArg PortFrame.profile (step_frame h)).trans hw.profile_eq
  obtain ⟨⟨hannounced, hsynced⟩, hbegins⟩ := step_begins hs h
  rw [hw.profile_eq] at hbegins
  by_cases hport : ∃ p, port = .master p
  · obtain ⟨p, rfl⟩ := hport
    refine ⟨stays ++ [.begin p.bmca.grandmasterDs], hprofile, ?_, ?_, ?_, ?_⟩
    · rw [PortState.entry_eq hs, ← hw.entered, List.map_append]
      rfl
    · rw [announced_append, hw.announces, hannounced, List.flatMap_append]
      rfl
    · rw [synced_append, hw.syncs, hsynced, List.flatMap_append]
      rfl
    · rintro p' ⟨⟩
      exact ⟨stays, _, rfl, hbegins p rfl⟩
  · refine ⟨stays, hprofile, ?_, ?_, ?_, fun p hp => absurd ⟨p, hp⟩ hport⟩
    · rw [PortState.entry_eq_nil (not_exists.mp hport), List.append_nil, hw.entered]
    · rw [announced_append, hannounced, List.append_nil, hw.announces]
    · rw [synced_append, hsynced, List.append_nil, hw.syncs]

theorem step (hw : w.Counted profile l stays) {i : Env × PortInput} {w' : StayingPort F R}
    (h : (w.step i).Returns w' l') : ∃ stays', w'.Counted profile (l ++ l') stays' := by
  obtain ⟨port, hstep, rfl⟩ := Act.returns_bind_pure.mp h
  by_cases hmaster : ∃ ds, w.port.role = .master ds
  · obtain ⟨ds, hrole⟩ := hmaster
    exact hw.goOn hrole hstep
  · exact hw.enter (not_exists.mp hmaster) hstep

end Counted

end StayingPort

/-- In every run of a port, the Announces and the Syncs that it sends are those of its stays in the
master state. Each stay numbers its Announces and its Syncs from 0 on, at the intervals of the profile,
and announces one data set. -/
theorem cadence_of_stays (s : PortState F R) (hs : ∀ p, s ≠ .master p)
    (inputs : List (Env × PortInput)) (w : StayingPort F R) (l : List (Effect F))
    (h : (StayingPort.run ⟨s, []⟩ inputs).Returns w l) :
    ∃ stays : List Stay, stays.map Stay.grandmasterDs = w.entered ∧
      announced l = stays.flatMap (Stay.announced s.handover.profile) ∧
      synced l = stays.flatMap (Stay.synced s.handover.profile) := by
  have hstart : StayingPort.Counted s.handover.profile [] ⟨s, []⟩ [] :=
    ⟨rfl, rfl, rfl, rfl, fun p hp => absurd hp (hs p)⟩
  obtain ⟨stays, hcounted⟩ := Act.runAll_log
    (P := fun l w => ∃ stays, StayingPort.Counted s.handover.profile l w stays) ⟨[], hstart⟩
    (fun _ _ _ _ _ ⟨_, hw⟩ hstep => hw.step hstep) h
  exact ⟨stays, hcounted.entered, hcounted.announces, hcounted.syncs⟩

/-- A port of the first clock that is not initialized. -/
def firstInitializing : PortState ℚ ForeignClockRecordsVec :=
  PortProfile.default.initializing ⟨⟨(defaultClock 1).identity, ⟨1⟩⟩, ⟨0⟩⟩
    ⟨⟨defaultClock 1, ⟨1⟩⟩, ⟨⟨(defaultClock 1).identity, ⟨1⟩⟩, .new⟩, ⟨.empty, ⟨1⟩⟩⟩

def calmly (msg : SystemMessage) : Env × PortInput := (.calm (.fromSecs 0), .system msg)

/-- A send of the second stay follows one of the first stay that was refused. -/
def twoStays : List (Env × PortInput) :=
  [calmly .initialized, calmly .announceReceiptTimeout, calmly .announceSendTimeout,
    calmly .announceSendTimeout, calmly .syncTimeout,
    (⟨.fromSecs 0, .ptp, .error ⟨⟩⟩, .system .syncTimeout), calmly .faultCleared, calmly .initialized,
    calmly .announceReceiptTimeout, calmly .announceSendTimeout]

/-- The second stay begins with 0 again. -/
theorem cadence_of_two_stays :
    ∃ (w : StayingPort ℚ ForeignClockRecordsVec) (l : List (Effect ℚ)) (stays : List Stay),
      (StayingPort.run ⟨firstInitializing, []⟩ twoStays).Returns w l ∧
      (announced l).map Prod.fst = [⟨0⟩, ⟨1⟩, ⟨0⟩] ∧ w.entered = [defaultClock 1, defaultClock 1] ∧
      stays.map Stay.grandmasterDs = w.entered ∧
      announced l = stays.flatMap (Stay.announced firstInitializing.handover.profile) ∧
      synced l = stays.flatMap (Stay.synced firstInitializing.handover.profile) := by
  have hrun : ∃ (w : StayingPort ℚ ForeignClockRecordsVec) (l : List (Effect ℚ)),
      (StayingPort.run ⟨firstInitializing, []⟩ twoStays).Returns w l ∧
      (announced l).map Prod.fst = [⟨0⟩, ⟨1⟩, ⟨0⟩] ∧ w.entered = [defaultClock 1, defaultClock 1] :=
    ⟨_, _, rfl, rfl, rfl⟩
  obtain ⟨w, l, hrun, hids, hentered⟩ := hrun
  obtain ⟨stays, hstays⟩ :=
    cadence_of_stays firstInitializing (fun p hp => by cases hp) twoStays w l hrun
  exact ⟨w, l, stays, hrun, hids, hentered, hstays⟩

end Rptp
