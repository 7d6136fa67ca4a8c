import Rptp.Port.Multicast
import Rptp.Port.Provenance
import Rptp.Port.Samples

/-! # How often a Sync is fed to the servo

A one-step Sync is fed when it arrives and a two-step Sync when its FollowUp does. The fragments stay
after that, so that another FollowUp feeds the latest Sync again. A Sync is fed at most once exactly
when no FollowUp completes a Sync that has been fed before.
-/

namespace Rptp

open Machine

variable {F R : Type}

/-- A trace in which each message is labelled by its number, and the numbers of the Sync messages
that were fed to the servo. -/
structure SyncTrace (F R : Type) where
  traced : Traced F R ℕ
  count : ℕ
  fed : List ℕ

/-- The number of the latest Sync. -/
def syncLabel (calls : List (Recording × ℕ)) : Option ℕ :=
  (latestLabelled Recording.sync? calls).map Prod.snd

theorem mem_of_syncLabel {calls : List (Recording × ℕ)} {label : ℕ}
    (h : syncLabel calls = some label) : ∃ c ∈ calls, c.2 = label := by
  obtain ⟨⟨sync, taken⟩, hlatest, rfl⟩ := Option.map_eq_some_iff.mp h
  obtain ⟨c, hc, -, hlabel⟩ := mem_of_latestLabelled hlatest
  exact ⟨c, hc, hlabel⟩

theorem syncLabel_of_complete {calls : List (Recording × ℕ)} {ingress origin : TimeStamp}
    (h : SyncComplete (calls.map Prod.fst) ingress origin) : ∃ label, syncLabel calls = some label := by
  have hsome : ∃ sync, latest Recording.sync? (calls.map Prod.fst) = some sync := by
    cases h with
    | oneStep hsync => exact ⟨_, hsync⟩
    | twoStep hsync => exact ⟨_, hsync⟩
  obtain ⟨sync, hsync⟩ := hsome
  rw [← map_fst_latestLabelled] at hsync
  obtain ⟨labelled, hlabelled, -⟩ := Option.map_eq_some_iff.mp hsync
  exact ⟨labelled.2, by rw [syncLabel, hlabelled, Option.map_some]⟩

theorem delayComplete_followUp {calls : List Recording} {followUp : FollowUpMessage}
    {receipt egress : TimeStamp} :
    DelayComplete (calls ++ [.followUp followUp]) receipt egress ↔
      DelayComplete calls receipt egress := by
  have hrequest : latest Recording.delayRequest? (calls ++ [.followUp followUp]) =
      latest Recording.delayRequest? calls := latest_append _ _ _
  have hresponse : latest Recording.delayResponse? (calls ++ [.followUp followUp]) =
      latest Recording.delayResponse? calls := latest_append _ _ _
  constructor
  · rintro ⟨hreq, hresp, hid⟩
    exact .answered (hrequest ▸ hreq) (hresponse ▸ hresp) hid
  · rintro ⟨hreq, hresp, hid⟩
    exact .answered (hrequest.trans hreq) (hresponse.trans hresp) hid

namespace SyncTrace

/-- A FollowUp of the parent completes the latest Sync once more. The Sync was fed before, it is
one-step or has the sequence id of the FollowUp, and the latest DelayReq has its answer. -/
structure Refeeds (w : SyncTrace F R) (input : PortInput) : Prop where
  followUp : ∃ source followUp now, input = .general source (.followUp followUp) now ∧
    w.traced.port.parent = some ⟨source⟩
  fedBefore : ∃ label ∈ w.fed, syncLabel w.traced.calls = some label
  sync : ∃ ingress origin, SyncComplete ((w.traced.recorded input w.count).map Prod.fst) ingress origin
  delay : ∃ receipt egress, DelayComplete (w.traced.calls.map Prod.fst) receipt egress

/-- Every sample that a step feeds is counted for the latest Sync. -/
def after (w : SyncTrace F R) (port : PortState F R) (input : PortInput) (l : List (Effect F)) :
    SyncTrace F R :=
  ⟨w.traced.after port input w.count, w.count + 1,
    w.fed ++ (feeds l).filterMap fun _ => syncLabel (w.traced.recorded input w.count)⟩

variable [F64 F] [ForeignClockRecords R]

def step (w : SyncTrace F R) (i : Env × PortInput) : Act (Effect F) (SyncTrace F R) := do
  let (port, calls) ← Act.observe (w.traced.port.step i.1 i.2)
  pure (w.after port i.2 calls)

def run (w : SyncTrace F R) (inputs : List (Env × PortInput)) : Act (Effect F) (SyncTrace F R) :=
  Act.runAll step w inputs

theorem step_returns {w w' : SyncTrace F R} {i : Env × PortInput} {l : List (Effect F)} :
    (w.step i).Returns w' l ↔
      ∃ port, (w.traced.port.step i.1 i.2).Returns port l ∧ w' = w.after port i.2 l :=
  Act.returns_observe_pure

theorem run_of_port {w : SyncTrace F R} {s' : PortState F R} {inputs : List (Env × PortInput)}
    {l : List (Effect F)} (h : (w.traced.port.run inputs).Returns s' l) :
    ∃ w', (w.run inputs).Returns w' l ∧ w'.traced.port = s' := by
  rw [← List.map_id inputs] at h
  refine Act.runAll_ghost (fun t : SyncTrace F R => t.traced.port) id ?_ h
  intro w i port l hstep
  exact ⟨w.after port i.2 l, step_returns.mpr ⟨port, hstep, rfl⟩, rfl⟩

/-- The mechanism holds the trace, and all numbers are of the past. -/
structure Counted (w : SyncTrace F R) : Prop where
  holds : w.traced.Holds
  calls : ∀ c ∈ w.traced.calls, c.2 < w.count
  fed : ∀ label ∈ w.fed, label < w.count

omit [F64 F] [ForeignClockRecords R] in
theorem Counted.recorded {w : SyncTrace F R} (hw : w.Counted) (input : PortInput) :
    ∀ c ∈ w.traced.recorded input w.count, c.2 < w.count + 1 := by
  intro c hc
  rcases Traced.mem_recorded hc with hc | ⟨-, -, -, hlabel⟩
  · exact Nat.lt_succ_of_lt (hw.calls c hc)
  · rw [hlabel]
    exact Nat.lt_succ_self _

theorem Counted.step {w w' : SyncTrace F R} {i : Env × PortInput} {l : List (Effect F)}
    (hw : w.Counted) (h : (w.step i).Returns w' l) : w'.Counted := by
  obtain ⟨port, hstep, rfl⟩ := step_returns.mp h
  refine ⟨hw.holds.step hstep, ?_, ?_⟩
  · intro c hc
    change c ∈ (if port.parent = w.traced.port.parent then _ else _) at hc
    split_ifs at hc
    · exact hw.recorded i.2 c hc
    · cases hc
  · intro label hlabel
    rcases List.mem_append.mp hlabel with hlabel | hlabel
    · exact Nat.lt_succ_of_lt (hw.fed label hlabel)
    · obtain ⟨sample, -, hlabel⟩ := List.mem_filterMap.mp hlabel
      obtain ⟨c, hc, rfl⟩ := mem_of_syncLabel hlabel
      exact hw.recorded i.2 c hc

theorem nodup_of_feeds_nil {w w' : SyncTrace F R} {i : Env × PortInput} {l : List (Effect F)}
    (h : (w.step i).Returns w' l) (hl : feeds l = []) (hi : ¬ w.Refeeds i.2) :
    w'.fed.Nodup ↔ w.fed.Nodup ∧ ¬ w.Refeeds i.2 := by
  obtain ⟨port, -, rfl⟩ := step_returns.mp h
  rw [after, hl, List.filterMap_nil, List.append_nil]
  exact (and_iff_left hi).symm

theorem nodup_of_feeds {w w' : SyncTrace F R} {i : Env × PortInput} {l : List (Effect F)}
    {sample : ServoSample} {label : ℕ} (h : (w.step i).Returns w' l) (hl : feeds l = [sample])
    (hlabel : syncLabel (w.traced.recorded i.2 w.count) = some label)
    (hi : label ∈ w.fed ↔ w.Refeeds i.2) :
    w'.fed.Nodup ↔ w.fed.Nodup ∧ ¬ w.Refeeds i.2 := by
  obtain ⟨port, -, rfl⟩ := step_returns.mp h
  have hone : [sample].filterMap (fun _ => some label) = [label] := rfl
  rw [after, hl, hlabel, hone, ← hi, ← List.concat_eq_append, List.nodup_concat]
  exact and_comm

theorem step_oneStepSync {w w' : SyncTrace F R} {env : Env} {source : PortIdentity}
    {sync : OneStepSyncMessage} {ts : TimeStamp} {l : List (Effect F)}
    {p : ParentTrackingPort F R} (hw : w.Counted) (hp : w.traced.port.tracking = some p)
    (hparent : PortInput.Samples p.bmca.parentPortIdentity (.event source (.oneStepSync sync) ts))
    (h : (w.step (env, .event source (.oneStepSync sync) ts)).Returns w' l) :
    w'.fed.Nodup ↔ w.fed.Nodup ∧ ¬ w.Refeeds (.event source (.oneStepSync sync) ts) := by
  have hother : ¬ w.Refeeds (.event source (.oneStepSync sync) ts) := by
    intro hre
    obtain ⟨_, _, _, hinput, -⟩ := hre.followUp
    cases hinput
  obtain ⟨port, hstep, -⟩ := step_returns.mp h
  obtain ⟨taken, -, hfeeds⟩ := step_samples hp hparent hstep
  cases taken with
  | none => exact nodup_of_feeds_nil h hfeeds hother
  | some sample =>
    have hcall : PortInput.recording p.bmca.parentPortIdentity (.event source (.oneStepSync sync) ts) =
        some (.oneStepSync sync ts) := if_pos hparent
    have hlabel : syncLabel (w.traced.recorded (.event source (.oneStepSync sync) ts) w.count) =
        some w.count := by
      rw [Traced.recorded_some hp hcall, syncLabel, latestLabelled_append]
      rfl
    have hnew : w.count ∉ w.fed := fun hmem => Nat.lt_irrefl _ (hw.fed _ hmem)
    exact nodup_of_feeds h hfeeds hlabel (iff_of_false hnew hother)

/-- A FollowUp feeds the latest Sync, which is the only one that can be fed again. -/
theorem step_followUp {w w' : SyncTrace F R} {env : Env} {source : PortIdentity}
    {followUp : FollowUpMessage} {now : Instant} {l : List (Effect F)}
    {p : ParentTrackingPort F R} (hw : w.Counted) (hp : w.traced.port.tracking = some p)
    (hparent : PortInput.Samples p.bmca.parentPortIdentity (.general source (.followUp followUp) now))
    (h : (w.step (env, .general source (.followUp followUp) now)).Returns w' l) :
    w'.fed.Nodup ↔ w.fed.Nodup ∧ ¬ w.Refeeds (.general source (.followUp followUp) now) := by
  have hcall : PortInput.recording p.bmca.parentPortIdentity (.general source (.followUp followUp) now) =
      some (.followUp followUp) := if_pos hparent
  have hrecorded := Traced.recorded_some hp hcall w.count
  have hsame : syncLabel (w.traced.recorded (.general source (.followUp followUp) now) w.count) =
      syncLabel w.traced.calls := by
    rw [hrecorded, syncLabel, latestLabelled_append]
    rfl
  have hdelay : ∀ receipt egress, DelayComplete
      ((w.traced.recorded (.general source (.followUp followUp) now) w.count).map Prod.fst)
        receipt egress ↔ DelayComplete (w.traced.calls.map Prod.fst) receipt egress := by
    intro receipt egress
    rw [hrecorded, List.map_append]
    exact delayComplete_followUp
  obtain ⟨port, hstep, -⟩ := step_returns.mp h
  obtain ⟨taken, htaken, hfeeds⟩ := step_samples hp hparent hstep
  obtain ⟨r, hr, hcomplete, -⟩ := (hw.holds.record hp _ w.count).sample
  cases htaken.symm.trans hr
  cases taken with
  | none =>
    refine nodup_of_feeds_nil h hfeeds fun hre => ?_
    obtain ⟨receipt, egress, hd⟩ := hre.delay
    cases hcomplete.mpr ⟨hre.sync, receipt, egress, (hdelay receipt egress).mpr hd⟩
  | some sample =>
    obtain ⟨⟨ingress, origin, hsync⟩, receipt, egress, hd⟩ := hcomplete.mp rfl
    obtain ⟨label, hlabel⟩ := syncLabel_of_complete hsync
    refine nodup_of_feeds h hfeeds hlabel ?_
    rw [hsame] at hlabel
    constructor
    · intro hmem
      refine ⟨⟨source, followUp, now, rfl, ?_⟩, ⟨label, hmem, hlabel⟩, ⟨ingress, origin, hsync⟩,
        receipt, egress, (hdelay receipt egress).mp hd⟩
      have heq : p.bmca.parentPortIdentity.parentPortIdentity = source := beq_iff_eq.mp hparent
      rw [PortState.parent_of_tracking hp, ← heq]
    · intro hre
      obtain ⟨label', hmem, hlabel'⟩ := hre.fedBefore
      rw [hlabel] at hlabel'
      cases hlabel'
      exact hmem

theorem step_other {w w' : SyncTrace F R} {i : Env × PortInput} {l : List (Effect F)}
    (hin : ∀ p, w.traced.port.tracking = some p → ¬ i.2.Samples p.bmca.parentPortIdentity)
    (h : (w.step i).Returns w' l) : w'.fed.Nodup ↔ w.fed.Nodup ∧ ¬ w.Refeeds i.2 := by
  obtain ⟨port, hstep, -⟩ := step_returns.mp h
  refine nodup_of_feeds_nil h (step_feeds_nil hin hstep) fun hre => ?_
  obtain ⟨source, followUp, now, hinput, hparent⟩ := hre.followUp
  obtain ⟨p, hp, heq⟩ := PortState.tracking_of_parent hparent
  apply hin p hp
  rw [hinput, heq]
  exact beq_self_eq_true source

/-- The only step that feeds a Sync twice is one that completes the latest Sync once more. -/
theorem step_nodup {w w' : SyncTrace F R} {i : Env × PortInput} {l : List (Effect F)}
    (hw : w.Counted) (h : (w.step i).Returns w' l) :
    w'.fed.Nodup ↔ w.fed.Nodup ∧ ¬ w.Refeeds i.2 := by
  by_cases hin : ∃ p, w.traced.port.tracking = some p ∧ i.2.Samples p.bmca.parentPortIdentity
  · obtain ⟨p, hp, hsamples⟩ := hin
    obtain ⟨env, input⟩ := i
    cases input with
    | event source msg ts =>
      cases msg with
      | delayReq req => exact absurd hsamples id
      | twoStepSync sync => exact absurd hsamples id
      | oneStepSync sync => exact step_oneStepSync hw hp hsamples h
    | general source msg now =>
      cases msg with
      | announce msg => exact absurd hsamples id
      | delayResp resp => exact absurd hsamples id
      | followUp followUp => exact step_followUp hw hp hsamples h
    | system msg => exact absurd hsamples id
  · exact step_other (fun p hp hsamples => hin ⟨p, hp, hsamples⟩) h

/-- No Sync is fed twice in a run exactly when no step completes a Sync once more. -/
theorem run_nodup {w w' : SyncTrace F R} {inputs : List (Env × PortInput)} {l : List (Effect F)}
    (hw : w.Counted) (h : (w.run inputs).Returns w' l) :
    w'.fed.Nodup ↔ w.fed.Nodup ∧ Act.Along step (fun w i => ¬ w.Refeeds i.2) w inputs := by
  induction inputs generalizing w l with
  | nil =>
    obtain ⟨rfl, -⟩ := Act.returns_pure.mp h
    exact (and_iff_left trivial).symm
  | cons i inputs ih =>
    obtain ⟨w₁, l₁, l₂, hstep, hrun, -⟩ := Act.returns_runAll_cons.mp h
    rw [ih (hw.step hstep) hrun, step_nodup hw hstep, and_assoc, Act.along_cons_iff hstep]

theorem step_fed_length {w w' : SyncTrace F R} {i : Env × PortInput} {l : List (Effect F)}
    (hw : w.Counted) (h : (w.step i).Returns w' l) :
    w'.fed.length = w.fed.length + (feeds l).length := by
  obtain ⟨port, hstep, rfl⟩ := step_returns.mp h
  rw [after, List.length_append, Nat.add_left_cancel_iff]
  apply List.filterMap_length_eq_length.mpr
  intro sample hsample
  obtain ⟨-, m, hm, htaken⟩ := hw.holds.fed hstep w.count (mem_feeds.mp hsample)
  obtain ⟨r, hr, -, htimes⟩ := hm.sample
  cases hr.symm.trans htaken
  obtain ⟨_, _, _, _, hsync, -⟩ := htimes sample rfl
  obtain ⟨label, hlabel⟩ := syncLabel_of_complete hsync
  rw [hlabel]
  rfl

theorem run_fed_length {w w' : SyncTrace F R} {inputs : List (Env × PortInput)}
    {l : List (Effect F)} (hw : w.Counted) (h : (w.run inputs).Returns w' l) :
    w'.fed.length = w.fed.length + (feeds l).length := by
  induction inputs generalizing w l with
  | nil =>
    obtain ⟨rfl, rfl⟩ := Act.returns_pure.mp h
    rfl
  | cons i inputs ih =>
    obtain ⟨w₁, l₁, l₂, hstep, hrun, rfl⟩ := Act.returns_runAll_cons.mp h
    rw [ih (hw.step hstep) hrun, step_fed_length hw hstep, feeds_append, List.length_append,
      Nat.add_assoc]

end SyncTrace

section Once

variable [F64 F] [ForeignClockRecords R]

/-- A trace of a port that has recorded nothing. -/
def SyncTrace.start (s : PortState F R) : SyncTrace F R := ⟨⟨s, []⟩, 0, []⟩

omit [F64 F] [ForeignClockRecords R] in
theorem SyncTrace.counted_start {s : PortState F R}
    (h : ∀ p, s.tracking = some p → ∃ cycle, p.delayMechanism = .new cycle) :
    (SyncTrace.start s).Counted := by
  refine ⟨Traced.holds_fresh h, ?_, ?_⟩
  · intro c hc
    cases hc
  · intro label hlabel
    cases hlabel

/-- In every run, each sample that is fed is counted for one Sync, and no Sync is counted twice
exactly when no FollowUp of the parent completes a Sync that was fed before. -/
theorem sync_fed_once {s s' : PortState F R} {inputs : List (Env × PortInput)}
    {l : List (Effect F)}
    (hfresh : ∀ p, s.tracking = some p → ∃ cycle, p.delayMechanism = .new cycle)
    (h : (s.run inputs).Returns s' l) :
    ∃ w, ((SyncTrace.start s).run inputs).Returns w l ∧ w.traced.port = s' ∧
      w.fed.length = (feeds l).length ∧
      (w.fed.Nodup ↔ Act.Along SyncTrace.step (fun w i => ¬ w.Refeeds i.2) (.start s) inputs) := by
  have hstart := SyncTrace.counted_start hfresh
  obtain ⟨w, hw, hport⟩ := SyncTrace.run_of_port (w := .start s) h
  refine ⟨w, hw, hport, ?_, ?_⟩
  · rw [SyncTrace.run_fed_length hstart hw]
    exact Nat.zero_add _
  · rw [SyncTrace.run_nodup hstart hw]
    exact and_iff_right List.nodup_nil

end Once

section Repeated

/-- A two-step Sync of the first clock at 11 s. -/
def twoStepInput : Env × PortInput :=
  (.calm (.fromSecs 2), .event ⟨(defaultClock 1).identity, ⟨1⟩⟩ (.twoStepSync ⟨⟨7⟩, ⟨0⟩⟩) (stampOf 11))

/-- Its FollowUp. -/
def followUpInput : Env × PortInput :=
  (.calm (.fromSecs 2), .general ⟨(defaultClock 1).identity, ⟨1⟩⟩
    (.followUp ⟨⟨7⟩, ⟨0⟩, stampOf 11⟩) (.fromSecs 2))

/-- A two-step Sync, then a one-step Sync, after the delay has been measured. -/
def syncInputs : List (Env × PortInput) :=
  delayInputs ++ [responseTo (defaultClock 2) (stampOf 10), twoStepInput, followUpInput, syncInput]

/-- The FollowUp arrives once more after each Sync has been fed. -/
def repeatedInputs : List (Env × PortInput) :=
  delayInputs ++ [responseTo (defaultClock 2) (stampOf 10), twoStepInput, followUpInput,
    followUpInput, syncInput, followUpInput]

/-- Each FollowUp that arrives once more feeds a Sync for the second time. -/
theorem sync_fed_twice :
    ∃ w l, ((SyncTrace.start trackingPort).run repeatedInputs).Returns w l ∧ w.fed = [3, 3, 6, 6] ∧
      ¬ w.fed.Nodup := by
  have hrun : ∃ w l, ((SyncTrace.start trackingPort).run repeatedInputs).Returns w l ∧
      w.fed = [3, 3, 6, 6] := ⟨_, _, rfl, rfl⟩
  obtain ⟨w, l, hw, hfed⟩ := hrun
  refine ⟨w, l, hw, hfed, ?_⟩
  rw [hfed]
  decide

/-- Without them each Sync is fed once, and no step completes one again. -/
theorem sync_fed_once_each :
    (∀ p, trackingPort.tracking = some p → ∃ cycle, p.delayMechanism = .new cycle) ∧
      ∃ s' l w, (trackingPort.run syncInputs).Returns s' l ∧
        ((SyncTrace.start trackingPort).run syncInputs).Returns w l ∧ w.fed = [3, 5] ∧
        w.fed.length = (feeds l).length ∧ w.fed.Nodup ∧
        Act.Along SyncTrace.step (fun w i => ¬ w.Refeeds i.2) (.start trackingPort) syncInputs := by
  have hrun : ∃ s' l w, (trackingPort.run syncInputs).Returns s' l ∧
      ((SyncTrace.start trackingPort).run syncInputs).Returns w l ∧ w.fed = [3, 5] :=
    ⟨_, _, _, rfl, rfl, rfl⟩
  obtain ⟨s', l, w, hs, hw, hfed⟩ := hrun
  obtain ⟨w', hw', -, hlength, honce⟩ := sync_fed_once trackingPort_fresh hs
  obtain ⟨rfl, -⟩ := hw.unique hw'
  have hnodup : w.fed.Nodup := by
    rw [hfed]
    decide
  exact ⟨trackingPort_fresh, s', l, w, hs, hw, hfed, hlength, hnodup, honce.mp hnodup⟩

end Repeated

end Rptp
