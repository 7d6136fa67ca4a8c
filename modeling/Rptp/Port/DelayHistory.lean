import Rptp.Machine.Selection
import Rptp.Port.Fragments

/-! # The delay mechanism against its history

What a mechanism holds is determined by the latest call of each kind. A sample is there exactly when
the latest Sync has its origin and the latest DelayReq has its answer, and it is taken from these.
-/

namespace Rptp

open Machine

/-- A call that records a fragment. -/
inductive Recording where
  | oneStepSync (sync : OneStepSyncMessage) (ingress : TimeStamp)
  | twoStepSync (sync : TwoStepSyncMessage) (ingress : TimeStamp)
  | followUp (followUp : FollowUpMessage)
  | delayRequest (req : DelayRequestMessage) (egress : TimeStamp)
  | delayResponse (resp : DelayResponseMessage)

namespace EndToEndDelayMechanism

def record (m : EndToEndDelayMechanism) : Recording → EndToEndDelayMechanism
  | .oneStepSync sync ingress => m.recordOneStepSync sync ingress
  | .twoStepSync sync ingress => m.recordTwoStepSync sync ingress
  | .followUp followUp => m.recordFollowUp followUp
  | .delayRequest req egress => m.recordDelayRequest req egress
  | .delayResponse resp => m.recordDelayResponse resp

def recordAll (m : EndToEndDelayMechanism) (calls : List Recording) : EndToEndDelayMechanism :=
  calls.foldl record m

end EndToEndDelayMechanism

/-- A Sync of either kind with its ingress timestamp. -/
abbrev ReceivedSync := (OneStepSyncMessage × TimeStamp) ⊕ (TwoStepSyncMessage × TimeStamp)

namespace Recording

def sync? : Recording → Option ReceivedSync
  | oneStepSync sync ingress => some (.inl (sync, ingress))
  | twoStepSync sync ingress => some (.inr (sync, ingress))
  | _ => none

def followUp? : Recording → Option FollowUpMessage
  | followUp f => some f
  | _ => none

def delayRequest? : Recording → Option (DelayRequestMessage × TimeStamp)
  | delayRequest req egress => some (req, egress)
  | _ => none

def delayResponse? : Recording → Option DelayResponseMessage
  | delayResponse resp => some resp
  | _ => none

end Recording

/-- The Sync that a sample would be taken from. -/
def SyncExchange.sync (e : SyncExchange) : Option ReceivedSync :=
  match e.oneStepSync with
  | some sync => some (.inl sync)
  | none => e.twoStepSyncWindow.current.map .inr

def ReceivedSync.ingress : ReceivedSync → TimeStamp
  | .inl (_, ingress) => ingress
  | .inr (_, ingress) => ingress

open Recording

namespace EndToEndDelayMechanism

/-- The mechanism holds the latest call of each kind. -/
structure Holds (calls : List Recording) (m : EndToEndDelayMechanism) : Prop where
  sync : m.syncExchange.sync = latest sync? calls
  ingress : m.syncIngressTimestamp = (latest sync? calls).map ReceivedSync.ingress
  followUp : m.syncExchange.followUpWindow.current = latest followUp? calls
  request : m.delayExchange.delayRequestWindow.current = latest delayRequest? calls
  response : m.delayExchange.delayResponseWindow.current = latest delayResponse? calls

theorem Holds.record {calls : List Recording} {m : EndToEndDelayMechanism} (h : Holds calls m)
    (call : Recording) : Holds (calls ++ [call]) (m.record call) := by
  obtain ⟨hsync, hingress, hfollowUp, hrequest, hresponse⟩ := h
  cases call with
  | oneStepSync sync ingress =>
    constructor <;> rw [latest_append]
    · rfl
    · rfl
    · exact hfollowUp
    · exact hrequest
    · exact hresponse
  | twoStepSync sync ingress =>
    constructor <;> rw [latest_append]
    · rfl
    · rfl
    · exact hfollowUp
    · exact hrequest
    · exact hresponse
  | followUp f =>
    constructor <;> rw [latest_append]
    · exact hsync
    · exact hingress
    · rfl
    · exact hrequest
    · exact hresponse
  | delayRequest req egress =>
    constructor <;> rw [latest_append]
    · exact hsync
    · exact hingress
    · exact hfollowUp
    · rfl
    · exact hresponse
  | delayResponse resp =>
    constructor <;> rw [latest_append]
    · exact hsync
    · exact hingress
    · exact hfollowUp
    · exact hrequest
    · rfl

theorem holds_recordAll (cycle : DelayCycle) (calls : List Recording) :
    Holds calls ((new cycle).recordAll calls) := by
  induction calls using List.reverseRecOn with
  | nil => exact ⟨rfl, rfl, rfl, rfl, rfl⟩
  | append_singleton calls call ih =>
    rw [recordAll, List.foldl_append]
    exact ih.record call

end EndToEndDelayMechanism

/-- The latest Sync has an origin: it is one-step, or the latest FollowUp has its sequence id. -/
inductive SyncComplete (calls : List Recording) : TimeStamp → TimeStamp → Prop
  | oneStep {sync ingress} (hsync : latest sync? calls = some (.inl (sync, ingress))) :
      SyncComplete calls ingress sync.originTimestamp
  | twoStep {sync ingress followUp} (hsync : latest sync? calls = some (.inr (sync, ingress)))
      (hfollowUp : latest followUp? calls = some followUp)
      (hid : followUp.sequenceId = sync.sequenceId) :
      SyncComplete calls ingress followUp.preciseOriginTimestamp

/-- The latest DelayResp has the sequence id of the latest DelayReq. -/
inductive DelayComplete (calls : List Recording) : TimeStamp → TimeStamp → Prop
  | answered {req egress resp} (hrequest : latest delayRequest? calls = some (req, egress))
      (hresponse : latest delayResponse? calls = some resp)
      (hid : resp.sequenceId = req.sequenceId) :
      DelayComplete calls resp.receiveTimestamp egress

variable {calls : List Recording} {m : EndToEndDelayMechanism}

theorem EndToEndDelayMechanism.Holds.syncTimes (h : m.Holds calls) (ingress origin : TimeStamp) :
    m.syncExchange.times = some (ingress, origin) ↔ SyncComplete calls ingress origin := by
  have hsync := h.sync
  have hfollowUp := h.followUp
  generalize m.syncExchange = e at hsync hfollowUp ⊢
  obtain ⟨oneStep, ⟨twoStep⟩, ⟨followUp⟩⟩ := e
  cases oneStep with
  | some sync =>
    constructor
    · intro ht
      cases ht
      exact .oneStep hsync.symm
    · intro hc
      cases hc with
      | oneStep hs =>
        cases hsync.trans hs
        rfl
      | twoStep hs => cases hsync.trans hs
  | none =>
    constructor
    · intro ht
      cases followUp with
      | none => cases ht
      | some followUp =>
        cases twoStep with
        | none => cases ht
        | some sync =>
          simp only [SyncExchange.times] at ht
          split_ifs at ht with hid
          cases ht
          exact .twoStep hsync.symm hfollowUp.symm hid
    · intro hc
      cases hc with
      | oneStep hs =>
        rw [hs] at hsync
        cases twoStep <;> cases hsync
      | twoStep hs hf hid =>
        rw [hs] at hsync
        rw [hf] at hfollowUp
        cases hfollowUp
        cases twoStep with
        | none => cases hsync
        | some sync =>
          cases hsync
          exact if_pos hid

theorem EndToEndDelayMechanism.Holds.delayTimes (h : m.Holds calls) (receipt egress : TimeStamp) :
    m.delayExchange.times = some (receipt, egress) ↔ DelayComplete calls receipt egress := by
  have hrequest := h.request
  have hresponse := h.response
  generalize m.delayExchange = e at hrequest hresponse ⊢
  obtain ⟨⟨request⟩, ⟨response⟩⟩ := e
  constructor
  · intro ht
    cases response with
    | none => cases ht
    | some response =>
      cases request with
      | none => cases ht
      | some request =>
        simp only [DelayExchange.times] at ht
        split_ifs at ht with hid
        cases ht
        exact .answered hrequest.symm hresponse.symm hid
  · intro hc
    cases hc with
    | answered hreq hresp hid =>
      cases hrequest.trans hreq
      cases hresponse.trans hresp
      exact if_pos hid

/-- A mechanism has a sample exactly when the latest Sync that it holds has its origin and the
latest DelayReq has its answer, and the sample is taken from these. -/
theorem EndToEndDelayMechanism.Holds.sample (h : m.Holds calls) :
    ∃ r, m.sample = .ok r ∧
      (r.isSome ↔ (∃ ingress origin, SyncComplete calls ingress origin) ∧
        ∃ receipt egress, DelayComplete calls receipt egress) ∧
      ∀ s ∈ r, ∃ ingress origin receipt egress, SyncComplete calls ingress origin ∧
        DelayComplete calls receipt egress ∧ s.ingress = ingress ∧
        s.offset.ns = ((ingress.ns - origin.ns) - (receipt.ns - egress.ns)).tdiv 2 := by
  rcases m.sample_spec with ⟨hnone, hmissing⟩ | ⟨s, t₂, t₁, t₄, t₃, hsome, hm⟩
  · refine ⟨none, hnone, ?_, fun s hs => by cases hs⟩
    refine iff_of_false (fun hr => by cases hr) ?_
    rintro ⟨⟨ingress, origin, hsync⟩, receipt, egress, hdelay⟩
    rcases hmissing with hmissing | hmissing | hmissing
    · rw [(h.syncTimes ingress origin).mpr hsync] at hmissing
      cases hmissing
    · rw [(h.delayTimes receipt egress).mpr hdelay] at hmissing
      cases hmissing
    · rw [h.ingress] at hmissing
      cases hsync with
      | oneStep hs =>
        rw [hs] at hmissing
        cases hmissing
      | twoStep hs =>
        rw [hs] at hmissing
        cases hmissing
  · have hsync := (h.syncTimes t₂ t₁).mp hm.sync
    have hdelay := (h.delayTimes t₄ t₃).mp hm.delay
    have hingress : s.ingress = t₂ := by
      have htaken := hm.taken
      rw [h.ingress] at htaken
      cases hsync with
      | oneStep hs =>
        rw [hs] at htaken
        exact (Option.some.inj htaken).symm
      | twoStep hs =>
        rw [hs] at htaken
        exact (Option.some.inj htaken).symm
    refine ⟨some s, hsome, iff_of_true rfl ⟨⟨t₂, t₁, hsync⟩, t₄, t₃, hdelay⟩, ?_⟩
    intro s' hs'
    cases hs'
    exact ⟨t₂, t₁, t₄, t₃, hsync, hdelay, hingress, hm.offset⟩

/-- After any calls on a new mechanism there is a sample exactly when the latest Sync has its origin
and the latest DelayReq has its answer, and the sample is taken from exactly these. -/
theorem sample_latest (cycle : DelayCycle) (calls : List Recording) :
    ∃ r, ((EndToEndDelayMechanism.new cycle).recordAll calls).sample = .ok r ∧
      (r.isSome ↔ (∃ ingress origin, SyncComplete calls ingress origin) ∧
        ∃ receipt egress, DelayComplete calls receipt egress) ∧
      ∀ s ∈ r, ∃ ingress origin receipt egress, SyncComplete calls ingress origin ∧
        DelayComplete calls receipt egress ∧ s.ingress = ingress ∧
        s.offset.ns = ((ingress.ns - origin.ns) - (receipt.ns - egress.ns)).tdiv 2 :=
  (EndToEndDelayMechanism.holds_recordAll cycle calls).sample

end Rptp
