import Rptp.Port.Provenance
import Rptp.Port.Samples

/-! # What a sample rests on

A port knows the time of its parent only from what reaches it: the Syncs and FollowUps of the parent,
the answers to DelayReqs and the timestamps of its own. A body of evidence lists what may have reached
it. A port whose inputs are all in evidence feeds its servo with samples that are taken from the
evidence on its parent.
-/

namespace Rptp

open Machine

/-- What may have reached a port: event messages with their ingress, FollowUps and DelayResps, each
from its sender, and the egress timestamps of event messages of its own. -/
structure Evidence where
  Received : PortIdentity → EventMessage → TimeStamp → Prop
  FollowedUp : PortIdentity → FollowUpMessage → Prop
  Answered : PortIdentity → DelayResponseMessage → Prop
  Stamped : EventMessage → TimeStamp → Prop

/-- The evidence has grown. -/
structure Evidence.Grown (E E' : Evidence) : Prop where
  received : ∀ source msg ingress, E.Received source msg ingress → E'.Received source msg ingress
  followedUp : ∀ source msg, E.FollowedUp source msg → E'.FollowedUp source msg
  answered : ∀ source msg, E.Answered source msg → E'.Answered source msg
  stamped : ∀ msg egress, E.Stamped msg egress → E'.Stamped msg egress

def PortInput.InEvidence (E : Evidence) : PortInput → Prop
  | .event source msg ingress => E.Received source msg ingress
  | .general source (.followUp msg) _ => E.FollowedUp source msg
  | .general source (.delayResp msg) _ => E.Answered source msg
  | .system (.timestamp ⟨msg, egress⟩) => E.Stamped msg egress
  | _ => True

/-- A recording of what the parent has sent, or of a timestamp of the port. -/
def Recording.InEvidence (E : Evidence) (parent : PortIdentity) : Recording → Prop
  | .oneStepSync sync ingress => E.Received parent (.oneStepSync sync) ingress
  | .twoStepSync sync ingress => E.Received parent (.twoStepSync sync) ingress
  | .followUp msg => E.FollowedUp parent msg
  | .delayRequest req egress => E.Stamped (.delayReq req) egress
  | .delayResponse resp => E.Answered parent resp

namespace Evidence

variable {E E' : Evidence}

theorem Grown.recording (h : E.Grown E') {parent : PortIdentity} {c : Recording}
    (hc : c.InEvidence E parent) : c.InEvidence E' parent := by
  cases c with
  | oneStepSync sync ingress => exact h.received _ _ _ hc
  | twoStepSync sync ingress => exact h.received _ _ _ hc
  | followUp msg => exact h.followedUp _ _ hc
  | delayRequest req egress => exact h.stamped _ _ hc
  | delayResponse resp => exact h.answered _ _ hc

theorem recording_inEvidence {input : PortInput} (hin : input.InEvidence E)
    {parent : ParentPortIdentity} {c : Recording} (h : input.recording parent = some c) :
    c.InEvidence E parent.parentPortIdentity := by
  have fromParent : ∀ {source : PortIdentity} {call : Recording},
      (if parent.matchesSource source then some call else none) = some c →
      source = parent.parentPortIdentity ∧ call = c := by
    intro source call hcall
    split_ifs at hcall with hmatches
    exact ⟨(eq_of_beq hmatches).symm, Option.some.inj hcall⟩
  cases input with
  | event source msg ingress =>
    cases msg with
    | delayReq req => cases h
    | oneStepSync sync =>
      obtain ⟨rfl, rfl⟩ := fromParent h
      exact hin
    | twoStepSync sync =>
      obtain ⟨rfl, rfl⟩ := fromParent h
      exact hin
  | general source msg now =>
    cases msg with
    | announce msg => cases h
    | followUp msg =>
      obtain ⟨rfl, rfl⟩ := fromParent h
      exact hin
    | delayResp msg =>
      obtain ⟨rfl, rfl⟩ := fromParent h
      exact hin
  | system msg =>
    cases msg
    case timestamp msg =>
      obtain ⟨eventMsg, egress⟩ := msg
      cases eventMsg with
      | delayReq req =>
        cases h
        exact hin
      | oneStepSync sync => cases h
      | twoStepSync sync => cases h
    all_goals cases h

/-- A Sync of the parent that was received, and the time at which the parent says it was sent. -/
inductive Origin (E : Evidence) (parent : PortIdentity) : TimeStamp → TimeStamp → Prop
  | oneStep {sync ingress} (hsync : E.Received parent (.oneStepSync sync) ingress) :
    Origin E parent ingress sync.originTimestamp
  | twoStep {sync ingress followUp} (hsync : E.Received parent (.twoStepSync sync) ingress)
    (hfollowUp : E.FollowedUp parent followUp) (hid : followUp.sequenceId = sync.sequenceId) :
    Origin E parent ingress followUp.preciseOriginTimestamp

/-- A DelayReq that was sent, and the time at which the parent says that it received it. -/
inductive Receipt (E : Evidence) (parent : PortIdentity) : TimeStamp → TimeStamp → Prop
  | answered {req egress resp} (hreq : E.Stamped (.delayReq req) egress)
    (hresp : E.Answered parent resp) (hid : resp.sequenceId = req.sequenceId) :
    Receipt E parent resp.receiveTimestamp egress

/-- The sample is taken from a Sync of the parent and from an answer of the parent. -/
def Supports (E : Evidence) (parent : PortIdentity) (sample : ServoSample) : Prop :=
  ∃ origin receipt egress, E.Origin parent sample.ingress origin ∧ E.Receipt parent receipt egress ∧
    sample.offset.ns = ((sample.ingress.ns - origin.ns) - (receipt.ns - egress.ns)).tdiv 2

theorem origin_of_complete {parent : PortIdentity} {calls : List Recording}
    (hcalls : ∀ c ∈ calls, c.InEvidence E parent) {ingress origin : TimeStamp}
    (h : SyncComplete calls ingress origin) : E.Origin parent ingress origin := by
  cases h with
  | oneStep hsync =>
    obtain ⟨c, hc, hkind⟩ := mem_of_latest hsync
    have hin := hcalls c hc
    cases c <;> cases hkind
    exact .oneStep hin
  | twoStep hsync hfollowUp hid =>
    obtain ⟨c, hc, hkind⟩ := mem_of_latest hsync
    obtain ⟨c', hc', hkind'⟩ := mem_of_latest hfollowUp
    have hin := hcalls c hc
    have hin' := hcalls c' hc'
    cases c <;> cases hkind
    cases c' <;> cases hkind'
    exact .twoStep hin hin' hid

theorem receipt_of_complete {parent : PortIdentity} {calls : List Recording}
    (hcalls : ∀ c ∈ calls, c.InEvidence E parent) {receipt egress : TimeStamp}
    (h : DelayComplete calls receipt egress) : E.Receipt parent receipt egress := by
  cases h with
  | answered hrequest hresponse hid =>
    obtain ⟨c, hc, hkind⟩ := mem_of_latest hrequest
    obtain ⟨c', hc', hkind'⟩ := mem_of_latest hresponse
    have hin := hcalls c hc
    have hin' := hcalls c' hc'
    cases c <;> cases hkind
    cases c' <;> cases hkind'
    exact .answered hin hin' hid

end Evidence

variable {F R : Type} {E E' : Evidence} {s s' : PortState F R} {env : Env} {input : PortInput}
  {l : List (Effect F)}

/-- What the port has recorded since it changed its parent last is in evidence. -/
def PortState.Rests (E : Evidence) (s : PortState F R) : Prop :=
  ∃ calls : List (Recording × Unit), (⟨s, calls⟩ : Traced F R Unit).Holds ∧
    ∀ parent, s.parent = some parent → ∀ c ∈ calls, c.1.InEvidence E parent.parentPortIdentity

namespace PortState.Rests

theorem of_untracked (h : s.tracking = none) : s.Rests E := by
  refine ⟨[], Traced.holds_fresh fun p hp => ?_, fun _ _ c hc => by cases hc⟩
  rw [h] at hp
  cases hp

theorem mono (hs : s.Rests E) (h : E.Grown E') : s.Rests E' := by
  obtain ⟨calls, hholds, hcalls⟩ := hs
  exact ⟨calls, hholds, fun parent hparent c hc => h.recording (hcalls parent hparent c hc)⟩

variable [F64 F] [ForeignClockRecords R]

omit [F64 F] [ForeignClockRecords R] in
theorem recorded {calls : List (Recording × Unit)} (hin : input.InEvidence E)
    (hcalls : ∀ parent, s.parent = some parent →
      ∀ c ∈ calls, c.1.InEvidence E parent.parentPortIdentity) {parent : ParentPortIdentity}
    (hparent : s.parent = some parent) :
    ∀ c ∈ (⟨s, calls⟩ : Traced F R Unit).recorded input (),
      c.1.InEvidence E parent.parentPortIdentity := by
  intro c hc
  rcases Traced.mem_recorded hc with hold | ⟨parent', hparent', hrecording, -⟩
  · exact hcalls parent hparent c hold
  · obtain rfl : parent' = parent := Option.some.inj (hparent'.symm.trans hparent)
    exact Evidence.recording_inEvidence hin hrecording

theorem step (hs : s.Rests E) (hin : input.InEvidence E)
    (h : (s.step env input).Returns s' l) : s'.Rests E := by
  obtain ⟨calls, hholds, hcalls⟩ := hs
  refine ⟨((⟨s, calls⟩ : Traced F R Unit).after s' input ()).calls, hholds.step h, ?_⟩
  intro parent hparent c hc
  change c ∈ if s'.parent = s.parent then _ else _ at hc
  split_ifs at hc with hkept
  · exact recorded hin hcalls (hkept.symm.trans hparent) c hc
  · cases hc

/-- A sample that the port feeds is supported by the evidence on its parent. -/
theorem fed (hs : s.Rests E) (hin : input.InEvidence E) (h : (s.step env input).Returns s' l)
    {sample : ServoSample} (hsample : Effect.servoFeed sample ∈ l) :
    ∃ parent, s.parent = some parent ∧ E.Supports parent.parentPortIdentity sample := by
  obtain ⟨calls, hholds, hcalls⟩ := hs
  obtain ⟨⟨parent, hparent, -⟩, m, hm, hs⟩ := hholds.fed h () hsample
  have hrecorded : ∀ c ∈ ((⟨s, calls⟩ : Traced F R Unit).recorded input ()).map Prod.fst,
      c.InEvidence E parent.parentPortIdentity := by
    intro c hc
    obtain ⟨entry, hentry, rfl⟩ := List.mem_map.mp hc
    exact recorded hin hcalls hparent entry hentry
  obtain ⟨r, hr, -, htaken⟩ := hm.sample
  rw [hs] at hr
  cases hr
  obtain ⟨ingress, origin, receipt, egress, hsync, hdelay, rfl, hoffset⟩ := htaken sample rfl
  exact ⟨parent, hparent, origin, receipt, egress, Evidence.origin_of_complete hrecorded hsync,
    Evidence.receipt_of_complete hrecorded hdelay, hoffset⟩

end PortState.Rests

end Rptp
