import Rptp.Machine.Relation
import Rptp.Port.Coherence
import Rptp.Port.Fragments

/-! # Responses to other ports

In multicast operation a port hears the delay responses of its parent to every other port. The port
does not look at whom a response is for. A response to another port replaces the one to this port,
and it is harmless only if it has been replaced in turn before the next sample is taken.
-/

namespace Rptp

open Machine

variable {F R : Type}

/-- The port with another latest delay response. -/
def ParentTrackingPort.withResponse (p : ParentTrackingPort F R)
    (resp : Option DelayResponseMessage) : ParentTrackingPort F R :=
  { p with delayMechanism := { p.delayMechanism with
    delayExchange := { p.delayMechanism.delayExchange with delayResponseWindow := ⟨resp⟩ } } }

namespace PortState

/-- The latest delay response of a port that has one. -/
def response : PortState F R → Option DelayResponseMessage
  | slave p => p.delayMechanism.delayExchange.delayResponseWindow.current
  | uncalibrated p => p.delayMechanism.delayExchange.delayResponseWindow.current
  | _ => none

def withResponse (resp : Option DelayResponseMessage) : PortState F R → PortState F R
  | slave p => .slave (p.withResponse resp)
  | uncalibrated p => .uncalibrated (p.withResponse resp)
  | s => s

@[simp] theorem withResponse_response (s : PortState F R) : s.withResponse s.response = s := by
  cases s <;> rfl

@[simp] theorem withResponse_withResponse (s : PortState F R) (v w : Option DelayResponseMessage) :
    (s.withResponse v).withResponse w = s.withResponse w := by
  cases s <;> rfl

@[simp] theorem role_withResponse (s : PortState F R) (v : Option DelayResponseMessage) :
    (s.withResponse v).role = s.role := by
  cases s <;> rfl

theorem response_withResponse {s : PortState F R} {parent : ParentPortIdentity}
    (h : s.role.Tracks parent) (v : Option DelayResponseMessage) :
    (s.withResponse v).response = v := by
  cases s <;> first | rfl | exact absurd h id

theorem withResponse_of_not_tracks {s : PortState F R} (h : ∀ parent, ¬ s.role.Tracks parent)
    (v : Option DelayResponseMessage) : s.withResponse v = s := by
  cases s with
  | slave p => exact absurd rfl (h p.bmca.parentPortIdentity)
  | uncalibrated p => exact absurd rfl (h p.bmca.parentPortIdentity)
  | initializing p => rfl
  | listening p => rfl
  | master p => rfl
  | preMaster p => rfl
  | passive p => rfl
  | faulty p => rfl

end PortState

theorem TrackingRole.withResponse_state (k : TrackingRole) (p : ParentTrackingPort F R)
    (v : Option DelayResponseMessage) : (k.state p).withResponse v = k.state (p.withResponse v) := by
  cases k <;> rfl

namespace PortInput

/-- A delay response to another port. -/
def isForeignResponse (own : PortIdentity) : PortInput → Bool
  | .general _ (.delayResp resp) _ => resp.requestingPortIdentity != own
  | _ => false

def IsResponse : PortInput → Prop
  | .general _ (.delayResp _) _ => True
  | _ => False

end PortInput

/-- The inputs without the delay responses to other ports. -/
def dropForeign (own : PortIdentity) (inputs : List (Env × PortInput)) : List (Env × PortInput) :=
  inputs.filter fun i => !i.2.isForeignResponse own

section Handlers

/-- The same result of a dispatch, read with two latest responses. -/
def Alike (v w : Option DelayResponseMessage) (r r' : PortState F R × Option StateDecision) : Prop :=
  ∃ (s : PortState F R) (d : Option StateDecision),
    r = (s.withResponse v, d) ∧ r' = (s.withResponse w, d)

namespace ParentTrackingPort

variable (p : ParentTrackingPort F R) (v w : Option DelayResponseMessage)

theorem processTwoStepSync_withResponse (sync : TwoStepSyncMessage) (source : PortIdentity)
    (ts : TimeStamp) : (p.withResponse v).processTwoStepSync sync source ts =
      (p.processTwoStepSync sync source ts).withResponse v := by
  change (if p.bmca.matchesParent source then _ else _) = _
  unfold processTwoStepSync
  split_ifs
  · rfl
  · rfl

variable [F64 F]

theorem processOneStepSync_stranger (react : PortIdentity → ServoState → Option StateDecision)
    (sync : OneStepSyncMessage) {source : PortIdentity} (ts : TimeStamp)
    (h : ¬ p.bmca.matchesParent source = true) :
    (p.withResponse v).processOneStepSync react sync source ts = pure (p.withResponse v, none) :=
  if_neg h

theorem processFollowUp_stranger (react : PortIdentity → ServoState → Option StateDecision)
    (followUp : FollowUpMessage) {source : PortIdentity}
    (h : ¬ p.bmca.matchesParent source = true) :
    (p.withResponse v).processFollowUp react followUp source = pure (p.withResponse v, none) :=
  if_neg h

end ParentTrackingPort

variable [F64 F]

variable [ForeignClockRecords R]

namespace ParentTrackingPort

variable (p : ParentTrackingPort F R) (v w : Option DelayResponseMessage)

omit [F64 F] in
theorem processAnnounce_alike (env : Env) (msg : AnnounceMessage) (source : PortIdentity)
    (now : Instant) :
    Act.Sim (fun q q' => ∃ p : ParentTrackingPort F R, q = p.withResponse v ∧ q' = p.withResponse w)
      ((p.withResponse v).processAnnounce env msg source now)
      ((p.withResponse w).processAnnounce env msg source now) := by
  let armed := { p with announceReceiptTimeout := p.announceReceiptTimeout.restart env }
  exact Act.sim_bind_pure _ fun bmca => ⟨{ armed with bmca }, rfl, rfl⟩

omit [F64 F] in
theorem stateDecisionEvent_alike (snapshot : StateDecisionSnapshot) :
    ∃ (q : ParentTrackingPort F R) (d : Option StateDecision), ∀ v,
      (p.withResponse v).stateDecisionEvent snapshot = .ok (q.withResponse v, d) := by
  have hreturns : ∃ r, Rptp.stateDecisionEvent F p.bmca snapshot = .ok r := by
    obtain ⟨e, decision, -, -, h⟩ := stateDecisionEvent_eq (F := F) p.bmca snapshot
    exact ⟨_, h⟩
  obtain ⟨⟨bmca, d⟩, h⟩ := hreturns
  refine ⟨{ p with bmca }, d, fun v => ?_⟩
  change (Rptp.stateDecisionEvent F p.bmca snapshot >>= _) = _
  rw [h]
  rfl

omit [F64 F] [ForeignClockRecords R] in
theorem sendDelayRequest_alike (env : Env) :
    Act.Sim (fun r r' => ∃ (q : ParentTrackingPort F R) (result : SendResult),
        r = (q.withResponse v, result) ∧ r' = (q.withResponse w, result))
      ((p.withResponse v).sendDelayRequest env) ((p.withResponse w).sendDelayRequest env) := by
  let sent := { p with delayMechanism := (p.delayMechanism.delayRequest env).1 }
  exact Act.sim_bind_pure _ fun result => ⟨sent, result, rfl, rfl⟩

end ParentTrackingPort

/-- A message that takes no sample and is no response is handled whatever the latest response is. -/
theorem ParentTrackingPort.handle_alike (react : PortIdentity → ServoState → Option StateDecision)
    (env : Env) (p : ParentTrackingPort F R) (v w : Option DelayResponseMessage)
    {input : PortInput} (h : ¬ input.Samples p.bmca.parentPortIdentity)
    (hresp : ¬ input.IsResponse) :
    Act.Sim (fun r r' => ∃ (q : ParentTrackingPort F R) (d : Option StateDecision),
        r = (q.withResponse v, d) ∧ r' = (q.withResponse w, d))
      ((p.withResponse v).handle react env input) ((p.withResponse w).handle react env input) := by
  cases input with
  | event source msg ts =>
    cases msg with
    | delayReq req => exact Act.sim_pure ⟨p, none, rfl, rfl⟩
    | twoStepSync sync =>
      rw [handle, handle, p.processTwoStepSync_withResponse v, p.processTwoStepSync_withResponse w]
      exact Act.sim_pure ⟨_, none, rfl, rfl⟩
    | oneStepSync sync =>
      have hstranger : ¬ p.bmca.matchesParent source = true := h
      rw [handle, handle, p.processOneStepSync_stranger v _ _ _ hstranger,
        p.processOneStepSync_stranger w _ _ _ hstranger]
      exact Act.sim_pure ⟨p, none, rfl, rfl⟩
  | general source msg now =>
    cases msg with
    | delayResp resp => exact absurd trivial hresp
    | announce msg =>
      refine Act.sim_bind (p.processAnnounce_alike v w env msg source now) ?_
      rintro _ _ ⟨q, rfl, rfl⟩
      exact Act.sim_pure ⟨q, none, rfl, rfl⟩
    | followUp followUp =>
      have hstranger : ¬ p.bmca.matchesParent source = true := h
      rw [handle, handle, p.processFollowUp_stranger v _ _ hstranger,
        p.processFollowUp_stranger w _ _ hstranger]
      exact Act.sim_pure ⟨p, none, rfl, rfl⟩
  | system msg =>
    cases msg
    case delayRequestTimeout =>
      refine Act.sim_bind (p.sendDelayRequest_alike v w env) ?_
      rintro _ _ ⟨q, result, rfl, rfl⟩
      exact Act.sim_pure ⟨q, _, rfl, rfl⟩
    case stateDecisionEvent snapshot =>
      obtain ⟨q, d, hq⟩ := p.stateDecisionEvent_alike snapshot
      rw [handle, handle, hq v, hq w]
      exact Act.sim_pure ⟨q, d, rfl, rfl⟩
    case timestamp msg =>
      obtain ⟨eventMsg, egress⟩ := msg
      cases eventMsg with
      | delayReq req => exact Act.sim_pure ⟨p.processDelayRequest req egress, none, rfl, rfl⟩
      | oneStepSync sync => exact Act.sim_pure ⟨p, none, rfl, rfl⟩
      | twoStepSync sync => exact Act.sim_pure ⟨p, none, rfl, rfl⟩
    all_goals exact Act.sim_pure ⟨p, _, rfl, rfl⟩

theorem untracked_alike (env : Env) (s : PortState F R) (v w : Option DelayResponseMessage)
    (input : PortInput) (h : ∀ parent, ¬ s.role.Tracks parent) :
    Act.Sim (Alike v w) ((s.withResponse v).dispatch env input)
      ((s.withResponse w).dispatch env input) := by
  rw [PortState.withResponse_of_not_tracks h, PortState.withResponse_of_not_tracks h]
  have alike : ∀ r l, (s.dispatch env input).Returns r l → Alike v w r r := by
    rintro ⟨s', d⟩ l hr
    have hs' : ∀ parent, ¬ s'.role.Tracks parent := by
      rw [(dispatch_returns hr).role]
      exact h
    exact ⟨s', d, by rw [PortState.withResponse_of_not_tracks hs'],
      by rw [PortState.withResponse_of_not_tracks hs']⟩
  exact ⟨fun r l hr => ⟨r, hr, alike r l hr⟩, fun r l hr => ⟨r, hr, alike r l hr⟩⟩

theorem dispatch_alike (env : Env) (s : PortState F R) (v w : Option DelayResponseMessage)
    {input : PortInput} (h : ∀ parent, s.role.Tracks parent → ¬ input.Samples parent)
    (hresp : ¬ input.IsResponse) :
    Act.Sim (Alike v w) ((s.withResponse v).dispatch env input)
      ((s.withResponse w).dispatch env input) := by
  rcases s.tracking_cases with ⟨k, p, rfl⟩ | huntracked
  · have hsamples := h p.bmca.parentPortIdentity (k.tracks_state p)
    rw [k.withResponse_state, k.withResponse_state, k.dispatch_state, k.dispatch_state]
    refine Act.sim_bind (p.handle_alike k.react env v w hsamples hresp) ?_
    rintro _ _ ⟨q, d, rfl, rfl⟩
    exact Act.sim_pure ⟨k.state q, d, by rw [k.withResponse_state], by rw [k.withResponse_state]⟩
  · exact untracked_alike env s v w input huntracked

end Handlers

section Runs

variable [F64 F] [ForeignClockRecords R]

/-- `w` is the latest response to the port itself, as far as `v` tells. -/
structure Agrees (own : PortIdentity) (v w : Option DelayResponseMessage) : Prop where
  none : v = none → w = none
  own : ∀ r, v = some r → r.requestingPortIdentity = own → w = some r

theorem agrees_refl (own : PortIdentity) (v : Option DelayResponseMessage) : Agrees own v v :=
  ⟨id, fun _ h _ => h⟩

theorem Agrees.eq {own : PortIdentity} {v w : Option DelayResponseMessage} (h : Agrees own v w)
    (hv : ∀ r ∈ v, r.requestingPortIdentity = own) : w = v := by
  cases v with
  | none => exact h.none rfl
  | some r => exact h.own r rfl (hv r rfl)

/-- States that differ by responses to other ports only. -/
def Ignoring (own : PortIdentity) (s u : PortState F R) : Prop :=
  ∃ (q : PortState F R) (v w : Option DelayResponseMessage), Agrees own v w ∧
    s = q.withResponse v ∧ u = q.withResponse w

omit [F64 F] [ForeignClockRecords R] in
theorem ignoring_refl (own : PortIdentity) (s : PortState F R) : Ignoring own s s :=
  ⟨s, s.response, s.response, agrees_refl own _, by simp, by simp⟩

omit [F64 F] [ForeignClockRecords R] in
/-- With a response to the port itself, or none, the states do not differ at all. -/
theorem Ignoring.eq {own : PortIdentity} {s u : PortState F R} (h : Ignoring own s u)
    (hs : ∀ r ∈ s.response, r.requestingPortIdentity = own) : s = u := by
  obtain ⟨q, v, w, hvw, rfl, rfl⟩ := h
  by_cases htracks : ∃ parent, q.role.Tracks parent
  · obtain ⟨parent, htracks⟩ := htracks
    rw [PortState.response_withResponse htracks] at hs
    rw [hvw.eq hs]
  · rw [PortState.withResponse_of_not_tracks (not_exists.mp htracks),
      PortState.withResponse_of_not_tracks (not_exists.mp htracks)]

/-- A transition hands the latest response over or drops it. -/
theorem apply_ignoring {own : PortIdentity} {v w : Option DelayResponseMessage}
    (h : Agrees own v w) (env : Env) (s : PortState F R) (d : StateDecision) :
    Act.Sim (Ignoring own) ((s.withResponse v).apply env d) ((s.withResponse w).apply env d) := by
  cases s with
  | slave p =>
    cases d
    case synchronizationFault => exact Act.sim_pure ⟨.uncalibrated p, v, w, h, rfl, rfl⟩
    case masterClockSelected | initialized | faultCleared | qualificationTimeoutExpired =>
      exact Act.sim_abort _ _
    case recommendedSlave parent => exact Act.sim_pure (ignoring_refl own (p.recommendedSlave env parent))
    case recommendedMaster m => exact Act.sim_pure (ignoring_refl own (p.recommendedMaster env m))
    case recommendedPassive => exact Act.sim_pure (ignoring_refl own (p.recommendedPassive env))
    case faultDetected => exact Act.sim_pure (ignoring_refl own p.faultDetected)
    case announceReceiptTimeoutExpired =>
      exact Act.sim_refl (p.announceReceiptTimeoutExpired env) (ignoring_refl own)
  | uncalibrated p =>
    cases d
    case masterClockSelected parent =>
      exact Act.sim_pure ⟨UncalibratedPort.masterClockSelected env p parent, v, w, h, rfl, rfl⟩
    case synchronizationFault | initialized | faultCleared | qualificationTimeoutExpired =>
      exact Act.sim_abort _ _
    case recommendedSlave parent => exact Act.sim_pure (ignoring_refl own (p.recommendedSlave env parent))
    case recommendedMaster m => exact Act.sim_pure (ignoring_refl own (p.recommendedMaster env m))
    case recommendedPassive => exact Act.sim_pure (ignoring_refl own (p.recommendedPassive env))
    case faultDetected => exact Act.sim_pure (ignoring_refl own p.faultDetected)
    case announceReceiptTimeoutExpired =>
      exact Act.sim_refl (p.announceReceiptTimeoutExpired env) (ignoring_refl own)
  | initializing p => exact Act.sim_refl _ (ignoring_refl own)
  | listening p => exact Act.sim_refl _ (ignoring_refl own)
  | master p => exact Act.sim_refl _ (ignoring_refl own)
  | preMaster p => exact Act.sim_refl _ (ignoring_refl own)
  | passive p => exact Act.sim_refl _ (ignoring_refl own)
  | faulty p => exact Act.sim_refl _ (ignoring_refl own)

/-- The port records the responses of this source. -/
def PortState.takesResponse (source : PortIdentity) : PortState F R → Bool
  | slave p => p.bmca.matchesParent source
  | uncalibrated p => p.bmca.matchesParent source
  | _ => false

omit [F64 F] [ForeignClockRecords R] in
@[simp] theorem PortState.takesResponse_withResponse (s : PortState F R) (source : PortIdentity)
    (v : Option DelayResponseMessage) :
    (s.withResponse v).takesResponse source = s.takesResponse source := by
  cases s <;> rfl

omit [F64 F] [ForeignClockRecords R] in
theorem ParentTrackingPort.processDelayResponse_eq (p : ParentTrackingPort F R)
    (resp : DelayResponseMessage) (source : PortIdentity) :
    p.processDelayResponse resp source =
      if p.bmca.matchesParent source then p.withResponse (some resp) else p := rfl

/-- A delay response replaces the latest one, whatever port it is for. -/
theorem step_response (env : Env) (s : PortState F R) (resp : DelayResponseMessage)
    (source : PortIdentity) (now : Instant) :
    s.step env (.general source (.delayResp resp) now) =
      pure (if s.takesResponse source then s.withResponse (some resp) else s) := by
  cases s with
  | slave p =>
    refine (pure_bind _ _).trans (congrArg pure ?_)
    change PortState.slave (p.processDelayResponse resp source) = if p.bmca.matchesParent source then _ else _
    rw [p.processDelayResponse_eq]
    split_ifs
    · rfl
    · rfl
  | uncalibrated p =>
    refine (pure_bind _ _).trans (congrArg pure ?_)
    change PortState.uncalibrated (p.processDelayResponse resp source) = if p.bmca.matchesParent source then _ else _
    rw [p.processDelayResponse_eq]
    split_ifs
    · rfl
    · rfl
  | initializing p => exact pure_bind _ _
  | listening p => exact pure_bind _ _
  | master p => exact pure_bind _ _
  | preMaster p => exact pure_bind _ _
  | passive p => exact pure_bind _ _
  | faulty p => exact pure_bind _ _

/-- The latest response is to this port whenever a sample is about to be taken. -/
def SamplesOwn (own : PortIdentity) (s : PortState F R) (i : Env × PortInput) : Prop :=
  ∀ parent, s.role.Tracks parent → i.2.Samples parent →
    ∀ r ∈ s.response, r.requestingPortIdentity = own

theorem step_foreign {own : PortIdentity} {s u : PortState F R} {i : Env × PortInput}
    (h : Ignoring own s u) (hi : i.2.isForeignResponse own = true) :
    ∃ s', s.step i.1 i.2 = pure s' ∧ Ignoring own s' u := by
  obtain ⟨env, input⟩ := i
  cases input with
  | event source msg ts => cases hi
  | system msg => cases hi
  | general source msg now =>
    cases msg with
    | announce msg => cases hi
    | followUp msg => cases hi
    | delayResp resp =>
      have hforeign : resp.requestingPortIdentity ≠ own := bne_iff_ne.mp hi
      obtain ⟨q, v, w, hvw, rfl, rfl⟩ := h
      refine ⟨_, step_response env _ resp source now, ?_⟩
      split_ifs
      · refine ⟨q, some resp, w, ⟨fun h => (by cases h), ?_⟩, by simp, rfl⟩
        intro r hr hown
        cases hr
        exact absurd hown hforeign
      · exact ⟨q, v, w, hvw, rfl, rfl⟩

/-- Every other input makes the same calls in both states. -/
theorem step_ignoring {own : PortIdentity} {s u : PortState F R} {i : Env × PortInput}
    (h : Ignoring own s u) (hi : i.2.isForeignResponse own = false) (hown : SamplesOwn own s i) :
    Act.Sim (Ignoring own) (s.step i.1 i.2) (u.step i.1 i.2) := by
  obtain ⟨env, input⟩ := i
  obtain ⟨q, v, w, hvw, rfl, rfl⟩ := h
  by_cases hsample : ∃ parent, q.role.Tracks parent ∧ input.Samples parent
  · -- Both states hold the same response when a sample is taken.
    obtain ⟨parent, htracks, hsamples⟩ := hsample
    have hv := hown parent (by simpa using htracks) hsamples
    rw [PortState.response_withResponse htracks] at hv
    rw [hvw.eq hv]
    exact Act.sim_refl _ (ignoring_refl own)
  · by_cases hresp : input.IsResponse
    · cases input with
      | event source msg ts => exact absurd hresp id
      | system msg => exact absurd hresp id
      | general source msg now =>
        cases msg with
        | announce msg => exact absurd hresp id
        | followUp msg => exact absurd hresp id
        | delayResp resp =>
          dsimp only
          rw [step_response, step_response]
          refine Act.sim_pure ?_
          simp only [PortState.takesResponse_withResponse, PortState.withResponse_withResponse]
          split_ifs
          · exact ignoring_refl own _
          · exact ⟨q, v, w, hvw, rfl, rfl⟩
    · have hno : ∀ parent, q.role.Tracks parent → ¬ input.Samples parent :=
        fun parent ht hs => hsample ⟨parent, ht, hs⟩
      refine Act.sim_bind (dispatch_alike env q v w hno hresp) ?_
      rintro _ _ ⟨s', d, rfl, rfl⟩
      cases d with
      | none => exact Act.sim_pure ⟨s', v, w, hvw, rfl, rfl⟩
      | some d => exact apply_ignoring hvw env s' d

/-- A run in which every sample is taken with a response to this port cannot be told from the same
run without the responses to other ports. -/
theorem run_dropForeign {own : PortIdentity} {s : PortState F R} {inputs : List (Env × PortInput)}
    (h : Act.Along (fun s i => s.step i.1 i.2) (SamplesOwn own) s inputs) :
    Act.Sim (Ignoring own) (s.run inputs) (s.run (dropForeign own inputs)) := by
  unfold PortState.run dropForeign
  refine Act.runAll_sim_filter (C := SamplesOwn own) ?_ ?_ (ignoring_refl own s) h
  · intro t u i htu hi
    exact step_foreign htu hi
  · intro t u i htu hi hown
    exact step_ignoring htu hi hown

/-- Runs that differ in the delay responses to other ports only, and in which every sample is taken
with a response to this port, make the same calls and end in the same state up to the response that
is stored. They end in the same state if neither stores a response to another port. -/
theorem foreignResponses_unobserved (s a : PortState F R) (inputs others : List (Env × PortInput))
    (l : List (Effect F))
    (hsame : dropForeign s.handover.port.portIdentity inputs =
      dropForeign s.handover.port.portIdentity others)
    (hinputs : Act.Along (fun s i => s.step i.1 i.2) (SamplesOwn s.handover.port.portIdentity) s
      inputs)
    (hothers : Act.Along (fun s i => s.step i.1 i.2) (SamplesOwn s.handover.port.portIdentity) s
      others)
    (h : (s.run inputs).Returns a l) :
    ∃ b, (s.run others).Returns b l ∧ a.withResponse none = b.withResponse none ∧
      ((∀ r ∈ a.response, r.requestingPortIdentity = s.handover.port.portIdentity) →
        (∀ r ∈ b.response, r.requestingPortIdentity = s.handover.port.portIdentity) → a = b) := by
  have hleft := run_dropForeign hinputs
  have hright := run_dropForeign hothers
  rw [← hsame] at hright
  have hsim : Act.Sim (fun a b => a.withResponse none = b.withResponse none ∧
      ((∀ r ∈ a.response, r.requestingPortIdentity = s.handover.port.portIdentity) →
        (∀ r ∈ b.response, r.requestingPortIdentity = s.handover.port.portIdentity) → a = b))
      (s.run inputs) (s.run others) := by
    refine hleft.trans hright ?_
    intro a u b ha hb
    refine ⟨?_, fun hown hown' => (ha.eq hown).trans (hb.eq hown').symm⟩
    obtain ⟨q, v, w, -, rfl, rfl⟩ := ha
    obtain ⟨q', v', w', -, rfl, hw⟩ := hb
    have hq := congrArg (PortState.withResponse none) hw
    simpa using hq
  exact hsim.forth a l h

end Runs

section Witness

/-- The first clock answers the delay request with sequence identifier 0 of a port. -/
def responseTo (requester : ClockDS) (receipt : TimeStamp) : Env × PortInput :=
  (.calm (.fromSecs 2), .general ⟨(defaultClock 1).identity, ⟨1⟩⟩
    (.delayResp ⟨⟨0⟩, ⟨0⟩, receipt, ⟨requester.identity, ⟨1⟩⟩⟩) (.fromSecs 2))

/-- The port asks for the delay at 10 s. -/
def delayInputs : List (Env × PortInput) :=
  [(.calm (.fromSecs 2), .system .delayRequestTimeout),
    (.calm (.fromSecs 2), .system (.timestamp ⟨.delayReq ⟨⟨0⟩⟩, stampOf 10⟩))]

/-- A one-step Sync of the first clock at 11 s. -/
def syncInput : Env × PortInput :=
  (.calm (.fromSecs 2), .event ⟨(defaultClock 1).identity, ⟨1⟩⟩
    (.oneStepSync ⟨⟨0⟩, ⟨0⟩, stampOf 11⟩) (stampOf 11))

/-- The exchange of the port itself. -/
def ownInputs : List (Env × PortInput) :=
  delayInputs ++ [responseTo (defaultClock 2) (stampOf 10), syncInput]

/-- The third clock is answered before the port. -/
def replacedInputs : List (Env × PortInput) :=
  delayInputs ++ [responseTo (defaultClock 3) (stampOf 20),
    responseTo (defaultClock 2) (stampOf 10), syncInput]

/-- The third clock is answered after the port. -/
def disturbedInputs : List (Env × PortInput) :=
  delayInputs ++ [responseTo (defaultClock 2) (stampOf 10),
    responseTo (defaultClock 3) (stampOf 20), syncInput]

/-- A response to the third clock before the own one is not observed. -/
theorem foreignResponses_unobserved_replaced :
    ∃ a b l, (trackingPort.run replacedInputs).Returns a l ∧
      (trackingPort.run ownInputs).Returns b l ∧ a.withResponse none = b.withResponse none ∧
      a = b := by
  have hrun : ∃ a l, (trackingPort.run replacedInputs).Returns a l ∧ ∀ r ∈ a.response,
      r.requestingPortIdentity = trackingPort.handover.port.portIdentity :=
    ⟨_, _, rfl, by rintro r ⟨⟩; rfl⟩
  obtain ⟨a, l, hrun, harrived⟩ := hrun
  have hrun' : ∃ b l, (trackingPort.run ownInputs).Returns b l ∧ ∀ r ∈ b.response,
      r.requestingPortIdentity = trackingPort.handover.port.portIdentity :=
    ⟨_, _, rfl, by rintro r ⟨⟩; rfl⟩
  obtain ⟨b', l', hrun', harrived'⟩ := hrun'
  have hreplaced : Act.Along (fun s i => s.step i.1 i.2)
      (SamplesOwn trackingPort.handover.port.portIdentity) trackingPort replacedInputs := by
    refine Act.along_cons rfl (fun _ _ hs => absurd hs id) ?_
    refine Act.along_cons rfl (fun _ _ hs => absurd hs id) ?_
    refine Act.along_cons rfl (fun _ _ hs => absurd hs id) ?_
    refine Act.along_cons rfl (fun _ _ hs => absurd hs id) ?_
    refine Act.along_cons rfl ?_ trivial
    intro _ _ _ r hr
    cases hr
    rfl
  have hown : Act.Along (fun s i => s.step i.1 i.2)
      (SamplesOwn trackingPort.handover.port.portIdentity) trackingPort ownInputs := by
    refine Act.along_cons rfl (fun _ _ hs => absurd hs id) ?_
    refine Act.along_cons rfl (fun _ _ hs => absurd hs id) ?_
    refine Act.along_cons rfl (fun _ _ hs => absurd hs id) ?_
    refine Act.along_cons rfl ?_ trivial
    intro _ _ _ r hr
    cases hr
    rfl
  obtain ⟨b, hb, hab, heq⟩ := foreignResponses_unobserved trackingPort a replacedInputs ownInputs l
    rfl hreplaced hown hrun
  obtain rfl := (hb.unique hrun').1
  exact ⟨a, b, l, hrun, hb, hab, heq harrived harrived'⟩

/-- The offsets of the samples that a port feeds to its servo. -/
def fedOffsets {F : Type} (l : List (Effect F)) : List ℤ :=
  l.filterMap fun
    | .servoFeed sample => some sample.offset.ns
    | _ => none

/-- A response to the third clock with the same sequence identifier moves the sample by five
seconds. -/
theorem foreignResponse_disturbs_sample :
    dropForeign trackingPort.handover.port.portIdentity ownInputs =
        dropForeign trackingPort.handover.port.portIdentity disturbedInputs ∧
      ∃ a b l l', (trackingPort.run ownInputs).Returns a l ∧
        (trackingPort.run disturbedInputs).Returns b l' ∧
        fedOffsets l = [0] ∧ fedOffsets l' = [-5000000000] :=
  ⟨rfl, _, _, _, _, rfl, rfl, rfl, rfl⟩

end Witness

end Rptp
