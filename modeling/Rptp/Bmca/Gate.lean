import Rptp.Bmca.Roles
import Rptp.Port.States

/-! # What a role does

A role is its parts and a gate. It takes Announce messages in as its parts do, and it answers a
state decision with the ungated decision, put through the gate. One lemma about roles then serves
all port states.
-/

namespace Rptp

open Machine

variable {F R : Type} [ForeignClockRecords R]

/-- What no message changes about the parts of a role. -/
structure PartsFrame where
  portNumber : PortNumber
  receiver : PortIdentity
  receivedOnPort : PortNumber
deriving DecidableEq

def BmcaParts.frame (b : BmcaParts R) : PartsFrame :=
  ⟨b.bmca.portNumber, b.bestForeign.receiver, b.stateDecisionTrigger.receivedOnPort⟩

/-- The snapshot is of a record that the given port received. -/
def BestForeignSnapshot.ReceivedBy (receiver : PortIdentity) : BestForeignSnapshot → Prop
  | qualified _ _ r => r = receiver
  | empty => True

/-- Every report in the log comes from the port of the frame. -/
def Reports (frame : PartsFrame) (l : List (Effect F)) : Prop :=
  ∀ port e, Effect.trigger port e ∈ l → port = frame.receivedOnPort ∧ e.ReceivedBy frame.receiver

theorem reports_nil (frame : PartsFrame) : Reports frame ([] : List (Effect F)) := by
  intro port e h
  cases h

theorem snapshot_receivedBy {b : BestForeignRecord R} {e : BestForeignSnapshot}
    (h : b.snapshot = .ok e) : e.ReceivedBy b.receiver := by
  rcases b.snapshot_cases with ⟨-, h'⟩ | ⟨q, -, h'⟩
  · rw [h'] at h
    cases h
    trivial
  · rw [h'] at h
    cases h
    rfl

theorem gatedTrigger_returns {t t' : StateDecisionEventTrigger} {current : BestForeignSnapshot}
    {l : List (Effect F)} (h : (t.gatedTrigger current).Returns t' l) :
    t'.receivedOnPort = t.receivedOnPort ∧
      ((t' = t ∧ l = []) ∨
        (t'.previousBestForeign = current ∧ l = [.trigger t.receivedOnPort current])) := by
  unfold StateDecisionEventTrigger.gatedTrigger at h
  split_ifs at h with hne
  · rw [StateDecisionEventTrigger.trigger, Act.returns_emit_bind] at h
    obtain ⟨l', h, rfl⟩ := h
    obtain ⟨rfl, rfl⟩ := Act.returns_pure.mp h
    exact ⟨rfl, .inr ⟨rfl, rfl⟩⟩
  · obtain ⟨rfl, rfl⟩ := Act.returns_pure.mp h
    exact ⟨rfl, .inl ⟨rfl, rfl⟩⟩

theorem gatedTrigger_safe (t : StateDecisionEventTrigger) (current : BestForeignSnapshot) :
    (t.gatedTrigger current : Act (Effect F) _).Safe := by
  unfold StateDecisionEventTrigger.gatedTrigger
  split_ifs
  · exact Act.safe_bind (Act.safe_emit _) fun _ _ _ => Act.safe_pure _
  · exact Act.safe_pure _

namespace BmcaParts

theorem consider_returns {b b' : BmcaParts R} {source : PortIdentity} {ds : ClockDS}
    {interval : LogInterval} {now : Instant} {l : List (Effect F)}
    (h : (b.consider source ds interval now).Returns b' l) :
    b.bestForeign.consider source ds interval now = .ok b'.bestForeign ∧
      b'.bmca = b.bmca ∧ b'.frame = b.frame ∧ Reports b.frame l ∧
        ∀ e ∈ l, ∃ port s, e = .trigger port s := by
  rw [consider, Act.returns_lift_bind] at h
  obtain ⟨records, hrecords, h⟩ := h
  rw [Act.returns_lift_bind] at h
  obtain ⟨current, hsnap, h⟩ := h
  rw [Act.returns_bind_pure] at h
  obtain ⟨t, ht, rfl⟩ := h
  obtain ⟨hport, hlog⟩ := gatedTrigger_returns ht
  have hreceiver := BestForeignRecord.consider_receiver hrecords
  refine ⟨hrecords, rfl, ?_, ?_, ?_⟩
  · simp only [frame, hport, hreceiver]
  · rcases hlog with ⟨-, rfl⟩ | ⟨-, rfl⟩
    · exact reports_nil _
    · intro port e he
      obtain ⟨rfl, rfl⟩ := Effect.trigger.inj (List.mem_singleton.mp he)
      have hr := snapshot_receivedBy hsnap
      rw [hreceiver] at hr
      exact ⟨rfl, hr⟩
  · intro e he
    rcases hlog with ⟨-, rfl⟩ | ⟨-, rfl⟩
    · cases he
    · exact ⟨_, _, List.mem_singleton.mp he⟩

theorem consider_safe [LawfulForeignClockRecords R] (b : BmcaParts R) (source : PortIdentity)
    (ds : ClockDS) (interval : LogInterval) (now : Instant) :
    (b.consider source ds interval now : Act (Effect F) _).Safe := by
  obtain ⟨records, hrecords⟩ := b.bestForeign.consider_returns source ds interval now
  obtain ⟨current, hsnap⟩ := records.snapshot_returns
  rw [consider, hrecords, Act.lift_ok, pure_bind, hsnap, Act.lift_ok, pure_bind]
  exact Act.safe_bind (gatedTrigger_safe _ _) fun _ _ _ => Act.safe_pure _

/-- The decision always returns, and only the local data set is remembered. -/
theorem decision_eq (b : BmcaParts R) (d0 : ClockDS) (eBest : BestForeignSnapshot) :
    ∃ eRbest decision, b.bestForeign.snapshot = .ok eRbest ∧
      BestMasterClockAlgorithm.evaluate b.bmca.portNumber d0 eBest eRbest = .ok decision ∧
      b.decision d0 eBest = .ok ({ b with bmca := { b.bmca with d0 := d0 } }, eRbest, decision) := by
  obtain ⟨eRbest, hsnap⟩ := b.bestForeign.snapshot_returns
  obtain ⟨decision, heval⟩ :=
    BestMasterClockAlgorithm.evaluate_returns b.bmca.portNumber d0 eBest eRbest
  refine ⟨eRbest, decision, hsnap, heval, ?_⟩
  simp [BmcaParts.decision, hsnap, BestMasterClockAlgorithm.decision, heval]

/-- The report of an expired announce receipt timeout. It does not depend on the previous one. -/
theorem triggerCurrent_eq (b : BmcaParts R) : ∃ e, b.bestForeign.snapshot = .ok e ∧
    (b.triggerCurrent : Act (Effect F) _).Returns
      { b with stateDecisionTrigger := { b.stateDecisionTrigger with previousBestForeign := e } }
      [.trigger b.stateDecisionTrigger.receivedOnPort e] := by
  obtain ⟨e, hsnap⟩ := b.bestForeign.snapshot_returns
  refine ⟨e, hsnap, ?_⟩
  rw [triggerCurrent, hsnap, Act.lift_ok, pure_bind]
  rfl

end BmcaParts

/-- A role: parts with a gate on the ungated decision. -/
class GatedBmca (F B : Type) (R : outParam Type) [ForeignClockRecords R] extends Bmca F B where
  parts : B → BmcaParts R
  withParts : B → BmcaParts R → B
  gate : B → BestForeignSnapshot → BmcaDecision → Option BmcaDecision
  withParts_parts : ∀ b, withParts b (parts b) = b
  consider_eq : ∀ b source ds interval now, Bmca.consider b source ds interval now = (do
    let p ← (parts b).consider source ds interval now
    pure (withParts b p) : Act (Effect F) B)
  decision_eq : ∀ b d0 eBest, Bmca.decision F b d0 eBest = (do
    let (p, eRbest, decision) ← (parts b).decision d0 eBest
    pure (withParts b p, gate b eRbest decision))

instance : GatedBmca F (ListeningBmca R) R where
  parts b := b.toBmcaParts
  withParts _ p := ⟨p⟩
  gate _ eRbest decision := match eRbest with
    | .qualified .. => some decision
    | .empty => none
  withParts_parts _ := rfl
  consider_eq _ _ _ _ _ := rfl
  decision_eq b d0 eBest := by
    change ListeningBmca.decision b d0 eBest = _
    unfold ListeningBmca.decision
    congr 1
    funext x
    obtain ⟨p, eRbest, decision⟩ := x
    cases eRbest <;> rfl

instance : GatedBmca F (GrandMasterTrackingBmca R) R where
  parts b := b.toBmcaParts
  withParts b p := ⟨p, b.grandmasterDs⟩
  gate b _ decision := match decision with
    | .master m => if m.matchesGrandmaster b.grandmasterDs then none else some (.master m)
    | decision => some decision
  withParts_parts _ := rfl
  consider_eq _ _ _ _ _ := rfl
  decision_eq b d0 eBest := by
    change GrandMasterTrackingBmca.decision b d0 eBest = _
    unfold GrandMasterTrackingBmca.decision
    congr 1
    funext x
    obtain ⟨p, eRbest, decision⟩ := x
    cases decision with
    | master m => dsimp only; split_ifs <;> rfl
    | slave parent => rfl
    | passive => rfl

instance : GatedBmca F (ParentTrackingBmca R) R where
  parts b := b.toBmcaParts
  withParts b p := ⟨p, b.parentPortIdentity⟩
  gate b _ decision := match decision with
    | .slave parent => if b.parentPortIdentity ≠ parent then some (.slave parent) else none
    | decision => some decision
  withParts_parts _ := rfl
  consider_eq _ _ _ _ _ := rfl
  decision_eq b d0 eBest := by
    change ParentTrackingBmca.decision b d0 eBest = _
    unfold ParentTrackingBmca.decision
    congr 1
    funext x
    obtain ⟨p, eRbest, decision⟩ := x
    cases decision with
    | master m => rfl
    | slave parent => dsimp only; split_ifs <;> rfl
    | passive => rfl

instance : GatedBmca F (PassiveBmca R) R where
  parts b := b.toBmcaParts
  withParts _ p := ⟨p⟩
  gate _ _ decision := match decision with
    | .passive => none
    | decision => some decision
  withParts_parts _ := rfl
  consider_eq _ _ _ _ _ := rfl
  decision_eq b d0 eBest := by
    change PassiveBmca.decision b d0 eBest = _
    unfold PassiveBmca.decision
    congr 1
    funext x
    obtain ⟨p, eRbest, decision⟩ := x
    cases decision <;> rfl

section Role

variable {B : Type} [GatedBmca F B R]

theorem feedBmca_returns {msg : AnnounceMessage} {b b' : B} {source : PortIdentity} {now : Instant}
    {l : List (Effect F)} (h : (msg.feedBmca b source now).Returns b' l) :
    ∃ p, b' = GatedBmca.withParts F b p ∧ p.bmca = (GatedBmca.parts F b).bmca ∧
      p.frame = (GatedBmca.parts F b).frame ∧ Reports (GatedBmca.parts F b).frame l ∧
        ∀ e ∈ l, ∃ port s, e = .trigger port s := by
  rw [AnnounceMessage.feedBmca, Act.returns_lift_bind] at h
  obtain ⟨interval, -, h⟩ := h
  cases interval with
  | none =>
    obtain ⟨rfl, rfl⟩ := Act.returns_pure.mp h
    exact ⟨GatedBmca.parts F b', (GatedBmca.withParts_parts b').symm, rfl, rfl, reports_nil _,
      by simp⟩
  | some interval =>
    dsimp only at h
    rw [GatedBmca.consider_eq, Act.returns_bind_pure] at h
    obtain ⟨p, hp, rfl⟩ := h
    obtain ⟨-, hbmca, hframe, hreports, htriggers⟩ := BmcaParts.consider_returns hp
    exact ⟨p, rfl, hbmca, hframe, hreports, htriggers⟩

theorem feedBmca_safe [LawfulForeignClockRecords R] (msg : AnnounceMessage) (b : B)
    (source : PortIdentity) (now : Instant) :
    (msg.feedBmca b source now : Act (Effect F) B).Safe := by
  obtain ⟨r, hr⟩ := msg.logMessageInterval.logInterval_safe
  rw [AnnounceMessage.feedBmca, hr, Act.lift_ok, pure_bind]
  cases r with
  | none => exact Act.safe_pure _
  | some interval =>
    dsimp only
    rw [GatedBmca.consider_eq]
    exact Act.safe_bind (BmcaParts.consider_safe _ _ _ _ _) fun _ _ _ => Act.safe_pure _

theorem stateDecisionEvent_eq (b : B) (snapshot : StateDecisionSnapshot) :
    ∃ eRbest decision, (GatedBmca.parts F b).bestForeign.snapshot = .ok eRbest ∧
      BestMasterClockAlgorithm.evaluate (GatedBmca.parts F b).bmca.portNumber snapshot.d0
        snapshot.eBest eRbest = .ok decision ∧
      stateDecisionEvent F b snapshot = .ok
        (GatedBmca.withParts F b { GatedBmca.parts F b with
          bmca := { (GatedBmca.parts F b).bmca with d0 := snapshot.d0 } },
          (GatedBmca.gate F b eRbest decision).map BmcaDecision.toStateDecision) := by
  obtain ⟨eRbest, decision, hsnap, heval, heq⟩ :=
    (GatedBmca.parts F b).decision_eq snapshot.d0 snapshot.eBest
  refine ⟨eRbest, decision, hsnap, heval, ?_⟩
  rw [stateDecisionEvent, GatedBmca.decision_eq, heq]
  rfl

end Role

end Rptp
