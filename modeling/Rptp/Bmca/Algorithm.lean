import Rptp.Foreign.Store

/-! # The best master clock algorithm

The ungated decision of a port: the local data set against the best foreign data sets of the
clock and of the port. The roles that gate it are in the next module.
-/

namespace Rptp

open Machine

inductive BmcaMasterDecisionPoint where
  | m1
  | m2
  | m3
deriving DecidableEq

structure BmcaMasterDecision where
  decisionPoint : BmcaMasterDecisionPoint
  grandmasterDs : ClockDS
deriving DecidableEq

namespace BmcaMasterDecision

def matchesGrandmaster (d : BmcaMasterDecision) (grandmasterDs : ClockDS) : Bool :=
  d.grandmasterDs == grandmasterDs

end BmcaMasterDecision

inductive BmcaDecision where
  | master (decision : BmcaMasterDecision)
  | slave (parent : ParentPortIdentity)
  | passive
deriving DecidableEq

/-- How long a port stays in pre-master. -/
structure QualificationTimeoutPolicy where
  masterDecisionPoint : BmcaMasterDecisionPoint
  stepsRemoved : StepsRemoved
deriving DecidableEq

namespace QualificationTimeoutPolicy

def duration (p : QualificationTimeoutPolicy) (logAnnounceInterval : LogInterval) : Duration :=
  match p.masterDecisionPoint with
  | .m1 => Duration.fromSecs 0
  | .m2 => Duration.fromSecs 0
  | .m3 => logAnnounceInterval.duration.saturatingMul (p.stepsRemoved.value.toNat + 1)

end QualificationTimeoutPolicy

/-- The local data set under the topology of the clock itself, port 0. -/
def LocalDS.topology (ds : ClockDS) : TopologyDS := TopologyDS.ofLocal ds ⟨ds.identity, ⟨0⟩⟩

/-- The local data set if it is better than the snapshot, and the snapshot otherwise. -/
def LocalDS.isBetterOrBetterByTopology (ds : ClockDS) :
    BestForeignSnapshot → Checked (Except QualifiedForeignSnapshot ClockDS)
  | .qualified foreignDs source receiver => do
    if ← (LocalDS.topology ds).isBetterOrBetterByTopology
        (TopologyDS.foreign foreignDs source receiver) then
      pure (.ok ds)
    else pure (.error ⟨foreignDs, source, receiver⟩)
  | .empty => pure (.ok ds)

/-- M1 or P1. -/
def authoritativeDecision (d0 : ClockDS) (eRbest : BestForeignSnapshot) : Checked BmcaDecision := do
  match ← LocalDS.isBetterOrBetterByTopology d0 eRbest with
  | .ok localDs => pure (.master ⟨.m1, localDs⟩)
  | .error _ => pure .passive

/-- P2 or M3. -/
def betterByTopologyDecision (eRbest : BestForeignSnapshot) (eBest : QualifiedForeignSnapshot) :
    Checked BmcaDecision := do
  if ← eBest.isBetterByTopology eRbest then pure .passive
  else pure (.master ⟨.m3, eBest.intoGrandmasterDs⟩)

/-- S1 if the best foreign data set was received on this port. -/
def receivedOnPortDecision (portNumber : PortNumber) (eRbest : BestForeignSnapshot)
    (eBest : QualifiedForeignSnapshot) : Checked BmcaDecision :=
  match eBest.parentIfReceivedOnPort portNumber with
  | some parent => pure (.slave parent)
  | none => betterByTopologyDecision eRbest eBest

/-- M2, S1, P2 or M3. -/
def nonAuthoritativeDecision (portNumber : PortNumber) (d0 : ClockDS)
    (eBest eRbest : BestForeignSnapshot) : Checked BmcaDecision := do
  match ← LocalDS.isBetterOrBetterByTopology d0 eBest with
  | .ok localDs => pure (.master ⟨.m2, localDs⟩)
  | .error qualified => receivedOnPortDecision portNumber eRbest qualified

structure BestMasterClockAlgorithm where
  d0 : ClockDS
  portNumber : PortNumber
deriving DecidableEq

namespace BestMasterClockAlgorithm

/-- The decision of a port with the given number, whatever data set it last saw. -/
def evaluate (portNumber : PortNumber) (d0 : ClockDS) (eBest eRbest : BestForeignSnapshot) :
    Checked BmcaDecision :=
  if d0.isAuthoritative then authoritativeDecision d0 eRbest
  else nonAuthoritativeDecision portNumber d0 eBest eRbest

/-- The decision, with the local data set remembered. -/
def decision (a : BestMasterClockAlgorithm) (d0 : ClockDS) (eBest eRbest : BestForeignSnapshot) :
    Checked (BestMasterClockAlgorithm × BmcaDecision) := do
  let a := { a with d0 := d0 }
  pure (a, ← evaluate a.portNumber d0 eBest eRbest)

end BestMasterClockAlgorithm

theorem LocalDS.isBetter_returns (d0 : ClockDS) (e : BestForeignSnapshot) :
    (LocalDS.isBetterOrBetterByTopology d0 e = .ok (.ok d0)) ∨
      ∃ ds source receiver, e = .qualified ds source receiver ∧
        LocalDS.isBetterOrBetterByTopology d0 e = .ok (.error ⟨ds, source, receiver⟩) := by
  cases e with
  | empty => exact .inl rfl
  | qualified ds source receiver =>
    obtain ⟨r, hr⟩ := TopologyDS.isBetterOrBetterByTopology_returns (LocalDS.topology d0)
      (TopologyDS.foreign ds source receiver)
    cases r with
    | true => exact .inl (by simp [isBetterOrBetterByTopology, hr])
    | false =>
      exact .inr ⟨ds, source, receiver, rfl, by simp [isBetterOrBetterByTopology, hr]⟩

theorem QualifiedForeignSnapshot.isBetterByTopology_returns (q : QualifiedForeignSnapshot)
    (e : BestForeignSnapshot) : ∃ r, q.isBetterByTopology e = .ok r := by
  cases e with
  | empty => exact ⟨false, rfl⟩
  | qualified ds source receiver => exact TopologyDS.isBetterByTopology_returns _ _

namespace BestMasterClockAlgorithm

/-- Everything a decision can be, with the condition under which it is taken. -/
theorem evaluate_cases (portNumber : PortNumber) (d0 : ClockDS)
    (eBest eRbest : BestForeignSnapshot) :
    (d0.isAuthoritative = true ∧ LocalDS.isBetterOrBetterByTopology d0 eRbest = .ok (.ok d0) ∧
      evaluate portNumber d0 eBest eRbest = .ok (.master ⟨.m1, d0⟩)) ∨
    (d0.isAuthoritative = true ∧ LocalDS.isBetterOrBetterByTopology d0 eRbest ≠ .ok (.ok d0) ∧
      evaluate portNumber d0 eBest eRbest = .ok .passive) ∨
    (d0.isAuthoritative = false ∧ LocalDS.isBetterOrBetterByTopology d0 eBest = .ok (.ok d0) ∧
      evaluate portNumber d0 eBest eRbest = .ok (.master ⟨.m2, d0⟩)) ∨
    (∃ ds source receiver, d0.isAuthoritative = false ∧
      eBest = .qualified ds source receiver ∧
      LocalDS.isBetterOrBetterByTopology d0 eBest = .ok (.error ⟨ds, source, receiver⟩) ∧
      ((receiver.portNumber = portNumber ∧
          evaluate portNumber d0 eBest eRbest = .ok (.slave ⟨source⟩)) ∨
        (receiver.portNumber ≠ portNumber ∧
          (evaluate portNumber d0 eBest eRbest = .ok .passive ∨
            evaluate portNumber d0 eBest eRbest = .ok (.master ⟨.m3, ds.withAddedStep⟩))))) := by
  cases hauth : d0.isAuthoritative with
  | true =>
    rcases LocalDS.isBetter_returns d0 eRbest with h | ⟨ds, source, receiver, -, h⟩
    · exact .inl ⟨rfl, h, by simp [evaluate, hauth, authoritativeDecision, h]⟩
    · exact .inr (.inl ⟨rfl, by simp [h], by simp [evaluate, hauth, authoritativeDecision, h]⟩)
  | false =>
    rcases LocalDS.isBetter_returns d0 eBest with h | ⟨ds, source, receiver, rfl, h⟩
    · exact .inr (.inr (.inl
        ⟨rfl, h, by simp [evaluate, hauth, nonAuthoritativeDecision, h]⟩))
    · refine .inr (.inr (.inr ⟨ds, source, receiver, rfl, rfl, h, ?_⟩))
      have heval : evaluate portNumber d0 (.qualified ds source receiver) eRbest =
          receivedOnPortDecision portNumber eRbest ⟨ds, source, receiver⟩ := by
        simp [evaluate, hauth, nonAuthoritativeDecision, h]
      rw [heval, receivedOnPortDecision, QualifiedForeignSnapshot.parentIfReceivedOnPort]
      by_cases hp : receiver.portNumber = portNumber
      · exact .inl ⟨hp, by simp [hp]⟩
      · obtain ⟨r, hr⟩ := QualifiedForeignSnapshot.isBetterByTopology_returns
          ⟨ds, source, receiver⟩ eRbest
        refine .inr ⟨hp, ?_⟩
        simp only [hp, if_false, betterByTopologyDecision, hr, Checked.ok_bind]
        cases r with
        | true => exact .inl rfl
        | false => exact .inr rfl

theorem evaluate_returns (portNumber : PortNumber) (d0 : ClockDS)
    (eBest eRbest : BestForeignSnapshot) : ∃ d, evaluate portNumber d0 eBest eRbest = .ok d := by
  rcases evaluate_cases portNumber d0 eBest eRbest with
    ⟨-, -, h⟩ | ⟨-, -, h⟩ | ⟨-, -, h⟩ | ⟨ds, source, receiver, -, -, -, ⟨-, h⟩ | ⟨-, h | h⟩⟩
  all_goals exact ⟨_, h⟩

end BestMasterClockAlgorithm

end Rptp
