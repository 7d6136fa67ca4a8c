import Rptp.Bmca.Algorithm
import Rptp.Port.Environment

/-! # The gated roles of the best master clock algorithm

Every port state wraps the algorithm in a role that suppresses the decisions which would not change
the port. The roles share their parts: the algorithm, the records of the port and the trigger of
state decision events.
-/

namespace Rptp

open Machine

/-- Reports the best foreign data set of a port to the clock. -/
structure StateDecisionEventTrigger where
  previousBestForeign : BestForeignSnapshot
  receivedOnPort : PortNumber
deriving DecidableEq

namespace StateDecisionEventTrigger

variable {F : Type}

def trigger (t : StateDecisionEventTrigger) (current : BestForeignSnapshot) :
    Act (Effect F) StateDecisionEventTrigger := do
  Act.emit (.trigger t.receivedOnPort current)
  pure { t with previousBestForeign := current }

/-- Trigger only when the best foreign data set has changed. -/
def gatedTrigger (t : StateDecisionEventTrigger) (current : BestForeignSnapshot) :
    Act (Effect F) StateDecisionEventTrigger :=
  if t.previousBestForeign ≠ current then t.trigger current else pure t

end StateDecisionEventTrigger

/-- What every role carries. -/
structure BmcaParts (R : Type) where
  bmca : BestMasterClockAlgorithm
  bestForeign : BestForeignRecord R
  stateDecisionTrigger : StateDecisionEventTrigger

namespace BmcaParts

variable {F R : Type} [ForeignClockRecords R]

def consider (b : BmcaParts R) (sourcePortIdentity : PortIdentity) (foreignClockDs : ClockDS)
    (logAnnounceInterval : LogInterval) (now : Instant) : Act (Effect F) (BmcaParts R) := do
  let bestForeign ← Act.lift
    (b.bestForeign.consider sourcePortIdentity foreignClockDs logAnnounceInterval now)
  let current ← Act.lift bestForeign.snapshot
  let stateDecisionTrigger ← b.stateDecisionTrigger.gatedTrigger current
  pure { b with bestForeign, stateDecisionTrigger }

/-- The ungated decision, with the best foreign data set of the port that it used. -/
def decision (b : BmcaParts R) (d0 : ClockDS) (eBest : BestForeignSnapshot) :
    Checked (BmcaParts R × BestForeignSnapshot × BmcaDecision) := do
  let eRbest ← b.bestForeign.snapshot
  let (bmca, decision) ← b.bmca.decision d0 eBest eRbest
  pure ({ b with bmca }, eRbest, decision)

/-- Trigger a state decision whatever the previous best foreign data set was. -/
def triggerCurrent (b : BmcaParts R) : Act (Effect F) (BmcaParts R) := do
  let current ← Act.lift b.bestForeign.snapshot
  let stateDecisionTrigger ← b.stateDecisionTrigger.trigger current
  pure { b with stateDecisionTrigger }

end BmcaParts

structure ListeningBmca (R : Type) extends BmcaParts R

structure GrandMasterTrackingBmca (R : Type) extends BmcaParts R where
  grandmasterDs : ClockDS

structure ParentTrackingBmca (R : Type) extends BmcaParts R where
  parentPortIdentity : ParentPortIdentity

structure PassiveBmca (R : Type) extends BmcaParts R

/-- Hand the parts over to a role that tracks the local data set, which is what a port does when
its master falls silent. -/
def BmcaParts.intoLocalGrandmasterTracking {F R : Type} [ForeignClockRecords R]
    (b : BmcaParts R) : Act (Effect F) (GrandMasterTrackingBmca R) := do
  let b ← b.triggerCurrent
  pure ⟨b, b.bmca.d0⟩

class Bmca (F B : Type) where
  consider : B → PortIdentity → ClockDS → LogInterval → Instant → Act (Effect F) B
  decision : B → ClockDS → BestForeignSnapshot → Checked (B × Option BmcaDecision)

section Roles

variable {F R : Type} [ForeignClockRecords R]

namespace ListeningBmca

/-- A listening port waits for a qualified master. -/
def decision (b : ListeningBmca R) (d0 : ClockDS) (eBest : BestForeignSnapshot) :
    Checked (ListeningBmca R × Option BmcaDecision) := do
  let (parts, eRbest, decision) ← b.toBmcaParts.decision d0 eBest
  match eRbest with
  | .qualified .. => pure ({ b with toBmcaParts := parts }, some decision)
  | .empty => pure ({ b with toBmcaParts := parts }, none)

instance : Bmca F (ListeningBmca R) where
  consider b source ds interval now := do
    let parts ← b.toBmcaParts.consider source ds interval now
    pure { b with toBmcaParts := parts }
  decision := decision

end ListeningBmca

namespace GrandMasterTrackingBmca

def decision (b : GrandMasterTrackingBmca R) (d0 : ClockDS) (eBest : BestForeignSnapshot) :
    Checked (GrandMasterTrackingBmca R × Option BmcaDecision) := do
  let (parts, _, decision) ← b.toBmcaParts.decision d0 eBest
  match decision with
  | .master masterDecision =>
    if masterDecision.matchesGrandmaster b.grandmasterDs then
      pure ({ b with toBmcaParts := parts }, none)
    else pure ({ b with toBmcaParts := parts }, some decision)
  | .slave _ | .passive => pure ({ b with toBmcaParts := parts }, some decision)

instance : Bmca F (GrandMasterTrackingBmca R) where
  consider b source ds interval now := do
    let parts ← b.toBmcaParts.consider source ds interval now
    pure { b with toBmcaParts := parts }
  decision := decision

end GrandMasterTrackingBmca

namespace ParentTrackingBmca

def matchesParent (b : ParentTrackingBmca R) (source : PortIdentity) : Bool :=
  b.parentPortIdentity.matchesSource source

def decision (b : ParentTrackingBmca R) (d0 : ClockDS) (eBest : BestForeignSnapshot) :
    Checked (ParentTrackingBmca R × Option BmcaDecision) := do
  let (parts, _, decision) ← b.toBmcaParts.decision d0 eBest
  match decision with
  | .slave parent =>
    if b.parentPortIdentity ≠ parent then pure ({ b with toBmcaParts := parts }, some decision)
    else pure ({ b with toBmcaParts := parts }, none)
  | _ => pure ({ b with toBmcaParts := parts }, some decision)

instance : Bmca F (ParentTrackingBmca R) where
  consider b source ds interval now := do
    let parts ← b.toBmcaParts.consider source ds interval now
    pure { b with toBmcaParts := parts }
  decision := decision

end ParentTrackingBmca

namespace PassiveBmca

def decision (b : PassiveBmca R) (d0 : ClockDS) (eBest : BestForeignSnapshot) :
    Checked (PassiveBmca R × Option BmcaDecision) := do
  let (parts, _, decision) ← b.toBmcaParts.decision d0 eBest
  match decision with
  | .passive => pure ({ b with toBmcaParts := parts }, none)
  | _ => pure ({ b with toBmcaParts := parts }, some decision)

instance : Bmca F (PassiveBmca R) where
  consider b source ds interval now := do
    let parts ← b.toBmcaParts.consider source ds interval now
    pure { b with toBmcaParts := parts }
  decision := decision

end PassiveBmca

/-- Only an Announce with an interval in the supported range is considered. -/
def AnnounceMessage.feedBmca {B : Type} [Bmca F B] (msg : AnnounceMessage) (bmca : B)
    (sourcePortIdentity : PortIdentity) (now : Instant) : Act (Effect F) B := do
  match ← Act.lift msg.logMessageInterval.logInterval with
  | some logInterval => Bmca.consider bmca sourcePortIdentity msg.foreignClockDs logInterval now
  | none => pure bmca

end Roles

end Rptp
