import Rptp.Clock.Dataset
import Rptp.Time.Interval

/-! # Foreign clock records

A record holds the data set announced by one source and the window in which its Announce
messages arrived. Two Announce messages within the window qualify it, and silence for longer than
the window makes it stale.
-/

namespace Rptp

open Machine

/-- The best foreign data set of a port or of a clock. -/
inductive BestForeignSnapshot where
  | qualified (ds : ClockDS) (sourcePortIdentity receiver : PortIdentity)
  | empty
deriving DecidableEq

namespace BestForeignSnapshot

def isBetterOrBetterByTopology : BestForeignSnapshot → BestForeignSnapshot → Checked Bool
  | qualified ds1 sender1 receiver1, qualified ds2 sender2 receiver2 =>
    (TopologyDS.foreign ds1 sender1 receiver1).isBetterOrBetterByTopology
      (TopologyDS.foreign ds2 sender2 receiver2)
  | qualified .., empty => pure true
  | empty, qualified .. => pure false
  | empty, empty => pure false

end BestForeignSnapshot

/-- A view of a snapshot that has a data set. -/
structure QualifiedForeignSnapshot where
  dataset : ClockDS
  sourcePortIdentity : PortIdentity
  receiver : PortIdentity

namespace QualifiedForeignSnapshot

/-- Better than another snapshot by nothing but topology. -/
def isBetterByTopology (q : QualifiedForeignSnapshot) : BestForeignSnapshot → Checked Bool
  | .qualified ds2 otherSender otherReceiver =>
    (TopologyDS.foreign q.dataset q.sourcePortIdentity q.receiver).isBetterByTopology
      (TopologyDS.foreign ds2 otherSender otherReceiver)
  | .empty => pure false

def parentIfReceivedOnPort (q : QualifiedForeignSnapshot) (port : PortNumber) :
    Option ParentPortIdentity :=
  if q.receiver.portNumber = port then some ⟨q.sourcePortIdentity⟩ else none

def intoGrandmasterDs (q : QualifiedForeignSnapshot) : ClockDS := q.dataset.withAddedStep

end QualifiedForeignSnapshot

/-- Four announce intervals. -/
def foreignMasterTimeWindow (logAnnounceInterval : LogInterval) : Duration :=
  logAnnounceInterval.duration.saturatingMul 4

structure SlidingWindowQualification where
  last : Instant
  prev : Option Instant
  window : Duration
deriving DecidableEq

namespace SlidingWindowQualification

def newUnqualified (first : Instant) (window : Duration) : SlidingWindowQualification :=
  ⟨first, none, window⟩

def qualify (q : SlidingWindowQualification) (now : Instant) (window : Duration) :
    SlidingWindowQualification :=
  ⟨now, some q.last, window⟩

def isQualified (q : SlidingWindowQualification) : Bool :=
  match q.prev.bind q.last.checkedSub with
  | some delta => decide (delta.nanos ≤ q.window.nanos)
  | none => false

def isStale (q : SlidingWindowQualification) (now : Instant) : Bool :=
  match now.checkedSub q.last with
  | some delta => decide (q.window.nanos < delta.nanos)
  | none => true

end SlidingWindowQualification

/-- A qualified record as the selection sees it. -/
structure QualifiedForeignClockRecord where
  dataset : ClockDS
  sourcePortIdentity : PortIdentity
deriving DecidableEq

namespace QualifiedForeignClockRecord

def isBetterThan (receiver : PortIdentity) (a b : QualifiedForeignClockRecord) : Checked Bool :=
  (TopologyDS.foreign a.dataset a.sourcePortIdentity receiver).isBetterOrBetterByTopology
    (TopologyDS.foreign b.dataset b.sourcePortIdentity receiver)

def snapshot (q : QualifiedForeignClockRecord) (receiver : PortIdentity) : BestForeignSnapshot :=
  .qualified q.dataset q.sourcePortIdentity receiver

end QualifiedForeignClockRecord

inductive ForeignClockStatus where
  | unchanged
  | updated
deriving DecidableEq

structure ForeignClockRecord where
  sourcePortIdentity : PortIdentity
  foreignClockDs : ClockDS
  qualification : SlidingWindowQualification
deriving DecidableEq

namespace ForeignClockRecord

def new (sourcePortIdentity : PortIdentity) (foreignClockDs : ClockDS)
    (logAnnounceInterval : LogInterval) (now : Instant) : ForeignClockRecord where
  sourcePortIdentity
  foreignClockDs
  qualification := .newUnqualified now (foreignMasterTimeWindow logAnnounceInterval)

def sameSourceAs (r : ForeignClockRecord) (sourcePortIdentity : PortIdentity) : Bool :=
  r.sourcePortIdentity == sourcePortIdentity

/-- Better by data set and topology, whether qualified or not. -/
def isBetterThan (receiver : PortIdentity) (a b : ForeignClockRecord) : Checked Bool :=
  (TopologyDS.foreign a.foreignClockDs a.sourcePortIdentity receiver).isBetterOrBetterByTopology
    (TopologyDS.foreign b.foreignClockDs b.sourcePortIdentity receiver)

def isQualified (r : ForeignClockRecord) : Bool := r.qualification.isQualified

def isStale (r : ForeignClockRecord) (now : Instant) : Bool := r.qualification.isStale now

/-- Advance the window and take over the data set of a newer record of the same source. -/
def updateFrom (r record : ForeignClockRecord) : Checked (ForeignClockRecord × ForeignClockStatus) := do
  Checked.assert (r.sourcePortIdentity == record.sourcePortIdentity)
    "self.source_port_identity == record.source_port_identity"
  let updated : ForeignClockRecord :=
    { r with
      foreignClockDs := record.foreignClockDs
      qualification := r.qualification.qualify record.qualification.last record.qualification.window }
  let dataSetChanged := decide (r.foreignClockDs ≠ record.foreignClockDs)
  if r.isQualified ≠ updated.isQualified ∨ (updated.isQualified ∧ dataSetChanged) then
    pure (updated, .updated)
  else pure (updated, .unchanged)

def qualified (r : ForeignClockRecord) : Option QualifiedForeignClockRecord :=
  if r.isQualified then some ⟨r.foreignClockDs, r.sourcePortIdentity⟩ else none

theorem updateFrom_returns {r record : ForeignClockRecord}
    (h : r.sourcePortIdentity = record.sourcePortIdentity) :
    ∃ u s, r.updateFrom record = .ok (u, s) ∧ u.sourcePortIdentity = r.sourcePortIdentity := by
  rw [updateFrom, Checked.assert_of (by simpa using h), Checked.ok_bind]
  dsimp only
  split_ifs
  · exact ⟨_, _, rfl, rfl⟩
  · exact ⟨_, _, rfl, rfl⟩

end ForeignClockRecord

end Rptp
