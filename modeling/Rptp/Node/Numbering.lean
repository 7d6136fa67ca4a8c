import Rptp.Node.Boundary

/-! # The port numbers that a clock hands out

The enumeration of a clock yields one number after another, and nothing once all are taken. Its
counter is one ahead of the last number, so the last number of all is the one that does not fit.
-/

namespace Rptp

open Machine

namespace PortEnumeration

/-- Calls of `next`, one after another. -/
def nextPorts (e : PortEnumeration) (calls : ℕ) : Checked (PortEnumeration × List (Option PortNumber)) :=
  Checked.collect (fun e (_ : Unit) => e.nextPort) e (List.replicate calls ())

/-- The enumeration of `n` ports after `calls` calls. -/
def after (n : UInt16) (calls : ℕ) : PortEnumeration := ⟨n, .ofNat (min calls n.toNat + 1)⟩

/-- What the call after `calls` others should yield. -/
def numberAfter (n : UInt16) (calls : ℕ) : Option PortNumber :=
  if calls < n.toNat then some ⟨.ofNat (calls + 1)⟩ else none

theorem nextPort_after {n : UInt16} {calls : ℕ} (h : n.toNat < 65535 ∨ calls + 1 < 65535) :
    (after n calls).nextPort = .ok (after n (calls + 1), numberAfter n calls) := by
  have hn := n.toNat_lt
  have hnext : (UInt16.ofNat (min calls n.toNat + 1)).toNat = min calls n.toNat + 1 :=
    UInt16.toNat_ofNat_of_lt (by rw [UInt16.size]; omega)
  rw [nextPort, numberAfter]
  by_cases hc : calls < n.toNat
  · have hmin : min calls n.toNat = calls := by omega
    have hmin' : min (calls + 1) n.toNat = calls + 1 := by omega
    have hle : (after n calls).next ≤ (after n calls).count := by
      rw [UInt16.le_iff_toNat_le, after, hnext]
      dsimp only
      omega
    have hfits : unsigned 16 ((after n calls).next.toNat + 1) = .ok (calls + 1 + 1) := by
      rw [after, hnext, hmin]
      exact if_pos (by omega)
    rw [if_pos hle, if_pos hc, hfits, Checked.ok_bind, after, after, hmin, hmin']
    rfl
  · have hmin : min calls n.toNat = min (calls + 1) n.toNat := by omega
    have hle : ¬ (after n calls).next ≤ (after n calls).count := by
      rw [UInt16.le_iff_toNat_le, after, hnext]
      dsimp only
      omega
    rw [if_neg hle, if_neg hc, after, after, hmin]
    rfl

theorem nextPorts_after {n : UInt16} {calls k : ℕ} (h : n.toNat < 65535 ∨ calls + k < 65535) :
    (after n calls).nextPorts k =
      .ok (after n (calls + k), (List.range' calls k).map (numberAfter n)) := by
  induction k generalizing calls with
  | zero => rfl
  | succ k ih =>
    rw [nextPorts, List.replicate_succ, Checked.collect_cons (nextPort_after (by omega)), ← nextPorts,
      ih (by omega), Checked.map_ok, List.range'_succ, List.map_cons, Nat.add_right_comm, Nat.add_assoc]

/-- The call that would hand out the last number of all aborts. -/
theorem nextPort_last : (after 65535 65534).nextPort = .error .overflow := rfl

theorem nextPorts_overflow {k : ℕ} (h : 65535 ≤ k) :
    (after 65535 0).nextPorts k = .error .overflow := by
  have hsplit : List.replicate k () =
      List.replicate 65534 () ++ () :: List.replicate (k - 65535) () := by
    rw [← List.replicate_succ, ← List.replicate_add]
    congr 1
    omega
  have hfirst : (after 65535 0).nextPorts 65534 = _ := nextPorts_after (by omega)
  rw [nextPorts, hsplit]
  refine Checked.collect_error hfirst ?_
  rw [Checked.collect, Nat.zero_add, nextPort_last]
  rfl

theorem sequential_eq {n : UInt16} (hn : 1 ≤ n) : sequential n = .ok (after n 0) := by
  rw [sequential, decide_eq_true hn, Checked.assert_true, Checked.ok_bind, after, Nat.zero_min]
  rfl

/-- The calls yield the numbers from 1 to `n` in order, then nothing. Zero is not among them, and no
number is handed out twice. -/
structure Numbered (n : UInt16) (calls : ℕ) (numbers : List (Option PortNumber)) : Prop where
  inOrder : numbers = (List.range calls).map (numberAfter n)
  nonzero : some ⟨0⟩ ∉ numbers
  once : numbers.reduceOption.Nodup

theorem numberAfter_eq_some {n : UInt16} {calls : ℕ} {number : PortNumber} :
    numberAfter n calls = some number ↔ calls < n.toNat ∧ number.value.toNat = calls + 1 := by
  have hn := n.toNat_lt
  rw [numberAfter]
  split_ifs with hc
  · have hnumber : (UInt16.ofNat (calls + 1)).toNat = calls + 1 :=
      UInt16.toNat_ofNat_of_lt (by rw [UInt16.size]; omega)
    obtain ⟨value⟩ := number
    rw [Option.some_inj, PortNumber.mk.injEq, ← UInt16.toNat_inj, hnumber]
    exact ⟨fun h => ⟨hc, h.symm⟩, fun h => h.2.symm⟩
  · simp [hc]

theorem numbered_range (n : UInt16) (calls : ℕ) :
    Numbered n calls ((List.range calls).map (numberAfter n)) := by
  refine ⟨rfl, fun hzero => ?_, ?_⟩
  · obtain ⟨i, -, hi⟩ := List.mem_map.mp hzero
    exact absurd (numberAfter_eq_some.mp hi).2 (Nat.succ_ne_zero i).symm
  · change (List.filterMap id _).Nodup
    rw [List.filterMap_map]
    refine List.Nodup.filterMap (fun i j number hi hj => ?_) List.nodup_range
    have hi' := (numberAfter_eq_some.mp hi).2
    have hj' := (numberAfter_eq_some.mp hj).2
    omega

/-- The calls of a fresh enumeration do what they should unless they reach the last number of all. -/
theorem numbered_iff (n : UInt16) (calls : ℕ) :
    (∃ e numbers, (after n 0).nextPorts calls = .ok (e, numbers) ∧ Numbered n calls numbers) ↔
      n.toNat < 65535 ∨ calls < 65535 := by
  constructor
  · rintro ⟨e, numbers, hcalls, -⟩
    by_contra hlast
    have hn : n = 65535 := UInt16.toNat_inj.mp (by
      have := n.toNat_lt
      change n.toNat = 65535
      omega)
    rw [hn, nextPorts_overflow (by omega)] at hcalls
    cases hcalls
  · intro h
    refine ⟨_, _, nextPorts_after (by omega), ?_⟩
    rw [← List.range_eq_range']
    exact numbered_range n calls

end PortEnumeration

variable {F R : Type} [ForeignClockRecords R]

/-- The number of a port in its identity. -/
def PortState.portNumber (s : PortState F R) : PortNumber := s.handover.port.portIdentity.portNumber

namespace BoundaryClock

/-- Calls of `port`, each with the foreign clock records of the new port. -/
def portAll (clock : BoundaryClock) (records : List R) :
    Checked (BoundaryClock × List (Option (PortState F R))) :=
  Checked.collect port clock records

/-- A call of `port` makes one call of `next`, and the new port has the number that it yields. -/
theorem port_next (clock : BoundaryClock) (records : R) :
    Prod.map portEnumeration (Option.map PortState.portNumber) <$> clock.port (F := F) records =
      clock.portEnumeration.nextPort := by
  rw [port]
  cases clock.portEnumeration.nextPort with
  | error p => rfl
  | ok r =>
    obtain ⟨e, number⟩ := r
    cases number with
    | none => rfl
    | some number =>
      obtain ⟨previous, hprevious⟩ := BestForeignRecord.snapshot_returns
        (⟨⟨clock.defaultDs.identity, number⟩, records⟩ : BestForeignRecord R)
      rw [Checked.ok_bind]
      dsimp only
      rw [newPort, hprevious]
      rfl

theorem portAll_nextPorts (clock : BoundaryClock) (records : List R) :
    Prod.map portEnumeration (List.map (Option.map PortState.portNumber)) <$>
        clock.portAll (F := F) records =
      clock.portEnumeration.nextPorts records.length := by
  rw [portAll, Checked.collect_project (f := fun e (_ : Unit) => e.nextPort) portEnumeration (fun _ => ())
    (Option.map PortState.portNumber) fun t j => port_next t j, List.map_const']
  rfl

end BoundaryClock

open PortEnumeration

/-- The calls of `next`, alone or by way of `port`, hand out the numbers from 1 to `n` in order and
then nothing, exactly as long as `n` is not the last number of all or is not reached. -/
theorem portNumbers_sequential_iff (n : UInt16) (hn : 1 ≤ n) :
    (∀ calls, (∃ e e' numbers, sequential n = .ok e ∧ e.nextPorts calls = .ok (e', numbers) ∧
      Numbered n calls numbers) ↔ n.toNat < 65535 ∨ calls < 65535) ∧
    ∀ (ds : ClockDS) (domain : DomainNumber) (records : List R),
      (∃ clock clock' states, BoundaryClock.new ds domain n = .ok clock ∧
        clock.portAll (F := F) records = .ok (clock', states) ∧
        Numbered n records.length (states.map (Option.map PortState.portNumber))) ↔
      n.toNat < 65535 ∨ records.length < 65535 := by
  constructor
  · intro calls
    rw [← numbered_iff]
    constructor
    · rintro ⟨e, e', numbers, hsequential, hcalls, hnumbered⟩
      rw [sequential_eq hn] at hsequential
      cases hsequential
      exact ⟨e', numbers, hcalls, hnumbered⟩
    · rintro ⟨e', numbers, hcalls, hnumbered⟩
      exact ⟨_, e', numbers, sequential_eq hn, hcalls, hnumbered⟩
  · intro ds domain records
    have hnew : BoundaryClock.new ds domain n = .ok ⟨ds, domain, after n 0, .new, []⟩ := by
      rw [BoundaryClock.new, sequential_eq hn]
      rfl
    have hports := BoundaryClock.portAll_nextPorts (F := F) ⟨ds, domain, after n 0, .new, []⟩ records
    rw [← numbered_iff]
    constructor
    · rintro ⟨clock, clock', states, hclock, hstates, hnumbered⟩
      rw [hnew] at hclock
      cases hclock
      rw [hstates] at hports
      exact ⟨_, _, hports.symm, hnumbered⟩
    · rintro ⟨e', numbers, hcalls, hnumbered⟩
      rw [hcalls] at hports
      obtain ⟨⟨clock', states⟩, hstates, hpair⟩ := Checked.bind_eq_ok.mp hports
      cases hpair
      exact ⟨_, clock', states, hnew, hstates, hnumbered⟩

/-- Of 65535 ports, the last one is never created: its number overflows the counter. -/
theorem portNumbers_last_overflow :
    (sequential 65535 >>= fun e => e.nextPorts 65535) = .error .overflow ∧
    ¬ ∃ e e' numbers, sequential 65535 = .ok e ∧ e.nextPorts 65535 = .ok (e', numbers) ∧
      Numbered 65535 65535 numbers := by
  have hsequential : sequential 65535 = .ok (after 65535 0) := sequential_eq (by decide)
  have hcalls : (after 65535 0).nextPorts 65535 = .error .overflow := nextPorts_overflow le_rfl
  refine ⟨by rw [hsequential, Checked.ok_bind, hcalls], ?_⟩
  rintro ⟨e, e', numbers, he, hnumbers, -⟩
  rw [hsequential] at he
  cases he
  rw [hcalls] at hnumbers
  cases hnumbers

/-- Five calls on three ports. -/
theorem portNumbers_sequential_three : ∃ e e', sequential 3 = .ok e ∧
    e.nextPorts 5 = .ok (e', [some ⟨1⟩, some ⟨2⟩, some ⟨3⟩, none, none]) := by
  have hiff := portNumbers_sequential_iff (F := ℚ) (R := ForeignClockRecordsVec) 3 (by decide)
  obtain ⟨e, e', numbers, he, hcalls, hnumbered⟩ := (hiff.1 5).mpr (.inl (by decide))
  rw [hnumbered.inOrder] at hcalls
  exact ⟨e, e', he, hcalls⟩

end Rptp
