import Rptp.Port.Multicast
import Rptp.Port.Requests
import Rptp.Port.Samples

/-! # Which DelayReq a DelayResp answers

A port pairs a DelayResp with an egress timestamp by their sequence ids. The ids of one delay
mechanism are distinct, but every mechanism starts at 0, and the port does not look at whom a
DelayResp is for. A sample is taken from the two ends of one transmission exactly when both belong to
transmissions of one mechanism of this port.
-/

namespace Rptp

open Machine

variable {F R : Type}

theorem SequenceId.next_toNat {id : SequenceId} (h : id.id.toNat + 1 < 2 ^ 16) :
    id.next.id.toNat = id.id.toNat + 1 := by
  rw [next, UInt16.toNat_add]
  exact Nat.mod_eq_of_lt h

/-- A DelayReq that was sent, with the number of the mechanism that sent it. -/
structure Transmission where
  mechanism : ℕ
  sequenceId : SequenceId

/-- What is recorded belongs to the transmission of its label. A DelayResp without a label answers
none of this port. -/
def Belongs (sent : List Transmission) : Recording → Option ℕ → Prop
  | .delayRequest req _, label => ∃ k, label = some k ∧
      ∃ t, sent[k]? = some t ∧ t.sequenceId = req.sequenceId
  | .delayResponse resp, label => ∀ k, label = some k →
      ∃ t, sent[k]? = some t ∧ t.sequenceId = resp.sequenceId
  | _, _ => True

theorem getElem?_of_append {α : Type} {l : List α} {k : ℕ} {a : α} (h : l[k]? = some a)
    (l' : List α) : (l ++ l')[k]? = some a := by
  rw [List.getElem?_append_left (List.getElem?_eq_some_iff.mp h).1, h]

theorem Belongs.append {sent : List Transmission} {call : Recording} {label : Option ℕ}
    (h : Belongs sent call label) (more : List Transmission) : Belongs (sent ++ more) call label := by
  cases call with
  | delayRequest req egress =>
    obtain ⟨k, hk, t, ht, hid⟩ := h
    exact ⟨k, hk, t, getElem?_of_append ht more, hid⟩
  | delayResponse resp =>
    intro k hk
    obtain ⟨t, ht, hid⟩ := h k hk
    exact ⟨t, getElem?_of_append ht more, hid⟩
  | oneStepSync sync ingress => trivial
  | twoStepSync sync ingress => trivial
  | followUp followUp => trivial

theorem DelayComplete.labelled {Λ : Type} {calls : List (Recording × Λ)} {receipt egress : TimeStamp}
    {request : DelayRequestMessage × TimeStamp} {resp : DelayResponseMessage} {a b : Λ}
    (h : DelayComplete (calls.map Prod.fst) receipt egress)
    (hrequest : latestLabelled Recording.delayRequest? calls = some (request, a))
    (hresponse : latestLabelled Recording.delayResponse? calls = some (resp, b)) :
    ∃ req, request = (req, egress) ∧ receipt = resp.receiveTimestamp ∧
      resp.sequenceId = req.sequenceId := by
  cases h with
  | answered hreq hresp hid =>
    rw [← map_fst_latestLabelled, hrequest] at hreq
    rw [← map_fst_latestLabelled, hresponse] at hresp
    cases hreq
    cases hresp
    exact ⟨_, rfl, rfl, hid⟩

/-- A trace in which the DelayResp messages and the egress timestamps are labelled by their
transmissions. -/
structure DelayTrace (F R : Type) where
  traced : Traced F R (Option ℕ)
  mechanism : ℕ
  sent : List Transmission

namespace DelayTrace

/-- A trace of a port that has recorded and sent nothing. -/
def start (s : PortState F R) : DelayTrace F R := ⟨⟨s, []⟩, 0, []⟩

/-- A change of the parent ends the mechanism. -/
def after (w : DelayTrace F R) (port : PortState F R) (input : PortInput) (label : Option ℕ)
    (l : List (Effect F)) : DelayTrace F R :=
  ⟨w.traced.after port input label,
    if port.parent = w.traced.port.parent then w.mechanism else w.mechanism + 1,
    w.sent ++ (requests l).map (Transmission.mk w.mechanism)⟩

/-- What the port records of the message has the right label. -/
def Genuine (w : DelayTrace F R) (i : (Env × PortInput) × Option ℕ) : Prop :=
  ∀ parent call, w.traced.port.parent = some parent → i.1.2.recording parent = some call →
    Belongs w.sent call i.2

theorem genuine_unrecorded {w : DelayTrace F R} {i : (Env × PortInput) × Option ℕ}
    (h : ∀ parent, i.1.2.recording parent = none) : w.Genuine i := by
  intro parent call _ hcall
  rw [h parent] at hcall
  cases hcall

theorem genuine_recorded {w : DelayTrace F R} {i : (Env × PortInput) × Option ℕ}
    {parent : ParentPortIdentity} {call : Recording} (hparent : w.traced.port.parent = some parent)
    (hcall : i.1.2.recording parent = some call) (h : Belongs w.sent call i.2) : w.Genuine i := by
  intro parent' call' hparent' hcall'
  cases hparent.symm.trans hparent'
  cases hcall.symm.trans hcall'
  exact h

/-- The message completes a sample. -/
structure Completes (w : DelayTrace F R) (i : (Env × PortInput) × Option ℕ) : Prop where
  samples : ∃ parent, w.traced.port.parent = some parent ∧ i.1.2.Samples parent
  sync : ∃ ingress origin, SyncComplete ((w.traced.recorded i.1.2 i.2).map Prod.fst) ingress origin
  delay : ∃ receipt egress,
    DelayComplete ((w.traced.recorded i.1.2 i.2).map Prod.fst) receipt egress

/-- The latest DelayResp and the latest egress timestamp belong to transmissions of one mechanism. -/
def SameMechanism (w : DelayTrace F R) (i : (Env × PortInput) × Option ℕ) : Prop :=
  ∃ request response k j t u,
    latestLabelled Recording.delayRequest? (w.traced.recorded i.1.2 i.2) = some (request, some k) ∧
    latestLabelled Recording.delayResponse? (w.traced.recorded i.1.2 i.2) =
      some (response, some j) ∧
    w.sent[k]? = some t ∧ w.sent[j]? = some u ∧ t.mechanism = u.mechanism

theorem incomplete {w : DelayTrace F R} {i : (Env × PortInput) × Option ℕ} {P : Prop}
    (h : ∀ parent, ¬ i.1.2.Samples parent) (hc : w.Completes i) : P := by
  obtain ⟨parent, -, hsamples⟩ := hc.samples
  exact absurd hsamples (h parent)

/-- The sample is taken from a DelayResp and the egress timestamp of the transmission that it
answers. -/
def Paired (w : DelayTrace F R) (i : (Env × PortInput) × Option ℕ) (sample : ServoSample) : Prop :=
  ∃ ingress origin req egress resp k,
    SyncComplete ((w.traced.recorded i.1.2 i.2).map Prod.fst) ingress origin ∧
    latestLabelled Recording.delayRequest? (w.traced.recorded i.1.2 i.2) =
      some ((req, egress), some k) ∧
    latestLabelled Recording.delayResponse? (w.traced.recorded i.1.2 i.2) = some (resp, some k) ∧
    sample.ingress = ingress ∧ sample.offset.ns =
      ((ingress.ns - origin.ns) - (resp.receiveTimestamp.ns - egress.ns)).tdiv 2

/-- The transmissions of each mechanism have increasing sequence ids. -/
structure Numbered (w : DelayTrace F R) : Prop where
  holds : w.traced.Holds
  mechanisms : ∀ t ∈ w.sent, t.mechanism ≤ w.mechanism
  rising : w.sent.Pairwise fun t u => t.mechanism = u.mechanism →
    t.sequenceId.id.toNat < u.sequenceId.id.toNat
  bounded : ∀ p, w.traced.port.tracking = some p →
    p.delayMechanism.delayCycle.sequenceId.id.toNat ≤ w.sent.length
  next : ∀ p, w.traced.port.tracking = some p → ∀ t ∈ w.sent, t.mechanism = w.mechanism →
    t.sequenceId.id.toNat < p.delayMechanism.delayCycle.sequenceId.id.toNat
  belongs : ∀ c ∈ w.traced.calls, Belongs w.sent c.1 c.2

theorem numbered_start {s : PortState F R} (h : ∀ p, s.tracking = some p →
      ∃ cycle, p.delayMechanism = .new cycle ∧ cycle.sequenceId = ⟨0⟩) : (start s).Numbered := by
  refine ⟨Traced.holds_fresh fun p hp => ?_, ?_, List.Pairwise.nil, ?_, ?_, ?_⟩
  · obtain ⟨cycle, hnew, -⟩ := h p hp
    exact ⟨cycle, hnew⟩
  · intro t ht
    cases ht
  · intro p hp
    obtain ⟨cycle, hnew, hid⟩ := h p hp
    rw [hnew]
    exact (congrArg (fun id : SequenceId => id.id.toNat) hid).le
  · intro p hp t ht
    cases ht
  · intro c hc
    cases hc

theorem Numbered.recorded {w : DelayTrace F R} {i : (Env × PortInput) × Option ℕ} (hw : w.Numbered)
    (hi : w.Genuine i) : ∀ c ∈ w.traced.recorded i.1.2 i.2, Belongs w.sent c.1 c.2 := by
  intro c hc
  rcases Traced.mem_recorded hc with hc | ⟨parent, hparent, hrecording, hlabel⟩
  · exact hw.belongs c hc
  · rw [hlabel]
    exact hi parent c.1 hparent hrecording

theorem Numbered.request {w : DelayTrace F R} {i : (Env × PortInput) × Option ℕ}
    {req : DelayRequestMessage} {egress : TimeStamp} {label : Option ℕ} (hw : w.Numbered)
    (hi : w.Genuine i)
    (h : latestLabelled Recording.delayRequest? (w.traced.recorded i.1.2 i.2) =
      some ((req, egress), label)) :
    ∃ k, label = some k ∧ ∃ t, w.sent[k]? = some t ∧ t.sequenceId = req.sequenceId := by
  obtain ⟨c, hc, hcall, rfl⟩ := mem_of_latestLabelled h
  have hbelongs := hw.recorded hi c hc
  cases hkind : c.1
  case delayRequest =>
    rw [hkind] at hcall hbelongs
    cases hcall
    exact hbelongs
  all_goals
    rw [hkind] at hcall
    cases hcall

theorem Numbered.response {w : DelayTrace F R} {i : (Env × PortInput) × Option ℕ}
    {resp : DelayResponseMessage} {j : ℕ} (hw : w.Numbered) (hi : w.Genuine i)
    (h : latestLabelled Recording.delayResponse? (w.traced.recorded i.1.2 i.2) =
      some (resp, some j)) : ∃ t, w.sent[j]? = some t ∧ t.sequenceId = resp.sequenceId := by
  obtain ⟨c, hc, hcall, hlabel⟩ := mem_of_latestLabelled h
  have hbelongs := hw.recorded hi c hc
  cases hkind : c.1
  case delayResponse =>
    rw [hkind] at hcall hbelongs
    cases hcall
    exact hbelongs j hlabel
  all_goals
    rw [hkind] at hcall
    cases hcall

theorem Numbered.asked {w : DelayTrace F R} {p : ParentTrackingPort F R} (hw : w.Numbered)
    (hp : w.traced.port.tracking = some p) :
    (w.sent ++ [Transmission.mk w.mechanism p.delayMechanism.delayCycle.sequenceId]).Pairwise
      fun t u => t.mechanism = u.mechanism → t.sequenceId.id.toNat < u.sequenceId.id.toNat := by
  refine List.pairwise_append.mpr ⟨hw.rising, List.pairwise_singleton _ _, ?_⟩
  intro t ht u hu hmechanism
  rw [List.mem_singleton.mp hu] at hmechanism ⊢
  exact hw.next p hp t ht hmechanism

theorem Numbered.unique {w : DelayTrace F R} {k j : ℕ} {t u : Transmission} (hw : w.Numbered)
    (ht : w.sent[k]? = some t) (hu : w.sent[j]? = some u) (hmechanism : t.mechanism = u.mechanism)
    (hid : t.sequenceId = u.sequenceId) : k = j := by
  have hrising := List.pairwise_iff_getElem.mp hw.rising
  obtain ⟨hk, rfl⟩ := List.getElem?_eq_some_iff.mp ht
  obtain ⟨hj, rfl⟩ := List.getElem?_eq_some_iff.mp hu
  rcases Nat.lt_trichotomy k j with hlt | heq | hgt
  · have hrise := hrising k j hk hj hlt hmechanism
    rw [hid] at hrise
    exact absurd hrise (Nat.lt_irrefl _)
  · exact heq
  · have hrise := hrising j k hj hk hgt hmechanism.symm
    rw [hid] at hrise
    exact absurd hrise (Nat.lt_irrefl _)

theorem Numbered.belongs_after {w : DelayTrace F R} {i : (Env × PortInput) × Option ℕ}
    (hw : w.Numbered) (hi : w.Genuine i) (port : PortState F R) (l : List (Effect F)) :
    ∀ c ∈ (w.after port i.1.2 i.2 l).traced.calls,
      Belongs (w.after port i.1.2 i.2 l).sent c.1 c.2 := by
  intro c hc
  change c ∈ (if port.parent = w.traced.port.parent then _ else _) at hc
  split_ifs at hc
  · exact (hw.recorded hi c hc).append _
  · cases hc

variable [F64 F] [ForeignClockRecords R]

def step (w : DelayTrace F R) (i : (Env × PortInput) × Option ℕ) :
    Act (Effect F) (DelayTrace F R) := do
  let (port, calls) ← Act.observe (w.traced.port.step i.1.1 i.1.2)
  pure (w.after port i.1.2 i.2 calls)

def run (w : DelayTrace F R) (inputs : List ((Env × PortInput) × Option ℕ)) :
    Act (Effect F) (DelayTrace F R) :=
  Act.runAll step w inputs

theorem step_returns {w w' : DelayTrace F R} {i : (Env × PortInput) × Option ℕ}
    {l : List (Effect F)} : (w.step i).Returns w' l ↔
      ∃ port, (w.traced.port.step i.1.1 i.1.2).Returns port l ∧ w' = w.after port i.1.2 i.2 l :=
  Act.returns_observe_pure

theorem run_of_port {w : DelayTrace F R} {s' : PortState F R}
    {inputs : List ((Env × PortInput) × Option ℕ)} {l : List (Effect F)}
    (h : (w.traced.port.run (inputs.map Prod.fst)).Returns s' l) :
    ∃ w', (w.run inputs).Returns w' l ∧ w'.traced.port = s' := by
  refine Act.runAll_ghost (fun t : DelayTrace F R => t.traced.port) Prod.fst ?_ h
  intro w i port l hstep
  exact ⟨w.after port i.1.2 i.2 l, step_returns.mpr ⟨port, hstep, rfl⟩, rfl⟩

theorem run_sent {w w' : DelayTrace F R} {inputs : List ((Env × PortInput) × Option ℕ)}
    {l : List (Effect F)} (h : (w.run inputs).Returns w' l) :
    w'.sent.length = w.sent.length + (requests l).length := by
  induction inputs generalizing w l with
  | nil =>
    obtain ⟨rfl, rfl⟩ := Act.returns_pure.mp h
    rfl
  | cons i inputs ih =>
    obtain ⟨w₁, l₁, l₂, hstep, hrun, rfl⟩ := Act.returns_runAll_cons.mp h
    obtain ⟨port, -, rfl⟩ := step_returns.mp hstep
    rw [ih hrun, requests_append, after, List.length_append, List.length_append, List.length_map,
      Nat.add_assoc]

theorem Numbered.step_asked {w : DelayTrace F R} {i : (Env × PortInput) × Option ℕ}
    {port : PortState F R} {l : List (Effect F)} {p : ParentTrackingPort F R} (hw : w.Numbered)
    (hi : w.Genuine i) (hstep : (w.traced.port.step i.1.1 i.1.2).Returns port l)
    (hp : w.traced.port.tracking = some p)
    (hl : requests l = [p.delayMechanism.delayCycle.sequenceId])
    (hparent : port.parent = w.traced.port.parent)
    (hid : ∀ p', port.tracking = some p' → p'.delayMechanism.delayCycle.sequenceId =
      p.delayMechanism.delayCycle.sequenceId.next)
    (hsent : (w.after port i.1.2 i.2 l).sent.length < 2 ^ 16) :
    (w.after port i.1.2 i.2 l).Numbered := by
  have hafter : (w.after port i.1.2 i.2 l).sent =
      w.sent ++ [⟨w.mechanism, p.delayMechanism.delayCycle.sequenceId⟩] := by
    rw [after, hl]
    rfl
  have hmechanism : (w.after port i.1.2 i.2 l).mechanism = w.mechanism := if_pos hparent
  have hlength : (w.after port i.1.2 i.2 l).sent.length = w.sent.length + 1 := by
    rw [hafter, List.length_append]
    rfl
  have hbound := hw.bounded p hp
  have hnext : ∀ p', port.tracking = some p' →
      p'.delayMechanism.delayCycle.sequenceId.id.toNat =
        p.delayMechanism.delayCycle.sequenceId.id.toNat + 1 := by
    intro p' hp'
    rw [hid p' hp']
    exact SequenceId.next_toNat (by omega)
  refine ⟨hw.holds.step hstep, ?_, ?_, ?_, ?_, hw.belongs_after hi port l⟩
  · rw [hafter, hmechanism]
    intro t ht
    rcases List.mem_append.mp ht with ht | ht
    · exact hw.mechanisms t ht
    · rw [List.mem_singleton.mp ht]
  · rw [hafter]
    exact hw.asked hp
  · intro p' hp'
    rw [hnext p' hp', hlength]
    omega
  · rw [hafter, hmechanism]
    intro p' hp' t ht hcurrent
    rw [hnext p' hp']
    rcases List.mem_append.mp ht with ht | ht
    · exact Nat.lt_succ_of_lt (hw.next p hp t ht hcurrent)
    · rw [List.mem_singleton.mp ht]
      exact Nat.lt_succ_self _

/-- A step without a DelayReq keeps the mechanism, or it starts a new one with id 0. -/
theorem Numbered.step_quiet {w : DelayTrace F R} {i : (Env × PortInput) × Option ℕ}
    {port : PortState F R} {l : List (Effect F)} (hw : w.Numbered) (hi : w.Genuine i)
    (hstep : (w.traced.port.step i.1.1 i.1.2).Returns port l) (hl : requests l = [])
    (hid : ∀ p', port.tracking = some p' →
      port.parent ≠ w.traced.port.parent ∧ p'.delayMechanism.delayCycle.sequenceId = ⟨0⟩ ∨
      port.parent = w.traced.port.parent ∧ ∃ p, w.traced.port.tracking = some p ∧
        p'.delayMechanism.delayCycle = p.delayMechanism.delayCycle) :
    (w.after port i.1.2 i.2 l).Numbered := by
  have hafter : (w.after port i.1.2 i.2 l).sent = w.sent := by
    rw [after, hl]
    exact List.append_nil _
  refine ⟨hw.holds.step hstep, ?_, ?_, ?_, ?_, hw.belongs_after hi port l⟩
  · rw [hafter]
    intro t ht
    have hle := hw.mechanisms t ht
    change t.mechanism ≤ if port.parent = w.traced.port.parent then _ else _
    split_ifs
    · exact hle
    · exact Nat.le_succ_of_le hle
  · rw [hafter]
    exact hw.rising
  · rw [hafter]
    intro p' hp'
    rcases hid p' hp' with ⟨-, hzero⟩ | ⟨-, p, hp, hcycle⟩
    · rw [hzero]
      exact Nat.zero_le _
    · rw [hcycle]
      exact hw.bounded p hp
  · rw [hafter]
    intro p' hp' t ht hcurrent
    rcases hid p' hp' with ⟨hparent, -⟩ | ⟨hparent, p, hp, hcycle⟩
    · have hnew : (w.after port i.1.2 i.2 l).mechanism = w.mechanism + 1 := if_neg hparent
      have hle := hw.mechanisms t ht
      omega
    · have hsame : (w.after port i.1.2 i.2 l).mechanism = w.mechanism := if_pos hparent
      rw [hcycle]
      exact hw.next p hp t ht (hcurrent.trans hsame)

/-- A step keeps the numbering as long as the ids do not wrap around. -/
theorem Numbered.step {w w' : DelayTrace F R} {i : (Env × PortInput) × Option ℕ}
    {l : List (Effect F)} (hw : w.Numbered) (hi : w.Genuine i) (h : (w.step i).Returns w' l)
    (hsent : w'.sent.length < 2 ^ 16) : w'.Numbered := by
  obtain ⟨port, hstep, rfl⟩ := step_returns.mp h
  cases step_requested hstep with
  | asked hp hl hparent hid => exact hw.step_asked hi hstep hp hl hparent hid hsent
  | quiet hl hid => exact hw.step_quiet hi hstep hl hid

/-- The samples of a step are paired exactly when both ends belong to one mechanism. -/
theorem step_paired {w w' : DelayTrace F R} {i : (Env × PortInput) × Option ℕ}
    {l : List (Effect F)} (hw : w.Numbered) (hi : w.Genuine i) (h : (w.step i).Returns w' l) :
    (∀ sample, Effect.servoFeed sample ∈ l → w.Paired i sample) ↔
      (w.Completes i → w.SameMechanism i) := by
  obtain ⟨port, hstep, rfl⟩ := step_returns.mp h
  constructor
  · intro hpaired hc
    obtain ⟨parent, hparent, hsamples⟩ := hc.samples
    obtain ⟨p, hp, rfl⟩ := PortState.tracking_of_parent hparent
    obtain ⟨taken, htaken, hfeeds⟩ := step_samples hp hsamples hstep
    obtain ⟨r, hr, hcomplete, -⟩ := (hw.holds.record hp i.1.2 i.2).sample
    cases htaken.symm.trans hr
    cases taken with
    | none => cases hcomplete.mpr ⟨hc.sync, hc.delay⟩
    | some sample =>
      have hfed : sample ∈ feeds l := by
        rw [hfeeds]
        exact List.mem_singleton_self sample
      obtain ⟨_, _, req, egress, resp, k, -, hrequest, hresponse, -⟩ :=
        hpaired sample (mem_feeds.mp hfed)
      obtain ⟨k', hk, t, ht, -⟩ := hw.request hi hrequest
      cases hk
      exact ⟨_, _, k, k, t, t, hrequest, hresponse, ht, ht, rfl⟩
  · intro hsame sample hs
    obtain ⟨hsamples, m, hm, hsample⟩ := hw.holds.fed hstep i.2 hs
    obtain ⟨r, hr, hcomplete, htaken⟩ := hm.sample
    cases hr.symm.trans hsample
    obtain ⟨⟨_, _, hsync⟩, _, _, hdelay⟩ := hcomplete.mp rfl
    obtain ⟨request, resp, k, j, t, u, hrequest, hresponse, ht, hu, hmechanism⟩ :=
      hsame ⟨hsamples, ⟨_, _, hsync⟩, _, _, hdelay⟩
    obtain ⟨ingress, origin, receipt, egress, hsync, hdelay, hingress, hoffset⟩ := htaken sample rfl
    obtain ⟨req, hreq, rfl, hid⟩ := hdelay.labelled hrequest hresponse
    subst hreq
    obtain ⟨k', hk, t', ht', htid⟩ := hw.request hi hrequest
    cases hk
    cases ht.symm.trans ht'
    obtain ⟨u', hu', huid⟩ := hw.response hi hresponse
    cases hu.symm.trans hu'
    obtain rfl := hw.unique ht hu hmechanism (by rw [htid, huid, hid])
    exact ⟨ingress, origin, req, egress, resp, k, hsync, hrequest, hresponse, hingress, hoffset⟩

theorem run_paired {w w' : DelayTrace F R} {inputs : List ((Env × PortInput) × Option ℕ)}
    {l : List (Effect F)} (hw : w.Numbered) (hi : Act.Along step Genuine w inputs)
    (h : (w.run inputs).Returns w' l) (hsent : w'.sent.length < 2 ^ 16) :
    Act.Along step (fun w i => ∀ w' l, (w.step i).Returns w' l →
        ∀ sample, Effect.servoFeed sample ∈ l → w.Paired i sample) w inputs ↔
      Act.Along step (fun w i => w.Completes i → w.SameMechanism i) w inputs := by
  induction inputs generalizing w l with
  | nil => exact Iff.rfl
  | cons i inputs ih =>
    obtain ⟨w₁, l₁, l₂, hstep, hrun, -⟩ := Act.returns_runAll_cons.mp h
    obtain ⟨hfirst, hrest⟩ := (Act.along_cons_iff hstep).mp hi
    have hbound : w₁.sent.length < 2 ^ 16 := by
      have hlength := run_sent hrun
      omega
    rw [Act.along_cons_iff hstep, Act.along_cons_iff hstep, ← step_paired hw hfirst hstep,
      ih (hw.step hfirst hstep hbound) hrest hrun]
    refine and_congr_left fun _ => ⟨fun hall => hall w₁ l₁ hstep, fun hone w₂ l hw₂ => ?_⟩
    obtain ⟨rfl, rfl⟩ := hstep.unique hw₂
    exact hone

end DelayTrace

section Pairs

variable [F64 F] [ForeignClockRecords R]

/-- In every run with fewer than 2^16 DelayReq messages, every sample is taken from a DelayResp and
the egress timestamp of the transmission that it answers, exactly when both always belong to
transmissions of one mechanism. -/
theorem delayResp_paired {s s' : PortState F R} {inputs : List ((Env × PortInput) × Option ℕ)}
    {l : List (Effect F)} (hfresh : ∀ p, s.tracking = some p →
      ∃ cycle, p.delayMechanism = .new cycle ∧ cycle.sequenceId = ⟨0⟩)
    (h : (s.run (inputs.map Prod.fst)).Returns s' l) (hsent : (requests l).length < 2 ^ 16)
    (hgenuine : Act.Along DelayTrace.step DelayTrace.Genuine (.start s) inputs) :
    Act.Along DelayTrace.step (fun w i => ∀ w' l, (w.step i).Returns w' l →
        ∀ sample, Effect.servoFeed sample ∈ l → w.Paired i sample) (.start s) inputs ↔
      Act.Along DelayTrace.step (fun w i => w.Completes i → w.SameMechanism i) (.start s) inputs := by
  obtain ⟨w, hw, -⟩ := DelayTrace.run_of_port (w := .start s) h
  refine DelayTrace.run_paired (DelayTrace.numbered_start hfresh) hgenuine hw ?_
  rw [DelayTrace.run_sent hw]
  exact (Nat.zero_add _).trans_lt hsent

end Pairs

section Reselected

/-- The port asks for the delay with sequence id 0, and the request leaves at the given time. -/
def requestAt (seconds : UInt16) (label : ℕ) : List ((Env × PortInput) × Option ℕ) :=
  [((.calm (.fromSecs 2), .system .delayRequestTimeout), none),
    ((.calm (.fromSecs 2), .system (.timestamp ⟨.delayReq ⟨⟨0⟩⟩, stampOf seconds⟩)), some label)]

/-- The port loses its parent and selects it again. -/
def reselection : List ((Env × PortInput) × Option ℕ) :=
  [((.calm (.fromSecs 2), .system .announceReceiptTimeout), none),
    ((.calm (.fromSecs 2), .system (.stateDecisionEvent heardSnapshot)), none)]

/-- The DelayResp to the first request arrives after the second request. -/
def lateInputs : List ((Env × PortInput) × Option ℕ) :=
  requestAt 5 0 ++ reselection ++ requestAt 10 1 ++ [(responseTo (defaultClock 2) (stampOf 5), some 0)]

theorem lateInputs_genuine :
    Act.Along DelayTrace.step DelayTrace.Genuine (.start trackingPort) lateInputs := by
  refine Act.along_cons rfl ?_ ?_
  · exact DelayTrace.genuine_unrecorded fun _ => rfl
  refine Act.along_cons rfl ?_ ?_
  · exact DelayTrace.genuine_recorded rfl rfl ⟨0, rfl, _, rfl, rfl⟩
  refine Act.along_cons rfl ?_ ?_
  · exact DelayTrace.genuine_unrecorded fun _ => rfl
  refine Act.along_cons rfl ?_ ?_
  · exact DelayTrace.genuine_unrecorded fun _ => rfl
  refine Act.along_cons rfl ?_ ?_
  · exact DelayTrace.genuine_unrecorded fun _ => rfl
  refine Act.along_cons rfl ?_ ?_
  · exact DelayTrace.genuine_recorded rfl rfl ⟨1, rfl, _, rfl, rfl⟩
  refine Act.along_cons rfl ?_ trivial
  refine DelayTrace.genuine_recorded rfl rfl fun k hk => ?_
  cases hk
  exact ⟨_, rfl, rfl⟩

/-- The next Sync pairs the DelayResp to the first request with the egress timestamp of the second. -/
theorem delayResp_mispaired :
    ∃ s' l, (trackingPort.run ((lateInputs ++ [(syncInput, none)]).map Prod.fst)).Returns s' l ∧
      (requests l).length < 2 ^ 16 ∧
      Act.Along DelayTrace.step DelayTrace.Genuine (.start trackingPort)
        (lateInputs ++ [(syncInput, none)]) ∧
      ¬ Act.Along DelayTrace.step (fun w i => ∀ w' l, (w.step i).Returns w' l →
        ∀ sample, Effect.servoFeed sample ∈ l → w.Paired i sample) (.start trackingPort)
        (lateInputs ++ [(syncInput, none)]) := by
  have hrun : ∃ s' l,
      (trackingPort.run ((lateInputs ++ [(syncInput, none)]).map Prod.fst)).Returns s' l ∧
      (requests l).length = 2 := ⟨_, _, rfl, rfl⟩
  have hlate : ∃ w l w' sample rest, ((DelayTrace.start trackingPort).run lateInputs).Returns w l ∧
      (w.step (syncInput, none)).Returns w' (.servoFeed sample :: rest) ∧ w.Genuine (syncInput, none) ∧
      (latestLabelled Recording.delayRequest? (w.traced.recorded syncInput.2 none)).map Prod.snd =
        some (some 1) ∧
      (latestLabelled Recording.delayResponse? (w.traced.recorded syncInput.2 none)).map Prod.snd =
        some (some 0) :=
    ⟨_, _, _, _, _, rfl, rfl, DelayTrace.genuine_recorded rfl rfl trivial, rfl, rfl⟩
  obtain ⟨s', l, hs, hrequests⟩ := hrun
  obtain ⟨w, lw, w', sample, rest, hw, hstep, hgenuine, hfirst, hsecond⟩ := hlate
  refine ⟨s', l, hs, by rw [hrequests]; decide, ?_, ?_⟩
  · exact (Act.along_append_iff hw).mpr ⟨lateInputs_genuine, hgenuine, fun _ _ _ => trivial⟩
  · intro hall
    obtain ⟨hpaired, -⟩ := Act.along_append hall hw
    obtain ⟨_, _, req, egress, resp, k, -, hrequest, hresponse, -⟩ :=
      hpaired w' _ hstep sample List.mem_cons_self
    rw [hrequest] at hfirst
    rw [hresponse] at hsecond
    cases hfirst
    cases hsecond

/-- The DelayResp to the second request replaces the late one. -/
def answeredInputs : List ((Env × PortInput) × Option ℕ) :=
  lateInputs ++ [(responseTo (defaultClock 2) (stampOf 10), some 1), (syncInput, none)]

theorem lateInputs_incomplete :
    Act.Along DelayTrace.step (fun w i => w.Completes i → w.SameMechanism i) (.start trackingPort)
      lateInputs := by
  refine Act.along_cons rfl (DelayTrace.incomplete fun _ => id) ?_
  refine Act.along_cons rfl (DelayTrace.incomplete fun _ => id) ?_
  refine Act.along_cons rfl (DelayTrace.incomplete fun _ => id) ?_
  refine Act.along_cons rfl (DelayTrace.incomplete fun _ => id) ?_
  refine Act.along_cons rfl (DelayTrace.incomplete fun _ => id) ?_
  refine Act.along_cons rfl (DelayTrace.incomplete fun _ => id) ?_
  exact Act.along_cons rfl (DelayTrace.incomplete fun _ => id) trivial

/-- With the answer to the second request the sample is paired. -/
theorem delayResp_paired_answered :
    (∀ p, trackingPort.tracking = some p →
      ∃ cycle, p.delayMechanism = .new cycle ∧ cycle.sequenceId = ⟨0⟩) ∧
    ∃ s' l, (trackingPort.run (answeredInputs.map Prod.fst)).Returns s' l ∧
      (requests l).length = 2 ∧ (feeds l).length = 1 ∧
      Act.Along DelayTrace.step DelayTrace.Genuine (.start trackingPort) answeredInputs ∧
      Act.Along DelayTrace.step (fun w i => w.Completes i → w.SameMechanism i) (.start trackingPort)
        answeredInputs ∧
      Act.Along DelayTrace.step (fun w i => ∀ w' l, (w.step i).Returns w' l →
        ∀ sample, Effect.servoFeed sample ∈ l → w.Paired i sample) (.start trackingPort)
        answeredInputs := by
  have hrun : ∃ s' l, (trackingPort.run (answeredInputs.map Prod.fst)).Returns s' l ∧
      (requests l).length = 2 ∧ (feeds l).length = 1 := ⟨_, _, rfl, rfl, rfl⟩
  have hlate : ∃ w l, ((DelayTrace.start trackingPort).run lateInputs).Returns w l := ⟨_, _, rfl⟩
  obtain ⟨s', l, hs, hrequests, hfeeds⟩ := hrun
  obtain ⟨w, lw, hw⟩ := hlate
  have hgenuine : Act.Along DelayTrace.step DelayTrace.Genuine (.start trackingPort)
      answeredInputs := by
    refine (Act.along_append_iff hw).mpr ⟨lateInputs_genuine, ?_⟩
    cases hw
    refine Act.along_cons rfl ?_ (Act.along_cons rfl ?_ trivial)
    · refine DelayTrace.genuine_recorded rfl rfl fun k hk => ?_
      cases hk
      exact ⟨_, rfl, rfl⟩
    · exact DelayTrace.genuine_recorded rfl rfl trivial
  have hsame : Act.Along DelayTrace.step (fun w i => w.Completes i → w.SameMechanism i)
      (.start trackingPort) answeredInputs := by
    refine (Act.along_append_iff hw).mpr ⟨lateInputs_incomplete, ?_⟩
    cases hw
    refine Act.along_cons rfl ?_ (Act.along_cons rfl ?_ trivial)
    · exact DelayTrace.incomplete fun _ => id
    · exact fun _ => ⟨_, _, 1, 1, _, _, rfl, rfl, rfl, rfl, rfl⟩
  have hsent : (requests l).length < 2 ^ 16 := by
    rw [hrequests]
    decide
  exact ⟨trackingPort_unused, s', l, hs, hrequests, hfeeds, hgenuine, hsame,
    (delayResp_paired trackingPort_unused hs hsent hgenuine).mpr hsame⟩

end Reselected

end Rptp
