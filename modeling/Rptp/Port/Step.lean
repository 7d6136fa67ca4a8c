import Rptp.Machine.Run
import Rptp.Port.Dispatch

/-! # Steps and runs of a port

A step is one message through the driver: a dispatch and, if it answers with a decision, a
transition. `step_returns` is the only place where the two are joined.
-/

namespace Rptp

open Machine

variable {F R : Type} [F64 F] [ForeignClockRecords R]

/-- One message through the driver of a port. -/
def PortState.step (env : Env) (s : PortState F R) (input : PortInput) :
    Act (Effect F) (PortState F R) := do
  let (s, decision) ← s.dispatch env input
  match decision with
  | some decision => s.apply env decision
  | none => pure s

/-- The driver takes its state out and puts the next one in. -/
theorem PortFsm.process_new (env : Env) (s : PortState F R) (input : PortInput) :
    (PortFsm.new s).process env input = PortFsm.new <$> s.step env input := by
  rw [map_eq_pure_bind, PortState.step, bind_assoc]
  change (s.dispatch env input >>= _) = _
  congr 1
  funext a
  obtain ⟨s', d⟩ := a
  cases d with
  | none => rfl
  | some decision => rfl

/-- Everything a step can do. -/
theorem step_returns {env : Env} {s s' : PortState F R} {input : PortInput}
    {l : List (Effect F)} (h : (s.step env input).Returns s' l) :
    (Dispatched s input s' none l) ∨
      ∃ s₁ decision r l₁ l₂, Dispatched s input s₁ (some decision) l₁ ∧
        s.role.next s₁.parts.bmca.d0 decision = some r ∧ Moved s₁ s' r l₂ ∧ l = l₁ ++ l₂ := by
  rw [PortState.step, Act.returns_bind] at h
  obtain ⟨⟨s₁, d⟩, l₁, l₂, hd, h, rfl⟩ := h
  have hdispatched := dispatch_returns hd
  cases d with
  | none =>
    obtain ⟨rfl, rfl⟩ := Act.returns_pure.mp h
    rw [List.append_nil]
    exact .inl hdispatched
  | some decision =>
    obtain ⟨r, hr, hmoved⟩ := apply_returns h
    rw [hdispatched.role] at hr
    exact .inr ⟨s₁, decision, r, l₁, l₂, hdispatched, hr, hmoved, rfl⟩

theorem step_frame {env : Env} {s s' : PortState F R} {input : PortInput} {l : List (Effect F)}
    (h : (s.step env input).Returns s' l) : s'.frame = s.frame := by
  rcases step_returns h with hd | ⟨s₁, decision, r, l₁, l₂, hd, -, hm, -⟩
  · exact hd.frame
  · rw [hm.frame, hd.frame]

theorem step_only (env : Env) (s : PortState F R) (input : PortInput) :
    (s.step env input).Only (s.role.Performs s.parts.frame) := by
  intro s' l h e he
  rw [PortState.step, Act.returns_bind] at h
  obtain ⟨⟨s₁, d⟩, l₁, l₂, hd, h, rfl⟩ := h
  have hdispatched := dispatch_returns hd
  rcases List.mem_append.mp he with he | he
  · exact dispatch_only env s input (s₁, d) l₁ hd e he
  · cases d with
    | none =>
      rw [(Act.returns_pure.mp h).2] at he
      cases he
    | some decision =>
      obtain ⟨r, -, hmoved⟩ := apply_returns h
      have hcall := hmoved.calls e he
      have hframe : s₁.parts.frame = s.parts.frame := congrArg PortFrame.toPartsFrame hdispatched.frame
      rwa [hdispatched.role, hframe] at hcall

/-- A run of a port: messages, each with the answers of its infrastructure. -/
def PortState.run (s : PortState F R) (inputs : List (Env × PortInput)) :
    Act (Effect F) (PortState F R) :=
  Act.runAll (fun s i => s.step i.1 i.2) s inputs

end Rptp
