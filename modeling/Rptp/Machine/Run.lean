import Rptp.Machine.Panic

/-! # Runs of a step function

A run feeds a list of inputs to a step function that may panic and that logs its calls. The rules
below carry a property of one step over to whole runs.
-/

namespace Rptp.Machine.Act

variable {ε S I : Type} {step : S → I → Act ε S} {s t : S} {i : I} {is js : List I} {l : List ε}

/-- Feed the inputs one after another. -/
def runAll (step : S → I → Act ε S) (s : S) (inputs : List I) : Act ε S := inputs.foldlM step s

@[simp] theorem runAll_nil : runAll step s [] = pure s := rfl

theorem runAll_cons : runAll step s (i :: is) = step s i >>= fun s' => runAll step s' is :=
  List.foldlM_cons

theorem runAll_append : runAll step s (is ++ js) = runAll step s is >>= fun s' => runAll step s' js :=
  List.foldlM_append

theorem returns_runAll_cons : (runAll step s (i :: is)).Returns t l ↔
    ∃ s' l₁ l₂, (step s i).Returns s' l₁ ∧ (runAll step s' is).Returns t l₂ ∧ l = l₁ ++ l₂ := by
  rw [runAll_cons, returns_bind]

theorem returns_runAll_append : (runAll step s (is ++ js)).Returns t l ↔
    ∃ s' l₁ l₂, (runAll step s is).Returns s' l₁ ∧ (runAll step s' js).Returns t l₂ ∧
      l = l₁ ++ l₂ := by
  rw [runAll_append, returns_bind]

/-- `C` holds of every state of the run together with the input that it is given next. -/
def Along (step : S → I → Act ε S) (C : S → I → Prop) : S → List I → Prop
  | _, [] => True
  | s, i :: is => C s i ∧ ∀ s' l, (step s i).Returns s' l → Along step C s' is

theorem along_congr {C D : S → I → Prop} (h : ∀ s i, C s i ↔ D s i) :
    Along step C s is ↔ Along step D s is := by
  induction is generalizing s with
  | nil => exact Iff.rfl
  | cons i is ih =>
    exact and_congr (h s i) ⟨fun hC s' l hs => ih.mp (hC s' l hs), fun hD s' l hs => ih.mpr (hD s' l hs)⟩

theorem along_cons_iff {C : S → I → Prop} {s' : S} (hs : (step s i).Returns s' l) :
    Along step C s (i :: is) ↔ C s i ∧ Along step C s' is := by
  refine and_congr_right fun _ => ⟨fun h => h s' l hs, fun h s'' l' hs' => ?_⟩
  obtain ⟨rfl, -⟩ := hs.unique hs'
  exact h

theorem along_cons {C : S → I → Prop} {s' : S} (hs : (step s i).Returns s' l) (hC : C s i)
    (h : Along step C s' is) : Along step C s (i :: is) :=
  (along_cons_iff hs).mpr ⟨hC, h⟩

theorem along_append_iff {C : S → I → Prop} (hr : (runAll step s is).Returns t l) :
    Along step C s (is ++ js) ↔ Along step C s is ∧ Along step C t js := by
  induction is generalizing s l with
  | nil =>
    rw [runAll_nil, returns_pure] at hr
    rw [hr.1]
    exact (and_iff_right trivial).symm
  | cons i is ih =>
    obtain ⟨s', l₁, l₂, hs, hr, -⟩ := returns_runAll_cons.mp hr
    rw [List.cons_append, along_cons_iff hs, along_cons_iff hs, ih hr, and_assoc]

theorem along_append {C : S → I → Prop} (h : Along step C s (is ++ js))
    (hr : (runAll step s is).Returns t l) : Along step C t js :=
  ((along_append_iff hr).mp h).2

theorem along_left {C : S → I → Prop} (h : Along step C s (is ++ js)) : Along step C s is := by
  induction is generalizing s with
  | nil => trivial
  | cons i is ih => exact ⟨h.1, fun s' l hs => ih (h.2 s' l hs)⟩

theorem along_true : Along step (fun _ _ => True) s is := by
  induction is generalizing s with
  | nil => trivial
  | cons i is ih => exact ⟨trivial, fun _ _ _ => ih⟩

/-- What every step keeps while `C` holds along the run, the run keeps. -/
theorem runAll_invariant {P : S → Prop} {C : S → I → Prop}
    (hstep : ∀ s i s' l, P s → C s i → (step s i).Returns s' l → P s')
    (h0 : P s) (hC : Along step C s is) (hr : (runAll step s is).Returns t l) : P t := by
  induction is generalizing s l with
  | nil =>
    rw [runAll_nil, returns_pure] at hr
    rw [hr.1]
    exact h0
  | cons i is ih =>
    obtain ⟨s', l₁, l₂, hs, hr, -⟩ := returns_runAll_cons.mp hr
    exact ih (hstep s i s' l₁ h0 hC.1 hs) (hC.2 s' l₁ hs) hr

theorem runAll_preserves {P : S → Prop}
    (hstep : ∀ s i s' l, P s → (step s i).Returns s' l → P s')
    (h0 : P s) (hr : (runAll step s is).Returns t l) : P t :=
  runAll_invariant (fun s i s' l hP _ hs => hstep s i s' l hP hs) h0 along_true hr

/-- When a step from a state with `P` reaches another one exactly if `C` holds of the step, all states
that a run reaches have `P` exactly if `C` holds along it. -/
theorem along_reaches_iff {P Q : S → Prop} {C : S → I → Prop}
    (hkeep : ∀ s i s' l, Q s → (step s i).Returns s' l → Q s')
    (hstep : ∀ s i s' l, Q s → P s → (step s i).Returns s' l → (P s' ↔ C s i))
    (hQ : Q s) (hP : P s) (hr : (runAll step s is).Returns t l) :
    Along step (fun s i => ∀ s' l, (step s i).Returns s' l → P s') s is ↔ Along step C s is := by
  induction is generalizing s l with
  | nil => exact Iff.rfl
  | cons i is ih =>
    obtain ⟨s', l₁, l₂, hs, hr, -⟩ := returns_runAll_cons.mp hr
    rw [along_cons_iff hs, along_cons_iff hs, ← hstep s i s' l₁ hQ hP hs]
    constructor
    · rintro ⟨hreached, hrest⟩
      have hP' := hreached s' l₁ hs
      exact ⟨hP', (ih (hkeep s i s' l₁ hQ hs) hP' hr).mp hrest⟩
    · rintro ⟨hP', hrest⟩
      refine ⟨fun s'' l hs' => ?_, (ih (hkeep s i s' l₁ hQ hs) hP' hr).mpr hrest⟩
      rw [← (hs.unique hs').1]
      exact hP'

theorem runAll_log {P : List ε → S → Prop} (h0 : P [] s)
    (hstep : ∀ l s i s' l', P l s → (step s i).Returns s' l' → P (l ++ l') s')
    (hr : (runAll step s is).Returns t l) : P l t := by
  induction is using List.reverseRecOn generalizing t l with
  | nil =>
    obtain ⟨rfl, rfl⟩ := returns_pure.mp hr
    exact h0
  | append_singleton is i ih =>
    obtain ⟨s', l₁, l₂, hfirst, hlast, rfl⟩ := returns_runAll_append.mp hr
    obtain ⟨t', l₃, l₄, hs, ht, rfl⟩ := returns_runAll_cons.mp hlast
    obtain ⟨rfl, rfl⟩ := returns_pure.mp ht
    rw [List.append_nil]
    exact hstep l₁ s' i t l₃ (ih hfirst) hs

theorem runAll_only {P : S → Prop} {Q : ε → Prop}
    (hstep : ∀ s i s' l, P s → (step s i).Returns s' l → P s' ∧ ∀ e ∈ l, Q e)
    (h0 : P s) (hr : (runAll step s is).Returns t l) : P t ∧ ∀ e ∈ l, Q e := by
  apply runAll_log (P := fun l t => P t ∧ ∀ e ∈ l, Q e) ⟨h0, by simp⟩ _ hr
  rintro l s i s' l' ⟨hP, hQ⟩ hs
  obtain ⟨hP', hQ'⟩ := hstep s i s' l' hP hs
  refine ⟨hP', fun e he => ?_⟩
  rcases List.mem_append.mp he with he | he
  · exact hQ e he
  · exact hQ' e he

theorem runAll_history {P : List I → S → Prop} (h0 : P [] s)
    (hstep : ∀ is s i s' l, P is s → (step s i).Returns s' l → P (is ++ [i]) s')
    (hr : (runAll step s is).Returns t l) : P is t := by
  induction is using List.reverseRecOn generalizing t l with
  | nil =>
    rw [runAll_nil, returns_pure] at hr
    rw [hr.1]
    exact h0
  | append_singleton is i ih =>
    obtain ⟨s', l₁, l₂, hr, hlast, -⟩ := returns_runAll_append.mp hr
    obtain ⟨t', l₃, l₄, hs, ht, -⟩ := returns_runAll_cons.mp hlast
    obtain ⟨rfl, -⟩ := returns_pure.mp ht
    exact hstep is s' i t l₃ (ih hr) hs

theorem runAll_history_reached {P : List I → S → Prop} (h0 : P [] s)
    (hstep : ∀ is s' i t l l', (runAll step s is).Returns s' l → P is s' → (step s' i).Returns t l' →
      P (is ++ [i]) t)
    (hr : (runAll step s is).Returns t l) : P is t := by
  have hreached : (∃ l, (runAll step s is).Returns t l) ∧ P is t := by
    refine runAll_history (P := fun is t => (∃ l, (runAll step s is).Returns t l) ∧ P is t)
      ⟨⟨[], returns_pure.mpr ⟨rfl, rfl⟩⟩, h0⟩ ?_ hr
    rintro is s' i t l' ⟨⟨l, hs'⟩, hP⟩ hs
    refine ⟨⟨l ++ l', ?_⟩, hstep is s' i t l l' hs' hP hs⟩
    exact returns_runAll_append.mpr ⟨s', l, l', hs',
      returns_runAll_cons.mpr ⟨t, l', [], hs, returns_pure.mpr ⟨rfl, rfl⟩, by simp⟩, rfl⟩
  exact hreached.2

/-- A step function that keeps and reads more than another one, and makes the same calls, follows
its runs. -/
theorem runAll_ghost {T J : Type} {step' : T → J → Act ε T} (p : T → S) (f : J → I)
    (hstep : ∀ w i s' l, (step (p w) (f i)).Returns s' l →
      ∃ w', (step' w i).Returns w' l ∧ p w' = s')
    {w : T} {is : List J} (hr : (runAll step (p w) (is.map f)).Returns t l) :
    ∃ w', (runAll step' w is).Returns w' l ∧ p w' = t := by
  induction is generalizing w l with
  | nil =>
    obtain ⟨rfl, rfl⟩ := returns_pure.mp hr
    exact ⟨w, returns_pure.mpr ⟨rfl, rfl⟩, rfl⟩
  | cons i is ih =>
    obtain ⟨s', l₁, l₂, hs, hr, rfl⟩ := returns_runAll_cons.mp hr
    obtain ⟨w₁, hw₁, rfl⟩ := hstep w i s' l₁ hs
    obtain ⟨w', hw', hp⟩ := ih hr
    exact ⟨w', returns_runAll_cons.mpr ⟨w₁, l₁, l₂, hw₁, hw', rfl⟩, hp⟩

/-- One step of a run: the state before, the input, the calls, and the state after. -/
structure Transition (S I ε : Type) where
  before : S
  input : I
  calls : List ε
  after : S

/-- The steps of a run. -/
inductive Traced (step : S → I → Act ε S) (s : S) : List (Transition S I ε) → S → Prop
  | start : Traced step s [] s
  | next {trace : List (Transition S I ε)} {t t' : S} {i : I} {l : List ε}
      (h : Traced step s trace t) (hstep : (step t i).Returns t' l) :
      Traced step s (trace ++ [⟨t, i, l, t'⟩]) t'

theorem returns_runAll_iff_traced : (runAll step s is).Returns t l ↔
    ∃ trace, Traced step s trace t ∧ trace.map Transition.input = is ∧
      trace.flatMap Transition.calls = l := by
  constructor
  · intro hr
    induction is using List.reverseRecOn generalizing t l with
    | nil =>
      obtain ⟨rfl, rfl⟩ := returns_pure.mp hr
      exact ⟨[], .start, rfl, rfl⟩
    | append_singleton is i ih =>
      obtain ⟨s', l₁, l₂, hfirst, hlast, rfl⟩ := returns_runAll_append.mp hr
      obtain ⟨t', l₃, l₄, hs, ht, rfl⟩ := returns_runAll_cons.mp hlast
      obtain ⟨rfl, rfl⟩ := returns_pure.mp ht
      obtain ⟨trace, htrace, rfl, rfl⟩ := ih hfirst
      exact ⟨_, htrace.next hs, List.map_append, List.flatMap_append⟩
  · rintro ⟨trace, htrace, rfl, rfl⟩
    induction htrace with
    | start => exact returns_pure.mpr ⟨rfl, rfl⟩
    | next h hstep ih =>
      rw [List.map_append, List.flatMap_append]
      refine returns_runAll_append.mpr ⟨_, _, _, ih, ?_, rfl⟩
      exact returns_runAll_cons.mpr ⟨_, _, _, hstep, returns_pure.mpr ⟨rfl, rfl⟩, rfl⟩

end Rptp.Machine.Act
