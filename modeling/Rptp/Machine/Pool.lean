import Rptp.Machine.Run
import Mathlib.Logic.Function.Basic

/-! # Components that share a pool of messages

Every component has a state of its own and sends into a pool that is never emptied. A component may
read any message of the pool at any time and any number of times, so that losses, delays,
reorderings and duplicates are all orders of reading. The rule below is assume-guarantee: what each
component guarantees of its messages, every component may assume of what it reads.
-/

namespace Rptp.Machine

/-- The states of the components and the messages sent so far, each with its sender. -/
structure Pool (ι S M : Type) where
  components : ι → S
  sent : List (ι × M)

/-- How components work on a pool. An occurrence is read against the pool and gives an input, if it
is possible there. A component takes the input, and its calls show what it sends. -/
structure Medium (ε ι S M O I : Type) where
  read : ι → List (ι × M) → O → Option I
  component : ι → S → I → Act ε S
  written : List ε → List M

namespace Pool

variable {ε ι S M O I : Type} [DecidableEq ι] {m : Medium ε ι S M O I}
  {w w' : Pool ι S M} {o : ι × O} {l : List ε}

/-- One component takes one input, or the occurrence is not possible. -/
def step (m : Medium ε ι S M O I) (w : Pool ι S M) (o : ι × O) : Act ε (Pool ι S M) :=
  match m.read o.1 w.sent o.2 with
  | some input => do
    let (s, calls) ← Act.observe (m.component o.1 (w.components o.1) input)
    pure ⟨Function.update w.components o.1 s, w.sent ++ (m.written calls).map (Prod.mk o.1)⟩
  | none => pure w

def run (m : Medium ε ι S M O I) (w : Pool ι S M) (os : List (ι × O)) : Act ε (Pool ι S M) :=
  Act.runAll (step m) w os

theorem step_of_read {input : I} (hread : m.read o.1 w.sent o.2 = some input)
    (h : (step m w o).Returns w' l) :
    ∃ s, (m.component o.1 (w.components o.1) input).Returns s l ∧
      w' = ⟨Function.update w.components o.1 s, w.sent ++ (m.written l).map (Prod.mk o.1)⟩ := by
  unfold step at h
  rw [hread] at h
  exact Act.returns_observe_pure.mp h

theorem step_returns (h : (step m w o).Returns w' l) :
    (w' = w ∧ l = []) ∨ ∃ input s, m.read o.1 w.sent o.2 = some input ∧
      (m.component o.1 (w.components o.1) input).Returns s l ∧
      w' = ⟨Function.update w.components o.1 s, w.sent ++ (m.written l).map (Prod.mk o.1)⟩ := by
  cases hread : m.read o.1 w.sent o.2 with
  | none =>
    unfold step at h
    rw [hread] at h
    exact .inl (Act.returns_pure.mp h)
  | some input =>
    obtain ⟨s, hs, hw'⟩ := step_of_read hread h
    exact .inr ⟨input, s, rfl, hs, hw'⟩

/-- A component is in `P` and every message is in `Q`. -/
structure Guarantees (P : ι → S → Prop) (Q : ι → M → Prop) (w : Pool ι S M) : Prop where
  components : ∀ i, P i (w.components i)
  sent : ∀ p ∈ w.sent, Q p.1 p.2

variable {P : ι → S → Prop} {Q : ι → M → Prop} {A : ι → I → Prop}

theorem Guarantees.step
    (hread : ∀ i sent o input, (∀ p ∈ sent, Q p.1 p.2) → m.read i sent o = some input → A i input)
    (hcomponent : ∀ i s input s' l, P i s → A i input → (m.component i s input).Returns s' l →
      P i s' ∧ ∀ msg ∈ m.written l, Q i msg)
    (hw : w.Guarantees P Q) (h : (step m w o).Returns w' l) : w'.Guarantees P Q := by
  rcases step_returns h with ⟨rfl, -⟩ | ⟨input, s, hin, hs, rfl⟩
  · exact hw
  · obtain ⟨hP, hQ⟩ := hcomponent _ _ _ _ _ (hw.components o.1) (hread _ _ _ _ hw.sent hin) hs
    constructor
    · intro i
      by_cases hi : i = o.1
      · rw [hi]
        simpa using hP
      · simpa [Function.update_of_ne hi] using hw.components i
    · intro p hp
      rcases List.mem_append.mp hp with hp | hp
      · exact hw.sent p hp
      · obtain ⟨msg, hmsg, rfl⟩ := List.mem_map.mp hp
        exact hQ msg hmsg

/-- If messages in `Q` give inputs in `A`, and a component in `P` that takes an input in `A` stays in
`P` and sends only messages in `Q`, so it is in every run. -/
theorem Guarantees.run
    (hread : ∀ i sent o input, (∀ p ∈ sent, Q p.1 p.2) → m.read i sent o = some input → A i input)
    (hcomponent : ∀ i s input s' l, P i s → A i input → (m.component i s input).Returns s' l →
      P i s' ∧ ∀ msg ∈ m.written l, Q i msg)
    (hw : w.Guarantees P Q) {os : List (ι × O)} (h : (run m w os).Returns w' l) :
    w'.Guarantees P Q :=
  Act.runAll_preserves (P := Guarantees P Q) (fun _ _ _ _ hw hs => hw.step hread hcomponent hs) hw h

section Simulation

variable {S' O' I' : Type} {m' : Medium ε ι S' M O' I'} {rel : ι → S → S' → Prop} {v : Pool ι S M}
  {v' : Pool ι S' M}

/-- The components are related, and the same messages have been sent. -/
structure Related (rel : ι → S → S' → Prop) (v : Pool ι S M) (v' : Pool ι S' M) : Prop where
  components : ∀ i, rel i (v.components i) (v'.components i)
  sent : v.sent = v'.sent

/-- A component that takes an input is followed by the one that it is related to, in one input, or it
makes no call and stays related. -/
def Follows (m : Medium ε ι S M O I) (m' : Medium ε ι S' M O' I') (rel : ι → S → S' → Prop) : Prop :=
  ∀ i sent o input s s' t l, m.read i sent o = some input → rel i s s' →
    (m.component i s input).Returns t l → (rel i t s' ∧ l = []) ∨
      ∃ o' input' t', m'.read i sent o' = some input' ∧ (m'.component i s' input').Returns t' l ∧
        rel i t t'

theorem related_update (hv : Related rel v v') {i : ι} {t : S} {t' : S'} {sent sent' : List (ι × M)}
    (ht : rel i t t') (hsent : sent = sent') :
    Related rel ⟨Function.update v.components i t, sent⟩ ⟨Function.update v'.components i t', sent'⟩ := by
  refine ⟨fun j => ?_, hsent⟩
  obtain rfl | hj := eq_or_ne j i
  · simpa using ht
  · simpa [Function.update_of_ne hj] using hv.components j

theorem Related.step (hfollows : Follows m m' rel) (hwritten : m'.written = m.written)
    (hnil : m.written [] = []) (hv : Related rel v v') {w : Pool ι S M}
    (h : (step m v o).Returns w l) :
    ∃ os w', (run m' v' os).Returns w' l ∧ Related rel w w' := by
  rcases step_returns h with ⟨rfl, rfl⟩ | ⟨input, t, hread, ht, rfl⟩
  · exact ⟨[], v', Act.returns_pure.mpr ⟨rfl, rfl⟩, hv⟩
  · rcases hfollows _ _ _ _ _ _ _ _ hread (hv.components o.1) ht with
      ⟨hrel, rfl⟩ | ⟨o', input', t', hread', ht', hrel⟩
    · refine ⟨[], v', Act.returns_pure.mpr ⟨rfl, rfl⟩, ?_⟩
      have hsame := related_update hv hrel hv.sent
      rw [Function.update_eq_self] at hsame
      rw [hnil, List.map_nil, List.append_nil]
      exact hsame
    · refine ⟨[(o.1, o')], ⟨Function.update v'.components o.1 t',
        v'.sent ++ (m.written l).map (Prod.mk o.1)⟩, ?_, related_update hv hrel (by rw [hv.sent])⟩
      refine Act.returns_runAll_cons.mpr ⟨_, l, [], ?_, Act.returns_pure.mpr ⟨rfl, rfl⟩, by simp⟩
      unfold Pool.step
      rw [← hv.sent, hread', ← hwritten]
      exact Act.returns_observe_pure.mpr ⟨t', ht', rfl⟩

/-- If the components follow each other, so do the pools, with the same calls. -/
theorem Related.run (hfollows : Follows m m' rel) (hwritten : m'.written = m.written)
    (hnil : m.written [] = []) (hv : Related rel v v') {os : List (ι × O)} {w : Pool ι S M}
    (h : (run m v os).Returns w l) :
    ∃ os' w', (Pool.run m' v' os').Returns w' l ∧ Related rel w w' := by
  induction os generalizing v v' l with
  | nil =>
    obtain ⟨rfl, rfl⟩ := Act.returns_pure.mp h
    exact ⟨[], v', Act.returns_pure.mpr ⟨rfl, rfl⟩, hv⟩
  | cons o os ih =>
    obtain ⟨u, l₁, l₂, hstep, hrest, rfl⟩ := Act.returns_runAll_cons.mp h
    obtain ⟨os₁, u', hfirst, hu⟩ := hv.step hfollows hwritten hnil hstep
    obtain ⟨os₂, w', hlast, hw⟩ := ih hu hrest
    exact ⟨os₁ ++ os₂, w', Act.returns_runAll_append.mpr ⟨u', l₁, l₂, hfirst, hlast, rfl⟩, hw⟩

end Simulation

end Pool

end Rptp.Machine
