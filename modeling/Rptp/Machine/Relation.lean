import Rptp.Machine.Run

/-! # Two computations that cannot be told apart

`Sim Q x y` says that `x` and `y` make the same calls and return values related by `Q`, or that
neither returns. Over runs it gives a rule for inputs that leave no trace: dropping them changes
nothing that is observed.
-/

namespace Rptp.Machine.Act

variable {ε α β γ δ S I : Type}

/-- The same calls and related results, or no result on either side. -/
structure Sim (Q : α → β → Prop) (x : Act ε α) (y : Act ε β) : Prop where
  forth : ∀ a l, x.Returns a l → ∃ b, y.Returns b l ∧ Q a b
  back : ∀ b l, y.Returns b l → ∃ a, x.Returns a l ∧ Q a b

theorem sim_pure {Q : α → β → Prop} {a : α} {b : β} (h : Q a b) :
    Sim Q (pure a : Act ε α) (pure b) := by
  constructor
  · intro c l hc
    obtain ⟨rfl, rfl⟩ := returns_pure.mp hc
    exact ⟨b, returns_pure.mpr ⟨rfl, rfl⟩, h⟩
  · intro c l hc
    obtain ⟨rfl, rfl⟩ := returns_pure.mp hc
    exact ⟨a, returns_pure.mpr ⟨rfl, rfl⟩, h⟩

theorem sim_abort {Q : α → β → Prop} (p q : Panic) :
    Sim Q (abort p : Act ε α) (abort q : Act ε β) :=
  ⟨fun _ _ h => absurd h returns_abort, fun _ _ h => absurd h returns_abort⟩

theorem sim_bind {P : α → β → Prop} {Q : γ → δ → Prop} {x : Act ε α} {y : Act ε β}
    {f : α → Act ε γ} {g : β → Act ε δ} (hxy : Sim P x y) (hfg : ∀ a b, P a b → Sim Q (f a) (g b)) :
    Sim Q (x >>= f) (y >>= g) := by
  constructor
  · intro c l hc
    obtain ⟨a, l₁, l₂, hx, hf, rfl⟩ := returns_bind.mp hc
    obtain ⟨b, hy, hab⟩ := hxy.forth a l₁ hx
    obtain ⟨d, hg, hcd⟩ := (hfg a b hab).forth c l₂ hf
    exact ⟨d, returns_bind.mpr ⟨b, l₁, l₂, hy, hg, rfl⟩, hcd⟩
  · intro d l hd
    obtain ⟨b, l₁, l₂, hy, hg, rfl⟩ := returns_bind.mp hd
    obtain ⟨a, hx, hab⟩ := hxy.back b l₁ hy
    obtain ⟨c, hf, hcd⟩ := (hfg a b hab).back d l₂ hg
    exact ⟨c, returns_bind.mpr ⟨a, l₁, l₂, hx, hf, rfl⟩, hcd⟩

theorem sim_refl {Q : α → α → Prop} (x : Act ε α) (h : ∀ a, Q a a) : Sim Q x x :=
  ⟨fun a _ ha => ⟨a, ha, h a⟩, fun a _ ha => ⟨a, ha, h a⟩⟩

theorem sim_bind_pure {Q : β → γ → Prop} {f : α → β} {g : α → γ} (x : Act ε α)
    (h : ∀ a, Q (f a) (g a)) : Sim Q (x >>= fun a => pure (f a)) (x >>= fun a => pure (g a)) := by
  refine sim_bind (P := Eq) (sim_refl x fun _ => rfl) ?_
  rintro a _ rfl
  exact sim_pure (h a)

theorem Sim.trans {P : α → β → Prop} {Q : γ → β → Prop} {T : α → γ → Prop} {x : Act ε α}
    {y : Act ε β} {z : Act ε γ} (hxy : Sim P x y) (hzy : Sim Q z y)
    (h : ∀ a b c, P a b → Q c b → T a c) : Sim T x z := by
  constructor
  · intro a l ha
    obtain ⟨b, hb, hab⟩ := hxy.forth a l ha
    obtain ⟨c, hc, hcb⟩ := hzy.back b l hb
    exact ⟨c, hc, h a b c hab hcb⟩
  · intro c l hc
    obtain ⟨b, hb, hcb⟩ := hzy.forth c l hc
    obtain ⟨a, ha, hab⟩ := hxy.back b l hb
    exact ⟨a, ha, h a b c hab hcb⟩

/-- A run and the same run without the inputs in `drop` cannot be told apart, if each dropped
input is silent and each other one cannot be told apart, while `C` holds along the run. -/
theorem runAll_sim_filter {step : S → I → Act ε S} {drop : I → Bool} {Q : S → S → Prop}
    {C : S → I → Prop}
    (hdrop : ∀ s u i, Q s u → drop i = true → ∃ s', step s i = pure s' ∧ Q s' u)
    (hstep : ∀ s u i, Q s u → drop i = false → C s i → Sim Q (step s i) (step u i))
    {s u : S} {is : List I} (hQ : Q s u) (hC : Along step C s is) :
    Sim Q (runAll step s is) (runAll step u (is.filter fun i => !drop i)) := by
  induction is generalizing s u with
  | nil => exact sim_pure hQ
  | cons i is ih =>
    cases hd : drop i with
    | true =>
      obtain ⟨s', hs, hQ'⟩ := hdrop s u i hQ hd
      rw [List.filter_cons_of_neg (by simp [hd]), runAll_cons, hs, pure_bind]
      exact ih hQ' (hC.2 s' [] (by rw [hs]; exact returns_pure.mpr ⟨rfl, rfl⟩))
    | false =>
      rw [List.filter_cons_of_pos (by simp [hd]), runAll_cons, runAll_cons]
      have hone := hstep s u i hQ hd hC.1
      constructor
      · intro t l ht
        obtain ⟨s', l₁, l₂, hs, hr, rfl⟩ := returns_bind.mp ht
        obtain ⟨u', hu, hQ'⟩ := hone.forth s' l₁ hs
        obtain ⟨v, hv, htv⟩ := (ih hQ' (hC.2 s' l₁ hs)).forth t l₂ hr
        exact ⟨v, returns_bind.mpr ⟨u', l₁, l₂, hu, hv, rfl⟩, htv⟩
      · intro v l hv
        obtain ⟨u', l₁, l₂, hu, hr, rfl⟩ := returns_bind.mp hv
        obtain ⟨s', hs, hQ'⟩ := hone.back u' l₁ hu
        obtain ⟨t, ht, htv⟩ := (ih hQ' (hC.2 s' l₁ hs)).back v l₂ hr
        exact ⟨t, returns_bind.mpr ⟨s', l₁, l₂, hs, ht, rfl⟩, htv⟩

end Rptp.Machine.Act
