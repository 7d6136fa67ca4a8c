import Mathlib.Tactic

/-! # Computations that may panic, with a log of their external calls

`Checked` is a computation that either returns or aborts. `Act` adds the ordered list of the
calls made on collaborators outside the program. Every rule below turns a bind into its parts,
so that a caller never unfolds a callee.
-/

namespace Rptp.Machine

/-- The ways in which a checked computation aborts. -/
inductive Panic where
  | assertion (condition : String)
  | unreachable (message : String)
  | outOfRange (start stop length : ℕ)
  | overflow
  | message (text : String)
deriving DecidableEq, Repr

abbrev Checked (α : Type) := Except Panic α

namespace Checked

variable {α β : Type}

def abort (p : Panic) : Checked α := .error p

def assert (b : Bool) (condition : String) : Checked Unit :=
  if b then .ok () else .error (.assertion condition)

@[simp] theorem pure_eq (a : α) : (pure a : Checked α) = .ok a := rfl
@[simp] theorem ok_bind (a : α) (f : α → Checked β) : (Except.ok a >>= f) = f a := rfl
@[simp] theorem error_bind (p : Panic) (f : α → Checked β) :
    ((Except.error p : Checked α) >>= f) = .error p := rfl
@[simp] theorem map_ok (f : α → β) (a : α) : (f <$> (Except.ok a : Checked α)) = .ok (f a) := rfl
@[simp] theorem assert_true (c : String) : assert true c = .ok () := rfl

theorem assert_of {b : Bool} (h : b = true) (c : String) : assert b c = .ok () := by
  rw [h, assert_true]

theorem bind_eq_ok {x : Checked α} {f : α → Checked β} {b : β} :
    (x >>= f) = .ok b ↔ ∃ a, x = .ok a ∧ f a = .ok b := by
  cases x with
  | error p => simp
  | ok a => simp

theorem foldlM_returns {f : β → α → Checked β} {P : β → Prop} {l : List α}
    (hf : ∀ b, ∀ a ∈ l, P b → ∃ b', f b a = .ok b' ∧ P b') (b : β) (hb : P b) :
    ∃ b', l.foldlM f b = .ok b' ∧ P b' := by
  induction l generalizing b with
  | nil => exact ⟨b, rfl, hb⟩
  | cons a l ih =>
    obtain ⟨c, hc, hP⟩ := hf b a List.mem_cons_self hb
    obtain ⟨d, hd, hQ⟩ := ih (fun b a ha => hf b a (List.mem_cons_of_mem _ ha)) c hP
    exact ⟨d, by rw [List.foldlM_cons, hc, ok_bind, hd], hQ⟩

/-- A fold whose every step returns and extends a relation between the elements taken in and the
result returns, and all elements are related to its result. -/
theorem foldlM_takes {f : β → α → Checked β} {P : List α → β → Prop} {l : List α} {b : β}
    (hnil : P [] b) (hf : ∀ p b, ∀ a ∈ l, P p b → ∃ b', f b a = .ok b' ∧ P (p ++ [a]) b') :
    ∃ b', l.foldlM f b = .ok b' ∧ P l b' := by
  induction l using List.reverseRecOn with
  | nil => exact ⟨b, rfl, hnil⟩
  | append_singleton l a ih =>
    obtain ⟨c, hc, hP⟩ := ih fun p b a ha => hf p b a (List.mem_append_left _ ha)
    obtain ⟨d, hd, hQ⟩ := hf l c a (by simp) hP
    refine ⟨d, ?_, hQ⟩
    rw [List.foldlM_append, hc, ok_bind, List.foldlM_cons, hd]
    rfl

theorem foldlM_preserves {f : β → α → Checked β} {P : β → Prop} {l : List α}
    (hf : ∀ b a b', P b → f b a = .ok b' → P b') {b b' : β} (hb : P b)
    (h : l.foldlM f b = .ok b') : P b' := by
  induction l generalizing b with
  | nil =>
    cases h
    exact hb
  | cons a l ih =>
    rw [List.foldlM_cons] at h
    obtain ⟨c, hc, hrest⟩ := bind_eq_ok.mp h
    exact ih (hf b a c hb hc) hrest

/-- Call `f` once for each input and collect what the calls return. -/
def collect {S I O : Type} (f : S → I → Checked (S × O)) : S → List I → Checked (S × List O)
  | s, [] => pure (s, [])
  | s, i :: is => do
    let (t, o) ← f s i
    let (u, os) ← collect f t is
    pure (u, o :: os)

section Collect

variable {S T I J O P : Type} {f : S → I → Checked (S × O)} {s t : S} {os : List O}

theorem collect_cons {i : I} {is : List I} {o : O} (h : f s i = .ok (t, o)) :
    collect f s (i :: is) = (fun r => (r.1, o :: r.2)) <$> collect f t is := by
  rw [collect, h, ok_bind]
  dsimp only
  cases collect f t is with
  | error p => rfl
  | ok r => rfl

/-- Calls that abort after others abort. -/
theorem collect_error {is js : List I} {p : Panic} (h : collect f s is = .ok (t, os))
    (hp : collect f t js = .error p) : collect f s (is ++ js) = .error p := by
  induction is generalizing s os with
  | nil =>
    cases h
    exact hp
  | cons i is ih =>
    obtain ⟨⟨s', o⟩, hf, hrest⟩ := bind_eq_ok.mp h
    obtain ⟨⟨t', os'⟩, his, hret⟩ := bind_eq_ok.mp hrest
    cases hret
    rw [List.cons_append, collect_cons hf, ih his]
    rfl

/-- Calls of a function that keeps and returns more than another one are calls of that one. -/
theorem collect_project {g : T → J → Checked (T × P)} (state : T → S) (input : J → I) (output : P → O)
    (hg : ∀ t j, Prod.map state output <$> g t j = f (state t) (input j)) (t : T) (js : List J) :
    Prod.map state (List.map output) <$> collect g t js = collect f (state t) (js.map input) := by
  induction js generalizing t with
  | nil => rfl
  | cons j js ih =>
    rw [List.map_cons, collect, collect, ← hg]
    cases g t j with
    | error p => rfl
    | ok r =>
      obtain ⟨u, o⟩ := r
      rw [map_ok, ok_bind, ok_bind, Prod.map_apply]
      dsimp only
      rw [← ih u]
      cases collect g u js with
      | error p => rfl
      | ok r => rfl

end Collect

end Checked

/-- A computation that may panic and that records its calls on outside collaborators. -/
structure Act (ε α : Type) where
  run : Checked (α × List ε)

namespace Act

variable {ε α β γ : Type}

def ret (a : α) : Act ε α := ⟨.ok (a, [])⟩

def andThen (x : Act ε α) (f : α → Act ε β) : Act ε β :=
  ⟨do
    let (a, l) ← x.run
    let (b, l') ← (f a).run
    pure (b, l ++ l')⟩

instance : Monad (Act ε) where
  pure := ret
  bind := andThen

theorem ext {x y : Act ε α} (h : x.run = y.run) : x = y := by
  cases x
  cases y
  exact congrArg Act.mk h

theorem run_bind (x : Act ε α) (f : α → Act ε β) :
    (x >>= f).run = x.run >>= fun p => (f p.1).run >>= fun q => .ok (q.1, p.2 ++ q.2) := rfl

theorem map_id (x : Act ε α) : id <$> x = x := by
  apply ext
  change (x.run >>= fun p => Except.ok (p.1, p.2 ++ [])) = x.run
  cases x.run with
  | error p => rfl
  | ok p => simp

theorem ret_bind (a : α) (f : α → Act ε β) : (pure a >>= f) = f a := by
  apply ext
  change (((f a).run >>= fun q => Except.ok (q.1, [] ++ q.2)) : Checked _) = (f a).run
  cases (f a).run with
  | error p => rfl
  | ok p => simp

theorem bind_bind (x : Act ε α) (f : α → Act ε β) (g : β → Act ε γ) :
    x >>= f >>= g = x >>= fun a => f a >>= g := by
  apply ext
  simp only [run_bind]
  cases x.run with
  | error p => rfl
  | ok p =>
    simp only [Checked.ok_bind]
    cases (f p.1).run with
    | error q => rfl
    | ok q =>
      simp only [Checked.ok_bind]
      cases (g q.1).run with
      | error r => rfl
      | ok r => simp

instance : LawfulMonad (Act ε) := LawfulMonad.mk' (Act ε) map_id ret_bind bind_bind

def emit (e : ε) : Act ε Unit := ⟨.ok ((), [e])⟩

def lift (x : Checked α) : Act ε α := ⟨do pure (← x, [])⟩

@[simp] theorem lift_ok (a : α) : (lift (.ok a) : Act ε α) = pure a := rfl

def abort (p : Panic) : Act ε α := ⟨.error p⟩

/-- The result of `x` together with its log. -/
def observe (x : Act ε α) : Act ε (α × List ε) := ⟨do
  let (a, l) ← x.run
  pure ((a, l), l)⟩

/-- `x` returns `a` after exactly the calls `l`. -/
def Returns (x : Act ε α) (a : α) (l : List ε) : Prop := x.run = .ok (a, l)

theorem returns_of_toOption {x : Act ε α} {a : α} {l : List ε} (h : x.run.toOption = some (a, l)) :
    x.Returns a l := by
  unfold Returns
  cases hx : x.run with
  | error p =>
    rw [hx] at h
    cases h
  | ok r =>
    rw [hx] at h
    exact congrArg Except.ok (Option.some.inj h)

/-- `x` returns. -/
def Safe (x : Act ε α) : Prop := ∃ a l, x.Returns a l

@[simp] theorem returns_pure {a b : α} {l : List ε} :
    Returns (pure a : Act ε α) b l ↔ b = a ∧ l = [] := by
  change (Except.ok (a, []) : Checked (α × List ε)) = .ok (b, l) ↔ _
  simp [eq_comm]

@[simp] theorem returns_emit {e : ε} {u : Unit} {l : List ε} :
    Returns (emit e) u l ↔ l = [e] := by
  change (Except.ok ((), [e]) : Checked (Unit × List ε)) = .ok (u, l) ↔ _
  simp [eq_comm]

@[simp] theorem returns_lift {x : Checked α} {a : α} {l : List ε} :
    Returns (lift x : Act ε α) a l ↔ x = .ok a ∧ l = [] := by
  cases x with
  | error p => simp [lift, Returns]
  | ok b => simp [lift, Returns, eq_comm]

@[simp] theorem returns_abort {p : Panic} {a : α} {l : List ε} :
    ¬ Returns (abort p : Act ε α) a l := by
  intro h
  cases h

theorem returns_observe {x : Act ε α} {p : α × List ε} {l : List ε} :
    Returns (observe x) p l ↔ x.Returns p.1 l ∧ p.2 = l := by
  change (x.run >>= fun q => pure ((q.1, q.2), q.2)) = .ok (p, l) ↔ x.run = .ok (p.1, l) ∧ _
  rw [Checked.bind_eq_ok]
  constructor
  · rintro ⟨⟨a, l'⟩, hx, h⟩
    cases h
    exact ⟨hx, rfl⟩
  · rintro ⟨hx, rfl⟩
    exact ⟨_, hx, rfl⟩

/-- The inversion rule of a bind: the calls of both halves are concatenated. -/
theorem returns_bind {x : Act ε α} {f : α → Act ε β} {b : β} {l : List ε} :
    Returns (x >>= f) b l ↔ ∃ a l₁ l₂, x.Returns a l₁ ∧ (f a).Returns b l₂ ∧ l = l₁ ++ l₂ := by
  change (x.run >>= fun p => (f p.1).run >>= fun q => pure (q.1, p.2 ++ q.2)) = .ok (b, l) ↔ _
  simp only [Checked.bind_eq_ok, Checked.pure_eq, Except.ok.injEq, Prod.mk.injEq, Returns]
  constructor
  · rintro ⟨⟨a, l₁⟩, hx, ⟨b', l₂⟩, hf, rfl, rfl⟩
    exact ⟨a, l₁, l₂, hx, hf, rfl⟩
  · rintro ⟨a, l₁, l₂, hx, hf, rfl⟩
    exact ⟨(a, l₁), hx, (b, l₂), hf, rfl, rfl⟩

theorem returns_lift_bind {x : Checked α} {f : α → Act ε β} {b : β} {l : List ε} :
    Returns (lift x >>= f) b l ↔ ∃ a, x = .ok a ∧ (f a).Returns b l := by
  rw [returns_bind]
  constructor
  · rintro ⟨a, l₁, l₂, hx, hf, rfl⟩
    obtain ⟨ha, rfl⟩ := returns_lift.mp hx
    exact ⟨a, ha, hf⟩
  · rintro ⟨a, hx, hf⟩
    exact ⟨a, [], l, returns_lift.mpr ⟨hx, rfl⟩, hf, rfl⟩

theorem returns_emit_bind {e : ε} {f : Unit → Act ε β} {b : β} {l : List ε} :
    Returns (emit e >>= f) b l ↔ ∃ l', (f ()).Returns b l' ∧ l = e :: l' := by
  rw [returns_bind]
  constructor
  · rintro ⟨u, l₁, l₂, hx, hf, rfl⟩
    rw [returns_emit.mp hx]
    exact ⟨l₂, hf, rfl⟩
  · rintro ⟨l', hf, rfl⟩
    exact ⟨(), [e], l', returns_emit.mpr rfl, hf, rfl⟩

theorem returns_bind_pure {x : Act ε α} {f : α → β} {b : β} {l : List ε} :
    Returns (x >>= fun a => pure (f a)) b l ↔ ∃ a, x.Returns a l ∧ b = f a := by
  rw [returns_bind]
  constructor
  · rintro ⟨a, l₁, l₂, hx, hf, rfl⟩
    obtain ⟨rfl, rfl⟩ := returns_pure.mp hf
    exact ⟨a, by rwa [List.append_nil], rfl⟩
  · rintro ⟨a, hx, rfl⟩
    exact ⟨a, l, [], hx, returns_pure.mpr ⟨rfl, rfl⟩, (List.append_nil l).symm⟩

theorem returns_observe_bind {x : Act ε α} {f : α × List ε → Act ε β} {b : β} {l : List ε} :
    Returns (observe x >>= f) b l ↔
      ∃ a l₁ l₂, x.Returns a l₁ ∧ (f (a, l₁)).Returns b l₂ ∧ l = l₁ ++ l₂ := by
  rw [returns_bind]
  constructor
  · rintro ⟨⟨a, calls⟩, l₁, l₂, hobserve, hf, rfl⟩
    obtain ⟨hx, rfl⟩ := returns_observe.mp hobserve
    exact ⟨a, calls, l₂, hx, hf, rfl⟩
  · rintro ⟨a, l₁, l₂, hx, hf, rfl⟩
    exact ⟨(a, l₁), l₁, l₂, returns_observe.mpr ⟨hx, rfl⟩, hf, rfl⟩

/-- A monitor computes its next state from the result of a step and from its calls. -/
theorem returns_observe_pure {x : Act ε α} {f : α × List ε → β} {b : β} {l : List ε} :
    Returns (observe x >>= fun p => pure (f p)) b l ↔ ∃ a, x.Returns a l ∧ b = f (a, l) := by
  rw [returns_bind_pure]
  constructor
  · rintro ⟨⟨a, calls⟩, hobserve, rfl⟩
    obtain ⟨hx, rfl⟩ := returns_observe.mp hobserve
    exact ⟨a, hx, rfl⟩
  · rintro ⟨a, hx, rfl⟩
    exact ⟨(a, l), returns_observe.mpr ⟨hx, rfl⟩, rfl⟩

@[simp] theorem safe_pure (a : α) : Safe (pure a : Act ε α) := ⟨a, [], rfl⟩

@[simp] theorem safe_emit (e : ε) : Safe (emit e) := ⟨(), [e], rfl⟩

theorem safe_lift {x : Checked α} {a : α} (h : x = .ok a) : Safe (lift x : Act ε α) :=
  ⟨a, [], returns_lift.mpr ⟨h, rfl⟩⟩

/-- A bind returns when its first half does and its second half does on every value the
first half can return. -/
theorem safe_bind {x : Act ε α} {f : α → Act ε β} (hx : x.Safe)
    (hf : ∀ a l, x.Returns a l → (f a).Safe) : Safe (x >>= f) := by
  obtain ⟨a, l, ha⟩ := hx
  obtain ⟨b, l', hb⟩ := hf a l ha
  exact ⟨b, l ++ l', returns_bind.mpr ⟨a, l, l', ha, hb, rfl⟩⟩

/-- `x` returns, and its value satisfies `Q`. -/
def Ensures (x : Act ε α) (Q : α → Prop) : Prop := ∃ a l, x.Returns a l ∧ Q a

section Ensures

variable {P Q : α → Prop} {T : β → Prop}

theorem ensures_pure {a : α} (h : Q a) : Ensures (pure a : Act ε α) Q :=
  ⟨a, [], returns_pure.mpr ⟨rfl, rfl⟩, h⟩

theorem ensures_emit (e : ε) : Ensures (emit e) fun _ => True :=
  ⟨(), [e], returns_emit.mpr rfl, trivial⟩

theorem ensures_lift {x : Checked α} {a : α} (hx : x = .ok a) (h : Q a) :
    Ensures (lift x : Act ε α) Q :=
  ⟨a, [], returns_lift.mpr ⟨hx, rfl⟩, h⟩

theorem ensures_bind {x : Act ε α} {f : α → Act ε β} (hx : x.Ensures P)
    (hf : ∀ a, P a → (f a).Ensures T) : (x >>= f).Ensures T := by
  obtain ⟨a, l, ha, hP⟩ := hx
  obtain ⟨b, l', hb, hT⟩ := hf a hP
  exact ⟨b, l ++ l', returns_bind.mpr ⟨a, l, l', ha, hb, rfl⟩, hT⟩

theorem Safe.ensures {x : Act ε α} (h : x.Safe) : x.Ensures fun _ => True := by
  obtain ⟨a, l, h⟩ := h
  exact ⟨a, l, h, trivial⟩

end Ensures

/-- Every call that `x` makes satisfies `P`. -/
def Only (P : ε → Prop) (x : Act ε α) : Prop := ∀ a l, x.Returns a l → ∀ e ∈ l, P e

section Only

variable {P Q : ε → Prop}

theorem only_pure (a : α) : Only P (pure a : Act ε α) := by
  intro b l h e he
  rw [(returns_pure.mp h).2] at he
  cases he

theorem only_lift (x : Checked α) : Only P (lift x : Act ε α) := by
  intro b l h e he
  rw [(returns_lift.mp h).2] at he
  cases he

theorem only_emit {e : ε} (h : P e) : Only P (emit e) := by
  intro u l hl e' he
  rw [returns_emit.mp hl, List.mem_singleton] at he
  rw [he]
  exact h

theorem only_bind {x : Act ε α} {f : α → Act ε β} (hx : x.Only P) (hf : ∀ a, (f a).Only P) :
    (x >>= f).Only P := by
  intro b l h e he
  obtain ⟨a, l₁, l₂, h₁, h₂, rfl⟩ := returns_bind.mp h
  rcases List.mem_append.mp he with he | he
  · exact hx a l₁ h₁ e he
  · exact hf a b l₂ h₂ e he

theorem Only.mono {x : Act ε α} (h : x.Only P) (hPQ : ∀ e, P e → Q e) : x.Only Q :=
  fun a l hx e he => hPQ e (h a l hx e he)

end Only

theorem Returns.unique {x : Act ε α} {a b : α} {l l' : List ε} (h : x.Returns a l)
    (h' : x.Returns b l') : a = b ∧ l = l' := by
  unfold Returns at h h'
  rw [h] at h'
  cases h'
  exact ⟨rfl, rfl⟩

theorem returns_nil_iff {x : Act ε α} {a : α} : x.Returns a [] ↔ x = pure a :=
  ⟨fun h => ext h, fun h => by rw [h]; exact returns_pure.mpr ⟨rfl, rfl⟩⟩

theorem bind_eq_self {x : Act ε α} {f : α → Act ε α} (h : ∀ a l, x.Returns a l → f a = pure a) :
    x >>= f = x := by
  apply ext
  rw [run_bind]
  cases hx : x.run with
  | error p => rfl
  | ok r =>
    obtain ⟨a, l⟩ := r
    rw [Checked.ok_bind, h a l hx]
    change Except.ok (a, l ++ []) = _
    rw [List.append_nil]

theorem safe_observe_bind {x : Act ε α} {f : α × List ε → Act ε β} {a : α} {l : List ε}
    (hx : x.Returns a l) (hf : (f (a, l)).Safe) : Safe (observe x >>= f) := by
  obtain ⟨b, l', hb⟩ := hf
  exact ⟨b, l ++ l', returns_observe_bind.mpr ⟨a, l, l', hx, hb, rfl⟩⟩

theorem Ensures.of_returns {x : Act ε α} {Q : α → Prop} {a : α} {l : List ε} (h : x.Ensures Q)
    (hx : x.Returns a l) : Q a := by
  obtain ⟨b, l', hb, hQ⟩ := h
  rw [(hx.unique hb).1]
  exact hQ

end Act

end Rptp.Machine
