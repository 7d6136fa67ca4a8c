import Rptp.Machine.Panic

/-! # Selection of the best element of a list by pairwise comparison

The scan keeps a candidate and replaces it whenever a later element is better. It returns an
element of the list for any comparison, and the best one, in whatever order the list stands, when
the comparison is a strict total order on it. `latest` keeps the last element of a kind instead.
-/

namespace Rptp.Machine

variable {α : Type}

/-- One step of the scan. -/
def keepBetter (better : α → α → Checked Bool) (best candidate : α) : Checked α := do
  if ← better candidate best then pure candidate else pure best

/-- The scan of a list, with no result on the empty list. -/
def selectBest (better : α → α → Checked Bool) : List α → Checked (Option α)
  | [] => pure none
  | a :: l => some <$> l.foldlM (keepBetter better) a

variable {better : α → α → Checked Bool} {l : List α}

theorem keepBetter_returns (h : ∀ a b, ∃ r, better a b = .ok r) (a b : α) :
    ∃ c, keepBetter better a b = .ok c ∧ (c = a ∨ c = b) := by
  obtain ⟨r, hr⟩ := h b a
  cases r with
  | false => exact ⟨a, by simp [keepBetter, hr], .inl rfl⟩
  | true => exact ⟨b, by simp [keepBetter, hr], .inr rfl⟩

theorem selectBest_mem (h : ∀ a b, ∃ r, better a b = .ok r) (hl : l ≠ []) :
    ∃ m ∈ l, selectBest better l = .ok (some m) := by
  cases l with
  | nil => exact absurd rfl hl
  | cons a l =>
    have hstep : ∀ b, ∀ c ∈ l, b ∈ a :: l →
        ∃ b', keepBetter better b c = .ok b' ∧ b' ∈ a :: l := by
      intro b c hc hb
      obtain ⟨d, hd, rfl | rfl⟩ := keepBetter_returns h b c
      · exact ⟨d, hd, hb⟩
      · exact ⟨d, hd, List.mem_cons_of_mem _ hc⟩
    obtain ⟨m, hm, hmem⟩ := Checked.foldlM_returns hstep a List.mem_cons_self
    exact ⟨m, hmem, by rw [selectBest, hm, Checked.map_ok]⟩

theorem foldlM_keepBetter {m b : α} (h : ∀ a b, ∃ r, better a b = .ok r)
    (hbest : ∀ x ∈ b :: l, x ≠ m → better m x = .ok true ∧ better x m = .ok false)
    (hm : m ∈ b :: l) : l.foldlM (keepBetter better) b = .ok m := by
  induction l generalizing b with
  | nil =>
    have hmb : m = b := by simpa using hm
    rw [hmb]
    rfl
  | cons c l ih =>
    obtain ⟨d, hd, hdbc⟩ := keepBetter_returns h b c
    rw [List.foldlM_cons, hd, Checked.ok_bind]
    apply ih
    · intro x hx hxm
      apply hbest x _ hxm
      rcases List.mem_cons.mp hx with rfl | hx
      · rcases hdbc with rfl | rfl <;> simp
      · simp [hx]
    · by_cases hml : m ∈ l
      · exact List.mem_cons_of_mem _ hml
      · have hmbc : m = b ∨ m = c := by simpa [hml] using hm
        have hdm : d = m := by
          by_contra hne
          rcases hmbc with rfl | rfl
          · have hdc : d = c := hdbc.resolve_left hne
            subst hdc
            have hb := (hbest d (by simp) hne).2
            simp [keepBetter, hb] at hd
            exact hne hd.symm
          · have hdb : d = b := hdbc.resolve_right hne
            subst hdb
            have hb := (hbest d (by simp) hne).1
            simp [keepBetter, hb] at hd
            exact hne hd.symm
        rw [hdm]
        exact List.mem_cons_self

/-- In any order of the list, the scan finds the element that beats every other. -/
theorem selectBest_eq {m : α} (h : ∀ a b, ∃ r, better a b = .ok r) (hm : m ∈ l)
    (hbest : ∀ x ∈ l, x ≠ m → better m x = .ok true ∧ better x m = .ok false) :
    selectBest better l = .ok (some m) := by
  cases l with
  | nil => simp at hm
  | cons a l => rw [selectBest, foldlM_keepBetter h hbest hm, Checked.map_ok]

/-- A finite non-empty set has a least element for any transitive comparison. -/
theorem exists_least (cmp : α → α → Ordering) [Std.TransCmp cmp] {s : Finset α}
    (hs : s.Nonempty) : ∃ m ∈ s, ∀ x ∈ s, (cmp m x).isLE := by
  classical
  induction hs using Finset.Nonempty.cons_induction with
  | singleton a => exact ⟨a, by simp, by simp [Std.ReflCmp.compare_self]⟩
  | cons a s ha hs ih =>
    obtain ⟨m, hm, hleast⟩ := ih
    by_cases ham : (cmp a m).isLE
    · refine ⟨a, by simp, ?_⟩
      intro x hx
      rcases Finset.mem_cons.mp hx with rfl | hx
      · simp [Std.ReflCmp.compare_self]
      · exact Std.TransCmp.isLE_trans ham (hleast x hx)
    · refine ⟨m, by simp [hm], ?_⟩
      intro x hx
      rcases Finset.mem_cons.mp hx with rfl | hx
      · have hgt : cmp x m = .gt := by simpa [Ordering.isLE_eq_false] using ham
        have hswap : cmp m x = (cmp x m).swap := Std.OrientedCmp.eq_swap
        rw [hswap, hgt]
        rfl
      · exact hleast x hx

section Ordered

variable {cmp : α → α → Ordering} [Std.TransCmp cmp] {l' : List α}

theorem exists_least_of_mem (hl : l ≠ []) (heq : ∀ a ∈ l, ∀ b ∈ l, cmp a b = .eq → a = b) :
    ∃ m ∈ l, ∀ x ∈ l, x ≠ m → cmp m x = .lt := by
  classical
  have hne : l.toFinset.Nonempty := List.toFinset_nonempty_iff l |>.mpr hl
  obtain ⟨m, hm, hleast⟩ := exists_least cmp hne
  rw [List.mem_toFinset] at hm
  refine ⟨m, hm, fun x hx hxm => ?_⟩
  have hle := hleast x (List.mem_toFinset.mpr hx)
  cases hc : cmp m x with
  | lt => rfl
  | eq => exact absurd (heq m hm x hx hc).symm hxm
  | gt => simp [hc] at hle

theorem beats_of_least {m : α} (hm : m ∈ l) (hleast : ∀ x ∈ l, x ≠ m → cmp m x = .lt)
    (hbetter : ∀ a ∈ l, ∀ b ∈ l, better a b = .ok (decide (cmp a b = .lt))) :
    ∀ x ∈ l, x ≠ m → better m x = .ok true ∧ better x m = .ok false := by
  intro x hx hxm
  have hlt := hleast x hx hxm
  have hgt : cmp x m = .gt := Std.OrientedCmp.gt_of_lt hlt
  rw [hbetter m hm x hx, hbetter x hx m hm, hlt, hgt]
  exact ⟨rfl, rfl⟩

/-- Where the comparison is that of an order without ties, the scan finds the least element. -/
theorem selectBest_least (h : ∀ a b, ∃ r, better a b = .ok r) (hl : l ≠ [])
    (hbetter : ∀ a ∈ l, ∀ b ∈ l, better a b = .ok (decide (cmp a b = .lt)))
    (heq : ∀ a ∈ l, ∀ b ∈ l, cmp a b = .eq → a = b) :
    ∃ m ∈ l, selectBest better l = .ok (some m) ∧ ∀ x ∈ l, x ≠ m → cmp m x = .lt := by
  obtain ⟨m, hm, hleast⟩ := exists_least_of_mem hl heq
  exact ⟨m, hm, selectBest_eq h hm (beats_of_least hm hleast hbetter), hleast⟩

theorem selectBest_perm (h : ∀ a b, ∃ r, better a b = .ok r) (hp : l.Perm l')
    (hbetter : ∀ a ∈ l, ∀ b ∈ l, better a b = .ok (decide (cmp a b = .lt)))
    (heq : ∀ a ∈ l, ∀ b ∈ l, cmp a b = .eq → a = b) :
    selectBest better l = selectBest better l' := by
  by_cases hl : l = []
  · subst hl
    rw [List.Perm.nil_eq hp]
  · obtain ⟨m, hm, hsel, hleast⟩ := selectBest_least h hl hbetter heq
    have hbeats := beats_of_least hm hleast hbetter
    rw [hsel, selectBest_eq h (hp.mem_iff.mp hm) fun x hx => hbeats x (hp.mem_iff.mpr hx)]

end Ordered

section Latest

variable {β γ : Type}

/-- What the last element of a kind holds. -/
def latest (kind : α → Option β) (l : List α) : Option β := (l.filterMap kind).getLast?

theorem latest_append (kind : α → Option β) (l : List α) (a : α) :
    latest kind (l ++ [a]) = (kind a).or (latest kind l) := by
  unfold latest
  cases ha : kind a <;> simp [List.filterMap_append, ha]

theorem latest_map (f : γ → α) (kind : α → Option β) (l : List γ) :
    latest kind (l.map f) = latest (kind ∘ f) l := by
  rw [latest, List.filterMap_map, latest]

theorem map_latest (g : β → γ) (kind : α → Option β) (l : List α) :
    (latest kind l).map g = latest (fun a => (kind a).map g) l := by
  rw [latest, ← List.getLast?_map, List.map_filterMap, latest]

theorem mem_of_latest {kind : α → Option β} {l : List α} {b : β} (h : latest kind l = some b) :
    ∃ a ∈ l, kind a = some b :=
  List.mem_filterMap.mp (List.mem_of_getLast? h)

end Latest

end Rptp.Machine
