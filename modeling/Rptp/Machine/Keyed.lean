import Mathlib.Tactic

/-! # Lists with a key

A list with at most one element of each key is a finite map. What an operation does to it is what
it does to every lookup, and two such lists with the same lookups are permutations of each other.
-/

namespace Rptp.Machine.Keyed

variable {κ α : Type} [DecidableEq κ] {key : α → κ} {k : κ} {a b : α} {l m : List α}

/-- The first element with the key. -/
def lookup (key : α → κ) (k : κ) (l : List α) : Option α := l.find? fun a => decide (key a = k)

/-- No two elements have the same key. -/
def Unique (key : α → κ) (l : List α) : Prop := (l.map key).Nodup

@[simp] theorem lookup_nil : lookup key k [] = none := rfl

theorem lookup_cons : lookup key k (a :: l) = if key a = k then some a else lookup key k l := by
  by_cases h : key a = k
  · simp [lookup, h]
  · simp [lookup, h]

theorem mem_of_lookup (h : lookup key k l = some a) : a ∈ l ∧ key a = k := by
  refine ⟨List.mem_of_find?_eq_some h, ?_⟩
  have hkey := List.find?_some h
  simpa using hkey

omit [DecidableEq κ] in
theorem unique_nil : Unique key [] := List.nodup_nil

omit [DecidableEq κ] in
theorem Unique.nodup (h : Unique key l) : l.Nodup := List.Nodup.of_map key h

omit [DecidableEq κ] in
theorem Unique.eq_of_key (h : Unique key l) (ha : a ∈ l) (hb : b ∈ l) (hk : key a = key b) : a = b :=
  List.inj_on_of_nodup_map h ha hb hk

theorem Unique.lookup_eq_some (h : Unique key l) :
    lookup key k l = some a ↔ a ∈ l ∧ key a = k := by
  constructor
  · exact mem_of_lookup
  · rintro ⟨ha, rfl⟩
    cases hl : lookup key (key a) l with
    | some b =>
      obtain ⟨hb, hk⟩ := mem_of_lookup hl
      rw [h.eq_of_key hb ha hk]
    | none =>
      have hnone := List.find?_eq_none.mp hl a ha
      simp at hnone

theorem lookup_eq_none : lookup key k l = none ↔ ∀ a ∈ l, key a ≠ k := by
  rw [lookup, List.find?_eq_none]
  simp

/-- Lists with the same lookups hold the same elements. -/
theorem perm_of_lookup (hl : Unique key l) (hm : Unique key m)
    (h : ∀ k, lookup key k l = lookup key k m) : l.Perm m := by
  rw [List.perm_ext_iff_of_nodup hl.nodup hm.nodup]
  intro a
  have hlookup := h (key a)
  constructor
  · intro ha
    have hsome := hl.lookup_eq_some.mpr ⟨ha, rfl⟩
    exact (mem_of_lookup (hlookup.symm.trans hsome)).1
  · intro ha
    have hsome := hm.lookup_eq_some.mpr ⟨ha, rfl⟩
    exact (mem_of_lookup (hlookup.trans hsome)).1

omit [DecidableEq κ] in
theorem Unique.sublist (h : Unique key l) (hm : m.Sublist l) : Unique key m :=
  List.Nodup.sublist (hm.map key) h

omit [DecidableEq κ] in
theorem Unique.filter (h : Unique key l) (p : α → Bool) : Unique key (l.filter p) :=
  h.sublist List.filter_sublist

theorem lookup_filter (h : Unique key l) (p : α → Bool) :
    lookup key k (l.filter p) = (lookup key k l).filter p := by
  apply Option.ext
  intro a
  rw [(h.filter p).lookup_eq_some, Option.filter_eq_some_iff, h.lookup_eq_some, List.mem_filter]
  tauto

theorem Unique.append (h : Unique key l) (ha : lookup key (key a) l = none) :
    Unique key (l ++ [a]) := by
  unfold Unique
  rw [List.map_append, List.nodup_append]
  refine ⟨h, List.nodup_singleton _, ?_⟩
  intro k hk k' hk'
  obtain ⟨b, hb, rfl⟩ := List.mem_map.mp hk
  rw [List.map_singleton, List.mem_singleton] at hk'
  rw [hk']
  exact lookup_eq_none.mp ha b hb

theorem lookup_append (ha : lookup key (key a) l = none) :
    lookup key k (l ++ [a]) = if key a = k then some a else lookup key k l := by
  unfold lookup
  rw [List.find?_append]
  by_cases hk : key a = k
  · subst hk
    have hnone : l.find? (fun b => decide (key b = key a)) = none := ha
    simp [hnone]
  · simp [hk]

omit [DecidableEq κ] in
theorem map_key_set {i : ℕ} (hi : l[i]? = some b) (hk : key a = key b) :
    (l.set i a).map key = l.map key := by
  rw [List.map_set, hk]
  apply List.ext_getElem?
  intro j
  rw [List.getElem?_set]
  split_ifs with hij hlt
  · subst hij
    rw [List.getElem?_map, hi]
    rfl
  · subst hij
    have hlt' := (List.getElem?_eq_some_iff.mp hi).1
    rw [List.length_map] at hlt
    exact absurd hlt' hlt
  · rfl

omit [DecidableEq κ] in
theorem Unique.set {i : ℕ} (h : Unique key l) (hi : l[i]? = some b) (hk : key a = key b) :
    Unique key (l.set i a) := by
  unfold Unique
  rw [map_key_set hi hk]
  exact h

theorem lookup_set {i : ℕ} (h : Unique key l) (hi : l[i]? = some b) (hk : key a = key b) :
    lookup key k (l.set i a) = if key a = k then some a else lookup key k l := by
  have hlt := (List.getElem?_eq_some_iff.mp hi).1
  have hmem : a ∈ l.set i a := List.mem_set hlt a
  split_ifs with hak
  · exact (h.set hi hk).lookup_eq_some.mpr ⟨hmem, hak⟩
  · apply Option.ext
    intro c
    rw [(h.set hi hk).lookup_eq_some, h.lookup_eq_some]
    refine and_congr_left fun hc => ?_
    -- An element with another key than the replaced one stands where it stood.
    rw [List.mem_iff_getElem?, List.mem_iff_getElem?]
    refine exists_congr fun j => ?_
    rw [List.getElem?_set]
    split_ifs with hij
    · subst hij
      rw [hi]
      constructor
      · intro hca
        cases hca
        exact absurd hc hak
      · intro hcb
        cases hcb
        exact absurd (hk.trans hc) hak
    · rfl

end Rptp.Machine.Keyed
