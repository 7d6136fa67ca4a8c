import Rptp.Machine.Panic
import Mathlib.Data.Vector.Basic

/-! # Octet strings: big-endian numbers, slices and write-once buffers -/

namespace Rptp.Machine

/-- A fixed-size array of octets. -/
abbrev Octets (n : ℕ) := List.Vector UInt8 n

/-- A list of the right length as an array. -/
def Octets.ofList {n : ℕ} (l : List UInt8) (h : l.length = n) : Octets n := ⟨l, h⟩

@[simp] theorem Octets.ofList_toList {n : ℕ} (l : List UInt8) (h : l.length = n) :
    (Octets.ofList l h).toList = l := rfl

/-- An array of one octet. -/
def Octets.single (x : UInt8) : Octets 1 := Octets.ofList [x] rfl

/-- The `w` low-order octets of a number, most significant first. -/
def toBe : ℕ → ℕ → List UInt8
  | 0, _ => []
  | w + 1, n => toBe w (n / 256) ++ [UInt8.ofNat n]

/-- The number written by an octet string, most significant first. -/
def ofBe (l : List UInt8) : ℕ := l.foldl (fun n b => 256 * n + b.toNat) 0

@[simp] theorem toBe_length (w n : ℕ) : (toBe w n).length = w := by
  induction w generalizing n with
  | zero => rfl
  | succ w ih => simp [toBe, ih]

theorem ofBe_append_singleton (l : List UInt8) (b : UInt8) :
    ofBe (l ++ [b]) = 256 * ofBe l + b.toNat := by
  simp [ofBe]

theorem ofBe_toBe (w n : ℕ) (h : n < 256 ^ w) : ofBe (toBe w n) = n := by
  induction w generalizing n with
  | zero =>
    have hn : n = 0 := by simpa using h
    subst hn
    rfl
  | succ w ih =>
    have hq : n / 256 < 256 ^ w := by
      rw [pow_succ] at h
      omega
    rw [toBe, ofBe_append_singleton, ih _ hq]
    simp only [UInt8.toNat_ofNat']
    omega

theorem ofBe_lt (l : List UInt8) : ofBe l < 256 ^ l.length := by
  induction l using List.reverseRecOn with
  | nil => simp [ofBe]
  | append_singleton l b ih =>
    rw [ofBe_append_singleton, List.length_append, List.length_singleton, pow_succ]
    have hb := b.toNat_lt
    omega

/-- `toBe` as an array. -/
def toBeOctets (w n : ℕ) : Octets w := Octets.ofList (toBe w n) (toBe_length w n)

theorem ofBe_uint16 (v : UInt16) : UInt16.ofNat (ofBe (toBe 2 v.toNat)) = v := by
  rw [ofBe_toBe 2 v.toNat (by simpa using v.toNat_lt), UInt16.ofNat_toNat]

/-- The `len` octets of a fixed-size array from `start` on. -/
def Octets.range {n : ℕ} (buf : Octets n) (start len : ℕ) (h : start + len ≤ n) : Octets len :=
  ofList ((buf.toList.drop start).take len) (by
    simp only [List.length_take, List.length_drop, List.Vector.toList_length]
    omega)

theorem Octets.range_toList {n start len : ℕ} {buf : Octets n} (f m b : List UInt8)
    (hbuf : buf.toList = f ++ (m ++ b)) (hf : f.length = start) (hm : m.length = len)
    (h : start + len ≤ n) : (buf.range start len h).toList = m := by
  change (buf.toList.drop start).take len = m
  rw [hbuf, List.drop_left' hf, List.take_left' hm]

/-- Indexing that panics outside the string. -/
def index (l : List UInt8) (i : ℕ) : Checked UInt8 :=
  match l[i]? with
  | some b => .ok b
  | none => .error (.outOfRange i (i + 1) l.length)

/-- The octets from `start` up to `stop`, where they exist. -/
def getRange (l : List UInt8) (start stop : ℕ) : Option (List UInt8) :=
  if start ≤ stop ∧ stop ≤ l.length then some ((l.drop start).take (stop - start)) else none

/-- Slicing that panics outside the string. -/
def slice (l : List UInt8) (start stop : ℕ) : Checked (List UInt8) :=
  match getRange l start stop with
  | some r => .ok r
  | none => .error (.outOfRange start stop l.length)

/-- Conversion to an array of a given size, refused at any other length. -/
def tryIntoOctets (n : ℕ) (l : List UInt8) : Option (Octets n) :=
  if h : l.length = n then some (Octets.ofList l h) else none

theorem index_eq {l : List UInt8} {i : ℕ} (h : i < l.length) : index l i = .ok l[i] := by
  simp [index, h]

theorem getRange_eq {l : List UInt8} {start stop : ℕ} (h : start ≤ stop) (h' : stop ≤ l.length) :
    getRange l start stop = some ((l.drop start).take (stop - start)) := if_pos ⟨h, h'⟩

theorem getRange_eq_none {l : List UInt8} {start stop : ℕ} (h : l.length < stop) :
    getRange l start stop = none := if_neg (by omega)

theorem slice_eq {l : List UInt8} {start stop : ℕ} (h : start ≤ stop) (h' : stop ≤ l.length) :
    slice l start stop = .ok ((l.drop start).take (stop - start)) := by
  rw [slice, getRange_eq h h']

theorem tryIntoOctets_eq {n : ℕ} {l : List UInt8} (h : l.length = n) :
    tryIntoOctets n l = some (Octets.ofList l h) := dif_pos h

/-- A zero-initialised array of `n` octets seen as a finite map. -/
abbrev Buffer (n : ℕ) := Fin n → UInt8

namespace Buffer

variable {n m : ℕ}

def zero : Buffer n := fun _ => 0

/-- Overwrite the octets from `offset` on. The range is part of the call, so that a write
cannot leave the array. -/
def write (b : Buffer n) (offset : ℕ) (bytes : Octets m) (_range : offset + m ≤ n) : Buffer n :=
  fun i => if h : offset ≤ i ∧ i < offset + m then bytes.get ⟨i - offset, by omega⟩ else b i

def set (b : Buffer n) (offset : ℕ) (byte : UInt8) (range : offset + 1 ≤ n) : Buffer n :=
  b.write offset (Octets.single byte) range

/-- The first `k` octets. -/
def take (b : Buffer n) (k : ℕ) (range : k ≤ n) : List UInt8 :=
  List.ofFn fun i : Fin k => b (i.castLE range)

@[simp] theorem take_length (b : Buffer n) (k : ℕ) (range : k ≤ n) :
    (b.take k range).length = k := by simp [take]

theorem take_getElem (b : Buffer n) (k : ℕ) (range : k ≤ n) (i : ℕ) (h : i < k) :
    (b.take k range)[i]? = some (b ⟨i, by omega⟩) := by
  simp [take, h]

/-- The array holds `bytes` from `offset` on. -/
def Holds (b : Buffer n) (offset : ℕ) (bytes : Octets m) : Prop :=
  ∀ (i : Fin m) (h : offset + i < n), b ⟨offset + i, h⟩ = bytes.get i

theorem holds_write (b : Buffer n) (offset : ℕ) (bytes : Octets m) (range : offset + m ≤ n) :
    (b.write offset bytes range).Holds offset bytes := by
  intro i h
  have hi : offset ≤ offset + i ∧ offset + i < offset + m := by omega
  rw [write, dif_pos hi]
  congr 1
  ext
  simp

theorem Holds.write {b : Buffer n} {offset : ℕ} {bytes : Octets m} (hb : b.Holds offset bytes)
    {k : ℕ} (offset' : ℕ) (bytes' : Octets k) (range : offset' + k ≤ n)
    (disjoint : offset + m ≤ offset' ∨ offset' + k ≤ offset) :
    (b.write offset' bytes' range).Holds offset bytes := by
  intro i h
  have hi : ¬ (offset' ≤ offset + i ∧ offset + i < offset' + k) := by omega
  rw [Buffer.write, dif_neg hi]
  exact hb i h

theorem Holds.take_drop {b : Buffer n} {offset : ℕ} {bytes : Octets m}
    (hb : b.Holds offset bytes) {k : ℕ} (range : k ≤ n) (h : offset + m ≤ k) :
    ((b.take k range).drop offset).take m = bytes.toList := by
  apply List.ext_getElem?
  intro i
  by_cases hi : i < m
  · rw [List.getElem?_take_of_lt hi, List.getElem?_drop, take_getElem _ _ _ _ (by omega),
      hb ⟨i, hi⟩ (by omega)]
    rw [List.Vector.get_eq_get_toList]
    simp [hi]
  · rw [List.getElem?_eq_none (by simp; omega), List.getElem?_eq_none (by simp; omega)]

end Buffer

end Rptp.Machine
