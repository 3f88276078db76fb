import Mathlib.Data.List.Nodup
import Mathlib.Logic.Function.Basic
import VirtIOGPU.Lib.ByteOrder
import VirtIOGPU.Lib.Memory

/-!
# Structures in a byte buffer

A `Struct` lists the fields of a structure with their widths, in memory order and without gaps.
`put` is the store of a big-endian processor to one field, `value` the number that a
little-endian reader finds there, and `decode` reads all fields of a message.

Different fields have no byte in common (`fields_apart`), so a store changes the value of its
own field only: `value_put`.  `decode_fill` is the use of it.  A structure that is zeroed and
then filled field by field is read as the numbers that were stored, with zeros in between.
-/

namespace Lib.Layout

open Lib.ByteOrder Lib.Memory

/-- Fields with their widths, from the start of the structure on. -/
abbrev Struct (F : Type*) := List (F × ℕ)

variable {F : Type*}

def size (l : Struct F) : ℕ := (l.map Prod.snd).sum

/-- The `len` bytes from `start` on. -/
def bytes (m : Mem UInt8) (start len : ℕ) : List UInt8 :=
  (List.range len).map fun i => m (start + i)

/-- What a little-endian reader makes of them. -/
def number (m : Mem UInt8) (start width : ℕ) : ℕ := ofLE ((bytes m start width).map UInt8.toNat)

/-- Read the fields one after the other. -/
def decode : Struct F → List UInt8 → List (F × ℕ)
  | [], _ => []
  | (f, w) :: rest, message =>
      (f, ofLE ((message.take w).map UInt8.toNat)) :: decode rest (message.drop w)

section Fields

variable [DecidableEq F]

def offset : Struct F → F → ℕ
  | [], _ => 0
  | (g, w) :: rest, f => if g = f then 0 else w + offset rest f

def width : Struct F → F → ℕ
  | [], _ => 0
  | (g, w) :: rest, f => if g = f then w else width rest f

/-- Store `x` in the field `f`, the most significant byte first. -/
def put (l : Struct F) (f : F) (x : ℕ) : Mem UInt8 → Mem UInt8 :=
  overwrite (offset l f) (width l f) fun i => UInt8.ofNat ((toBE (width l f) x).getD i 0)

/-- Store a number in each of some fields. -/
def fill (l : Struct F) (stores : List (F × ℕ)) (m : Mem UInt8) : Mem UInt8 :=
  stores.foldl (fun m store => put l store.1 store.2 m) m

def value (l : Struct F) (m : Mem UInt8) (f : F) : ℕ := number m (offset l f) (width l f)

/-- The numbers that the fields have after some assignments, the last one to a field counts. -/
def assigned (assignments : List (F × ℕ)) (v : F → ℕ) : F → ℕ :=
  assignments.foldl (fun v assignment => Function.update v assignment.1 assignment.2) v

end Fields

/-! ## Bytes -/

@[simp] theorem length_bytes (m : Mem UInt8) (start len : ℕ) :
    (bytes m start len).length = len := by
  simp [bytes]

theorem bytes_congr {m m' : Mem UInt8} {start len : ℕ}
    (h : ∀ i < len, m (start + i) = m' (start + i)) : bytes m start len = bytes m' start len := by
  apply List.map_congr_left
  intro i hi
  exact h i (List.mem_range.mp hi)

theorem bytes_add (m : Mem UInt8) (start k l : ℕ) :
    bytes m start (k + l) = bytes m start k ++ bytes m (start + k) l := by
  simp only [bytes, List.range_add, List.map_append, List.map_map]
  congr 1
  apply List.map_congr_left
  intro i _
  simp [Nat.add_assoc]

/-- The bytes of a range that has been written as a whole. -/
theorem bytes_overwrite (m : Mem UInt8) (start : ℕ) (data : List UInt8) :
    bytes (overwrite start data.length (fun i => data.getD i 0) m) start data.length = data := by
  apply List.ext_getElem
  · simp
  · intro i hi hi'
    simp [bytes, overwrite_inside hi', hi']

theorem number_congr {m m' : Mem UInt8} {start width : ℕ}
    (h : ∀ i < width, m (start + i) = m' (start + i)) :
    number m start width = number m' start width := by
  rw [number, number, bytes_congr h]

theorem number_zero {m : Mem UInt8} {start width : ℕ} (h : ∀ i < width, m (start + i) = 0) :
    number m start width = 0 := by
  have hzeros : bytes m start width = List.replicate width 0 := by
    rw [List.eq_replicate_iff]
    refine ⟨length_bytes .., fun b hb => ?_⟩
    obtain ⟨i, hi, rfl⟩ := List.mem_map.mp hb
    exact h i (List.mem_range.mp hi)
  rw [number, hzeros, List.map_replicate]
  exact ofLE_replicate_zero width

/-- A little-endian reader finds the swapped number. -/
theorem number_overwrite (m : Mem UInt8) (start width x : ℕ) :
    number (overwrite start width (fun i => UInt8.ofNat ((toBE width x).getD i 0)) m) start width =
      swap width x := by
  have hstored : bytes (overwrite start width (fun i => UInt8.ofNat ((toBE width x).getD i 0)) m)
      start width = (toBE width x).map UInt8.ofNat := by
    apply List.ext_getElem
    · simp
    · intro i hi hi'
      have hwidth : i < width := by simpa using hi
      simp [bytes, overwrite_inside hwidth, hwidth]
  have hnat : ((toBE width x).map UInt8.ofNat).map UInt8.toNat = toBE width x := by
    rw [List.map_map]
    conv_rhs => rw [← List.map_id (toBE width x)]
    apply List.map_congr_left
    intro byte hbyte
    have hlt : byte < 256 := lt_of_mem_toLE (List.mem_reverse.mp hbyte)
    exact Nat.mod_eq_of_lt hlt
  rw [number, hstored, hnat, swap]

/-- A message is determined by its length and by what a reader finds in it. -/
theorem eq_of_decode {l : Struct F} {message : List UInt8} {v : F → ℕ}
    (hlength : message.length = size l)
    (hdecode : decode l message = l.map fun entry => (entry.1, v entry.1)) :
    message.map UInt8.toNat = l.flatMap fun entry => toLE entry.2 (v entry.1) := by
  induction l generalizing message with
  | nil =>
      obtain rfl : message = [] := List.length_eq_zero_iff.mp hlength
      rfl
  | cons entry rest ih =>
      obtain ⟨f, w⟩ := entry
      rw [decode, List.map_cons, List.cons.injEq] at hdecode
      obtain ⟨hfirst, hrest⟩ := hdecode
      have hsize : message.length = w + size rest := hlength
      have hfront : (message.take w).map UInt8.toNat = toLE w (v f) := by
        have hbytes : ∀ byte ∈ (message.take w).map UInt8.toNat, byte < 256 := by
          intro byte hbyte
          obtain ⟨b, -, rfl⟩ := List.mem_map.mp hbyte
          exact b.toNat_lt
        have hback := toLE_ofLE hbytes
        rw [List.length_map, List.length_take, Nat.min_eq_left (by omega),
          (Prod.mk.inj hfirst).2] at hback
        exact hback.symm
      rw [List.flatMap_cons, ← hfront, ← ih (by rw [List.length_drop]; omega) hrest,
        ← List.map_append, List.take_append_drop]

/-! ## Fields -/

section Fields

variable [DecidableEq F] {l : Struct F}

theorem offset_add_width_le (l : Struct F) (f : F) : offset l f + width l f ≤ size l := by
  induction l with
  | nil => exact Nat.le_refl 0
  | cons entry rest ih =>
      obtain ⟨g, w⟩ := entry
      have hsize : size ((g, w) :: rest) = w + size rest := rfl
      by_cases hg : g = f
      · simp only [offset, width, if_pos hg]
        omega
      · simp only [offset, width, if_neg hg]
        omega

/-- Two fields have no byte in common. -/
theorem fields_apart (l : Struct F) {f g : F} (h : f ≠ g) :
    offset l f + width l f ≤ offset l g ∨ offset l g + width l g ≤ offset l f := by
  induction l with
  | nil => exact Or.inl (Nat.le_refl 0)
  | cons entry rest ih =>
      obtain ⟨e, w⟩ := entry
      by_cases hf : e = f
      · have hg : e ≠ g := fun heq => h (hf.symm.trans heq)
        simp only [offset, width, if_pos hf, if_neg hg]
        omega
      · by_cases hg : e = g
        · simp only [offset, width, if_neg hf, if_pos hg]
          omega
        · simp only [offset, width, if_neg hf, if_neg hg]
          omega

/-- A store changes the value of its field. -/
theorem value_put (l : Struct F) (f : F) (x : ℕ) (m : Mem UInt8) :
    value l (put l f x m) = Function.update (value l m) f (swap (width l f) x) := by
  funext g
  by_cases hg : g = f
  · subst hg
    rw [Function.update_self]
    exact number_overwrite ..
  · rw [Function.update_of_ne hg]
    apply number_congr
    intro i hi
    have hapart := fields_apart l hg
    exact overwrite_outside (by omega)

theorem value_fill (l : Struct F) (stores : List (F × ℕ)) (m : Mem UInt8) :
    value l (fill l stores m) =
      assigned (stores.map fun store => (store.1, swap (width l store.1) store.2)) (value l m) := by
  induction stores generalizing m with
  | nil => rfl
  | cons store stores ih =>
      have hfirst := value_put l store.1 store.2 m
      rw [fill, List.foldl_cons, ← fill, ih, hfirst]
      rfl

theorem value_zeroed (l : Struct F) {n : ℕ} (h : size l ≤ n) (m : Mem UInt8) :
    value l (overwrite 0 n (fun _ => 0) m) = fun _ => 0 := by
  funext f
  apply number_zero
  intro i hi
  have hle := offset_add_width_le l f
  rw [overwrite, if_pos (by omega)]

/-- Reading the fields in order finds each at its offset. -/
theorem decode_bytes (hnames : (l.map Prod.fst).Nodup) (m : Mem UInt8) (start : ℕ) :
    decode l (bytes m start (size l)) =
      l.map fun entry => (entry.1, number m (start + offset l entry.1) (width l entry.1)) := by
  induction l generalizing start with
  | nil => rfl
  | cons entry rest ih =>
      obtain ⟨f, w⟩ := entry
      obtain ⟨hfresh, hrest⟩ := List.nodup_cons.mp hnames
      have hsize : size ((f, w) :: rest) = w + size rest := rfl
      have htake : (bytes m start (w + size rest)).take w = bytes m start w := by
        rw [bytes_add, List.take_left' (length_bytes ..)]
      have hdrop : (bytes m start (w + size rest)).drop w = bytes m (start + w) (size rest) := by
        rw [bytes_add, List.drop_left' (length_bytes ..)]
      rw [hsize, decode, htake, hdrop, ih hrest, List.map_cons]
      congr 1
      · simp [offset, width, number]
      · apply List.map_congr_left
        intro other hother
        have hne : f ≠ other.1 := by
          intro heq
          rw [heq] at hfresh
          exact hfresh (List.mem_map.mpr ⟨other, hother, rfl⟩)
        simp only [offset, width, if_neg hne, Nat.add_assoc]

/-- A structure that was zeroed and filled decodes to what was stored. -/
theorem decode_fill (hnames : (l.map Prod.fst).Nodup) {n : ℕ} (hn : size l ≤ n)
    (stores : List (F × ℕ)) (m : Mem UInt8) :
    decode l (bytes (fill l stores (overwrite 0 n (fun _ => 0) m)) 0 (size l)) =
      l.map fun entry => (entry.1,
        assigned (stores.map fun store => (store.1, swap (width l store.1) store.2))
          (fun _ => 0) entry.1) := by
  rw [decode_bytes hnames]
  apply List.map_congr_left
  intro entry _
  have hvalue := congrFun (value_fill l stores (overwrite 0 n (fun _ => 0) m)) entry.1
  rw [value_zeroed l hn] at hvalue
  rw [Nat.zero_add, ← hvalue, value]

/-! ## Assignments -/

theorem assigned_of_not_mem {assignments : List (F × ℕ)} {v : F → ℕ} {f : F}
    (h : f ∉ assignments.map Prod.fst) : assigned assignments v f = v f := by
  induction assignments generalizing v with
  | nil => rfl
  | cons assignment rest ih =>
      rw [List.map_cons, List.mem_cons, not_or] at h
      rw [assigned, List.foldl_cons, ← assigned, ih h.2, Function.update_of_ne h.1]

/-- Where every field is assigned at most once, it has the number of its assignment. -/
theorem assigned_of_mem {assignments : List (F × ℕ)} {v : F → ℕ} {f : F} {x : ℕ}
    (hnames : (assignments.map Prod.fst).Nodup) (h : (f, x) ∈ assignments) :
    assigned assignments v f = x := by
  induction assignments generalizing v with
  | nil => cases h
  | cons assignment rest ih =>
      obtain ⟨hfresh, hrest⟩ := List.nodup_cons.mp hnames
      rw [assigned, List.foldl_cons, ← assigned]
      rcases List.mem_cons.mp h with rfl | hmem
      · rw [assigned_of_not_mem hfresh, Function.update_self]
      · exact ih hrest hmem

end Fields

/-! ## Two buffers -/

theorem overwrite_agree {m m' : Mem UInt8} {n start len : ℕ} {f : ℕ → UInt8}
    (h : ∀ i < n, m i = m' i) :
    ∀ i < n, overwrite start len f m i = overwrite start len f m' i := by
  intro i hi
  unfold overwrite
  split
  · rfl
  · exact h i hi

/-- The same stores keep what two buffers have in common. -/
theorem fill_agree [DecidableEq F] {l : Struct F} {n : ℕ} (stores : List (F × ℕ))
    {m m' : Mem UInt8} (h : ∀ i < n, m i = m' i) :
    ∀ i < n, fill l stores m i = fill l stores m' i := by
  induction stores generalizing m m' with
  | nil => exact h
  | cons store rest ih => exact ih (overwrite_agree h)

end Lib.Layout
