import Mathlib.Data.List.Induction
import Mathlib.Data.List.Nodup
import Mathlib.Data.List.Perm.Basic
import Mathlib.Data.Nat.Notation

/-!
# Lists without repetitions

A table of records and a table of values are both kept without repetitions, and each is used in
one way.

Records are told apart by a key: `(l.map key).Nodup` says that no two elements of `l` have the same
one.  Looking an element up by its key then finds it (`find?_key_eq_some`), and filtering its key
out removes it and nothing else (`perm_cons_filter`).

Values are collected one after the other.  An element that is there already is left out, and a full
list stays as it is, so that what has been collected are the first distinct elements of the sequence
(`foldl_collect`):

```text
                     a is there       a is new
capacity not reached stays as it is   a is appended
capacity reached     stays as it is   stays as it is
```
-/

/-! ## Elements told apart by a key -/

namespace Lib.Keyed

variable {α κ : Type*} [DecidableEq κ] {key : α → κ} {l : List α} {a : α}

/-- No element has the key `k`. -/
theorem filter_key_eq_self {k : κ} (h : ∀ b ∈ l, key b ≠ k) :
    l.filter (fun b => decide (key b ≠ k)) = l :=
  List.filter_eq_self.mpr fun b hb => by simpa using h b hb

theorem perm_cons_filter (hnodup : (l.map key).Nodup) (ha : a ∈ l) :
    l.Perm (a :: l.filter fun b => decide (key b ≠ key a)) := by
  induction l with
  | nil => simp at ha
  | cons b rest ih =>
      rw [List.map_cons, List.nodup_cons, List.mem_map] at hnodup
      rcases List.mem_cons.mp ha with rfl | ha
      · have hrest : ∀ c ∈ rest, key c ≠ key a := fun c hc heq => hnodup.1 ⟨c, hc, heq⟩
        rw [List.filter_cons_of_neg (by simp), filter_key_eq_self hrest]
      · have hne : key b ≠ key a := fun heq => hnodup.1 ⟨a, ha, heq.symm⟩
        rw [List.filter_cons_of_pos (by simpa using hne)]
        exact ((ih hnodup.2 ha).cons b).trans (List.Perm.swap ..)

theorem find?_key_eq_some (hnodup : (l.map key).Nodup) (ha : a ∈ l) :
    l.find? (fun b => decide (key b = key a)) = some a := by
  induction l with
  | nil => simp at ha
  | cons b rest ih =>
      rw [List.map_cons, List.nodup_cons, List.mem_map] at hnodup
      rcases List.mem_cons.mp ha with rfl | ha
      · simp
      · have hne : key b ≠ key a := fun heq => hnodup.1 ⟨a, ha, heq.symm⟩
        rw [List.find?_cons_of_neg (by simpa using hne)]
        exact ih hnodup.2 ha

end Lib.Keyed

/-! ## Elements collected up to a capacity -/

namespace Lib.FirstDistinct

variable {α : Type*} [BEq α] [LawfulBEq α]

/-- Add `a` unless the list is full or has it. -/
def collect (capacity : ℕ) (collected : List α) (a : α) : List α :=
  if collected.length < capacity ∧ a ∉ collected then collected ++ [a] else collected

theorem eraseDups_concat (l : List α) (a : α) :
    (l ++ [a]).eraseDups = if a ∈ l then l.eraseDups else l.eraseDups ++ [a] := by
  rw [List.eraseDups_append]
  by_cases ha : a ∈ l
  · simp [List.removeAll, ha]
  · simp [List.removeAll, ha, List.eraseDups_cons]

theorem foldl_collect (capacity : ℕ) (l : List α) :
    l.foldl (collect capacity) [] = l.eraseDups.take capacity := by
  induction l using List.reverseRecOn with
  | nil => simp
  | append_singleton l a ih =>
      rw [List.foldl_append, ih, List.foldl_cons, List.foldl_nil, eraseDups_concat, collect]
      by_cases hfull : capacity ≤ l.eraseDups.length
      · -- the list is full, and whatever follows is cut off
        have hlength : (l.eraseDups.take capacity).length = capacity := by
          rw [List.length_take]
          omega
        rw [if_neg (by omega)]
        split
        · rfl
        · rw [List.take_append_of_le_length hfull]
      · have hall : l.eraseDups.take capacity = l.eraseDups := List.take_of_length_le (by omega)
        by_cases ha : a ∈ l
        · rw [hall, if_neg (by simp [ha]), if_pos ha, hall]
        · have hnew : l.eraseDups.length < capacity ∧ a ∉ l.eraseDups := by
            refine ⟨by omega, fun hmem => ha (List.mem_eraseDups.mp hmem)⟩
          rw [hall, if_pos hnew, if_neg ha, List.take_of_length_le]
          rw [List.length_append, List.length_singleton]
          omega

end Lib.FirstDistinct
