import Mathlib.Data.Nat.ModEq
import Mathlib.Logic.Function.Basic
import Mathlib.Data.List.Basic

/-!
# Windows of a ring buffer

A ring of `size` slots addressed by a counter that only grows.  `Window size ring
start contents` says that the slots from counter value `start` on hold `contents`.
Writing the slot just after a window that leaves a slot free extends it
(`Window.push`), reading the first slot shortens it (`Window.head_eq`,
`Window.tail`), and two counter values less than `size` apart never share a slot
(`slot_ne`).

A counter kept in `w` bits still selects the right slot when `size` divides `2 ^ w`:
that is Mathlib's `Nat.mod_mod_of_dvd`; `eq_of_counter_eq` says when two such
counters being equal means that the values are.
-/

namespace Lib.RingWindow

variable {α : Type*} {size start : ℕ} {ring : ℕ → α} {contents : List α}

/-- The slots from counter value `start` on hold `contents`. -/
def Window (size : ℕ) (ring : ℕ → α) (start : ℕ) (contents : List α) : Prop :=
  ∀ (i : ℕ) (hi : i < contents.length), ring ((start + i) % size) = contents[i]

theorem slot_ne {a b : ℕ} (hlt : a < b) (hclose : b < a + size) : a % size ≠ b % size := by
  intro heq
  have hdvd : size ∣ b - a := (Nat.modEq_iff_dvd' hlt.le).mp heq
  have hle : size ≤ b - a := Nat.le_of_dvd (by omega) hdvd
  omega

/-- Counters of `modulus` values that are equal count equally far, when at most
`modulus - 1` apart. -/
theorem eq_of_counter_eq {modulus a b : ℕ} (hle : a ≤ b) (hclose : b < a + modulus)
    (heq : a % modulus = b % modulus) : a = b := by
  by_contra hne
  exact slot_ne (lt_of_le_of_ne hle hne) hclose heq

/-- A counter that is ahead by the length of a list has caught up when the list is empty. -/
theorem counter_eq_iff_nil {modulus a : ℕ} {l : List α} (hclose : l.length < modulus) :
    a % modulus = (a + l.length) % modulus ↔ l = [] := by
  constructor
  · intro heq
    have hsame := eq_of_counter_eq (Nat.le_add_right a _) (Nat.add_lt_add_left hclose a) heq
    exact List.eq_nil_of_length_eq_zero (by omega)
  · rintro rfl
    rfl

@[simp] theorem Window.nil : Window size ring start [] :=
  fun _ hi => absurd hi (by simp)

theorem Window.head_eq {x : α} (h : Window size ring start (x :: contents)) :
    ring (start % size) = x :=
  h 0 (by simp)

theorem Window.tail {x : α} (h : Window size ring start (x :: contents)) :
    Window size ring (start + 1) contents := by
  intro i hi
  have := h (i + 1) (by simpa using hi)
  rw [show start + 1 + i = start + (i + 1) by omega]
  simpa using this

/-- A write to a slot outside the window leaves the window. -/
theorem Window.of_ne {ring' : ℕ → α} (h : Window size ring start contents)
    (hsame : ∀ i < contents.length, ring' ((start + i) % size) = ring ((start + i) % size)) :
    Window size ring' start contents := by
  intro i hi
  rw [hsame i hi]
  exact h i hi

theorem Window.push {x : α} (h : Window size ring start contents) (hroom : contents.length < size) :
    Window size (Function.update ring ((start + contents.length) % size) x) start
      (contents ++ [x]) := by
  intro i hi
  simp only [List.length_append, List.length_singleton] at hi
  by_cases hlast : i = contents.length
  · subst hlast
    simp
  · have hi' : i < contents.length := by omega
    have hne : (start + i) % size ≠ (start + contents.length) % size :=
      slot_ne (by omega) (by omega)
    rw [Function.update_of_ne hne, List.getElem_append_left hi']
    exact h i hi'

end Lib.RingWindow
