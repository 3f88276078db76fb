import Mathlib.Algebra.Order.Group.Multiset

/-!
# Ledgers of acquired things

A ledger holds what has been acquired and not yet released, with multiplicities.
To release something that is not held is a fault, and the ledger remembers it.
So a program that started with `rest` and ends with `Holds ledger rest` has
released everything it acquired, and each thing once.

`Holds` speaks of the whole ledger; a rule about the part `mine` is stated for
`mine + rest` with an arbitrary `rest`, which is the frame.
-/

namespace Lib

variable {ρ : Type*} [DecidableEq ρ]

structure Ledger (ρ : Type*) where
  live : Multiset ρ
  /-- Something was released that was not held. -/
  fault : Bool

namespace Ledger

def acquire (l : Ledger ρ) (r : ρ) : Ledger ρ := { l with live := r ::ₘ l.live }

def release (l : Ledger ρ) (r : ρ) : Ledger ρ :=
  if r ∈ l.live then { l with live := l.live.erase r } else { l with fault := true }

/-- What has just been acquired can be released. -/
@[simp] theorem release_acquire (l : Ledger ρ) (r : ρ) : (l.acquire r).release r = l := by
  have hmem : r ∈ (l.acquire r).live := Multiset.mem_cons_self r l.live
  have herase : (l.acquire r).live.erase r = l.live := Multiset.erase_cons_head r l.live
  rw [release, if_pos hmem, herase]
  rfl

/-- The ledger holds exactly `all`, and nothing was released in excess. -/
structure Holds (l : Ledger ρ) (all : Multiset ρ) : Prop where
  live : l.live = all
  sound : l.fault = false

namespace Holds

variable {l : Ledger ρ} {all rest : Multiset ρ} {r : ρ}

omit [DecidableEq ρ] in
theorem acquire (h : Holds l rest) : Holds (l.acquire r) ({r} + rest) := by
  refine ⟨?_, h.sound⟩
  calc
    r ::ₘ l.live = r ::ₘ rest := by rw [h.live]
    _ = {r} + rest := (Multiset.singleton_add r rest).symm

theorem release (h : Holds l ({r} + rest)) : Holds (l.release r) rest := by
  have hlive : l.live = r ::ₘ rest := by rw [h.live, Multiset.singleton_add]
  have hmem : r ∈ l.live := by
    rw [hlive]
    exact Multiset.mem_cons_self r rest
  unfold Ledger.release
  rw [if_pos hmem]
  refine ⟨?_, h.sound⟩
  calc
    l.live.erase r = (r ::ₘ rest).erase r := by rw [hlive]
    _ = rest := Multiset.erase_cons_head r rest

end Holds

end Ledger

end Lib
