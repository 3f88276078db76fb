import Mathlib.Data.Fintype.Card
import Mathlib.Data.List.Iterate
import Mathlib.Logic.Function.Basic

/-!
# Lists threaded through an array by links

Two kinds of lists live in the link fields of an array.

* A *counted* list has no end mark: its reader follows a total link function a
  known number of times.  This is `List.iterate link head count`; the lemmas say
  when it survives a change of the links and what pushing at the front does.
* A *terminated* list ends where the link says so: `Path next i visited` says
  that following `next : ι → Option ι` from `i` visits exactly `visited` and
  stops, and `walk` computes the visit within a bound on its length.  Among finitely many
  elements there is a path from `i` if and only if nothing that is reached from `i` is on a cycle.
-/

namespace Lib.Links

variable {ι : Type*}

/-! ## Counted lists -/

theorem iterate_congr {f g : ι → ι} {i : ι} {count : ℕ}
    (h : ∀ j ∈ List.iterate f i count, g j = f j) :
    List.iterate g i count = List.iterate f i count := by
  induction count generalizing i with
  | zero => rfl
  | succ count ih =>
      simp only [List.iterate, List.mem_cons, forall_eq_or_imp] at h ⊢
      rw [h.1, ih h.2]

/-- Where a counted list ends depends on the visited links only. -/
theorem iterate_end_congr {f g : ι → ι} {i : ι} {count : ℕ}
    (h : ∀ j ∈ List.iterate f i count, g j = f j) : g^[count] i = f^[count] i := by
  induction count generalizing i with
  | zero => rfl
  | succ count ih =>
      simp only [List.iterate, List.mem_cons, forall_eq_or_imp] at h
      rw [Function.iterate_succ_apply, Function.iterate_succ_apply, h.1, ih h.2]

/-- Linking `i` to the front of a counted list that does not visit it. -/
theorem iterate_push [DecidableEq ι] {f : ι → ι} {i head : ι} {count : ℕ}
    (h : i ∉ List.iterate f head count) :
    List.iterate (Function.update f i head) i (count + 1) = i :: List.iterate f head count := by
  rw [List.iterate, Function.update_self]
  congr 1
  apply iterate_congr
  intro j hj
  exact Function.update_of_ne (ne_of_mem_of_not_mem hj h) _ _

/-! ## Terminated lists -/

/-- Following `next` from `i` until it gives `none` visits exactly `visited`. -/
inductive Path (next : ι → Option ι) : ι → List ι → Prop
  | last {i : ι} (hlast : next i = none) : Path next i [i]
  | step {i j : ι} {visited : List ι} (hnext : next i = some j) (rest : Path next j visited) :
      Path next i (i :: visited)

/-- The elements visited from `i`, at most `fuel` of them. -/
def walk (next : ι → Option ι) : ℕ → ι → List ι
  | 0, _ => []
  | fuel + 1, i =>
      i :: match next i with
        | none => []
        | some j => walk next fuel j

variable {next next' : ι → Option ι} {i : ι} {visited : List ι}

theorem Path.head?_eq (path : Path next i visited) : visited.head? = some i := by
  cases path <;> rfl

theorem Path.head_mem (path : Path next i visited) : i ∈ visited :=
  List.mem_of_mem_head? path.head?_eq

theorem Path.length_pos (path : Path next i visited) : 0 < visited.length :=
  List.length_pos_of_mem path.head_mem

theorem Path.walk_eq (path : Path next i visited) {fuel : ℕ} (hfuel : visited.length ≤ fuel) :
    walk next fuel i = visited := by
  induction path generalizing fuel with
  | last hlast =>
      obtain ⟨fuel, rfl⟩ : ∃ k, fuel = k + 1 := ⟨fuel - 1, by simp at hfuel; omega⟩
      simp [walk, hlast]
  | step hnext rest ih =>
      obtain ⟨fuel, rfl⟩ : ∃ k, fuel = k + 1 := ⟨fuel - 1, by simp at hfuel; omega⟩
      simp only [walk, hnext]
      rw [ih (by simpa using hfuel)]

theorem Path.congr (path : Path next i visited) (h : ∀ j ∈ visited, next' j = next j) :
    Path next' i visited := by
  induction path with
  | last hlast => exact .last ((h _ (List.mem_cons_self ..)).trans hlast)
  | step hnext rest ih =>
      exact .step ((h _ (List.mem_cons_self ..)).trans hnext)
        (ih fun j hj => h j (List.mem_cons_of_mem _ hj))

/-! ## Cycles -/

/-- One element is linked to the other. -/
def Linked (next : ι → Option ι) (i j : ι) : Prop := next i = some j

/-- No element that is reached from `i` is on a cycle. -/
def Acyclic (next : ι → Option ι) (i : ι) : Prop :=
  ∀ j, Relation.ReflTransGen (Linked next) i j → ¬ Relation.TransGen (Linked next) j j

/-- A link from an element that has none. -/
theorem not_linked_of_none {j k : ι} (hlast : next j = none) :
    ¬ Relation.TransGen (Linked next) j k := by
  intro hlink
  obtain ⟨first, hfirst, -⟩ := Relation.TransGen.head'_iff.mp hlink
  rw [Linked, hlast] at hfirst
  cases hfirst

theorem Path.acyclic (path : Path next i visited) : Acyclic next i := by
  induction path with
  | last hlast =>
      intro j hreach
      rcases Relation.ReflTransGen.cases_head hreach with rfl | ⟨first, hfirst, -⟩
      · exact not_linked_of_none hlast
      · rw [Linked, hlast] at hfirst
        cases hfirst
  | step hnext rest ih =>
      intro k hreach hcycle
      rcases Relation.ReflTransGen.cases_head hreach with rfl | ⟨first, hfirst, hrest⟩
      · -- the cycle goes through the next element
        obtain ⟨first, hfirst, hback⟩ := Relation.TransGen.head'_iff.mp hcycle
        obtain rfl := Option.some.inj (hnext.symm.trans hfirst)
        exact ih _ Relation.ReflTransGen.refl (Relation.TransGen.tail' hback hnext)
      · obtain rfl := Option.some.inj (hnext.symm.trans hfirst)
        exact ih k hrest hcycle

theorem Acyclic.exists_path [Finite ι] (h : Acyclic next i) : ∃ visited, Path next i visited := by
  -- what is reached later is smaller
  let later (j k : ι) : Prop :=
    Relation.ReflTransGen (Linked next) i k ∧ Relation.TransGen (Linked next) k j
  have htrans : IsTrans ι later :=
    ⟨fun _ _ _ hfirst hsecond => ⟨hsecond.1, hsecond.2.trans hfirst.2⟩⟩
  have hirrefl : Std.Irrefl later := ⟨fun j hj => h j hj.1 hj.2⟩
  have hpath : ∀ j, Relation.ReflTransGen (Linked next) i j → ∃ visited, Path next j visited := by
    intro j
    induction j using (Finite.wellFounded_of_trans_of_irrefl later).induction with
    | h j ih =>
        intro hreach
        cases hnext : next j with
        | none => exact ⟨[j], .last hnext⟩
        | some k =>
            obtain ⟨visited, rest⟩ :=
              ih k ⟨hreach, Relation.TransGen.single hnext⟩ (hreach.tail hnext)
            exact ⟨j :: visited, .step hnext rest⟩
  exact hpath i Relation.ReflTransGen.refl

end Lib.Links
