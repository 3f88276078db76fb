import VirtIOGPU.Lib.Transfer

/-!
# Memory in cells

Cells are ranges of equal length.  A program alters a set of them when each cell gets what `new`
makes of its own old contents and nothing else changes (`Altered`).  The memory after such a
program is determined (`Altered.unique`), and programs that alter cells which do not overlap can
be run one after the other in any order: together they alter the union (`Altered.union`,
`Altered.run`).

A loop that alters one cell in each turn is described twice.  Where the cells do not overlap it
alters all of them (`Altered.loop`).  Where they may, as those of a line that is drawn over the edge
of its surface, what lies in no cell is kept, and a cell apart from the others holds what its own
turn makes of it (`Altered.turns_outside`, `Altered.turns_inside`).
-/

namespace Lib.Memory

variable {ι α β σ : Type*} {start : ι → ℕ} {len : ℕ}

/-- The contents of a cell. -/
def cell (start : ι → ℕ) (len : ℕ) (m : Mem β) (i : ι) : List β :=
  (List.range len).map fun k => m (start i + k)

/-- `a` is an address of the cell. -/
def InCell (start : ι → ℕ) (len : ℕ) (i : ι) (a : ℕ) : Prop := start i ≤ a ∧ a < start i + len

/-- From `m` to `t` the cells of a set have been altered. -/
structure Altered (start : ι → ℕ) (len : ℕ) (new : ι → List β → List β) (S : ι → Prop)
    (m t : Mem β) : Prop where
  inside : ∀ i, S i → cell start len t i = new i (cell start len m i)
  outside : ∀ a, (∀ i, S i → ¬ InCell start len i a) → t a = m a

/-- The cells of two sets do not overlap. -/
def CellsApart (start : ι → ℕ) (len : ℕ) (S T : ι → Prop) : Prop :=
  ∀ i, S i → ∀ j, T j → Apart (start i) len (start j) len

theorem cell_eq_iff {m t : Mem β} {i : ι} :
    cell start len t i = cell start len m i ↔ ∀ k < len, t (start i + k) = m (start i + k) := by
  constructor
  · intro h k hk
    have hk' := congrArg (fun l => l[k]?) h
    simp only [cell, List.getElem?_map, List.getElem?_range hk, Option.map_some] at hk'
    exact Option.some.inj hk'
  · intro h
    apply List.map_congr_left
    intro k hk
    exact h k (List.mem_range.mp hk)

namespace Altered

variable {new new' : ι → List β → List β} {S T : ι → Prop} {m t u : Mem β}

/-- What a program that alters cells leaves is determined. -/
theorem unique (h : Altered start len new S m t) (h' : Altered start len new S m u) : t = u := by
  funext a
  by_cases hin : ∃ i, S i ∧ InCell start len i a
  · obtain ⟨i, hi, hfirst, hlast⟩ := hin
    obtain ⟨k, rfl⟩ := Nat.exists_eq_add_of_le hfirst
    have hsame : cell start len t i = cell start len u i :=
      (h.inside i hi).trans (h'.inside i hi).symm
    exact cell_eq_iff.mp hsame k (by omega)
  · have hnot : ∀ i, S i → ¬ InCell start len i a := fun i hi ha => hin ⟨i, hi, ha⟩
    rw [h.outside a hnot, h'.outside a hnot]

theorem none (hS : ∀ i, ¬ S i) : Altered start len new S m m :=
  ⟨fun i hi => absurd hi (hS i), fun _ _ => rfl⟩

theorem congr (h : Altered start len new S m t) (hS : ∀ i, T i ↔ S i)
    (hnew : ∀ i, T i → new' i = new i) : Altered start len new' T m t where
  inside i hi := by
    rw [hnew i hi]
    exact h.inside i ((hS i).mp hi)
  outside a ha := h.outside a fun i hi => ha i ((hS i).mpr hi)

/-- One cell that is written as a whole. -/
theorem single {i : ι} {f : ℕ → β} (hf : (List.range len).map f = new i (cell start len m i)) :
    Altered start len new (· = i) m (overwrite (start i) len f m) where
  inside := by
    rintro j rfl
    rw [← hf]
    apply List.map_congr_left
    intro k hk
    exact overwrite_inside (List.mem_range.mp hk)
  outside a ha := by
    have hnot := ha i rfl
    unfold InCell at hnot
    exact overwrite_outside (by omega)

/-- One cell that keeps its contents. -/
theorem keep {i : ι} (hkeep : new i (cell start len m i) = cell start len m i) :
    Altered start len new (· = i) m m where
  inside := by
    rintro j rfl
    exact hkeep.symm
  outside _ _ := rfl

/-- A cell apart from those that have been altered. -/
theorem cell_same (h : Altered start len new S m t) {i : ι}
    (hapart : ∀ j, S j → Apart (start j) len (start i) len) :
    cell start len t i = cell start len m i := by
  apply cell_eq_iff.mpr
  intro k hk
  apply h.outside
  intro j hj hin
  have hj' := hapart j hj
  unfold Apart at hj'
  unfold InCell at hin
  omega

/-- One program after the other. -/
theorem union (h : Altered start len new S m t) (h' : Altered start len new T t u)
    (hapart : CellsApart start len S T) : Altered start len new (fun i => S i ∨ T i) m u where
  inside := by
    rintro i (hi | hi)
    · have hlater : cell start len u i = cell start len t i := by
        apply h'.cell_same
        intro j hj
        exact (hapart i hi j hj).symm
      rw [hlater]
      exact h.inside i hi
    · rw [h'.inside i hi, h.cell_same fun j hj => hapart j hj i hi]
  outside a ha := by
    rw [h'.outside a fun i hi => ha i (Or.inr hi)]
    exact h.outside a fun i hi => ha i (Or.inl hi)

/-- A loop that alters one cell in each turn. -/
theorem loop {n : ℕ} (cells : ℕ → ι) {body : ℕ → Mem β → Mem β}
    (hbody : ∀ k < n, ∀ m, Altered start len new (· = cells k) m (body k m))
    (hapart : ∀ k < n, ∀ j < k, Apart (start (cells j)) len (start (cells k)) len) :
    Altered start len new (fun i => ∃ k < n, i = cells k) m (up n body m) := by
  induction n with
  | zero => exact none fun i ⟨k, hk, _⟩ => absurd hk (Nat.not_lt_zero k)
  | succ n ih =>
      have hearlier := ih (fun k hk => hbody k (Nat.lt_succ_of_lt hk))
        fun k hk => hapart k (Nat.lt_succ_of_lt hk)
      rw [up_succ]
      refine (hearlier.union (hbody n (Nat.lt_succ_self n) _) ?_).congr ?_ fun _ _ => rfl
      · rintro i ⟨j, hj, rfl⟩ _ rfl
        exact hapart n (Nat.lt_succ_self n) j hj
      · intro i
        constructor
        · rintro ⟨k, hk, rfl⟩
          rcases Nat.lt_succ_iff_lt_or_eq.mp hk with hlt | rfl
          · exact Or.inl ⟨k, hlt, rfl⟩
          · exact Or.inr rfl
        · rintro (⟨k, hk, rfl⟩ | rfl)
          · exact ⟨k, Nat.lt_succ_of_lt hk, rfl⟩
          · exact ⟨n, Nat.lt_succ_self n, rfl⟩

section

variable {start : ℕ → ℕ} {new : ℕ → List β → List β} {n : ℕ} {body : ℕ → Mem β → Mem β}
  {W : ℕ → Prop}

/-- A loop whose turns alter a cell each, where the turns outside `W` are idle and the cells may
overlap: what lies in none of the others' cells keeps its contents. -/
theorem turns_outside (hbody : ∀ k < n, ∀ m, Altered start len new (· = k) m (body k m))
    (hidle : ∀ k < n, ¬ W k → ∀ m, body k m = m) (m : Mem β) {a : ℕ}
    (ha : ∀ k < n, W k → ¬ InCell start len k a) : up n body m a = m a := by
  induction n with
  | zero => rfl
  | succ n ih =>
      have hearlier := ih (fun k hk => hbody k (Nat.lt_succ_of_lt hk))
        (fun k hk => hidle k (Nat.lt_succ_of_lt hk)) fun k hk => ha k (Nat.lt_succ_of_lt hk)
      rw [up_succ, ← hearlier]
      by_cases hlast : W n
      · refine (hbody n (Nat.lt_succ_self n) _).outside a ?_
        rintro k rfl
        exact ha k (Nat.lt_succ_self k) hlast
      · rw [hidle n (Nat.lt_succ_self n) hlast]

/-- A cell that none of these turns reaches. -/
theorem turns_cell_same (hbody : ∀ k < n, ∀ m, Altered start len new (· = k) m (body k m))
    (hidle : ∀ k < n, ¬ W k → ∀ m, body k m = m) (m : Mem β) {i : ℕ}
    (hapart : ∀ j < n, W j → Apart (start j) len (start i) len) :
    cell start len (up n body m) i = cell start len m i := by
  apply cell_eq_iff.mpr
  intro k hk
  refine turns_outside hbody hidle m fun j hj hW hin => ?_
  have hj' := hapart j hj hW
  unfold Apart at hj'
  unfold InCell at hin
  omega

/-- A cell apart from those of the other turns holds what its own turn makes of it. -/
theorem turns_inside (hbody : ∀ k < n, ∀ m, Altered start len new (· = k) m (body k m))
    (hidle : ∀ k < n, ¬ W k → ∀ m, body k m = m) (m : Mem β) {i : ℕ} (hi : i < n)
    (hapart : ∀ j < n, j ≠ i → W j → Apart (start j) len (start i) len) :
    cell start len (up n body m) i = new i (cell start len m i) := by
  induction n with
  | zero => exact absurd hi (Nat.not_lt_zero i)
  | succ n ih =>
      have hbody' := fun k hk => hbody k (Nat.lt_succ_of_lt hk)
      have hidle' := fun k hk => hidle k (Nat.lt_succ_of_lt hk)
      rw [up_succ]
      rcases Nat.lt_succ_iff_lt_or_eq.mp hi with hlt | rfl
      · -- the last turn is another one
        have hcell := ih hbody' hidle' hlt fun j hj => hapart j (Nat.lt_succ_of_lt hj)
        rw [← hcell]
        by_cases hlast : W n
        · apply (hbody n (Nat.lt_succ_self n) _).cell_same
          rintro j rfl
          exact hapart j (Nat.lt_succ_self j) (Nat.ne_of_gt hlt) hlast
        · rw [hidle n (Nat.lt_succ_self n) hlast]
      · -- the turns before have left the cell alone
        have hsame := turns_cell_same hbody' hidle' m (i := i) fun j hj =>
          hapart j (Nat.lt_succ_of_lt hj) (Nat.ne_of_lt hj)
        rw [(hbody i (Nat.lt_succ_self i) _).inside i rfl, hsame]

end

/-- What is altered whatever it was may have been altered before. -/
theorem absorb (h : Altered start len new' T m t) (h' : Altered start len new S t u)
    (hsub : ∀ i, T i → S i) (hconst : ∀ i, S i → ∀ old old', new i old = new i old') :
    Altered start len new S m u where
  inside i hi := (h'.inside i hi).trans (hconst i hi _ _)
  outside a ha := by
    rw [h'.outside a ha]
    exact h.outside a fun i hi => ha i (hsub i hi)

/-- Parts that do not overlap, drawn one after the other. -/
theorem run (mem : σ → Mem β) {draw : α → σ → σ} {cells : α → ι → Prop} {parts : List α} {s : σ}
    (hdraw : ∀ p ∈ parts, ∀ s, Altered start len new (cells p) (mem s) (mem (draw p s)))
    (hapart : parts.Pairwise fun p q => CellsApart start len (cells p) (cells q)) :
    Altered start len new (fun i => ∃ p ∈ parts, cells p i) (mem s)
      (mem (parts.foldl (fun s p => draw p s) s)) := by
  induction parts generalizing s with
  | nil => exact none fun i ⟨p, hp, _⟩ => absurd hp List.not_mem_nil
  | cons p rest ih =>
      obtain ⟨hfirst, hrest⟩ := List.pairwise_cons.mp hapart
      have hothers := ih (s := draw p s) (fun q hq => hdraw q (List.mem_cons_of_mem p hq)) hrest
      refine ((hdraw p (List.mem_cons_self ..) s).union hothers ?_).congr ?_ fun _ _ => rfl
      · rintro i hi j ⟨q, hq, hj⟩
        exact hfirst q hq i hi j hj
      · intro i
        simp only [List.mem_cons, exists_eq_or_imp]

end Altered

end Lib.Memory
