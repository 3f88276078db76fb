import VirtIOGPU.Lib.Hoare

/-!
# Two runs of one program

`Agrees R m S`: started in two states related by `R`, the program gives the same result in
both and ends in states related by `S`.  What the relation does not mention has then no
influence on the result.

The rules are those of triples, read for two runs at once; `Agrees.mapM` is the rule for a
sequence of calls, each of which may use what the calls before it have left.
-/

namespace Lib.TwoRuns

open Lib.Hoare

variable {σ α β : Type} {R R' S T : σ → σ → Prop} {m : StateM σ α}

def Agrees (R : σ → σ → Prop) (m : StateM σ α) (S : σ → σ → Prop) : Prop :=
  ∀ s t, R s t → (m s).1 = (m t).1 ∧ S (m s).2 (m t).2

namespace Agrees

theorem ret (a : α) : Agrees R (pure a : StateM σ α) R := by
  intro s t h
  exact ⟨rfl, h⟩

theorem bind {k : α → StateM σ β} (hm : Agrees R m S) (hk : ∀ a, Agrees S (k a) T) :
    Agrees R (m >>= k) T := by
  intro s t h
  obtain ⟨hresult, hstate⟩ := hm s t h
  -- the second half starts with the same result on both sides
  have hleft : (m >>= k) s = k (m t).1 (m s).2 := by
    rw [← hresult]
    rfl
  rw [hleft]
  exact hk (m t).1 (m s).2 (m t).2 hstate

theorem map {γ : Type} (f : α → γ) (hm : Agrees R m S) : Agrees R (f <$> m) S := by
  intro s t h
  obtain ⟨hresult, hstate⟩ := hm s t h
  exact ⟨congrArg f hresult, hstate⟩

theorem update {f : σ → σ} (h : ∀ s t, R s t → S (f s) (f t)) :
    Agrees R (modify f : StateM σ PUnit) S := by
  intro s t hR
  exact ⟨rfl, h s t hR⟩

theorem transition {f : σ → α × σ} (h : ∀ s t, R s t → (f s).1 = (f t).1 ∧ S (f s).2 (f t).2) :
    Agrees R (modifyGet f : StateM σ α) S := h

/-- The program looks at a part of the state that is the same in both runs. -/
theorem inspect {γ : Type} (f : σ → γ) (k : γ → StateM σ β) (hf : ∀ s t, R s t → f s = f t)
    (h : ∀ a, Agrees R (k a) S) : Agrees R (get >>= fun s => k (f s)) S := by
  intro s t hR
  have hrun (u : σ) : (get >>= fun s => k (f s) : StateM σ β) u = k (f u) u := rfl
  rw [hrun, hrun, ← hf s t hR]
  exact h (f s) s t hR

theorem look {γ : Type} {f : σ → γ} (hf : ∀ s t, R s t → f s = f t) :
    Agrees R (get >>= fun s => pure (f s) : StateM σ γ) R := by
  apply inspect f pure hf
  exact fun a => ret a

theorem ite {c : Prop} [Decidable c] {m' : StateM σ α} (hthen : c → Agrees R m S)
    (helse : ¬ c → Agrees R m' S) : Agrees R (if c then m else m') S := by
  by_cases hc : c
  · rw [if_pos hc]
    exact hthen hc
  · rw [if_neg hc]
    exact helse hc

theorem strengthen (h : Agrees R m T) (hpost : ∀ s t, T s t → S s t) : Agrees R m S := by
  intro s t hR
  obtain ⟨hresult, hstate⟩ := h s t hR
  exact ⟨hresult, hpost _ _ hstate⟩

/-- A sequence of calls, each of which keeps the relation. -/
theorem mapM {f : β → StateM σ α} {l : List β} (h : ∀ b ∈ l, Agrees R (f b) R) :
    Agrees R (l.mapM f) R := by
  induction l with
  | nil => exact ret []
  | cons b rest ih =>
      rw [List.mapM_cons]
      refine bind (h b (List.mem_cons_self ..)) fun a => ?_
      refine bind (ih fun b' hb' => h b' (List.mem_cons_of_mem _ hb')) fun as => ?_
      exact ret (a :: as)

end Agrees

end Lib.TwoRuns
