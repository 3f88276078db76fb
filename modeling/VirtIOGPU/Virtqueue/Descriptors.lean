import Mathlib.Data.Finset.Card
import Mathlib.Data.Finset.Range
import VirtIOGPU.Virtqueue.Device

/-!
# What the loops do to the descriptor table

Specifications of the two loops over descriptors: `addBufLoop` threads a chain
through the front of the free list (`addBufLoop_spec`), and `releaseChain` puts
the descriptors of a chain back in front of it (`releaseChain_spec`).  Both say
which descriptors are left alone, so that nothing later unfolds a loop.

## Strategy

Each specification has three parts, by one induction: a frame, the free list afterwards, and what
the loop has built or visited.  The induction for `addBufLoop` is on the array of buffers, the one
for `releaseChain` on the descriptors that the chain visits.

```text
loop           induction on    its end
addBufLoop     the buffers     the last buffer carries no NEXT
releaseChain   visited         the descriptor without NEXT, or the bound on the iterations
```

The bound is an artefact of the model: the C loop has none.  `releaseChain_fuel` shows that more
iterations change nothing, whatever the table holds.  Every iteration but the last clears a `NEXT`
flag, so `linkedDescs` has one element fewer, and it has 65536 at most.
-/

namespace VirtIOGPU

open Lib.Links

/-! ## The free list -/

/-- The initial free chain links `j` to `j + 1`. -/
theorem linkFreeChain_next {queueSize j : ℕ} (hj : j + 1 < queueSize) (hsize : queueSize ≤ 65536) :
    descLink (linkFreeChain queueSize fun _ => {}) j = j + 1 := by
  have hloop : ∀ (m : ℕ) (desc : ℕ → VringDesc),
      (List.range m).foldl
        (fun desc j => Function.update desc j { desc j with next := UInt16.ofNat (j + 1) }) desc =
      fun i => if i < m then { desc i with next := UInt16.ofNat (i + 1) } else desc i := by
    intro m desc
    induction m with
    | zero => simp
    | succ m ih =>
        rw [List.range_succ, List.foldl_append, ih]
        funext i
        simp only [List.foldl_cons, List.foldl_nil, Function.update_apply, lt_irrefl, if_false]
        by_cases hi : i = m
        · simp [hi]
        · rw [if_neg hi]
          congr 1
          exact propext ⟨fun h => by omega, fun h => by omega⟩
  have hne : j ≠ queueSize - 1 := by omega
  have hlt : j < queueSize - 1 := by omega
  simp only [descLink, linkFreeChain, hloop, Function.update_of_ne hne, hlt, if_true,
    UInt16.toNat_ofNat']
  exact Nat.mod_eq_of_lt (by omega)

theorem iterate_linkFreeChain {queueSize : ℕ} (hsize : queueSize ≤ 65536) :
    ∀ (count start : ℕ), start + count ≤ queueSize →
      List.iterate (descLink (linkFreeChain queueSize fun _ => {})) start count =
        List.range' start count := by
  intro count
  induction count with
  | zero => intro _ _; rfl
  | succ count ih =>
      intro start hle
      rw [List.iterate, List.range'_succ]
      congr 1
      cases count with
      | zero => rfl
      | succ count =>
          rw [linkFreeChain_next (by omega) hsize]
          exact ih (start + 1) (by omega)

theorem descLink_releaseDesc (desc : ℕ → VringDesc) (freeHead idx : UInt16) :
    descLink (releaseDesc desc freeHead idx) =
      Function.update (descLink desc) idx.toNat freeHead.toNat := by
  funext i
  by_cases hi : i = idx.toNat
  · subst hi
    simp [descLink, releaseDesc]
  · simp [descLink, releaseDesc, Function.update_of_ne hi]

/-! ## The direct descriptor loop -/

/-- The flags of a descriptor of a direct chain. -/
def directFlags (write more : Bool) : UInt16 :=
  (if write then vringDescFWrite else 0) ||| (if more then vringDescFNext else 0)

theorem directFlags_next (write more : Bool) :
    directFlags write more &&& vringDescFNext = 0 ↔ more = false := by
  cases write <;> cases more <;> decide

theorem directFlags_write (write more : Bool) :
    directFlags write more &&& vringDescFWrite = 0 ↔ write = false := by
  cases write <;> cases more <;> decide

theorem directFlags_indirect (write more : Bool) :
    directFlags write more &&& vringDescFIndirect = 0 := by
  cases write <;> cases more <;> decide

/-- The descriptor that the loop writes for entry `n`. -/
def directDesc (modern : Bool) (outNum n : ℕ) (entry : VringSg) (more : Bool) (next : UInt16) :
    VringDesc where
  addr := vr64 modern entry.addr.toUInt64
  len := vr32 modern entry.len
  flags := vr16 modern (directFlags (decide (outNum ≤ n)) more)
  next := if more then vr16 modern next else next

/-- The buffer that entry `n` of a scatter-gather list stands for. -/
def sgBuffer (outNum n : ℕ) (entry : VringSg) : DeviceBuffer where
  addr := entry.addr.toUInt64
  len := entry.len
  write := decide (outNum ≤ n)

theorem addBufLoop_cons (modern : Bool) (outNum total n : ℕ) (entry : VringSg)
    (rest : List VringSg) (idx freeHead : UInt16) (desc : ℕ → VringDesc) :
    addBufLoop modern outNum total (entry :: rest) n idx freeHead desc =
      let next := (desc idx.toNat).next
      let more := decide (n + 1 < total)
      let desc' := Function.update desc idx.toNat (directDesc modern outNum n entry more next)
      addBufLoop modern outNum total rest (n + 1) (if more then next else idx)
        (if more then freeHead else next) desc' := by
  by_cases hmore : n + 1 < total <;> simp [addBufLoop, directDesc, directFlags, hmore]

theorem chainNext_directDesc {modern : Bool} {outNum n : ℕ} {entry : VringSg} {more : Bool}
    {next : UInt16} {desc : ℕ → VringDesc} {i : ℕ}
    (h : desc i = directDesc modern outNum n entry more next) :
    chainNext modern desc i = if more then some next.toNat else none := by
  cases more <;> simp [chainNext, h, directDesc, directFlags_next]

theorem deviceResolve_directDesc (modern : Bool) (itblMem : UInt32 → List VringIndirectDesc)
    (outNum n : ℕ) (entry : VringSg) (more : Bool) (next : UInt16) :
    deviceResolve modern itblMem (directDesc modern outNum n entry more next) =
      [sgBuffer outNum n entry] := by
  simp [deviceResolve, deviceFlag, deviceBuffer, directDesc, sgBuffer, directFlags_write,
    directFlags_indirect]

/-- The loop turns the first descriptors of the free list into a chain that
carries the entries, and leaves every other descriptor and the rest of the free
list alone. -/
theorem addBufLoop_spec (modern : Bool) (itblMem : UInt32 → List VringIndirectDesc)
    (outNum total : ℕ) :
    ∀ (sg : List VringSg) (n : ℕ) (idx freeHead : UInt16) (desc : ℕ → VringDesc),
      sg ≠ [] → n + sg.length = total →
      (List.iterate (descLink desc) idx.toNat sg.length).Nodup →
      let taken := List.iterate (descLink desc) idx.toNat sg.length
      let res := addBufLoop modern outNum total sg n idx freeHead desc
      (∀ i, i ∉ taken → res.1 i = desc i) ∧
        res.2.toNat = (descLink desc)^[sg.length] idx.toNat ∧
        Path (chainNext modern res.1) idx.toNat taken ∧
        taken.flatMap (fun i => deviceResolve modern itblMem (res.1 i)) =
          sg.mapIdx fun k entry => sgBuffer outNum (n + k) entry := by
  intro sg
  induction sg with
  | nil => intro _ _ _ _ hne; exact absurd rfl hne
  | cons entry rest ih =>
      intro n idx freeHead desc _ htotal hnodup
      simp only [List.length_cons] at htotal hnodup
      rw [List.iterate, List.nodup_cons] at hnodup
      obtain ⟨hfresh, hnodup⟩ := hnodup
      have hhead : descLink desc idx.toNat = (desc idx.toNat).next.toNat := rfl
      rw [hhead] at hfresh hnodup
      simp only [addBufLoop_cons, List.length_cons, List.iterate, hhead,
        Function.iterate_succ_apply]
      generalize hnext : (desc idx.toNat).next = next at hfresh hnodup ⊢
      by_cases hmore : n + 1 < total
      · -- another entry follows: the rest of the loop runs on the updated table
        simp only [hmore, decide_true, if_true]
        generalize hdesc' : Function.update desc idx.toNat
          (directDesc modern outNum n entry true next) = desc'
        have hself : desc' idx.toNat = directDesc modern outNum n entry true next := by
          rw [← hdesc', Function.update_self]
        have hother : ∀ i, i ≠ idx.toNat → desc' i = desc i := fun i hi => by
          rw [← hdesc', Function.update_of_ne hi]
        have hlinks : ∀ j ∈ List.iterate (descLink desc) next.toNat rest.length,
            descLink desc' j = descLink desc j := fun j hj => by
          rw [descLink, descLink, hother j (ne_of_mem_of_not_mem hj hfresh)]
        have hiterate := iterate_congr hlinks
        have hend := iterate_end_congr hlinks
        have hrest : rest ≠ [] := by
          rintro rfl
          simp at htotal
          omega
        have h := ih (n + 1) next freeHead desc' hrest (by omega) (hiterate.symm ▸ hnodup)
        simp only [hiterate, hend] at h
        obtain ⟨hframe, hfree, hpath, hbuffers⟩ := h
        have hkept := (hframe idx.toNat hfresh).trans hself
        refine ⟨?_, hfree, ?_, ?_⟩
        · intro i hi
          rw [List.mem_cons, not_or] at hi
          rw [hframe i hi.2, hother i hi.1]
        · exact .step (by simp [chainNext_directDesc hkept]) hpath
        · rw [List.flatMap_cons, hkept, deviceResolve_directDesc, hbuffers, List.mapIdx_cons]
          simp only [List.singleton_append, Nat.add_zero]
          congr 2
          funext k other
          rw [show n + 1 + k = n + (k + 1) by omega]
      · -- the last entry keeps its free link, which becomes the new head
        obtain rfl : rest = [] := List.eq_nil_of_length_eq_zero (by omega)
        simp only [hmore, decide_false, Bool.false_eq_true, if_false, addBufLoop, List.length_nil,
          List.iterate]
        refine ⟨?_, rfl, ?_, ?_⟩
        · intro i hi
          exact Function.update_of_ne (by simpa using hi) _ _
        · exact .last (by simp [chainNext_directDesc (Function.update_self ..)])
        · simp [deviceResolve_directDesc]

/-! ## The release loop -/

theorem releaseDesc_of_ne {desc : ℕ → VringDesc} {freeHead idx : UInt16} {i : ℕ}
    (hi : i ≠ idx.toNat) : releaseDesc desc freeHead idx i = desc i :=
  Function.update_of_ne hi _ _

/-- The descriptors on which the release loop would go on. -/
def linkedDescs (modern : Bool) (desc : ℕ → VringDesc) : Finset ℕ :=
  (Finset.range 65536).filter fun i => vr16 modern (desc i).flags &&& vringDescFNext ≠ 0

/-- Releasing a descriptor on which the loop goes on leaves one fewer of them. -/
theorem card_linkedDescs_releaseDesc {modern : Bool} {desc : ℕ → VringDesc} {idx : UInt16}
    (freeHead : UInt16) (h : vr16 modern (desc idx.toNat).flags &&& vringDescFNext ≠ 0) :
    (linkedDescs modern (releaseDesc desc freeHead idx)).card < (linkedDescs modern desc).card := by
  apply Finset.card_lt_card
  rw [Finset.ssubset_iff_of_subset]
  · refine ⟨idx.toNat, ?_, ?_⟩
    · exact Finset.mem_filter.mpr ⟨Finset.mem_range.mpr idx.toNat_lt, h⟩
    · rw [linkedDescs, Finset.mem_filter, releaseDesc, Function.update_self]
      simp
  · intro i hi
    obtain ⟨hrange, hflag⟩ := Finset.mem_filter.mp hi
    refine Finset.mem_filter.mpr ⟨hrange, ?_⟩
    by_cases heq : i = idx.toNat
    · rwa [heq]
    · rwa [releaseDesc_of_ne heq] at hflag

theorem releaseChain_step (modern : Bool) (fuel : ℕ) (idx freeHead : UInt16)
    (desc : ℕ → VringDesc) (freed : UInt32) :
    releaseChain modern (fuel + 1) idx desc freeHead freed =
      if vr16 modern (desc idx.toNat).flags &&& vringDescFNext = 0 then
        (releaseDesc desc freeHead idx, idx, freed + 1)
      else
        releaseChain modern fuel (vr16 modern (desc idx.toNat).next)
          (releaseDesc desc freeHead idx) idx (freed + 1) := rfl

/-- More iterations than descriptors to go on from change nothing. -/
theorem releaseChain_succ (modern : Bool) :
    ∀ (fuel : ℕ) (idx freeHead : UInt16) (desc : ℕ → VringDesc) (freed : UInt32),
      (linkedDescs modern desc).card < fuel →
      releaseChain modern (fuel + 1) idx desc freeHead freed =
        releaseChain modern fuel idx desc freeHead freed := by
  intro fuel
  induction fuel with
  | zero => intro _ _ _ _ hcard; exact absurd hcard (Nat.not_lt_zero _)
  | succ fuel ih =>
      intro idx freeHead desc freed hcard
      rw [releaseChain_step modern (fuel + 1) idx freeHead desc freed,
        releaseChain_step modern fuel idx freeHead desc freed]
      by_cases hflag : vr16 modern (desc idx.toNat).flags &&& vringDescFNext = 0
      · rw [if_pos hflag, if_pos hflag]
      · have hless := card_linkedDescs_releaseDesc freeHead hflag
        rw [if_neg hflag, if_neg hflag]
        exact ih _ idx (releaseDesc desc freeHead idx) (freed + 1) (by omega)

/-- The bound on the release loop is never what ends it. -/
theorem releaseChain_fuel (modern : Bool) (idx freeHead : UInt16) (desc : ℕ → VringDesc)
    (freed : UInt32) {fuel : ℕ} (hfuel : releaseFuel ≤ fuel) :
    releaseChain modern fuel idx desc freeHead freed =
      releaseChain modern releaseFuel idx desc freeHead freed := by
  have hcard : (linkedDescs modern desc).card ≤ 65536 :=
    (Finset.card_filter_le _ _).trans_eq (Finset.card_range _)
  induction fuel, hfuel using Nat.le_induction with
  | base => rfl
  | succ fuel hle ih =>
      have hmore : (linkedDescs modern desc).card < fuel := by
        unfold releaseFuel at hle
        omega
      rw [releaseChain_succ modern fuel idx freeHead desc freed hmore, ih]

/-- The loop puts the descriptors of a chain back in front of the free list and
leaves every other descriptor alone. -/
theorem releaseChain_spec (modern : Bool) {visited : List ℕ} :
    ∀ (fuel : ℕ) (idx freeHead : UInt16) (desc : ℕ → VringDesc) (freed : UInt32) (count : ℕ),
      visited.length ≤ fuel → Path (chainNext modern desc) idx.toNat visited →
      (visited ++ List.iterate (descLink desc) freeHead.toNat count).Nodup →
      let res := releaseChain modern fuel idx desc freeHead freed
      (∀ i, i ∉ visited → res.1 i = desc i) ∧
        List.iterate (descLink res.1) res.2.1.toNat (visited.length + count) =
          visited.reverse ++ List.iterate (descLink desc) freeHead.toNat count ∧
        res.2.2 = freed + UInt32.ofNat visited.length := by
  induction visited with
  | nil =>
      intro fuel idx freeHead desc freed count _ hpath
      cases hpath
  | cons i rest ih =>
      intro fuel idx freeHead desc freed count hfuel hpath hnodup
      obtain ⟨fuel, rfl⟩ : ∃ k, fuel = k + 1 := ⟨fuel - 1, by simp at hfuel; omega⟩
      obtain rfl : i = idx.toNat := by simpa using hpath.head?_eq
      rw [List.cons_append, List.nodup_cons, List.mem_append, not_or] at hnodup
      obtain ⟨⟨hrest, hfree⟩, hnodup⟩ := hnodup
      -- the first descriptor of the chain goes to the front of the free list
      have hlinks := descLink_releaseDesc desc freeHead idx
      have hpush : List.iterate (descLink (releaseDesc desc freeHead idx)) idx.toNat (count + 1) =
          idx.toNat :: List.iterate (descLink desc) freeHead.toNat count := by
        rw [hlinks, iterate_push hfree]
      cases hpath with
      | last hlast =>
          -- the end of the chain
          have hflag : vr16 modern (desc idx.toNat).flags &&& vringDescFNext = 0 := by
            by_contra hne
            simp [chainNext, hne] at hlast
          simp only [releaseChain, hflag, if_true, List.length_singleton, List.reverse_singleton,
            List.singleton_append]
          refine ⟨?_, ?_, rfl⟩
          · intro j hj
            exact releaseDesc_of_ne (by simpa using hj)
          · rw [Nat.add_comm 1 count, hpush]
      | step hnext hpath =>
          have hflag : ¬ vr16 modern (desc idx.toNat).flags &&& vringDescFNext = 0 := by
            intro heq
            simp [chainNext, heq] at hnext
          rw [chainNext, if_neg hflag, Option.some.injEq] at hnext
          simp only [releaseChain, hflag, if_false]
          generalize vr16 modern (desc idx.toNat).next = next at hnext ⊢
          subst hnext
          -- the rest of the chain is as before, and apart from the longer free list
          have hpath' : Path (chainNext modern (releaseDesc desc freeHead idx)) next.toNat rest :=
            hpath.congr fun j hj => by
              rw [chainNext, chainNext, releaseDesc_of_ne (ne_of_mem_of_not_mem hj hrest)]
          have hnodup' : (rest ++ List.iterate (descLink (releaseDesc desc freeHead idx))
              idx.toNat (count + 1)).Nodup := by
            rw [hpush, List.nodup_middle, List.nodup_cons, List.mem_append, not_or]
            exact ⟨⟨hrest, hfree⟩, hnodup⟩
          obtain ⟨hframe, hlist, hfreed⟩ := ih fuel next idx (releaseDesc desc freeHead idx)
            (freed + 1) (count + 1) (by simpa using hfuel) hpath' hnodup'
          refine ⟨?_, ?_, ?_⟩
          · intro j hj
            rw [List.mem_cons, not_or] at hj
            rw [hframe j hj.2, releaseDesc_of_ne hj.1]
          · rw [List.length_cons, Nat.add_right_comm, Nat.add_assoc, hlist, hpush]
            simp
          · rw [hfreed, List.length_cons, UInt32.ofNat_add, UInt32.add_assoc,
              UInt32.add_comm 1]
            rfl

end VirtIOGPU
