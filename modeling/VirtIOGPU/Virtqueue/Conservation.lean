import Mathlib.Algebra.Order.BigOperators.Group.List
import VirtIOGPU.Lib.Distinct
import VirtIOGPU.Virtqueue.Descriptors

/-!
# No descriptor is lost

`DescInv` ties the descriptor table to the outstanding requests: the free list
and the descriptors taken for the requests partition the table, every request is
still linked from its head through the descriptors taken for it, and the cookie
and table arrays hold what belongs to it.

The invariant says nothing about the rings.  `DescInv.add_cases` and
`DescInv.getBuf_spec` are what the two driver operations do to it: the first moves
descriptors from the front of the free list into a new request, the second moves
the descriptors of the request that a used entry names back to the front.

## Strategy

The partition is a permutation of `List.range num`: that it has no repetition, that the counter
`num_free` is right and that every head is below `num` are consequences.

```text
operation             free list                    outstanding requests   lemma
AddBuf, direct        loses its first n entries    one with n descs       DescInv.addBufDirect
AddBuf, indirect      loses its first entry        one with one desc      DescInv.addBufIndirect
AddBuf that fails     stays                        stay                   DescInv.add_cases
GetBuf, own head      descs reversed in front      without that one       DescInv.getBuf_spec
GetBuf, nothing new   stays                        stay                   getBuf_of_none
```

Both ways of adding are instances of `DescInv.take`.  It asks for a frame (only the descriptors
taken change) and for the new path; the paths of the other requests are kept since no descriptor
on them is touched.
-/

namespace VirtIOGPU

open Lib.Links
open scoped List

structure DescInv (vq : Virtqueue) (outs : List Request) : Prop where
  num_le : vq.num.toNat ≤ 32768
  partition : (freeDescs vq ++ outs.flatMap Request.descs).Perm (List.range vq.num.toNat)
  path : ∀ r ∈ outs, Path (chainNext vq.modern vq.desc) r.head.toNat r.descs
  cookie : ∀ r ∈ outs, vq.cookies r.head.toNat = r.cookie
  table : ∀ r ∈ outs, vq.indirectTables r.head.toNat ≠ 0 → r.descs = [r.head.toNat]

theorem length_freeDescs (vq : Virtqueue) : (freeDescs vq).length = vq.numFree.toNat := by
  simp [freeDescs]

namespace DescInv

variable {vq : Virtqueue} {outs : List Request}

/-! ## Consequences of the partition -/

theorem nodup (inv : DescInv vq outs) : (freeDescs vq ++ outs.flatMap Request.descs).Nodup :=
  inv.partition.nodup_iff.mpr List.nodup_range

theorem free_nodup (inv : DescInv vq outs) : (freeDescs vq).Nodup :=
  (List.nodup_append.mp inv.nodup).1

theorem lt_num_of_mem_descs (inv : DescInv vq outs) {r : Request} (hr : r ∈ outs) {i : ℕ}
    (h : i ∈ r.descs) : i < vq.num.toNat :=
  List.mem_range.mp (inv.partition.mem_iff.mp
    (List.mem_append_right _ (List.mem_flatMap.mpr ⟨r, hr, h⟩)))

theorem head_mem (inv : DescInv vq outs) {r : Request} (hr : r ∈ outs) :
    r.head.toNat ∈ r.descs :=
  (inv.path r hr).head_mem

theorem head_lt (inv : DescInv vq outs) {r : Request} (hr : r ∈ outs) :
    r.head.toNat < vq.num.toNat :=
  inv.lt_num_of_mem_descs hr (inv.head_mem hr)

theorem not_mem_free (inv : DescInv vq outs) {r : Request} (hr : r ∈ outs) {i : ℕ}
    (h : i ∈ r.descs) : i ∉ freeDescs vq := fun hfree =>
  (List.disjoint_of_nodup_append inv.nodup) hfree (List.mem_flatMap.mpr ⟨r, hr, h⟩)

theorem descs_nodup (inv : DescInv vq outs) {r : Request} (hr : r ∈ outs) : r.descs.Nodup :=
  (List.nodup_flatMap.mp (List.nodup_append.mp inv.nodup).2.1).1 r hr

/-- The requests have pairwise different heads. -/
theorem heads_nodup (inv : DescInv vq outs) : (outs.map Request.head).Nodup := by
  have hpairwise := (List.nodup_flatMap.mp (List.nodup_append.mp inv.nodup).2.1).2
  rw [List.Nodup, List.pairwise_map]
  refine hpairwise.imp_of_mem fun {a b} ha hb hdisjoint heq => ?_
  exact hdisjoint (inv.head_mem ha) (heq ▸ inv.head_mem hb)

/-- The descriptors are all counted. -/
theorem count (inv : DescInv vq outs) :
    vq.numFree.toNat + (outs.map fun r => r.descs.length).sum = vq.num.toNat := by
  have h := inv.partition.length_eq
  simpa [length_freeDescs, List.length_flatMap] using h

theorem numFree_le (inv : DescInv vq outs) : vq.numFree.toNat ≤ vq.num.toNat := by
  have := inv.count
  omega

theorem descs_length_le (inv : DescInv vq outs) {r : Request} (hr : r ∈ outs) :
    vq.numFree.toNat + r.descs.length ≤ vq.num.toNat := by
  have hle : r.descs.length ≤ (outs.map fun r => r.descs.length).sum :=
    List.single_le_sum (fun _ _ => Nat.zero_le _) _
      (List.mem_map.mpr ⟨r, hr, rfl⟩)
  have := inv.count
  omega

/-- There are at most as many requests as descriptors. -/
theorem length_outs_le (inv : DescInv vq outs) :
    vq.numFree.toNat + outs.length ≤ vq.num.toNat := by
  have hone : ∀ (l : List Request), (∀ r ∈ l, 1 ≤ r.descs.length) →
      l.length ≤ (l.map fun r => r.descs.length).sum := by
    intro l
    induction l with
    | nil => simp
    | cons r rest ih =>
        intro h
        have hhead := h r (List.mem_cons_self ..)
        have hrest := ih fun q hq => h q (List.mem_cons_of_mem _ hq)
        simp only [List.length_cons, List.map_cons, List.sum_cons]
        omega
  have h := hone outs fun r hr => (inv.path r hr).length_pos
  have := inv.count
  omega

/-- What `VirtQueue_GetBuf` would visit is what was taken. -/
theorem chainDescs_eq (inv : DescInv vq outs) {r : Request} (hr : r ∈ outs) :
    chainDescs vq r.head = r.descs := by
  have := inv.descs_length_le hr
  exact (inv.path r hr).walk_eq (by omega)

theorem perm (inv : DescInv vq outs) {outs' : List Request} (h : outs.Perm outs') :
    DescInv vq outs' where
  num_le := inv.num_le
  partition := ((h.flatMap_right Request.descs).append_left _).symm.trans inv.partition
  path r hr := inv.path r (h.mem_iff.mpr hr)
  cookie r hr := inv.cookie r (h.mem_iff.mpr hr)
  table r hr := inv.table r (h.mem_iff.mpr hr)

end DescInv

/-! ## Right after allocation -/

theorem DescInv.initial {queueSize : UInt32} (hsize : queueSize.toNat ≤ 32768)
    (modern useEventIdx useIndirect : Bool) :
    DescInv (Queue.initial queueSize modern useEventIdx useIndirect).vq [] where
  num_le := hsize
  partition := by
    have hfree : queueSize.toUInt16.toNat = queueSize.toNat := by
      rw [UInt32.toNat_toUInt16]
      omega
    have hlist : freeDescs (Queue.initial queueSize modern useEventIdx useIndirect).vq =
        List.range queueSize.toNat := by
      simp only [freeDescs, Queue.initial, virtQueueAllocate, UInt16.toNat_zero, hfree]
      rw [iterate_linkFreeChain (by omega) _ _ (by omega), List.range_eq_range']
    rw [hlist, List.flatMap_nil, List.append_nil]
    exact List.Perm.refl _
  path r hr := absurd hr (List.not_mem_nil)
  cookie r hr := absurd hr (List.not_mem_nil)
  table r hr := absurd hr (List.not_mem_nil)

/-! ## Adding a request -/

theorem mapItbl_some {env : ItblEnv} {total phys : UInt32} {calls : List ExecCall}
    (h : mapItbl env total = (some phys, calls)) : env.itbl ≠ 0 ∧ phys = env.itblPhys := by
  unfold mapItbl at h
  split at h
  · simp at h
  · rename_i hitbl
    refine ⟨hitbl, ?_⟩
    split at h
    · simp at h
    · split at h
      · simp at h
      · simp only [Prod.mk.injEq, Option.some.injEq] at h
        exact h.1.symm

/-- The three ways a call of `VirtQueue_AddBuf` can end. -/
theorem addBuf_cases (vq : Virtqueue) (sg : SgArray) (cookie : UInt32) (env : ItblEnv) :
    let res := virtQueueAddBuf vq sg.entries sg.outNum sg.inNum cookie env
    let total := sg.outNum + sg.inNum
    (res.rc = -1 ∧ res.vq = vq) ∨
      (res.rc = 0 ∧ vq.useIndirect = true ∧ 1 < sg.entries.length ∧ 1 ≤ vq.numFree.toNat ∧
        env.itbl ≠ 0 ∧
        res.vq = addBufIndirect vq sg.entries sg.outNum total cookie env.itbl env.itblPhys) ∨
      (res.rc = 0 ∧ sg.entries.length ≤ vq.numFree.toNat ∧
        res.vq = addBufDirect vq sg.entries sg.outNum total cookie) := by
  intro res total
  have htotal : total.toNat = sg.entries.length := sg.total_toNat
  have hroom : ¬ vq.numFree.toUInt32 < total → sg.entries.length ≤ vq.numFree.toNat := by
    intro h
    rw [UInt32.lt_iff_toNat_lt, UInt16.toNat_toUInt32] at h
    omega
  -- with a table, or along the free list; a table that cannot be had leads to the list
  by_cases hindirect : (vq.useIndirect && decide (1 < total)) = true
  · simp only [res, virtQueueAddBuf, total] at hindirect ⊢
    simp only [hindirect, if_true]
    rw [Bool.and_eq_true, decide_eq_true_eq, UInt32.lt_iff_toNat_lt, UInt32.toNat_one] at hindirect
    split
    · exact Or.inl ⟨rfl, rfl⟩
    · rename_i hfull
      rw [UInt16.lt_iff_toNat_lt, UInt16.toNat_one] at hfull
      split
      · rename_i itblPhys calls hmap
        obtain ⟨hitbl, rfl⟩ := mapItbl_some hmap
        exact Or.inr (Or.inl ⟨rfl, hindirect.1, htotal ▸ hindirect.2, by omega, hitbl, rfl⟩)
      · split
        · exact Or.inl ⟨rfl, rfl⟩
        · rename_i hless
          exact Or.inr (Or.inr ⟨rfl, hroom hless, rfl⟩)
  · simp only [res, virtQueueAddBuf, total] at hindirect ⊢
    simp only [hindirect, Bool.false_eq_true, if_false]
    split
    · exact Or.inl ⟨rfl, rfl⟩
    · rename_i hless
      exact Or.inr (Or.inr ⟨rfl, hroom hless, rfl⟩)

/-- The free list splits at any number of its elements. -/
theorem freeDescs_split (vq : Virtqueue) {count : ℕ} (hcount : count ≤ vq.numFree.toNat) :
    freeDescs vq = List.iterate (descLink vq.desc) vq.freeHead.toNat count ++
      List.iterate (descLink vq.desc) ((descLink vq.desc)^[count] vq.freeHead.toNat)
        (vq.numFree.toNat - count) := by
  rw [freeDescs, ← List.iterate_add]
  congr 1
  omega

theorem DescInv.taken_nodup {vq : Virtqueue} {outs : List Request} (inv : DescInv vq outs)
    {count : ℕ} (hcount : count ≤ vq.numFree.toNat) :
    (List.iterate (descLink vq.desc) vq.freeHead.toNat count).Nodup := by
  have hnodup := inv.free_nodup
  rw [freeDescs_split vq hcount] at hnodup
  exact (List.nodup_append.mp hnodup).1

/-- The front of the free list belongs to no outstanding request. -/
theorem DescInv.not_mem_taken {vq : Virtqueue} {outs : List Request} (inv : DescInv vq outs)
    {count : ℕ} (hcount : count ≤ vq.numFree.toNat) {r : Request} (hr : r ∈ outs) {i : ℕ}
    (hi : i ∈ r.descs) : i ∉ List.iterate (descLink vq.desc) vq.freeHead.toNat count := fun hmem =>
  inv.not_mem_free hr hi (by
    rw [freeDescs_split vq hcount]
    exact List.mem_append_left _ hmem)

/-- A new request takes the first `count` free descriptors; nothing else changes in the table,
and of the other arrays only the entries at its head. -/
theorem DescInv.take {vq vq' : Virtqueue} {outs : List Request} (inv : DescInv vq outs)
    {r : Request} {count : ℕ} (hcount : count ≤ vq.numFree.toNat)
    (hdescs : r.descs = List.iterate (descLink vq.desc) vq.freeHead.toNat count)
    (hnum : vq'.num = vq.num) (hmodern : vq'.modern = vq.modern)
    (hnumFree : vq'.numFree.toNat = vq.numFree.toNat - count)
    (hfreeHead : vq'.freeHead.toNat = (descLink vq.desc)^[count] vq.freeHead.toNat)
    (hframe : ∀ i, i ∉ r.descs → vq'.desc i = vq.desc i)
    (hothers : ∀ i, i ≠ r.head.toNat →
      vq'.cookies i = vq.cookies i ∧ vq'.indirectTables i = vq.indirectTables i)
    (hpath : Path (chainNext vq'.modern vq'.desc) r.head.toNat r.descs)
    (hcookie : vq'.cookies r.head.toNat = r.cookie)
    (htable : vq'.indirectTables r.head.toNat ≠ 0 → r.descs = [r.head.toNat]) :
    DescInv vq' (outs ++ [r]) := by
  have hsplit := freeDescs_split vq hcount
  rw [← hdescs] at hsplit
  -- what stays free, and what was outstanding before, is apart from the new request
  have hapart : List.Disjoint r.descs (List.iterate (descLink vq.desc)
      ((descLink vq.desc)^[count] vq.freeHead.toNat) (vq.numFree.toNat - count)) := by
    have hnodup := inv.free_nodup
    rw [hsplit] at hnodup
    exact List.disjoint_of_nodup_append hnodup
  have hold : ∀ q ∈ outs, ∀ i ∈ q.descs, i ∉ r.descs := fun q hq i hi =>
    hdescs ▸ inv.not_mem_taken hcount hq hi
  have hold_head : ∀ q ∈ outs, q.head.toNat ≠ r.head.toNat := fun q hq heq =>
    hold q hq _ (inv.head_mem hq) (heq ▸ hpath.head_mem)
  have hfree : freeDescs vq' = List.iterate (descLink vq.desc)
      ((descLink vq.desc)^[count] vq.freeHead.toNat) (vq.numFree.toNat - count) := by
    rw [freeDescs, hnumFree, hfreeHead]
    refine iterate_congr fun j hj => ?_
    rw [descLink, descLink, hframe j fun hmem => hapart hmem hj]
  refine ⟨hnum ▸ inv.num_le, ?_, ?_, ?_, ?_⟩
  · -- the partition: the taken descriptors move from one part to the other
    calc freeDescs vq' ++ (outs ++ [r]).flatMap Request.descs
        = (freeDescs vq' ++ outs.flatMap Request.descs) ++ r.descs := by
          rw [List.flatMap_append, List.flatMap_singleton, List.append_assoc]
      _ ~ r.descs ++ (freeDescs vq' ++ outs.flatMap Request.descs) := List.perm_append_comm
      _ = freeDescs vq ++ outs.flatMap Request.descs := by
          rw [hsplit, hfree, List.append_assoc]
      _ ~ List.range vq.num.toNat := inv.partition
      _ = List.range vq'.num.toNat := by rw [hnum]
  · intro q hq
    rcases List.mem_append.mp hq with hq | hq
    · refine (inv.path q hq).congr fun i hi => ?_
      rw [chainNext, chainNext, hmodern, hframe i (hold q hq i hi)]
    · obtain rfl := List.mem_singleton.mp hq
      exact hpath
  · intro q hq
    rcases List.mem_append.mp hq with hq | hq
    · rw [(hothers _ (hold_head q hq)).1]
      exact inv.cookie q hq
    · obtain rfl := List.mem_singleton.mp hq
      exact hcookie
  · intro q hq
    rcases List.mem_append.mp hq with hq | hq
    · rw [(hothers _ (hold_head q hq)).2]
      exact inv.table q hq
    · obtain rfl := List.mem_singleton.mp hq
      exact htable

/-- The direct path takes the front of the free list for the new request. -/
theorem DescInv.addBufDirect {vq : Virtqueue} {outs : List Request} (inv : DescInv vq outs)
    (sg : SgArray) (cookie : UInt32) (hroom : sg.entries.length ≤ vq.numFree.toNat)
    {r : Request} (hhead : r.head = vq.freeHead) (hcookie : r.cookie = cookie)
    (hdescs : r.descs = List.iterate (descLink vq.desc) vq.freeHead.toNat sg.entries.length) :
    DescInv (VirtIOGPU.addBufDirect vq sg.entries sg.outNum (sg.outNum + sg.inNum) cookie)
      (outs ++ [r]) := by
  have hne : sg.entries ≠ [] := List.ne_nil_of_length_pos sg.nonempty
  obtain ⟨hframe, hend, hpath, -⟩ := addBufLoop_spec vq.modern (fun _ => []) sg.outNum.toNat
    (sg.outNum + sg.inNum).toNat sg.entries 0 vq.freeHead vq.freeHead vq.desc hne
    (by rw [sg.total_toNat, Nat.zero_add]) (inv.taken_nodup hroom)
  rw [← hdescs] at hframe hpath
  have htotal : (sg.outNum + sg.inNum).toUInt16.toNat = sg.entries.length := by
    have := vq.numFree.toNat_lt
    rw [UInt32.toNat_toUInt16, sg.total_toNat]
    omega
  have hcount : (vq.numFree - (sg.outNum + sg.inNum).toUInt16).toNat =
      vq.numFree.toNat - sg.entries.length := by
    rw [UInt16.toNat_sub_of_le _ _ (by rw [UInt16.le_iff_toNat_le]; omega), htotal]
  refine inv.take hroom hdescs rfl rfl hcount hend hframe ?_ (hhead ▸ hpath) ?_ ?_
  · intro i hi
    rw [hhead] at hi
    simp [VirtIOGPU.addBufDirect, publishAvail, hi]
  · simp [VirtIOGPU.addBufDirect, publishAvail, hhead, hcookie]
  · simp [VirtIOGPU.addBufDirect, publishAvail, hhead]

/-- The indirect path takes one descriptor for the new request. -/
theorem DescInv.addBufIndirect {vq : Virtqueue} {outs : List Request} (inv : DescInv vq outs)
    (sg : SgArray) (cookie itbl itblPhys : UInt32) (hroom : 1 ≤ vq.numFree.toNat)
    {r : Request} (hhead : r.head = vq.freeHead) (hcookie : r.cookie = cookie)
    (hdescs : r.descs = [vq.freeHead.toNat]) :
    DescInv (VirtIOGPU.addBufIndirect vq sg.entries sg.outNum (sg.outNum + sg.inNum) cookie
      itbl itblPhys) (outs ++ [r]) := by
  have hcount : (vq.numFree - 1).toNat = vq.numFree.toNat - 1 := by
    rw [UInt16.toNat_sub_of_le _ _ (by rw [UInt16.le_iff_toNat_le]; simpa using hroom),
      UInt16.toNat_one]
  have hne : ∀ i, i ∉ r.descs → i ≠ vq.freeHead.toNat := by
    intro i hi
    simpa [hdescs] using hi
  refine inv.take hroom hdescs rfl rfl hcount rfl ?_ ?_ ?_ ?_ ?_
  · intro i hi
    simp [VirtIOGPU.addBufIndirect, publishAvail, hne i hi]
  · intro i hi
    rw [hhead] at hi
    simp [VirtIOGPU.addBufIndirect, publishAvail, hi]
  · rw [hhead, hdescs]
    refine .last ?_
    simp only [chainNext, VirtIOGPU.addBufIndirect, publishAvail, Function.update_self, vr16_vr16]
    rfl
  · simp [VirtIOGPU.addBufIndirect, publishAvail, hhead, hcookie]
  · intro _
    rw [hdescs, hhead]

/-- `VirtQueue_AddBuf` changes nothing, or it takes descriptors for a new request and
publishes its head. -/
theorem DescInv.add_cases {s : Queue} (inv : DescInv s.vq s.outstanding) (sg : SgArray)
    (cookie : UInt32) (env : ItblEnv) :
    let rc := (virtQueueAddBuf s.vq sg.entries sg.outNum sg.inNum cookie env).rc
    (rc ≠ 0 ∧ s.add sg cookie env = s) ∨
      ∃ (r : Request) (vq : Virtqueue), rc = 0 ∧
        r.head = s.vq.freeHead ∧ r.cookie = cookie ∧ r.serial = s.added ∧ r.sg = sg ∧
        1 ≤ s.vq.numFree.toNat ∧ DescInv (publishAvail vq r.head) (s.outstanding ++ [r]) ∧
        (vq.num = s.vq.num ∧ vq.modern = s.vq.modern ∧ vq.avail = s.vq.avail ∧
          vq.used = s.vq.used ∧ vq.lastUsedIdx = s.vq.lastUsedIdx) ∧
        s.add sg cookie env =
          { s with
            vq := publishAvail vq r.head
            outstanding := s.outstanding ++ [r]
            added := s.added + 1 } := by
  intro rc
  rcases addBuf_cases s.vq sg cookie env with ⟨hrc, hvq⟩ | ⟨hrc, -, -, hroom, hitbl, hvq⟩ |
    ⟨hrc, hroom, hvq⟩
  · refine Or.inl ⟨by simp only [rc, hrc]; decide, ?_⟩
    simp only [Queue.add, hrc, hvq]
    rfl
  · -- with a table: one descriptor
    have hdescs : (addedRequest s.vq (virtQueueAddBuf s.vq sg.entries sg.outNum sg.inNum cookie env)
        s.added sg cookie).descs = [s.vq.freeHead.toNat] := by
      simp [addedRequest, hvq, VirtIOGPU.addBufIndirect, publishAvail, hitbl]
    refine Or.inr ⟨addedRequest _ _ _ sg cookie, _, hrc, rfl, rfl, rfl, rfl, hroom,
      inv.addBufIndirect sg cookie env.itbl env.itblPhys hroom rfl rfl hdescs,
      ⟨rfl, rfl, rfl, rfl, rfl⟩, ?_⟩
    simp only [Queue.add, hrc, hvq, if_true]
    rfl
  · have hdescs : (addedRequest s.vq (virtQueueAddBuf s.vq sg.entries sg.outNum sg.inNum cookie env)
        s.added sg cookie).descs =
          List.iterate (descLink s.vq.desc) s.vq.freeHead.toNat sg.entries.length := by
      simp [addedRequest, hvq, VirtIOGPU.addBufDirect, publishAvail]
    refine Or.inr ⟨addedRequest _ _ _ sg cookie, _, hrc, rfl, rfl, rfl, rfl,
      le_trans sg.nonempty hroom, inv.addBufDirect sg cookie hroom rfl rfl hdescs,
      ⟨rfl, rfl, rfl, rfl, rfl⟩, ?_⟩
    simp only [Queue.add, hrc, hvq, if_true]
    rfl

theorem DescInv.add {s : Queue} (inv : DescInv s.vq s.outstanding) (sg : SgArray)
    (cookie : UInt32) (env : ItblEnv) :
    DescInv (s.add sg cookie env).vq (s.add sg cookie env).outstanding := by
  rcases inv.add_cases sg cookie env with ⟨-, hsame⟩ | ⟨r, vq, -, -, -, -, -, -, inv', -, hadd⟩
  · rwa [hsame]
  · rwa [hadd]

/-! ## Consuming a used entry -/

theorem toUInt32_injective : Function.Injective UInt16.toUInt32 := fun a b h => by
  have h' := congrArg UInt32.toNat h
  rw [UInt16.toNat_toUInt32, UInt16.toNat_toUInt32] at h'
  exact UInt16.toNat_inj.mp h'

/-- Dropping a request by its head removes it and nothing else. -/
theorem DescInv.perm_dropRequest {vq : Virtqueue} {outs : List Request} (inv : DescInv vq outs)
    {r : Request} (hr : r ∈ outs) :
    outs.Perm (r :: dropRequest outs r.head.toUInt32) := by
  have hnodup : (outs.map fun q => q.head.toUInt32).Nodup := by
    have h := inv.heads_nodup.map toUInt32_injective
    rwa [List.map_map] at h
  exact Lib.Keyed.perm_cons_filter hnodup hr

/-- Releasing the descriptors of an outstanding request. -/
theorem DescInv.releaseRequest_spec {vq : Virtqueue} {outs : List Request} (inv : DescInv vq outs)
    {r : Request} (hr : r ∈ outs) :
    let released := releaseRequest vq r.head.toUInt32
    (∀ i, i ∉ r.descs → released.1.1 i = vq.desc i) ∧
      List.iterate (descLink released.1.1) released.1.2.1.toNat
        (r.descs.length + vq.numFree.toNat) = r.descs.reverse ++ freeDescs vq ∧
      released.1.2.2 = UInt32.ofNat r.descs.length := by
  have hid : r.head.toUInt32.toUInt16 = r.head := UInt16.toUInt16_toUInt32 r.head
  have hnodup : (r.descs ++ freeDescs vq).Nodup := by
    rw [List.nodup_append']
    exact ⟨inv.descs_nodup hr, inv.free_nodup, fun i hi => inv.not_mem_free hr hi⟩
  simp only [releaseRequest, hid, UInt16.toNat_toUInt32]
  split
  · rename_i htable
    have hdescs := inv.table r hr htable
    rw [hdescs] at hnodup ⊢
    refine ⟨fun i hi => releaseDesc_of_ne (by simpa using hi), ?_, rfl⟩
    rw [List.singleton_append, List.nodup_cons] at hnodup
    rw [List.length_singleton, Nat.add_comm 1, descLink_releaseDesc, iterate_push hnodup.1]
    rfl
  · have hfuel : r.descs.length ≤ releaseFuel := by
      have := inv.descs_length_le hr
      have := inv.num_le
      unfold releaseFuel
      omega
    have h := releaseChain_spec vq.modern releaseFuel r.head vq.freeHead vq.desc 0
      vq.numFree.toNat hfuel (inv.path r hr) hnodup
    rwa [UInt32.zero_add] at h

/-- What `VirtQueue_GetBuf` gives and leaves when the used entry names an outstanding request. -/
theorem DescInv.getBuf_spec {vq : Virtqueue} {outs : List Request} (inv : DescInv vq outs)
    {r : Request} (hr : r ∈ outs) {entry : VringUsedElem} (hentry : usedEntry vq = some entry)
    (hid : entry.id = r.head.toUInt32) :
    let res := virtQueueGetBuf vq
    res.cookie = r.cookie ∧ res.lenOut = some entry.len ∧
      (∀ i, i ∉ r.descs → res.vq.desc i = vq.desc i) ∧
      freeDescs res.vq = r.descs.reverse ++ freeDescs vq ∧
      DescInv res.vq (dropRequest outs entry.id) := by
  -- the id that the device has put into the ring is a head of the driver
  have hlt : ¬ vq.num ≤ entry.id := by
    have := inv.head_lt hr
    rw [hid, UInt32.le_iff_toNat_le, UInt16.toNat_toUInt32]
    omega
  have hhead : entry.id.toNat = r.head.toNat := by rw [hid, UInt16.toNat_toUInt32]
  obtain ⟨hframe, hlist, hfreed⟩ := inv.releaseRequest_spec hr
  simp only [virtQueueGetBuf, hentry, hlt, if_false, hhead]
  rw [← hid] at hframe hlist hfreed
  -- the counter of the free descriptors does not wrap around
  have hcount : (vq.numFree + (releaseRequest vq entry.id).1.2.2.toUInt16).toNat =
      r.descs.length + vq.numFree.toNat := by
    have := inv.descs_length_le hr
    have := inv.num_le
    rw [UInt16.toNat_add, hfreed, UInt32.toNat_toUInt16, UInt32.toNat_ofNat']
    omega
  -- the requests that stay keep their descriptors, heads and cookies
  have hperm := inv.perm_dropRequest hr
  have inv' := inv.perm hperm
  rw [← hid] at hperm inv'
  have hstay : ∀ q ∈ dropRequest outs entry.id, ∀ i ∈ q.descs, i ∉ r.descs := by
    intro q hq i hi hmem
    have hnodup := inv'.nodup
    rw [List.flatMap_cons] at hnodup
    exact List.disjoint_of_nodup_append (List.nodup_append.mp hnodup).2.1 hmem
      (List.mem_flatMap.mpr ⟨q, hq, hi⟩)
  have hstay_head : ∀ q ∈ dropRequest outs entry.id, q.head.toNat ≠ r.head.toNat :=
    fun q hq heq => hstay q hq _ (inv'.head_mem (List.mem_cons_of_mem _ hq))
      (heq ▸ inv.head_mem hr)
  have hfree : List.iterate (descLink (releaseRequest vq entry.id).1.1)
      (releaseRequest vq entry.id).1.2.1.toNat
      (vq.numFree + (releaseRequest vq entry.id).1.2.2.toUInt16).toNat =
        r.descs.reverse ++ freeDescs vq := by
    rw [hcount, hlist]
  refine ⟨inv.cookie r hr, trivial, hframe, hfree, ?_⟩
  refine ⟨inv.num_le, ?_, ?_, ?_, ?_⟩
  · have hreleased : r.descs.reverse ++ freeDescs vq ~ freeDescs vq ++ r.descs :=
      ((List.reverse_perm r.descs).append_right _).trans List.perm_append_comm
    calc _ = (r.descs.reverse ++ freeDescs vq) ++
          (dropRequest outs entry.id).flatMap Request.descs := by rw [← hfree]; rfl
      _ ~ (freeDescs vq ++ r.descs) ++ (dropRequest outs entry.id).flatMap Request.descs :=
          hreleased.append_right _
      _ = freeDescs vq ++ (r :: dropRequest outs entry.id).flatMap Request.descs := by
          rw [List.flatMap_cons, List.append_assoc]
      _ ~ List.range vq.num.toNat := inv'.partition
  · intro q hq
    refine (inv'.path q (List.mem_cons_of_mem _ hq)).congr fun i hi => ?_
    simp only [chainNext, hframe i (hstay q hq i hi)]
  · intro q hq
    simp only [Function.update_of_ne (hstay_head q hq)]
    exact inv'.cookie q (List.mem_cons_of_mem _ hq)
  · intro q hq
    simp only [Function.update_of_ne (hstay_head q hq)]
    exact inv'.table q (List.mem_cons_of_mem _ hq)

/-- An id beyond the descriptor count is skipped. -/
theorem getBuf_of_num_le {vq : Virtqueue} {entry : VringUsedElem}
    (hentry : usedEntry vq = some entry) (hid : vq.num ≤ entry.id) :
    virtQueueGetBuf vq = ⟨{ vq with lastUsedIdx := vq.lastUsedIdx + 1 }, 0, none, []⟩ := by
  simp [virtQueueGetBuf, hentry, hid]

theorem getBuf_of_none {vq : Virtqueue} (hentry : usedEntry vq = none) :
    virtQueueGetBuf vq = ⟨vq, 0, none, []⟩ := by
  simp [virtQueueGetBuf, hentry]

/-- Without a new entry `VirtQueue_GetBuf` changes nothing. -/
theorem Queue.get_of_none {s : Queue} (hentry : usedEntry s.vq = none) : s.get = s := by
  simp [Queue.get, hentry, getBuf_of_none]

end VirtIOGPU
