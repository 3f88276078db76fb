import VirtIOGPU.Virtqueue.Runs

/-!
# What the device sees of a request

The direct path and the indirect path encode the same scatter-gather array; the
device decodes both by the same rules.

* `direct_chain_visible`: after the direct path the device reads exactly the
  buffers of the array, and every other outstanding request looks as before.
* `indirect_chain_truncated`: after the indirect path it reads only the first
  one, because no entry of the table carries `NEXT`.

## Strategy

What the device reads depends on the descriptors along the chain and on the table of an
`INDIRECT` one, so a request looks as before as long as neither has changed
(`DescInv.deviceChain_congr`).  For the new one, `addBufLoop_spec` has resolved the chain already.

The flags of a table entry are `WRITE` or nothing, never `NEXT` (`deviceNext_itblEntry`), hence
the walk through the table ends at entry 0 for every array (`walk_itblEntry`).  For an array of a
single buffer that is no difference; from two buffers on it is one (`indirect_chain_truncated`).
-/

namespace VirtIOGPU

open Lib Lib.Links

/-! ## Chains of outstanding requests -/

theorem DescInv.deviceChain_eq {vq : Virtqueue} {outs : List Request} (inv : DescInv vq outs)
    {r : Request} (hr : r ∈ outs) :
    deviceChain vq r.head =
      r.descs.flatMap fun i => deviceResolve vq.modern vq.itblMem (vq.desc i) := by
  rw [deviceChain, deviceNext_eq_chainNext, ← inv.chainDescs_eq hr]
  rfl

/-- What the device sees of a request depends on the request's descriptors and on the
indirect tables. -/
theorem DescInv.deviceChain_congr {vq vq' : Virtqueue} {outs : List Request} (inv : DescInv vq outs)
    {r : Request} (hr : r ∈ outs) (hnum : vq'.num = vq.num) (hmodern : vq'.modern = vq.modern)
    (hitbl : vq'.itblMem = vq.itblMem) (hdesc : ∀ i ∈ r.descs, vq'.desc i = vq.desc i) :
    deviceChain vq' r.head = deviceChain vq r.head := by
  have hpath : Path (chainNext vq.modern vq'.desc) r.head.toNat r.descs :=
    (inv.path r hr).congr fun i hi => by rw [chainNext, chainNext, hdesc i hi]
  have hlength := inv.descs_length_le hr
  rw [inv.deviceChain_eq hr, deviceChain, deviceNext_eq_chainNext, hmodern, hnum, hitbl,
    hpath.walk_eq (by omega)]
  exact List.flatMap_congr fun i hi => by rw [hdesc i hi]

/-! ## The direct path -/

/-- The buffers that a scatter-gather array stands for. -/
def SgArray.buffers (sg : SgArray) : List DeviceBuffer :=
  sg.entries.mapIdx fun n entry => sgBuffer sg.outNum.toNat n entry

theorem DescInv.deviceChain_addBufDirect {vq : Virtqueue} {outs : List Request}
    (inv : DescInv vq outs) (sg : SgArray) (cookie : UInt32)
    (hroom : sg.entries.length ≤ vq.numFree.toNat) :
    let res := VirtIOGPU.addBufDirect vq sg.entries sg.outNum (sg.outNum + sg.inNum) cookie
    deviceChain res vq.freeHead = sg.buffers ∧
      ∀ r ∈ outs, deviceChain res r.head = deviceChain vq r.head := by
  intro res
  have hnum := inv.numFree_le
  have htaken := inv.taken_nodup hroom
  obtain ⟨hframe, -, hpath, hbuffers⟩ := addBufLoop_spec vq.modern vq.itblMem sg.outNum.toNat
    (sg.outNum + sg.inNum).toNat sg.entries 0 vq.freeHead vq.freeHead vq.desc
    (List.ne_nil_of_length_pos sg.nonempty) (by rw [sg.total_toNat, Nat.zero_add]) htaken
  refine ⟨?_, fun r hr => ?_⟩
  · have hfits : (List.iterate (descLink vq.desc) vq.freeHead.toNat sg.entries.length).length ≤
        vq.num.toNat + 1 := by
      rw [List.length_iterate]
      omega
    have hwalk := hpath.walk_eq hfits
    simp only [deviceChain, res, VirtIOGPU.addBufDirect, publishAvail, deviceNext_eq_chainNext,
      hwalk, hbuffers, Nat.zero_add, SgArray.buffers]
  · exact inv.deviceChain_congr hr rfl rfl rfl fun i hi =>
      hframe i (inv.not_mem_taken hroom hr hi)

section

variable {queueSize : UInt32} {modern useEventIdx useIndirect : Bool} {s : Queue}

/-- After a request went through the direct path, the device finds its head in the slot
just published, sees its buffers under that head, and sees every other outstanding
request as before. -/
theorem direct_chain_visible (hsize : ValidQueueSize queueSize)
    (h : s.ReachableFrom queueSize modern useEventIdx useIndirect) (sg : SgArray)
    (cookie : UInt32) (env : ItblEnv)
    (hrc : (virtQueueAddBuf s.vq sg.entries sg.outNum sg.inNum cookie env).rc = 0)
    (hdirect : (virtQueueAddBuf s.vq sg.entries sg.outNum sg.inNum cookie env).vq.indirectTables
      s.vq.freeHead.toNat = 0) :
    let vq := (virtQueueAddBuf s.vq sg.entries sg.outNum sg.inNum cookie env).vq
    let availIdx := deviceRead16 modern s.vq.avail.idx
    let head := deviceRead16 modern (vq.avail.ring (availIdx.toNat % queueSize.toNat))
    deviceRead16 modern vq.avail.idx = availIdx + 1 ∧
      deviceChain vq head = sg.buffers ∧
      ∀ r ∈ s.outstanding, deviceChain vq r.head = deviceChain s.vq r.head := by
  obtain ⟨-, x, -, inv⟩ := h.exists_inv hsize
  obtain ⟨hnum, hmodern, -⟩ := h.config
  rcases addBuf_cases s.vq sg cookie env with ⟨hfail, -⟩ | ⟨-, -, -, -, hitbl, hvq⟩ |
    ⟨-, hroom, hvq⟩
  · rw [hfail] at hrc
    exact absurd hrc (by decide)
  · -- the indirect path leaves the table's address behind
    rw [hvq] at hdirect
    exact absurd hdirect (by simpa [addBufIndirect, publishAvail] using hitbl)
  · obtain ⟨hchain, hothers⟩ := inv.desc.deviceChain_addBufDirect sg cookie hroom
    have hslot : (addBufDirect s.vq sg.entries sg.outNum (sg.outNum + sg.inNum) cookie).avail.ring
        (availSlot s.vq) = vr16 s.vq.modern s.vq.freeHead := Function.update_self ..
    simp only [hvq, ← hnum, ← hmodern, deviceRead16_eq]
    rw [availSlot] at hslot
    rw [hslot, vr16_vr16]
    exact ⟨vr16_vr16 _ _, hchain, hothers⟩

/-- A third request on top of two outstanding ones: the last free descriptor. -/
theorem direct_chain_visible_third :
    let sg : SgArray := ⟨[⟨12288, 64⟩], 0, 1, rfl, by decide, by decide⟩
    let vq := (virtQueueAddBuf twoRequests.vq sg.entries sg.outNum sg.inNum 11 ⟨0, 0, 0, 0⟩).vq
    let head := deviceRead16 true (vq.avail.ring 2)
    head = 3 ∧ deviceChain vq head = [⟨12288, 64, true⟩] ∧
      ∀ r ∈ twoRequests.outstanding, deviceChain vq r.head = deviceChain twoRequests.vq r.head :=
  ⟨rfl, (direct_chain_visible validQueueSize_four twoRequests_reachable
    ⟨[⟨12288, 64⟩], 0, 1, rfl, by decide, by decide⟩ 11 ⟨0, 0, 0, 0⟩ rfl rfl).2⟩

/-! ## The indirect path -/

/-- No entry of an indirect table carries `NEXT`. -/
theorem deviceNext_itblEntry {modern : Bool} {outNum n : ℕ} {entry : VringSg}
    {table : ℕ → VringDesc} {i : ℕ} (h : table i = itblEntry modern outNum n entry) :
    deviceNext modern table i = none := by
  have hflags : (if outNum ≤ n then vringDescFWrite else 0) &&& vringDescFNext = 0 := by
    split <;> decide
  simp [deviceNext, deviceFlag, h, itblEntry, hflags]

theorem deviceBuffer_itblEntry (modern : Bool) (outNum n : ℕ) (entry : VringSg) :
    deviceBuffer modern (itblEntry modern outNum n entry) = sgBuffer outNum n entry := by
  have hflags : (if outNum ≤ n then vringDescFWrite else 0) &&& vringDescFWrite = 0 ↔
      ¬ outNum ≤ n := by
    split
    · rename_i h
      exact ⟨fun h => absurd h (by decide), fun hn => absurd h hn⟩
    · rename_i h
      exact ⟨fun _ => h, fun _ => by decide⟩
  simp [deviceBuffer, deviceFlag, itblEntry, sgBuffer, hflags]

/-- A table whose entry 0 carries no `NEXT` shows entry 0 only. -/
theorem walk_itblEntry {modern : Bool} {outNum n : ℕ} {entry : VringSg} {table : ℕ → VringDesc}
    {count : ℕ} (h : table 0 = itblEntry modern outNum n entry) (hcount : 0 < count) :
    (walk (deviceNext modern table) count 0).map (fun i => deviceBuffer modern (table i)) =
      [sgBuffer outNum n entry] := by
  obtain ⟨count, rfl⟩ := Nat.exists_eq_add_one.mpr hcount
  simp only [walk, deviceNext_itblEntry h, List.map_cons, List.map_nil, h, deviceBuffer_itblEntry]

/-- After the indirect path the device obtains the first buffer and no other. -/
theorem deviceChain_addBufIndirect (vq : Virtqueue) (sg : SgArray) (cookie itbl itblPhys : UInt32) :
    deviceChain (addBufIndirect vq sg.entries sg.outNum (sg.outNum + sg.inNum) cookie itbl itblPhys)
      vq.freeHead = sg.buffers.take 1 := by
  obtain ⟨first, rest, hentries⟩ := List.exists_cons_of_length_pos sg.nonempty
  have hcount : 0 < (itblSize (sg.outNum + sg.inNum)).toNat / 16 := by
    have hsize := sg.size_lt
    have hpos := sg.nonempty
    rw [itblSize, UInt32.toNat_mul, sg.total_toNat]
    simp only [UInt32.toNat_ofNat]
    omega
  have hlast : vringDescFIndirect &&& vringDescFNext = 0 := by decide
  have hindirect : ¬ vringDescFIndirect = 0 := by decide
  simp only [deviceChain, addBufIndirect, publishAvail, walk, deviceNext, deviceFlag,
    deviceRead16_eq, Function.update_self, vr16_vr16, hlast, ne_eq, not_true_eq_false, decide_false,
    Bool.false_eq_true, if_false, List.flatMap_cons, List.flatMap_nil, List.append_nil,
    deviceResolve, UInt16.and_self, hindirect, not_false_eq_true, decide_true, if_true, deviceTable,
    deviceRead64_eq, deviceRead32_eq, vr64_vr64, vr32_vr32, UInt32.toUInt32_toUInt64]
  have hentry : (sg.entries.mapIdx fun n entry =>
      itblEntry vq.modern sg.outNum.toNat n entry).getD 0 {} =
        itblEntry vq.modern sg.outNum.toNat 0 first := by
    simp [hentries]
  rw [walk_itblEntry hentry hcount, SgArray.buffers, hentries, List.mapIdx_cons]
  rfl

/-- A request that `VirtQueue_AddBuf` publishes through an indirect table never looks to
the device as it would through the direct path. -/
theorem indirect_chain_truncated (hsize : ValidQueueSize queueSize)
    (h : s.ReachableFrom queueSize modern useEventIdx true) (sg : SgArray)
    (htwo : 2 ≤ sg.entries.length) (cookie : UInt32) (env : ItblEnv)
    (hrc : (virtQueueAddBuf s.vq sg.entries sg.outNum sg.inNum cookie env).rc = 0)
    (hindirect : (virtQueueAddBuf s.vq sg.entries sg.outNum sg.inNum cookie env).vq.indirectTables
      s.vq.freeHead.toNat ≠ 0) :
    let seen := deviceChain (virtQueueAddBuf s.vq sg.entries sg.outNum sg.inNum cookie env).vq
      s.vq.freeHead
    seen = sg.buffers.take 1 ∧ seen ≠ sg.buffers ∧
      (sg.entries.length ≤ s.vq.numFree.toNat →
        seen ≠ deviceChain (addBufDirect s.vq sg.entries sg.outNum (sg.outNum + sg.inNum) cookie)
          s.vq.freeHead) := by
  obtain ⟨-, x, -, inv⟩ := h.exists_inv hsize
  have hshort : sg.buffers.take 1 ≠ sg.buffers := by
    intro heq
    have hlength := congrArg List.length heq
    simp only [SgArray.buffers, List.length_take, List.length_mapIdx] at hlength
    omega
  rcases addBuf_cases s.vq sg cookie env with ⟨hfail, -⟩ | ⟨-, -, -, -, -, hvq⟩ | ⟨-, -, hvq⟩
  · rw [hfail] at hrc
    exact absurd hrc (by decide)
  · intro seen
    have hseen : seen = sg.buffers.take 1 := by
      simp only [seen, hvq]
      exact deviceChain_addBufIndirect s.vq sg cookie env.itbl env.itblPhys
    refine ⟨hseen, hseen ▸ hshort, fun hroom => ?_⟩
    rw [hseen, (inv.desc.deviceChain_addBufDirect sg cookie hroom).1]
    exact hshort
  · rw [hvq] at hindirect
    exact absurd (Function.update_self ..) hindirect

/-- The two paths give the device different buffers for one and the same request. -/
theorem indirect_differs_from_direct :
    let vq := (Queue.initial 4 true false true).vq
    let sg : SgArray := ⟨[⟨4096, 24⟩, ⟨8192, 24⟩], 1, 1, rfl, by decide, by decide⟩
    let res := virtQueueAddBuf vq sg.entries sg.outNum sg.inNum 7 ⟨65536, 1, 131072, 12288⟩
    res.rc = 0 ∧ res.vq.indirectTables 0 = 65536 ∧
      deviceChain res.vq 0 = [⟨4096, 24, false⟩] ∧
      deviceChain (addBufDirect vq sg.entries sg.outNum 2 7) 0 =
        [⟨4096, 24, false⟩, ⟨8192, 24, true⟩] :=
  ⟨rfl, rfl, rfl, rfl⟩

/-- A command and its response on a fresh queue, with a table at physical address 12288. -/
theorem indirect_chain_truncated_fresh :
    let s := Queue.initial 4 true false true
    let sg : SgArray := ⟨[⟨4096, 24⟩, ⟨8192, 24⟩], 1, 1, rfl, by decide, by decide⟩
    let seen := deviceChain (virtQueueAddBuf s.vq sg.entries sg.outNum sg.inNum 7
      ⟨65536, 1, 131072, 12288⟩).vq s.vq.freeHead
    seen = [⟨4096, 24, false⟩] ∧ seen ≠ sg.buffers :=
  ⟨rfl, (indirect_chain_truncated (s := Queue.initial 4 true false true)
    validQueueSize_four ⟨[], rfl⟩ ⟨[⟨4096, 24⟩, ⟨8192, 24⟩], 1, 1, rfl, by decide, by decide⟩
    (by decide) 7 ⟨65536, 1, 131072, 12288⟩ rfl (by decide)).2.1⟩

end

end VirtIOGPU
