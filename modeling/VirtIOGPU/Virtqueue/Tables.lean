import VirtIOGPU.Lib.Ledger
import VirtIOGPU.Virtqueue.Runs

/-!
# The indirect tables

`VirtQueue_AddBuf` allocates a table and maps it for DMA, and `VirtQueue_GetBuf` releases both
when the request comes back.  In between, `indirect_tables` and the length of the head descriptor
are all that is known about them.

exec.library keeps a ledger of what it has handed out.  It holds the tables and mappings of the
outstanding requests, each once (`Serviced.TablesHeld`): so nothing leaks and nothing is released
twice, and a call that fails leaves no trace.

## Strategy

`addBuf_added` lists what one call of `VirtQueue_AddBuf` asks of exec.library, by outcome, and a
step of queue and ledger together is one of four (`TableStep`).

```text
call                            exec.library                          ledger
AddBuf without a table          nothing, or a table that is given     stays
                                back in the same call
AddBuf with a table             a table and its mapping               both are added
GetBuf of a head with a table   both are released                     both are taken out
any other action                nothing                               stays
```

From each step `TablesHeld` follows by what it does to the ledger; that the released table is the
one of the request is `tableOf_le`, since the queue has kept its address under the head.
-/

namespace VirtIOGPU

open Lib

inductive ItblResource where
  | table (mem : UInt32)
  | mapping (mem size : UInt32)
  | dmaList (list : UInt32)
  deriving DecidableEq

/-- The call, as exec.library keeps the books. -/
def ExecCall.perform (l : Ledger ItblResource) : ExecCall → Ledger ItblResource
  | .allocVec mem => if mem = 0 then l else l.acquire (.table mem)
  | .startDMA mem size entries => if entries = 0 then l else l.acquire (.mapping mem size)
  | .allocDmaList list => if list = 0 then l else l.acquire (.dmaList list)
  | .getDmaList _ _ => l
  | .freeDmaList list => l.release (.dmaList list)
  | .endDMA mem size => l.release (.mapping mem size)
  | .freeVec mem => l.release (.table mem)

def performCalls (calls : List ExecCall) (l : Ledger ItblResource) : Ledger ItblResource :=
  calls.foldl ExecCall.perform l

/-- A table and its mapping. -/
def tableAndMapping (mem size : UInt32) : Multiset ItblResource :=
  {.mapping mem size} + {.table mem}

/-- What the queue holds for an outstanding request. -/
def Virtqueue.tableOf (vq : Virtqueue) (r : Request) : Multiset ItblResource :=
  if vq.indirectTables r.head.toNat ≠ 0 then
    tableAndMapping (vq.indirectTables r.head.toNat) (vr32 vq.modern (vq.desc r.head.toNat).len)
  else 0

/-! ## The calls of `VirtQueue_AddBuf` -/

/-- An attempt that fails gives back what it was given. -/
theorem mapItbl_none {env : ItblEnv} {total : UInt32} {calls : List ExecCall}
    (h : mapItbl env total = (none, calls)) (l : Ledger ItblResource) :
    performCalls calls l = l := by
  unfold mapItbl at h
  split at h
  · obtain ⟨-, rfl⟩ := Prod.mk.inj h
    rfl
  · next hitbl =>
      split at h
      · obtain ⟨-, rfl⟩ := Prod.mk.inj h
        simp [performCalls, ExecCall.perform, hitbl]
      · next hentries =>
          split at h
          · obtain ⟨-, rfl⟩ := Prod.mk.inj h
            simp [performCalls, ExecCall.perform, hitbl, hentries]
          · cases h

/-- One that succeeds keeps the table and its mapping. -/
theorem mapItbl_kept {env : ItblEnv} {total phys : UInt32} {calls : List ExecCall}
    (h : mapItbl env total = (some phys, calls)) (l : Ledger ItblResource) :
    performCalls calls l =
      (l.acquire (.table env.itbl)).acquire (.mapping env.itbl (itblSize total)) := by
  unfold mapItbl at h
  split at h
  · cases h
  · next hitbl =>
      split at h
      · cases h
      · next hentries =>
          split at h
          · cases h
          · next hdma =>
              obtain ⟨-, rfl⟩ := Prod.mk.inj h
              simp [performCalls, ExecCall.perform, hitbl, hentries, hdma]

/-- What a call does to the queue and to the ledger. -/
inductive BufAdded (vq : Virtqueue) (sg : List VringSg) (outNum total cookie : UInt32)
    (env : ItblEnv) : AddBufResult → Prop where
  | failed {calls : List ExecCall} (hcalls : ∀ l, performCalls calls l = l) :
      BufAdded vq sg outNum total cookie env ⟨-1, vq, calls⟩
  | indirect {calls : List ExecCall} (hitbl : env.itbl ≠ 0)
      (hcalls : ∀ l, performCalls calls l =
        (l.acquire (.table env.itbl)).acquire (.mapping env.itbl (itblSize total))) :
      BufAdded vq sg outNum total cookie env
        ⟨0, addBufIndirect vq sg outNum total cookie env.itbl env.itblPhys, calls⟩
  | direct {calls : List ExecCall} (hcalls : ∀ l, performCalls calls l = l) :
      BufAdded vq sg outNum total cookie env ⟨0, addBufDirect vq sg outNum total cookie, calls⟩

theorem addBuf_added (vq : Virtqueue) (sg : List VringSg) (outNum inNum cookie : UInt32)
    (env : ItblEnv) :
    BufAdded vq sg outNum (outNum + inNum) cookie env
      (virtQueueAddBuf vq sg outNum inNum cookie env) := by
  have hnone : ∀ l, performCalls [] l = l := fun _ => rfl
  unfold virtQueueAddBuf
  dsimp only
  generalize (vq.useIndirect && decide (1 < outNum + inNum)) = indirect
  cases indirect with
  | false =>
      simp only [Bool.false_eq_true, if_false]
      split
      · exact .failed hnone
      · exact .direct hnone
  | true =>
      simp only [if_true]
      split
      · exact .failed hnone
      split
      · next hmap =>
          obtain ⟨hitbl, rfl⟩ := mapItbl_some hmap
          exact .indirect hitbl (mapItbl_kept hmap)
      · next hmap =>
          split
          · exact .failed (mapItbl_none hmap)
          · exact .direct (mapItbl_none hmap)

/-- A call that fails changes nothing, in the queue or in the ledger. -/
theorem addBuf_failed {vq : Virtqueue} {sg : List VringSg} {outNum inNum cookie : UInt32}
    {env : ItblEnv} (hrc : (virtQueueAddBuf vq sg outNum inNum cookie env).rc = -1) :
    (virtQueueAddBuf vq sg outNum inNum cookie env).vq = vq ∧
      ∀ l, performCalls (virtQueueAddBuf vq sg outNum inNum cookie env).calls l = l := by
  have hadded := addBuf_added vq sg outNum inNum cookie env
  generalize virtQueueAddBuf vq sg outNum inNum cookie env = res at hadded hrc
  cases hadded with
  | failed hcalls => exact ⟨rfl, hcalls⟩
  | indirect | direct =>
      have hne : (0 : Int) ≠ -1 := by decide
      exact absurd hrc hne

/-! ## What stays in the queue -/

theorem tableOf_congr {vq vq' : Virtqueue} {r : Request} (hmodern : vq'.modern = vq.modern)
    (hdesc : vq'.desc r.head.toNat = vq.desc r.head.toNat)
    (htable : vq'.indirectTables r.head.toNat = vq.indirectTables r.head.toNat) :
    vq'.tableOf r = vq.tableOf r := by
  unfold Virtqueue.tableOf
  rw [hmodern, hdesc, htable]

/-- A new request leaves the tables of the others alone. -/
theorem DescInv.tableOf_add {vq : Virtqueue} {outs : List Request} (inv : DescInv vq outs)
    (sg : SgArray) (cookie : UInt32) (env : ItblEnv) {r : Request} (hr : r ∈ outs) :
    (virtQueueAddBuf vq sg.entries sg.outNum sg.inNum cookie env).vq.tableOf r =
      vq.tableOf r := by
  have hmem := inv.head_mem hr
  have hother {count : ℕ} (hcount : count ≤ vq.numFree.toNat) (hpos : 1 ≤ count) :
      r.head.toNat ≠ vq.freeHead.toNat := by
    intro heq
    apply inv.not_mem_taken hcount hr hmem
    rw [heq]
    obtain ⟨count, rfl⟩ := Nat.exists_eq_add_of_le' hpos
    exact List.mem_cons_self ..
  rcases addBuf_cases vq sg cookie env with ⟨-, hvq⟩ | ⟨-, -, -, hroom, -, hvq⟩ | ⟨-, hroom, hvq⟩
  · rw [hvq]
  · have hne := hother hroom le_rfl
    rw [hvq]
    exact tableOf_congr rfl (Function.update_of_ne hne _ _) (Function.update_of_ne hne _ _)
  · obtain ⟨hframe, -⟩ := addBufLoop_spec vq.modern (fun _ => []) sg.outNum.toNat
      (sg.outNum + sg.inNum).toNat sg.entries 0 vq.freeHead vq.freeHead vq.desc
      (List.ne_nil_of_length_pos sg.nonempty) (by rw [sg.total_toNat, Nat.zero_add])
      (inv.taken_nodup hroom)
    have hne := hother hroom sg.nonempty
    rw [hvq]
    exact tableOf_congr rfl (hframe _ (inv.not_mem_taken hroom hr hmem))
      (Function.update_of_ne hne _ _)

/-- So does the release of another request. -/
theorem DescInv.tableOf_get {vq : Virtqueue} {outs : List Request} (inv : DescInv vq outs)
    {r q : Request} (hr : r ∈ outs) {entry : VringUsedElem} (hentry : usedEntry vq = some entry)
    (hid : entry.id = r.head.toUInt32) (hq : q ∈ dropRequest outs entry.id) :
    (virtQueueGetBuf vq).vq.tableOf q = vq.tableOf q := by
  obtain ⟨-, -, hframe, -, inv'⟩ := inv.getBuf_spec hr hentry hid
  have hperm := inv.perm (hid ▸ inv.perm_dropRequest hr)
  have hapart : q.head.toNat ∉ r.descs := by
    intro hmem
    have hnodup := hperm.nodup
    rw [List.flatMap_cons] at hnodup
    exact List.disjoint_of_nodup_append (List.nodup_append.mp hnodup).2.1 hmem
      (List.mem_flatMap.mpr ⟨q, hq, hperm.head_mem (List.mem_cons_of_mem _ hq)⟩)
  have hne : q.head.toNat ≠ entry.id.toNat := by
    rw [hid, UInt16.toNat_toUInt32]
    exact fun heq => hapart (heq ▸ inv.head_mem hr)
  have hlt : ¬ vq.num ≤ entry.id := by
    have := inv.head_lt hr
    rw [hid, UInt32.le_iff_toNat_le, UInt16.toNat_toUInt32]
    omega
  refine tableOf_congr (getBuf_config vq).2.1 (hframe _ hapart) ?_
  simp only [virtQueueGetBuf, hentry, hlt, if_false]
  exact Function.update_of_ne hne _ _

/-- The calls of `VirtQueue_GetBuf` release the table of the request that it consumes. -/
theorem getBuf_calls {vq : Virtqueue} {entry : VringUsedElem} {r : Request}
    (hentry : usedEntry vq = some entry) (hid : entry.id = r.head.toUInt32)
    (hlt : r.head.toNat < vq.num.toNat) :
    (virtQueueGetBuf vq).calls =
      if vq.indirectTables r.head.toNat ≠ 0 then
        [.endDMA (vq.indirectTables r.head.toNat) (vr32 vq.modern (vq.desc r.head.toNat).len),
          .freeVec (vq.indirectTables r.head.toNat)]
      else [] := by
  have hle : ¬ vq.num ≤ entry.id := by
    rw [hid, UInt32.le_iff_toNat_le, UInt16.toNat_toUInt32]
    omega
  simp only [virtQueueGetBuf, hentry, hle, if_false, releaseRequest]
  rw [hid, UInt16.toUInt16_toUInt32, UInt16.toNat_toUInt32]
  split <;> rfl

/-! ## Runs -/

/-- A queue, and what exec.library has handed out for it. -/
structure Serviced where
  queue : Queue
  exec : Ledger ItblResource

def Serviced.step (s : Serviced) : QueueAction → Option Serviced
  | .add sg cookie env =>
      let res := virtQueueAddBuf s.queue.vq sg.entries sg.outNum sg.inNum cookie env
      some { queue := s.queue.add sg cookie env, exec := performCalls res.calls s.exec }
  | .get =>
      some { queue := s.queue.get, exec := performCalls (virtQueueGetBuf s.queue.vq).calls s.exec }
  | .fetch => s.queue.fetch.map fun queue => { s with queue := queue }
  | .complete k len => (s.queue.complete k len).map fun queue => { s with queue := queue }

/-- What exec.library has handed out are the tables of the outstanding requests. -/
def Serviced.TablesHeld (s : Serviced) : Prop :=
  s.exec.Holds (s.queue.outstanding.map s.queue.vq.tableOf).sum

section

variable {s t : Serviced} {r : Request} {x : RequestExchange}

theorem Serviced.step_queue {action : QueueAction} (hstep : s.step action = some t) :
    s.queue.step action = some t.queue := by
  cases action with
  | add sg cookie env =>
      obtain rfl := Option.some.inj hstep
      rfl
  | get =>
      obtain rfl := Option.some.inj hstep
      rfl
  | fetch =>
      obtain ⟨queue, hqueue, rfl⟩ := Option.map_eq_some_iff.mp hstep
      exact hqueue
  | complete k len =>
      obtain ⟨queue, hqueue, rfl⟩ := Option.map_eq_some_iff.mp hstep
      exact hqueue

/-- The calls that release a table and its mapping. -/
def releaseCalls (mem size : UInt32) : List ExecCall := [.endDMA mem size, .freeVec mem]

/-- What a step does to the requests, their tables and the ledger. -/
inductive TableStep (s t : Serviced) (action : QueueAction) : Prop where
  | kept (hexec : t.exec = s.exec) (houts : t.queue.outstanding = s.queue.outstanding)
      (hadded : t.queue.added = s.queue.added)
      (htables : ∀ q ∈ s.queue.outstanding, t.queue.vq.tableOf q = s.queue.vq.tableOf q) :
      TableStep s t action
  | added {r : Request} (hserial : r.serial = s.queue.added)
      (houts : t.queue.outstanding = s.queue.outstanding ++ [r])
      (hadded : t.queue.added = s.queue.added + 1)
      (htables : ∀ q ∈ s.queue.outstanding, t.queue.vq.tableOf q = s.queue.vq.tableOf q)
      (hexec : ∀ all, s.exec.Holds all → t.exec.Holds (t.queue.vq.tableOf r + all)) :
      TableStep s t action
  | consumed (haction : action = .get) {r : Request} (hr : r ∈ s.queue.outstanding)
      (houts : s.queue.outstanding.Perm (r :: t.queue.outstanding))
      (hadded : t.queue.added = s.queue.added)
      (htables : ∀ q ∈ t.queue.outstanding, t.queue.vq.tableOf q = s.queue.vq.tableOf q)
      (hexec : ∀ all, s.exec.Holds (s.queue.vq.tableOf r + all) → t.exec.Holds all)
      (hcalls : ∀ mem size, mem ≠ 0 → s.queue.vq.tableOf r = tableAndMapping mem size →
        (virtQueueGetBuf s.queue.vq).calls = releaseCalls mem size) :
      TableStep s t action

/-- A table and its mapping determine the address and the size. -/
theorem tableAndMapping_inj {mem size mem' size' : UInt32}
    (h : tableAndMapping mem size = tableAndMapping mem' size') : mem = mem' ∧ size = size' := by
  have hmem : ItblResource.mapping mem size ∈ tableAndMapping mem' size' := by
    rw [← h]
    exact Multiset.mem_add.mpr (Or.inl (Multiset.mem_singleton_self _))
  rcases Multiset.mem_add.mp hmem with hin | hin
  · exact ItblResource.mapping.inj (Multiset.mem_singleton.mp hin)
  · exact ItblResource.noConfusion (Multiset.mem_singleton.mp hin)

/-- The table of a request that has just gone through the indirect path. -/
theorem tableOf_addBufIndirect (vq : Virtqueue) (sg : List VringSg)
    (outNum total cookie phys : UInt32) {itbl : UInt32} (hitbl : itbl ≠ 0) {r : Request}
    (hhead : r.head = vq.freeHead) :
    (addBufIndirect vq sg outNum total cookie itbl phys).tableOf r =
      tableAndMapping itbl (itblSize total) := by
  simp [Virtqueue.tableOf, addBufIndirect, publishAvail, hhead, hitbl]

/-- The direct path leaves no table. -/
theorem tableOf_addBufDirect (vq : Virtqueue) (sg : List VringSg) (outNum total cookie : UInt32)
    {r : Request} (hhead : r.head = vq.freeHead) :
    (addBufDirect vq sg outNum total cookie).tableOf r = 0 := by
  simp [Virtqueue.tableOf, addBufDirect, publishAvail, hhead]

theorem Serviced.step_add (inv : QueueInv s.queue x) (sg : SgArray) (cookie : UInt32)
    (env : ItblEnv) (hstep : s.step (.add sg cookie env) = some t) :
    TableStep s t (.add sg cookie env) := by
  have hadded := addBuf_added s.queue.vq sg.entries sg.outNum sg.inNum cookie env
  have htables : ∀ q ∈ s.queue.outstanding,
      (virtQueueAddBuf s.queue.vq sg.entries sg.outNum sg.inNum cookie env).vq.tableOf q =
        s.queue.vq.tableOf q := fun q hq => inv.desc.tableOf_add sg cookie env hq
  simp only [Serviced.step, Queue.add] at hstep
  generalize virtQueueAddBuf s.queue.vq sg.entries sg.outNum sg.inNum cookie env = res
    at hadded htables hstep
  obtain rfl := Option.some.inj hstep
  cases hadded with
  | failed hcalls => exact .kept (hcalls s.exec) rfl rfl htables
  | indirect hitbl hcalls =>
      refine .added rfl rfl rfl htables fun all hall => ?_
      have hheld := (hall.acquire (r := .table env.itbl)).acquire
        (r := .mapping env.itbl (itblSize (sg.outNum + sg.inNum)))
      change (performCalls _ s.exec).Holds ((addBufIndirect _ _ _ _ _ _ _).tableOf _ + all)
      rw [hcalls, tableOf_addBufIndirect _ _ _ _ _ _ hitbl rfl, tableAndMapping, add_assoc]
      exact hheld
  | direct hcalls =>
      refine .added rfl rfl rfl htables fun all hall => ?_
      change (performCalls _ s.exec).Holds ((addBufDirect _ _ _ _ _).tableOf _ + all)
      rw [hcalls, tableOf_addBufDirect _ _ _ _ _ rfl, zero_add]
      exact hall

theorem Serviced.step_get (inv : QueueInv s.queue x) (hstep : s.step .get = some t) :
    TableStep s t .get := by
  obtain rfl := Option.some.inj hstep
  rcases inv.getBuf_consumes with ⟨hentry, hget⟩ | ⟨r, hr, len, -, hentry, -⟩
  · have hqueue := Queue.get_of_none hentry
    refine .kept ?_ (congrArg _ hqueue) (congrArg _ hqueue) fun q hq => ?_
    · change performCalls (virtQueueGetBuf s.queue.vq).calls s.exec = s.exec
      rw [hget]
      rfl
    · exact congrArg (fun queue : Queue => queue.vq.tableOf q) hqueue
  · have hperm := inv.desc.perm_dropRequest hr
    have houts : s.queue.get.outstanding = dropRequest s.queue.outstanding r.head.toUInt32 := by
      simp [Queue.get, hentry]
    have hcalls := getBuf_calls hentry rfl (inv.desc.head_lt hr)
    refine .consumed rfl hr (houts ▸ hperm) rfl (fun q hq => ?_) (fun all hall => ?_)
      fun mem size hmem htable => ?_
    · exact inv.desc.tableOf_get hr hentry rfl (houts ▸ hq)
    · change (performCalls (virtQueueGetBuf s.queue.vq).calls s.exec).Holds all
      rw [hcalls]
      unfold Virtqueue.tableOf at hall
      split
      · next htable =>
          rw [if_pos htable, tableAndMapping, add_assoc] at hall
          exact hall.release.release
      · next htable =>
          rw [if_neg htable, zero_add] at hall
          exact hall
    · rw [hcalls]
      unfold Virtqueue.tableOf at htable
      split
      · next hne =>
          rw [if_pos hne] at htable
          obtain ⟨rfl, rfl⟩ := tableAndMapping_inj htable
          rfl
      · next hzero =>
          rw [if_neg hzero] at htable
          have hcard := congrArg Multiset.card htable
          simp [tableAndMapping] at hcard

theorem Serviced.step_cases (inv : QueueInv s.queue x) {action : QueueAction}
    (hstep : s.step action = some t) : TableStep s t action := by
  cases action with
  | add sg cookie env => exact Serviced.step_add inv sg cookie env hstep
  | get => exact Serviced.step_get inv hstep
  | fetch =>
      obtain ⟨queue, hqueue, rfl⟩ := Option.map_eq_some_iff.mp hstep
      simp only [Queue.fetch] at hqueue
      split at hqueue
      · cases hqueue
      · obtain rfl := Option.some.inj hqueue
        exact .kept rfl rfl rfl fun _ _ => rfl
  | complete k len =>
      obtain ⟨queue, hqueue, rfl⟩ := Option.map_eq_some_iff.mp hstep
      simp only [Queue.complete] at hqueue
      split at hqueue
      · cases hqueue
      · obtain rfl := Option.some.inj hqueue
        exact .kept rfl rfl rfl fun _ _ => rfl

/-- Every step keeps the books in order. -/
theorem TableStep.tablesHeld {action : QueueAction} (h : TableStep s t action)
    (hheld : s.TablesHeld) : t.TablesHeld := by
  unfold Serviced.TablesHeld at hheld ⊢
  cases h with
  | kept hexec houts hadded htables =>
      rw [hexec, houts, List.map_congr_left htables]
      exact hheld
  | added hserial houts hadded htables hexec =>
      rw [houts, List.map_append, List.sum_append, List.map_congr_left htables, List.map_singleton,
        List.sum_singleton, add_comm]
      exact hexec _ hheld
  | consumed haction hr houts hadded htables hexec hcalls =>
      rw [List.map_congr_left htables]
      apply hexec
      rw [(houts.map s.queue.vq.tableOf).sum_eq, List.map_cons, List.sum_cons] at hheld
      exact hheld

/-- A request that is outstanding after a step, and not new, was outstanding before, with the same
table. -/
theorem TableStep.older {action : QueueAction} (h : TableStep s t action)
    (hr : r ∈ t.queue.outstanding) (hserial : r.serial < s.queue.added) :
    r ∈ s.queue.outstanding ∧ t.queue.vq.tableOf r = s.queue.vq.tableOf r := by
  cases h with
  | kept hexec houts hadded htables =>
      rw [houts] at hr
      exact ⟨hr, htables r hr⟩
  | added hnew houts hadded htables hexec =>
      rw [houts] at hr
      rcases List.mem_append.mp hr with hold | hlast
      · exact ⟨hold, htables r hold⟩
      · rw [List.mem_singleton.mp hlast] at hserial
        omega
  | consumed haction hr' houts hadded htables hexec hcalls =>
      exact ⟨houts.mem_iff.mpr (List.mem_cons_of_mem _ hr), htables r hr⟩

theorem TableStep.added_le {action : QueueAction} (h : TableStep s t action) :
    s.queue.added ≤ t.queue.added := by
  cases h with
  | kept hexec houts hadded htables => exact hadded.ge
  | added hserial houts hadded htables hexec => omega
  | consumed haction hr houts hadded htables hexec hcalls => exact hadded.ge

/-! ## Reachable states -/

variable {queueSize : UInt32} {modern useEventIdx useIndirect : Bool}

/-- The queue right after set-up; no table has been allocated. -/
def Serviced.initial (queueSize : UInt32) (modern useEventIdx useIndirect : Bool) : Serviced where
  queue := .initial queueSize modern useEventIdx useIndirect
  exec := ⟨0, false⟩

def Serviced.ReachableFrom (queueSize : UInt32) (modern useEventIdx useIndirect : Bool)
    (s : Serviced) : Prop :=
  ∃ actions, Machine.run Serviced.step (.initial queueSize modern useEventIdx useIndirect) actions =
    some s

theorem Serviced.ReachableFrom.queue
    (h : s.ReachableFrom queueSize modern useEventIdx useIndirect) :
    s.queue.ReachableFrom queueSize modern useEventIdx useIndirect := by
  obtain ⟨actions, hrun⟩ := h
  refine Machine.run_invariant' (I := fun s =>
    s.queue.ReachableFrom queueSize modern useEventIdx useIndirect) ?_ ⟨[], rfl⟩ hrun
  intro s action t hs hstep
  have hqueue : Machine.run Queue.step s.queue [action] = some t.queue := by
    rw [Machine.run_cons_eq_some]
    exact ⟨t.queue, Serviced.step_queue hstep, rfl⟩
  exact hs.run hqueue

theorem Serviced.ReachableFrom.run {actions : List QueueAction}
    (h : s.ReachableFrom queueSize modern useEventIdx useIndirect)
    (hrun : Machine.run Serviced.step s actions = some t) :
    t.ReachableFrom queueSize modern useEventIdx useIndirect := by
  obtain ⟨before, hbefore⟩ := h
  exact ⟨before ++ actions, by rw [Machine.run_append hbefore, hrun]⟩

theorem Serviced.ReachableFrom.step {action : QueueAction}
    (h : s.ReachableFrom queueSize modern useEventIdx useIndirect)
    (hstep : s.step action = some t) :
    t.ReachableFrom queueSize modern useEventIdx useIndirect :=
  have hrun : Machine.run Serviced.step s [action] = some t :=
    Machine.run_cons_eq_some.mpr ⟨t, hstep, rfl⟩
  h.run hrun

theorem Serviced.ReachableFrom.tableStep (hsize : ValidQueueSize queueSize)
    (h : s.ReachableFrom queueSize modern useEventIdx useIndirect) {action : QueueAction}
    (hstep : s.step action = some t) : TableStep s t action := by
  obtain ⟨-, x, -, inv⟩ := h.queue.exists_inv hsize
  exact Serviced.step_cases inv hstep

theorem Serviced.ReachableFrom.tablesHeld (hsize : ValidQueueSize queueSize)
    (h : s.ReachableFrom queueSize modern useEventIdx useIndirect) : s.TablesHeld := by
  obtain ⟨actions, hrun⟩ := h
  have hboth := Machine.run_invariant' (I := fun s : Serviced =>
    s.ReachableFrom queueSize modern useEventIdx useIndirect ∧ s.TablesHeld) ?_
    ⟨⟨[], rfl⟩, rfl, rfl⟩ hrun
  · exact hboth.2
  · intro s action t hs hstep
    exact ⟨hs.1.step hstep, (hs.1.tableStep hsize hstep).tablesHeld hs.2⟩

/-- A request keeps its table as long as it is outstanding. -/
theorem Serviced.ReachableFrom.older (hsize : ValidQueueSize queueSize)
    (h : s.ReachableFrom queueSize modern useEventIdx useIndirect) {actions : List QueueAction}
    (hrun : Machine.run Serviced.step s actions = some t) (hr : r ∈ t.queue.outstanding)
    (hserial : r.serial < s.queue.added) :
    r ∈ s.queue.outstanding ∧ t.queue.vq.tableOf r = s.queue.vq.tableOf r := by
  induction actions generalizing s with
  | nil =>
      obtain rfl : s = t := by simpa using hrun
      exact ⟨hr, rfl⟩
  | cons action rest ih =>
      obtain ⟨u, hstep, hrest⟩ := Machine.run_cons_eq_some.mp hrun
      have hfirst := h.tableStep hsize hstep
      obtain ⟨hmem, htable⟩ := ih (h.step hstep) hrest (hserial.trans_le hfirst.added_le)
      obtain ⟨hmem', htable'⟩ := hfirst.older hmem hserial
      exact ⟨hmem', htable.trans htable'⟩

/-- From `s` on, the request `r` owns the table `mem` and its mapping, until the
`VirtQueue_GetBuf` that consumes it releases both. -/
structure TableKept (s : Serviced) (r : Request) (mem size : UInt32) : Prop where
  outstanding : r ∈ s.queue.outstanding
  alive : ∀ {actions : List QueueAction} {t : Serviced},
    Machine.run Serviced.step s actions = some t → r ∈ t.queue.outstanding →
      tableAndMapping mem size ≤ t.exec.live
  released : ∀ {actions : List QueueAction} {action : QueueAction} {t u : Serviced},
    Machine.run Serviced.step s actions = some t → r ∈ t.queue.outstanding →
      t.step action = some u → r ∉ u.queue.outstanding →
      action = .get ∧ (virtQueueGetBuf t.queue.vq).calls = releaseCalls mem size ∧
        t.exec.live = tableAndMapping mem size + u.exec.live

/-- The table of an outstanding request is among what exec.library has handed out. -/
theorem Serviced.TablesHeld.tableOf_le (h : s.TablesHeld) (hr : r ∈ s.queue.outstanding) :
    s.queue.vq.tableOf r ≤ s.exec.live := by
  obtain ⟨before, after, houts⟩ := List.append_of_mem hr
  calc
    s.queue.vq.tableOf r ≤ s.queue.vq.tableOf r +
        ((before.map s.queue.vq.tableOf).sum + (after.map s.queue.vq.tableOf).sum) :=
      Multiset.le_add_right _ _
    _ = (s.queue.outstanding.map s.queue.vq.tableOf).sum := by
      rw [houts, List.map_append, List.map_cons, List.sum_append, List.sum_cons, add_left_comm]
    _ = s.exec.live := h.live.symm

/-- Only the `VirtQueue_GetBuf` that consumes a request makes it leave. -/
theorem TableStep.leaves {action : QueueAction} {mem size : UInt32} (h : TableStep s t action)
    (hheld : s.TablesHeld) (hmem : mem ≠ 0) (hr : r ∈ s.queue.outstanding)
    (htable : s.queue.vq.tableOf r = tableAndMapping mem size)
    (hgone : r ∉ t.queue.outstanding) :
    action = .get ∧ (virtQueueGetBuf s.queue.vq).calls = releaseCalls mem size ∧
      s.exec.live = tableAndMapping mem size + t.exec.live := by
  cases h with
  | kept hexec houts hadded htables =>
      rw [houts] at hgone
      exact absurd hr hgone
  | added hserial houts hadded htables hexec =>
      rw [houts] at hgone
      exact absurd (List.mem_append_left _ hr) hgone
  | consumed haction hr' houts hadded htables hexec hcalls =>
      -- The request that has left is the one that was consumed.
      rcases List.mem_cons.mp (houts.mem_iff.mp hr) with rfl | hstays
      · refine ⟨haction, hcalls mem size hmem htable, ?_⟩
        have hsum := (houts.map s.queue.vq.tableOf).sum_eq
        rw [List.map_cons, List.sum_cons] at hsum
        have hlive := hheld.live.trans hsum
        have hafter := hexec _ ⟨hlive, hheld.sound⟩
        rw [hlive, htable, hafter.live]
      · exact absurd hstays hgone

/-- A request that goes through the indirect path owns its table. -/
theorem Serviced.ReachableFrom.tableKept (hsize : ValidQueueSize queueSize)
    (h : s.ReachableFrom queueSize modern useEventIdx useIndirect) {mem size : UInt32}
    (hmem : mem ≠ 0) (hr : r ∈ s.queue.outstanding) (hserial : r.serial < s.queue.added)
    (htable : s.queue.vq.tableOf r = tableAndMapping mem size) : TableKept s r mem size where
  outstanding := hr
  alive := by
    intro actions t hrun hrt
    have hkept := (h.older hsize hrun hrt hserial).2
    rw [← htable, ← hkept]
    exact ((h.run hrun).tablesHeld hsize).tableOf_le hrt
  released := by
    intro actions action t u hrun hrt hstep hgone
    have hkept := (h.older hsize hrun hrt hserial).2
    have hreach := h.run hrun
    exact (hreach.tableStep hsize hstep).leaves (hreach.tablesHeld hsize) hmem hrt
      (hkept.trans htable) hgone

/-- `VirtQueue_AddBuf` succeeds through the indirect path when the table can be mapped. -/
theorem addBuf_indirect {vq : Virtqueue} {sg : List VringSg} {outNum inNum cookie phys : UInt32}
    {env : ItblEnv} (hrc : (virtQueueAddBuf vq sg outNum inNum cookie env).rc = 0)
    (huse : vq.useIndirect = true) (htotal : 1 < outNum + inNum)
    (hmap : (mapItbl env (outNum + inNum)).1 = some phys) :
    (virtQueueAddBuf vq sg outNum inNum cookie env).vq =
        addBufIndirect vq sg outNum (outNum + inNum) cookie env.itbl phys ∧ env.itbl ≠ 0 := by
  obtain ⟨calls, hcalls⟩ : ∃ calls, mapItbl env (outNum + inNum) = (some phys, calls) :=
    ⟨_, Prod.ext hmap rfl⟩
  unfold virtQueueAddBuf at hrc ⊢
  simp only [huse, htotal, decide_true, Bool.and_true, if_true, hcalls] at hrc ⊢
  split at hrc
  · have hne : (-1 : Int) ≠ 0 := by decide
    exact absurd hrc hne
  · next hroom =>
      rw [if_neg hroom]
      exact ⟨rfl, (mapItbl_some hcalls).1⟩

/-- `VirtQueue_AddBuf` is atomic when it fails; and when it succeeds through the indirect path,
the table is released by the `VirtQueue_GetBuf` of the request, and by nothing else. -/
theorem addBuf_atomic (hsize : ValidQueueSize queueSize)
    (h : s.ReachableFrom queueSize modern useEventIdx useIndirect) :
    (∀ (sg : List VringSg) (outNum inNum cookie : UInt32) (env : ItblEnv),
      (virtQueueAddBuf s.queue.vq sg outNum inNum cookie env).rc = -1 →
        (virtQueueAddBuf s.queue.vq sg outNum inNum cookie env).vq = s.queue.vq ∧
        ∀ l, performCalls (virtQueueAddBuf s.queue.vq sg outNum inNum cookie env).calls l = l) ∧
    s.TablesHeld ∧
    ∀ (sg : SgArray) (cookie : UInt32) (env : ItblEnv) (phys : UInt32),
      (virtQueueAddBuf s.queue.vq sg.entries sg.outNum sg.inNum cookie env).rc = 0 →
      s.queue.vq.useIndirect = true → 1 < sg.outNum + sg.inNum →
      (mapItbl env (sg.outNum + sg.inNum)).1 = some phys →
      ∃ t r, s.step (.add sg cookie env) = some t ∧
        t.queue.outstanding = s.queue.outstanding ++ [r] ∧ r.cookie = cookie ∧
        TableKept t r env.itbl (itblSize (sg.outNum + sg.inNum)) := by
  refine ⟨fun sg outNum inNum cookie env hrc => addBuf_failed hrc, h.tablesHeld hsize, ?_⟩
  intro sg cookie env phys hrc huse htotal hmap
  obtain ⟨hvq, hitbl⟩ := addBuf_indirect hrc huse htotal hmap
  have hstep : s.step (.add sg cookie env) = some
      { queue := s.queue.add sg cookie env
        exec := performCalls
          (virtQueueAddBuf s.queue.vq sg.entries sg.outNum sg.inNum cookie env).calls s.exec } :=
    rfl
  -- the request that has been added is the last of the outstanding ones
  have hqueue : s.queue.add sg cookie env =
      { s.queue with
        vq := addBufIndirect s.queue.vq sg.entries sg.outNum (sg.outNum + sg.inNum) cookie
          env.itbl phys
        outstanding := s.queue.outstanding ++
          [addedRequest s.queue.vq
            (virtQueueAddBuf s.queue.vq sg.entries sg.outNum sg.inNum cookie env)
            s.queue.added sg cookie]
        added := s.queue.added + 1 } := by
    simp only [Queue.add, hrc, if_true, hvq]
  refine ⟨_, _, hstep, congrArg Queue.outstanding hqueue, rfl, ?_⟩
  have hreach := h.step hstep
  have hmem : addedRequest s.queue.vq
      (virtQueueAddBuf s.queue.vq sg.entries sg.outNum sg.inNum cookie env) s.queue.added sg cookie
        ∈ (s.queue.add sg cookie env).outstanding := by
    rw [hqueue]
    exact List.mem_append_right _ (List.mem_singleton_self _)
  apply hreach.tableKept hsize hitbl hmem
  · -- The new request is the youngest.
    change s.queue.added < (s.queue.add sg cookie env).added
    rw [hqueue]
    exact Nat.lt_succ_self _
  · change (s.queue.add sg cookie env).vq.tableOf _ = _
    rw [hqueue]
    exact tableOf_addBufIndirect _ _ _ _ _ _ hitbl rfl

/-- On a fresh queue of four, a request of two buffers owns the table at 65536. -/
theorem addBuf_atomic_fresh :
    ∃ t r, (Serviced.initial 4 true false true).step
        (.add ⟨[⟨4096, 24⟩, ⟨8192, 24⟩], 1, 1, rfl, by decide, by decide⟩ 7
          ⟨65536, 1, 131072, 12288⟩) = some t ∧
      t.queue.outstanding = (Serviced.initial 4 true false true).queue.outstanding ++ [r] ∧
      r.cookie = 7 ∧ TableKept t r 65536 32 :=
  (addBuf_atomic validQueueSize_four ⟨[], rfl⟩).2.2 _ 7 ⟨65536, 1, 131072, 12288⟩ 12288 rfl rfl
    (by decide) rfl

end

end VirtIOGPU
