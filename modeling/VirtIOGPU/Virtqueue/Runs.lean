import VirtIOGPU.Virtqueue.Rings

/-!
# What holds on every run of a virtqueue

The two statements about whole runs that the driver relies on, read off the
invariant of `Rings.lean` in terms of the queue alone.

* `descriptors_conserved`: the free list and the chains of the outstanding
  requests partition the descriptor table.
* `completions_exactly_once`: `VirtQueue_GetBuf` gives the completions back in the
  order in which the device made them, and `VirtQueue_AddBuf` never writes a slot
  of the avail ring that the device has not read.  The requests of a run are told
  apart by their serial numbers, so neither index wrap nor reuse of a descriptor
  can make two of them look the same.

## Strategy

Both are read off at one reachable state: `exists_inv` gives an exchange that the queue refines,
`desc` gives the first statement, and the clauses of the second one are windows of `rings`.

```text
clause of ExactlyOnce       from
in_order, waiting_length    the finished answers of the exchange, and the index counts
no_duplicate, serial_lt     the serial numbers of the exchange
next                        the window of the used ring
recorded                    the step of the device
slot_free                   the window of the avail ring, which holds fewer than num heads
```
-/

namespace VirtIOGPU

open Lib

/-! ## What a step leaves alone -/

/-- The size, byte order and mode of a queue are set up once. -/
theorem addBuf_config (vq : Virtqueue) (sg : SgArray) (cookie : UInt32) (env : ItblEnv) :
    let res := (virtQueueAddBuf vq sg.entries sg.outNum sg.inNum cookie env).vq
    res.num = vq.num ∧ res.modern = vq.modern ∧ res.useIndirect = vq.useIndirect := by
  intro res
  rcases addBuf_cases vq sg cookie env with ⟨-, hvq⟩ | ⟨-, -, -, -, -, hvq⟩ | ⟨-, -, hvq⟩
  · simp only [res, hvq, and_self]
  · simp only [res, hvq]
    exact ⟨rfl, rfl, rfl⟩
  · simp only [res, hvq]
    exact ⟨rfl, rfl, rfl⟩

theorem getBuf_config (vq : Virtqueue) :
    (virtQueueGetBuf vq).vq.num = vq.num ∧ (virtQueueGetBuf vq).vq.modern = vq.modern ∧
      (virtQueueGetBuf vq).vq.useIndirect = vq.useIndirect := by
  unfold virtQueueGetBuf
  split
  · exact ⟨rfl, rfl, rfl⟩
  · split <;> exact ⟨rfl, rfl, rfl⟩

theorem Queue.add_vq (s : Queue) (sg : SgArray) (cookie : UInt32) (env : ItblEnv) :
    (s.add sg cookie env).vq =
      (virtQueueAddBuf s.vq sg.entries sg.outNum sg.inNum cookie env).vq := by
  simp only [Queue.add]
  split <;> rfl

theorem Queue.step_config {s t : Queue} {action : QueueAction} (hstep : s.step action = some t) :
    t.vq.num = s.vq.num ∧ t.vq.modern = s.vq.modern ∧ t.vq.useIndirect = s.vq.useIndirect := by
  cases action with
  | add sg cookie env =>
      obtain rfl := Option.some.inj hstep
      rw [Queue.add_vq]
      exact addBuf_config s.vq sg cookie env
  | get =>
      obtain rfl := Option.some.inj hstep
      exact getBuf_config s.vq
  | fetch =>
      simp only [Queue.step, Queue.fetch] at hstep
      split at hstep
      · simp at hstep
      · obtain rfl := Option.some.inj hstep
        exact ⟨rfl, rfl, rfl⟩
  | complete k len =>
      simp only [Queue.step, Queue.complete] at hstep
      split at hstep
      · simp at hstep
      · obtain rfl := Option.some.inj hstep
        exact ⟨rfl, rfl, rfl⟩

section

variable {queueSize : UInt32} {modern useEventIdx useIndirect : Bool} {s : Queue}

theorem Queue.ReachableFrom.config (h : s.ReachableFrom queueSize modern useEventIdx useIndirect) :
    s.vq.num = queueSize ∧ s.vq.modern = modern ∧ s.vq.useIndirect = useIndirect := by
  obtain ⟨actions, hrun⟩ := h
  refine Machine.run_invariant' (I := fun t => t.vq.num = queueSize ∧ t.vq.modern = modern ∧
    t.vq.useIndirect = useIndirect) (fun s action t hs hstep => ?_) ⟨rfl, rfl, rfl⟩ hrun
  obtain ⟨hnum, hmodern, hindirect⟩ := Queue.step_config hstep
  exact ⟨hnum.trans hs.1, hmodern.trans hs.2.1, hindirect.trans hs.2.2⟩

theorem Queue.ReachableFrom.run {t : Queue} {actions : List QueueAction}
    (h : s.ReachableFrom queueSize modern useEventIdx useIndirect)
    (hrun : Machine.run Queue.step s actions = some t) :
    t.ReachableFrom queueSize modern useEventIdx useIndirect := by
  obtain ⟨before, hbefore⟩ := h
  exact ⟨before ++ actions, by rw [Machine.run_append hbefore, hrun]⟩

theorem validQueueSize_four : ValidQueueSize 4 :=
  ⟨2, by norm_num, rfl⟩

/-- Two requests, of two buffers and of one, right after set-up of a queue of four. -/
def twoRequests : Queue :=
  ((Queue.initial 4 true false true).add
    ⟨[⟨4096, 24⟩, ⟨8192, 24⟩], 1, 1, rfl, by decide, by decide⟩ 7 ⟨0, 0, 0, 0⟩).add
      ⟨[⟨4096, 24⟩], 1, 0, rfl, by decide, by decide⟩ 9 ⟨0, 0, 0, 0⟩

theorem twoRequests_reachable : twoRequests.ReachableFrom 4 true false true :=
  ⟨[.add _ _ _, .add _ _ _], rfl⟩

/-! ## Descriptors -/

/-- In every reachable state the free list visits distinct descriptors, and with
the chains of the outstanding requests they make up the whole table. -/
theorem descriptors_conserved (hsize : ValidQueueSize queueSize)
    (h : s.ReachableFrom queueSize modern useEventIdx useIndirect) :
    (freeDescs s.vq).length = s.vq.numFree.toNat ∧ (freeDescs s.vq).Nodup ∧
      (freeDescs s.vq ++ s.outstanding.flatMap fun r => chainDescs s.vq r.head).Perm
        (List.range queueSize.toNat) := by
  obtain ⟨-, x, -, inv⟩ := h.exists_inv hsize
  have hchains : s.outstanding.flatMap (fun r => chainDescs s.vq r.head) =
      s.outstanding.flatMap Request.descs :=
    List.flatMap_congr fun r hr => inv.desc.chainDescs_eq hr
  refine ⟨length_freeDescs s.vq, inv.desc.free_nodup, ?_⟩
  rw [hchains, ← h.config.1]
  exact inv.desc.partition

theorem descriptors_conserved_twoRequests :
    freeDescs twoRequests.vq = [3] ∧
      (twoRequests.outstanding.flatMap fun r => chainDescs twoRequests.vq r.head) = [0, 1, 2] ∧
      (freeDescs twoRequests.vq ++
        twoRequests.outstanding.flatMap fun r => chainDescs twoRequests.vq r.head).Perm
          (List.range 4) :=
  ⟨rfl, rfl, (descriptors_conserved validQueueSize_four
    twoRequests_reachable).2.2⟩

/-! ## Completions -/

/-- The number of heads in the avail ring that the device has not read. -/
def unreadCount (s : Queue) : ℕ :=
  (deviceRead16 s.vq.modern s.vq.avail.idx - s.dev.lastAvailIdx).toNat

/-- The slot of the `i`-th head that the device has not read. -/
def unreadSlot (s : Queue) (i : ℕ) : ℕ :=
  (s.dev.lastAvailIdx + UInt16.ofNat i).toNat % s.vq.num.toNat

/-- The slot of the avail ring that the next request goes to. -/
def availSlot (vq : Virtqueue) : ℕ :=
  (vr16 vq.modern vq.avail.idx).toNat % vq.num.toNat

/-- Requests and answers correspond one to one, in order.  `waiting` are the
completions in the used ring that `VirtQueue_GetBuf` has not given back. -/
structure ExactlyOnce (s : Queue) (waiting : List (Request × UInt32)) : Prop where
  /-- What was given back and what waits is what the device completed. -/
  in_order : s.returned ++ waiting.map (fun answer => (answer.1.cookie, answer.2)) =
    s.completed.map fun answer => (answer.1.cookie, answer.2)
  waiting_length : waiting.length = (vr16 s.vq.modern s.vq.used.idx - s.vq.lastUsedIdx).toNat
  /-- No request is completed twice, or completed and still unread or held by the device. -/
  no_duplicate : (s.completed.map fun answer => answer.1.serial).Nodup
  serial_lt : ∀ answer ∈ s.completed, answer.1.serial < s.added
  /-- The next call gives the first waiting completion back, or nothing. -/
  next : ((virtQueueGetBuf s.vq).lenOut.map fun len => ((virtQueueGetBuf s.vq).cookie, len)) =
    waiting.head?.map fun answer => (answer.1.cookie, answer.2)
  /-- A completion by the device is recorded for the outstanding request that it names. -/
  recorded : ∀ k len t, s.complete k len = some t →
    ∃ r ∈ s.outstanding, s.dev.held[k]? = some r.head ∧ t.completed = s.completed ++ [(r, len)]
  /-- A new request goes to a slot that holds no unread head, and to no other slot. -/
  slot_free : ∀ (sg : SgArray) (cookie : UInt32) (env : ItblEnv),
    (virtQueueAddBuf s.vq sg.entries sg.outNum sg.inNum cookie env).rc = 0 →
      (∀ i < unreadCount s, availSlot s.vq ≠ unreadSlot s i) ∧
      ∀ slot ≠ availSlot s.vq, (s.add sg cookie env).vq.avail.ring slot = s.vq.avail.ring slot

/-- The unread heads are the published requests of the exchange. -/
theorem QueueInv.unreadCount_eq {x : RequestExchange} (inv : QueueInv s x) :
    unreadCount s = x.published.length := by
  have hbound := inv.length_le
  have hnum := inv.desc.num_le
  have havail := inv.rings.availIdx
  rw [Exchange.publishedCount] at havail
  rw [unreadCount, deviceRead16_eq, UInt16.toNat_sub, havail, inv.rings.lastAvailIdx]
  omega

theorem QueueInv.unreadSlot_eq {x : RequestExchange} (inv : QueueInv s x) (i : ℕ) :
    unreadSlot s i = (x.takenCount + i) % s.vq.num.toNat := by
  have hsum : (s.dev.lastAvailIdx + UInt16.ofNat i).toNat = (x.takenCount + i) % 65536 := by
    rw [UInt16.toNat_add, inv.rings.lastAvailIdx, UInt16.toNat_ofNat']
    omega
  rw [unreadSlot, hsum, inv.slot_eq]

theorem QueueInv.availSlot_eq {x : RequestExchange} (inv : QueueInv s x) :
    availSlot s.vq = x.publishedCount % s.vq.num.toNat := by
  rw [availSlot, inv.rings.availIdx, inv.slot_eq]

/-- A successful `VirtQueue_AddBuf` writes one slot of the avail ring. -/
theorem addBuf_ring (vq : Virtqueue) (sg : SgArray) (cookie : UInt32) (env : ItblEnv) {slot : ℕ}
    (hslot : slot ≠ availSlot vq) :
    (virtQueueAddBuf vq sg.entries sg.outNum sg.inNum cookie env).vq.avail.ring slot =
      vq.avail.ring slot := by
  rcases addBuf_cases vq sg cookie env with ⟨-, hvq⟩ | ⟨-, -, -, -, -, hvq⟩ | ⟨-, -, hvq⟩
  · rw [hvq]
  · rw [hvq]
    exact Function.update_of_ne hslot _ _
  · rw [hvq]
    exact Function.update_of_ne hslot _ _

/-- A request is only accepted while a descriptor is free. -/
theorem addBuf_room {vq : Virtqueue} {sg : SgArray} {cookie : UInt32} {env : ItblEnv}
    (hrc : (virtQueueAddBuf vq sg.entries sg.outNum sg.inNum cookie env).rc = 0) :
    1 ≤ vq.numFree.toNat := by
  rcases addBuf_cases vq sg cookie env with ⟨hfail, -⟩ | ⟨-, -, -, hroom, -⟩ | ⟨-, hroom, -⟩
  · rw [hfail] at hrc
    exact absurd hrc (by decide)
  · exact hroom
  · exact le_trans sg.nonempty hroom

theorem QueueInv.exactlyOnce {x : RequestExchange} (inv : QueueInv s x) :
    ExactlyOnce s x.finished where
  in_order := by
    rw [inv.rings.returned, inv.rings.completed, inv.rings.history, List.map_append]
  waiting_length := by
    have hbound := inv.length_le
    have hnum := inv.desc.num_le
    have hcount := inv.rings.history.length
    rw [UInt16.toNat_sub, inv.rings.usedIdx, inv.rings.lastUsedIdx]
    omega
  no_duplicate := by
    -- the serials of all requests are 0, 1, 2 and so on, and those answered are among them
    have hserials := inv.rings.serials.nodup_iff.mpr List.nodup_range
    rw [Exchange.requests, List.map_append, List.map_append, List.map_map] at hserials
    rw [inv.rings.completed]
    exact (List.nodup_append.mp (List.nodup_append.mp hserials).2.1).2.1
  serial_lt := by
    intro answer hanswer
    rw [inv.rings.completed] at hanswer
    have hmem : answer.1 ∈ x.requests :=
      List.mem_append_right _ (List.mem_append_right _ (List.mem_map_of_mem hanswer))
    exact List.mem_range.mp (inv.rings.serials.mem_iff.mp (List.mem_map_of_mem hmem))
  next := by
    have hentry := inv.usedEntry_eq
    cases hfinished : x.finished with
    | nil =>
        rw [hfinished] at hentry
        rw [getBuf_of_none hentry]
        rfl
    | cons answer rest =>
        rw [hfinished] at hentry
        have hmem := inv.finished_mem (hfinished ▸ List.mem_cons_self ..)
        obtain ⟨hcookie, hlen, -⟩ := inv.desc.getBuf_spec hmem hentry rfl
        rw [hcookie, hlen]
        rfl
  recorded := by
    intro k len t hstep
    obtain ⟨r, hr, hk, rfl⟩ := inv.complete_spec hstep
    refine ⟨r, hr, ?_, rfl⟩
    rw [inv.rings.held, List.getElem?_map, hk, Option.map_some]
  slot_free := by
    intro sg cookie env hrc
    refine ⟨fun i hi => ?_, fun slot hslot => ?_⟩
    · -- a request was added, so fewer than `num` entries are unread
      have hroom := addBuf_room hrc
      have hbound := inv.length_le
      rw [inv.unreadCount_eq] at hi
      rw [inv.availSlot_eq, inv.unreadSlot_eq, Exchange.publishedCount]
      exact (RingWindow.slot_ne (by omega) (by omega)).symm
    · rw [Queue.add_vq]
      exact addBuf_ring s.vq sg cookie env hslot

/-- On every run the driver gets every completion once, in the device's order, with
the cookie of the request and the length that the device reported. -/
theorem completions_exactly_once (hsize : ValidQueueSize queueSize)
    (h : s.ReachableFrom queueSize modern useEventIdx useIndirect) :
    ∃ waiting, ExactlyOnce s waiting := by
  obtain ⟨-, x, -, inv⟩ := h.exists_inv hsize
  exact ⟨x.finished, inv.exactlyOnce⟩

/-- Two requests completed in reverse order, one of them collected. -/
theorem completions_exactly_once_reversed :
    ∃ s, Machine.run Queue.step twoRequests [.fetch, .fetch, .complete 1 40, .complete 0 8, .get] =
        some s ∧ s.returned = [(9, 40)] ∧ ∃ waiting, ExactlyOnce s waiting := by
  have hreturned : (Machine.run Queue.step twoRequests
      [.fetch, .fetch, .complete 1 40, .complete 0 8, .get]).map Queue.returned =
        some [(9, 40)] := rfl
  obtain ⟨s, hrun, hreturned⟩ := Option.map_eq_some_iff.mp hreturned
  exact ⟨s, hrun, hreturned, completions_exactly_once validQueueSize_four
    (twoRequests_reachable.run hrun)⟩

end

end VirtIOGPU
