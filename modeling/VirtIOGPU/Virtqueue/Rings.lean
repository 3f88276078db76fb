import VirtIOGPU.Lib.Exchange
import VirtIOGPU.Lib.RingWindow
import VirtIOGPU.Virtqueue.Conservation

/-!
# The queue refines the request exchange

`QueueInv s x` relates a queue with its device to a state `x` of the abstract
exchange of `Lib.Exchange`: the avail ring from the device's index on holds the
heads of the published requests, the device holds the heads of the held ones, the
used ring from the driver's index on holds heads and lengths of the finished
ones, and the four 16-bit indices are the counts of the exchange modulo 65536.

`QueueInv.step` is the simulation: `VirtQueue_AddBuf` publishes (or does
nothing), `VirtQueue_GetBuf` collects (or does nothing), and the two device
actions take and answer.  At most `num` requests are outstanding, which is why a
new request never reaches a slot in use, and `num` divides 65536, which is why
the slot of a wrapped index is the slot of the count.

## Strategy

The exchange counts in natural numbers, the queue in 16 bits.  `slot_eq` and `length_le` are the
two facts that make the difference invisible, and each operation is one lemma:

```text
action             exchange     the queue                                   lemma
AddBuf, added      publishes    the head at slot avail.idx mod num          publish, add
AddBuf, refused    -            unchanged                                   add
fetch              takes        the device's index moves past one head      fetch
complete           answers      an entry at slot used.idx mod num           complete
GetBuf, an entry   collects     the driver's index moves past one entry     get
GetBuf, none       -            unchanged                                   getBuf_cases
```

`publish` is where a slot is overwritten.  The avail window covers the slots that the device has
not read; it holds fewer than `num` heads then, so the written slot lies outside of it.
-/

namespace VirtIOGPU

open Lib Lib.RingWindow

abbrev RequestExchange := Exchange Request UInt32

structure RingInv (s : Queue) (x : RequestExchange) : Prop where
  history : x.History
  availIdx : (vr16 s.vq.modern s.vq.avail.idx).toNat = x.publishedCount % 65536
  lastAvailIdx : s.dev.lastAvailIdx.toNat = x.takenCount % 65536
  usedIdx : (vr16 s.vq.modern s.vq.used.idx).toNat = x.completed.length % 65536
  lastUsedIdx : s.vq.lastUsedIdx.toNat = x.collected.length % 65536
  avail : Window s.vq.num.toNat (fun slot => vr16 s.vq.modern (s.vq.avail.ring slot)) x.takenCount
    (x.published.map Request.head)
  used : Window s.vq.num.toNat
    (fun slot => (vr32 s.vq.modern (s.vq.used.ring slot).id,
      vr32 s.vq.modern (s.vq.used.ring slot).len))
    x.collected.length (x.finished.map fun answer => (answer.1.head.toUInt32, answer.2))
  held : s.dev.held = x.held.map Request.head
  outstanding : s.outstanding.Perm x.outstanding
  completed : s.completed = x.completed
  returned : s.returned = x.collected.map fun answer => (answer.1.cookie, answer.2)
  serials : (x.requests.map Request.serial).Perm (List.range s.added)

structure QueueInv (s : Queue) (x : RequestExchange) : Prop where
  desc : DescInv s.vq s.outstanding
  rings : RingInv s x
  num_dvd : s.vq.num.toNat ∣ 65536

namespace QueueInv

variable {s t : Queue} {x : RequestExchange}

/-! ## Consequences -/

theorem num_pos (inv : QueueInv s x) : 0 < s.vq.num.toNat :=
  Nat.pos_of_dvd_of_pos inv.num_dvd (by norm_num)

/-- The slot of a 16-bit index is the slot of the count behind it. -/
theorem slot_eq (inv : QueueInv s x) (count : ℕ) :
    count % 65536 % s.vq.num.toNat = count % s.vq.num.toNat :=
  Nat.mod_mod_of_dvd count inv.num_dvd

/-- The requests in the three places fit in the queue. -/
theorem length_le (inv : QueueInv s x) :
    s.vq.numFree.toNat + (x.published.length + x.held.length + x.finished.length) ≤
      s.vq.num.toNat := by
  have h := inv.desc.length_outs_le
  rwa [inv.rings.outstanding.length_eq, Exchange.outstanding_length] at h

theorem published_eq_nil_iff (inv : QueueInv s x) :
    s.dev.lastAvailIdx = vr16 s.vq.modern s.vq.avail.idx ↔ x.published = [] := by
  have hbound := inv.length_le
  have hnum := inv.desc.num_le
  rw [← UInt16.toNat_inj, inv.rings.availIdx, inv.rings.lastAvailIdx, Exchange.publishedCount]
  exact counter_eq_iff_nil (by omega)

theorem finished_eq_nil_iff (inv : QueueInv s x) :
    s.vq.lastUsedIdx = vr16 s.vq.modern s.vq.used.idx ↔ x.finished = [] := by
  have hbound := inv.length_le
  have hnum := inv.desc.num_le
  rw [← UInt16.toNat_inj, inv.rings.usedIdx, inv.rings.lastUsedIdx, inv.rings.history.length]
  exact counter_eq_iff_nil (by omega)

/-- `VirtQueue_GetBuf` finds the first answer not yet collected. -/
theorem usedEntry_eq (inv : QueueInv s x) :
    usedEntry s.vq =
      x.finished.head?.map fun answer => { id := answer.1.head.toUInt32, len := answer.2 } := by
  unfold usedEntry
  by_cases hempty : s.vq.lastUsedIdx = vr16 s.vq.modern s.vq.used.idx
  · rw [if_pos hempty, inv.finished_eq_nil_iff.mp hempty]
    rfl
  · rw [if_neg hempty]
    cases hfinished : x.finished with
    | nil => exact absurd (inv.finished_eq_nil_iff.mpr hfinished) hempty
    | cons answer rest =>
        have hwindow := inv.rings.used
        rw [hfinished, List.map_cons] at hwindow
        have hslot := hwindow.head_eq
        rw [← inv.slot_eq, ← inv.rings.lastUsedIdx] at hslot
        simp only [Prod.mk.injEq] at hslot
        simp [hslot]

/-! ## Publishing -/

/-- Writing the head of a new request in the next avail slot publishes it. -/
theorem publish (inv : QueueInv s x) {vq : Virtqueue} (hnum : vq.num = s.vq.num)
    (hmodern : vq.modern = s.vq.modern) (havail : vq.avail = s.vq.avail)
    (hused : vq.used = s.vq.used) (hlast : vq.lastUsedIdx = s.vq.lastUsedIdx) {r : Request}
    (hserial : r.serial = s.added) (hroom : 1 ≤ s.vq.numFree.toNat) :
    RingInv
      { s with
        vq := publishAvail vq r.head, outstanding := s.outstanding ++ [r], added := s.added + 1 }
      { x with published := x.published ++ [r] } := by
  have rings := inv.rings
  have hlength := inv.length_le
  -- the slot that is written is that of the next request
  have hslot : (vr16 s.vq.modern s.vq.avail.idx).toNat % s.vq.num.toNat =
      (x.takenCount + (x.published.map Request.head).length) % s.vq.num.toNat := by
    rw [rings.availIdx, inv.slot_eq, List.length_map]
    rfl
  refine ⟨rings.history, ?_, rings.lastAvailIdx, ?_, ?_, ?_, ?_, rings.held, ?_, rings.completed,
    rings.returned, ?_⟩
  · simp only [publishAvail, hmodern, havail, vr16_vr16, UInt16.toNat_add, rings.availIdx,
      UInt16.toNat_one, Exchange.publishedCount, Exchange.takenCount, List.length_append,
      List.length_singleton]
    omega
  · simp only [publishAvail, hmodern, hused]
    exact rings.usedIdx
  · simp only [publishAvail, hlast]
    exact rings.lastUsedIdx
  · -- the avail ring: one entry more in its window
    have hpush := rings.avail.push (x := r.head) (by rw [List.length_map]; omega)
    rw [← hslot] at hpush
    simp only [publishAvail, hnum, hmodern, havail, List.map_append, List.map_cons, List.map_nil]
    convert hpush using 1
    · funext slot
      simp only [Function.update_apply]
      split <;> simp
    · rfl
  · simp only [publishAvail, hnum, hmodern, hused]
    exact rings.used
  · exact (rings.outstanding.append_right _).trans (Exchange.outstanding_publish x r).symm
  · have hstep : x.step (.publish r) = some { x with published := x.published ++ [r] } := rfl
    refine ((Exchange.requests_step hstep).map Request.serial).trans ?_
    rw [List.map_append, List.map_singleton, hserial, List.range_succ]
    exact rings.serials.append_right _

theorem add (inv : QueueInv s x) (sg : SgArray) (cookie : UInt32) (env : ItblEnv) :
    ∃ (events : List (Exchange.Event Request UInt32)) (y : RequestExchange),
      Machine.run Exchange.step x events = some y ∧ QueueInv (s.add sg cookie env) y := by
  rcases inv.desc.add_cases sg cookie env with ⟨-, hsame⟩ |
    ⟨r, vq, -, -, -, hserial, -, hroom, hdesc, ⟨hnum, hmodern, havail, hused, hlast⟩, hadd⟩
  · rw [hsame]
    exact ⟨[], x, rfl, inv⟩
  · rw [hadd]
    refine ⟨[.publish r], _, rfl, hdesc,
      inv.publish hnum hmodern havail hused hlast hserial hroom, ?_⟩
    rw [publishAvail, hnum]
    exact inv.num_dvd

/-! ## Collecting -/

/-- The request of the first answer is outstanding. -/
theorem finished_mem (inv : QueueInv s x) {answer : Request × UInt32} (h : answer ∈ x.finished) :
    answer.1 ∈ s.outstanding := by
  rw [inv.rings.outstanding.mem_iff, Exchange.outstanding]
  exact List.mem_append_right _ (List.mem_append_right _ (List.mem_map_of_mem h))

theorem get (inv : QueueInv s x) :
    ∃ (events : List (Exchange.Event Request UInt32)) (y : RequestExchange),
      Machine.run Exchange.step x events = some y ∧ QueueInv s.get y := by
  cases hfinished : x.finished with
  | nil =>
      refine ⟨[], x, rfl, ?_⟩
      have hentry : usedEntry s.vq = none := by
        rw [inv.usedEntry_eq, hfinished]
        rfl
      rwa [Queue.get_of_none hentry]
  | cons answer rest =>
      have hentry : usedEntry s.vq =
          some { id := answer.1.head.toUInt32, len := answer.2 } := by
        rw [inv.usedEntry_eq, hfinished]
        rfl
      have hmem : answer.1 ∈ s.outstanding :=
        inv.finished_mem (hfinished ▸ List.mem_cons_self ..)
      have rings := inv.rings
      obtain ⟨hcookie, hlen, -, -, hdesc⟩ := inv.desc.getBuf_spec hmem hentry rfl
      -- of the rings only `used_event`, behind the last slot, may change
      have hvq : ∃ ring, (virtQueueGetBuf s.vq).vq.avail = { s.vq.avail with ring := ring } ∧
          (∀ slot < s.vq.num.toNat, ring slot = s.vq.avail.ring slot) ∧
          (virtQueueGetBuf s.vq).vq.num = s.vq.num ∧
          (virtQueueGetBuf s.vq).vq.modern = s.vq.modern ∧
          (virtQueueGetBuf s.vq).vq.used = s.vq.used ∧
          (virtQueueGetBuf s.vq).vq.lastUsedIdx = s.vq.lastUsedIdx + 1 := by
        simp only [virtQueueGetBuf, hentry]
        split
        · exact ⟨_, rfl, fun _ _ => rfl, rfl, rfl, rfl, rfl⟩
        · cases s.vq.useEventIdx
          · exact ⟨_, rfl, fun _ _ => rfl, rfl, rfl, rfl, rfl⟩
          · exact ⟨_, rfl, fun slot hslot => Function.update_of_ne hslot.ne _ _, rfl, rfl, rfl, rfl⟩
      obtain ⟨ring, havail, hring, hnum, hmodern, hused, hlast⟩ := hvq
      -- on the abstract side: the oldest answer is collected
      have hcollect : Exchange.step x .collect =
          some { x with finished := rest, collected := x.collected ++ [answer] } := by
        simp [Exchange.step, hfinished]
      refine ⟨[.collect], _, by rw [Machine.run, hcollect]; rfl, ?_⟩
      simp only [Queue.get, hentry]
      refine ⟨hdesc, ⟨rings.history.step hcollect, ?_, rings.lastAvailIdx, ?_, ?_, ?_, ?_,
        rings.held, ?_, rings.completed, ?_, ?_⟩, by simpa only [hnum] using inv.num_dvd⟩
      · simp only [hmodern, havail]
        exact rings.availIdx
      · simp only [hmodern, hused]
        exact rings.usedIdx
      · simp only [hlast, UInt16.toNat_add, rings.lastUsedIdx, UInt16.toNat_one,
          List.length_append, List.length_singleton]
        omega
      · simp only [hnum, hmodern, havail]
        refine rings.avail.of_ne fun i _ => ?_
        rw [hring _ (Nat.mod_lt _ inv.num_pos)]
      · -- the window of the used ring loses its first entry
        have hwindow := rings.used
        rw [hfinished, List.map_cons] at hwindow
        simp only [hnum, hmodern, hused, List.length_append, List.length_singleton]
        exact hwindow.tail
      · have hperm := inv.desc.perm_dropRequest hmem
        have hx := rings.outstanding.symm.trans hperm
        simp only [Exchange.outstanding, hfinished, List.map_cons] at hx
        rw [← List.append_assoc] at hx
        have hdrop := (List.perm_middle.symm.trans hx).cons_inv
        rw [List.append_assoc] at hdrop
        exact hdrop.symm
      · simp [hcookie, hlen, rings.returned]
      · exact rings.serials

/-- `VirtQueue_GetBuf` finds nothing, or it consumes an outstanding request that the device has
completed, and no other. -/
theorem getBuf_consumes (inv : QueueInv s x) :
    (usedEntry s.vq = none ∧ virtQueueGetBuf s.vq = ⟨s.vq, 0, none, []⟩) ∨
      ∃ r ∈ s.outstanding, ∃ len, (r, len) ∈ s.completed ∧
        usedEntry s.vq = some ⟨r.head.toUInt32, len⟩ ∧
        (virtQueueGetBuf s.vq).cookie = r.cookie ∧ (virtQueueGetBuf s.vq).lenOut = some len ∧
        ∀ q ∈ s.outstanding, q ∉ s.get.outstanding → q = r := by
  have hentry := inv.usedEntry_eq
  cases hfinished : x.finished with
  | nil =>
      rw [hfinished] at hentry
      exact Or.inl ⟨hentry, getBuf_of_none hentry⟩
  | cons answer rest =>
      rw [hfinished] at hentry
      have hmem := inv.finished_mem (hfinished ▸ List.mem_cons_self ..)
      obtain ⟨hcookie, hlen, -⟩ := inv.desc.getBuf_spec hmem hentry rfl
      refine Or.inr ⟨answer.1, hmem, answer.2, ?_, hentry, hcookie, hlen, fun q hq hgone => ?_⟩
      · rw [inv.rings.completed, inv.rings.history, hfinished]
        exact List.mem_append_right _ (List.mem_cons_self ..)
      · simp only [Queue.get, hentry, Option.map_some, List.head?_cons] at hgone
        rcases List.mem_cons.mp ((inv.desc.perm_dropRequest hmem).mem_iff.mp hq) with hsame | hother
        · exact hsame
        · exact absurd hother hgone

/-- What the caller sees of it. -/
theorem getBuf_cases (inv : QueueInv s x) :
    ((virtQueueGetBuf s.vq).cookie = 0 ∧ (virtQueueGetBuf s.vq).lenOut = none) ∨
      ∃ r ∈ s.outstanding, ∃ len, (r, len) ∈ s.completed ∧
        (virtQueueGetBuf s.vq).cookie = r.cookie ∧ (virtQueueGetBuf s.vq).lenOut = some len := by
  rcases inv.getBuf_consumes with ⟨-, hget⟩ | ⟨r, hr, len, hcompleted, -, hcookie, hlen, -⟩
  · rw [hget]
    exact Or.inl ⟨rfl, rfl⟩
  · exact Or.inr ⟨r, hr, len, hcompleted, hcookie, hlen⟩

/-! ## The device's actions -/

theorem fetch (inv : QueueInv s x) (hstep : s.fetch = some t) :
    ∃ (events : List (Exchange.Event Request UInt32)) (y : RequestExchange),
      Machine.run Exchange.step x events = some y ∧ QueueInv t y := by
  simp only [Queue.fetch, deviceRead16_eq] at hstep
  split at hstep
  · simp at hstep
  · rename_i hne
    cases hpublished : x.published with
    | nil => exact absurd (inv.published_eq_nil_iff.mpr hpublished) hne
    | cons r rest =>
        have rings := inv.rings
        have hwindow := rings.avail
        rw [hpublished, List.map_cons] at hwindow
        -- the device reads the oldest entry of the window
        have hslot := hwindow.head_eq
        rw [← inv.slot_eq, ← rings.lastAvailIdx] at hslot
        obtain rfl := Option.some.inj hstep
        -- on the abstract side: one request is taken
        have htake : Exchange.step x .take =
            some { x with published := rest, held := x.held ++ [r] } := by
          simp [Exchange.step, hpublished]
        refine ⟨[.take], { x with published := rest, held := x.held ++ [r] },
          by rw [Machine.run, htake]; rfl, inv.desc,
          ⟨rings.history, ?_, ?_, rings.usedIdx, rings.lastUsedIdx, ?_, rings.used, ?_, ?_,
            rings.completed, rings.returned, ?_⟩, inv.num_dvd⟩
        · have h := rings.availIdx
          simp only [Exchange.publishedCount, Exchange.takenCount, hpublished, List.length_cons,
            List.length_append, List.length_nil] at h ⊢
          omega
        · simp only [UInt16.toNat_add, rings.lastAvailIdx, UInt16.toNat_one, Exchange.takenCount,
            List.length_append, List.length_singleton]
          omega
        · have htaken : ({ x with published := rest, held := x.held ++ [r] } :
              RequestExchange).takenCount = x.takenCount + 1 := by
            simp only [Exchange.takenCount, List.length_append, List.length_singleton]
            omega
          rw [htaken]
          exact hwindow.tail
        · simp only [rings.held, hslot, List.map_append, List.map_cons, List.map_nil]
        · exact rings.outstanding.trans (Exchange.take_perm _ hpublished).symm
        · have hperm := (Exchange.requests_step htake).map Request.serial
          rw [List.append_nil] at hperm
          exact hperm.trans rings.serials

/-- The device completes an outstanding request. -/
theorem complete_spec (inv : QueueInv s x) {k : ℕ} {len : UInt32}
    (hstep : s.complete k len = some t) :
    ∃ r ∈ s.outstanding, x.held[k]? = some r ∧
      t =
        { s with
          vq := { s.vq with used := deviceAnswer s.vq r.head len }
          dev := { s.dev with held := s.dev.held.eraseIdx k }
          completed := s.completed ++ [(r, len)] } := by
  simp only [Queue.complete] at hstep
  split at hstep
  · simp at hstep
  · rename_i head hhead
    rw [inv.rings.held, List.getElem?_map, Option.map_eq_some_iff] at hhead
    obtain ⟨r, hk, rfl⟩ := hhead
    have hmem : r ∈ s.outstanding := by
      rw [inv.rings.outstanding.mem_iff, Exchange.outstanding]
      exact List.mem_append_right _ (List.mem_append_left _ (List.mem_of_getElem? hk))
    have hfind := Keyed.find?_key_eq_some inv.desc.heads_nodup hmem
    rw [hfind] at hstep
    exact ⟨r, hmem, hk, (Option.some.inj hstep).symm⟩

theorem complete (inv : QueueInv s x) {k : ℕ} {len : UInt32} (hstep : s.complete k len = some t) :
    ∃ (events : List (Exchange.Event Request UInt32)) (y : RequestExchange),
      Machine.run Exchange.step x events = some y ∧ QueueInv t y := by
  obtain ⟨r, -, hk, rfl⟩ := inv.complete_spec hstep
  have rings := inv.rings
  have hlength := inv.length_le
  have hheld : 1 ≤ x.held.length := List.length_pos_of_mem (List.mem_of_getElem? hk)
  have hcount := rings.history.length
  -- the slot that the device writes is that of the next answer
  have hslot : (vr16 s.vq.modern s.vq.used.idx).toNat % s.vq.num.toNat =
      (x.collected.length + (x.finished.map fun answer =>
        (answer.1.head.toUInt32, answer.2)).length) % s.vq.num.toNat := by
    rw [rings.usedIdx, inv.slot_eq, List.length_map, hcount]
  -- on the abstract side: one request moves from the held ones to the finished ones
  have hanswer : Exchange.step x (.answer k len) =
      some
        { x with
          held := x.held.eraseIdx k
          finished := x.finished ++ [(r, len)]
          completed := x.completed ++ [(r, len)] } := by
    simp [Exchange.step, hk]
  refine ⟨[.answer k len], _, by rw [Machine.run, hanswer]; rfl, ?_,
    ⟨rings.history.step hanswer, ?_, ?_, ?_, rings.lastUsedIdx, ?_, ?_, ?_, ?_, ?_,
      rings.returned, ?_⟩, inv.num_dvd⟩
  · exact ⟨inv.desc.num_le, inv.desc.partition, inv.desc.path, inv.desc.cookie, inv.desc.table⟩
  · have herase := List.length_eraseIdx_add_one (List.getElem?_eq_some_iff.mp hk).1
    have h := rings.availIdx
    simp only [Exchange.publishedCount, Exchange.takenCount, List.length_append,
      List.length_singleton] at h ⊢
    rw [h]
    congr 1
    omega
  · have herase := List.length_eraseIdx_add_one (List.getElem?_eq_some_iff.mp hk).1
    have h := rings.lastAvailIdx
    simp only [Exchange.takenCount, List.length_append, List.length_singleton] at h ⊢
    rw [h]
    congr 1
    omega
  · simp only [deviceAnswer, deviceRead16_eq, deviceWrite16_eq, vr16_vr16, UInt16.toNat_add,
      rings.usedIdx, UInt16.toNat_one, List.length_append, List.length_singleton]
    omega
  · have herase := List.length_eraseIdx_add_one (List.getElem?_eq_some_iff.mp hk).1
    have htaken : ({ x with
        held := x.held.eraseIdx k
        finished := x.finished ++ [(r, len)]
        completed := x.completed ++ [(r, len)] } : RequestExchange).takenCount =
          x.takenCount := by
      simp only [Exchange.takenCount, List.length_append, List.length_singleton]
      omega
    rw [htaken]
    exact rings.avail
  · -- the used ring: one entry more in its window
    have hpush := rings.used.push (x := (r.head.toUInt32, len))
      (by rw [List.length_map]; omega)
    rw [← hslot] at hpush
    simp only [deviceAnswer, deviceRead16_eq, deviceWrite32_eq, List.map_append, List.map_cons,
      List.map_nil]
    convert hpush using 1
    funext slot
    simp only [Function.update_apply]
    split <;> simp
  · simp only [rings.held, List.eraseIdx_map]
  · -- the outstanding requests are the same, in another order
    refine rings.outstanding.trans ?_
    simp only [Exchange.outstanding, List.map_append, List.map_cons, List.map_nil]
    exact (List.perm_append_left_iff _).mpr (Exchange.answer_perm hk).symm
  · simp [rings.completed]
  · have hperm := (Exchange.requests_step hanswer).map Request.serial
    rw [List.append_nil] at hperm
    exact hperm.trans rings.serials

/-! ## Steps and runs -/

theorem step (inv : QueueInv s x) {action : QueueAction} (hstep : s.step action = some t) :
    ∃ (events : List (Exchange.Event Request UInt32)) (y : RequestExchange),
      Machine.run Exchange.step x events = some y ∧ QueueInv t y := by
  cases action with
  | add sg cookie env =>
      obtain rfl := Option.some.inj hstep
      exact inv.add sg cookie env
  | get =>
      obtain rfl := Option.some.inj hstep
      exact inv.get
  | fetch => exact inv.fetch hstep
  | complete k len => exact inv.complete hstep

end QueueInv

/-! ## Every run -/

/-- The queue sizes of the split ring: powers of two up to 32768. -/
def ValidQueueSize (queueSize : UInt32) : Prop :=
  ∃ e ≤ 15, queueSize.toNat = 2 ^ e

theorem ValidQueueSize.le {queueSize : UInt32} (h : ValidQueueSize queueSize) :
    queueSize.toNat ≤ 32768 := by
  obtain ⟨e, he, heq⟩ := h
  rw [heq]
  exact Nat.pow_le_pow_right (by norm_num) he

theorem ValidQueueSize.dvd {queueSize : UInt32} (h : ValidQueueSize queueSize) :
    queueSize.toNat ∣ 65536 := by
  obtain ⟨e, he, heq⟩ := h
  rw [heq, show 65536 = 2 ^ 16 by norm_num]
  exact pow_dvd_pow 2 (by omega)

theorem QueueInv.initial {queueSize : UInt32} (hsize : ValidQueueSize queueSize)
    (modern useEventIdx useIndirect : Bool) :
    QueueInv (Queue.initial queueSize modern useEventIdx useIndirect) Exchange.initial where
  desc := DescInv.initial hsize.le modern useEventIdx useIndirect
  rings := by
    refine ⟨Exchange.History.initial, ?_, ?_, ?_, rfl, Window.nil, Window.nil, rfl,
      List.Perm.refl _, rfl, rfl, List.Perm.refl _⟩ <;>
    simp [Queue.initial, virtQueueAllocate, Exchange.publishedCount, Exchange.takenCount,
      Exchange.initial]
  num_dvd := hsize.dvd

/-- A state that a queue of size `queueSize` reaches from set-up. -/
def Queue.ReachableFrom (queueSize : UInt32) (modern useEventIdx useIndirect : Bool) (s : Queue) :
    Prop :=
  ∃ actions, Machine.run Queue.step (Queue.initial queueSize modern useEventIdx useIndirect)
    actions = some s

/-- Every reachable state refines a state that the exchange reaches. -/
theorem Queue.ReachableFrom.exists_inv {queueSize : UInt32} (hsize : ValidQueueSize queueSize)
    {modern useEventIdx useIndirect : Bool} {s : Queue}
    (h : s.ReachableFrom queueSize modern useEventIdx useIndirect) :
    ∃ events x, Machine.run Exchange.step Exchange.initial events = some x ∧ QueueInv s x := by
  obtain ⟨actions, hrun⟩ := h
  exact Machine.run_simulation (fun _ _ _ _ inv hstep => inv.step hstep)
    (QueueInv.initial hsize modern useEventIdx useIndirect) hrun

end VirtIOGPU
