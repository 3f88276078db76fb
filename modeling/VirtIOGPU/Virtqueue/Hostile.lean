import VirtIOGPU.Virtqueue.DeviceView

/-!
# A used ring with arbitrary content

The driver trusts the used ring but for one check: an id that is not below `num`
is skipped.  Here the content of the used ring changes arbitrarily between the
driver's calls, starting in any state that the queue reaches with a conforming
device.

`hostile_used_ring` says exactly what the check is worth: the calls of
`VirtQueue_GetBuf` are safe as long as every id that they find is out of range or
the head of an outstanding request, and a call that finds any other id is not.

## Strategy

The used ring occurs in `DescInv` nowhere, so a `scribble` of the device keeps the invariant for
nothing, and a run is a matter of the calls alone.  For one call:

```text
the entry found                      the call                        safe
none                                 returns NULL                    yes
id not below num                     skips it                        yes
id is the head of a request          releases that request           yes
any other id below num               releases it as if it were one   no (`getBufSafe_iff`)
```

The chain that the last case walks may be anything, a cycle included.  The call returns all the
same (`releaseChain_fuel`), since each step clears the flag that it has followed.
-/

namespace VirtIOGPU

open Lib

/-- What can happen around a used ring that the driver cannot trust. -/
inductive HostileAction where
  /-- The driver calls `VirtQueue_AddBuf`. -/
  | add (sg : SgArray) (cookie : UInt32) (env : ItblEnv)
  /-- The driver calls `VirtQueue_GetBuf`. -/
  | get
  /-- The used ring changes. -/
  | scribble (used : VringUsed)

def Queue.hostileStep (s : Queue) : HostileAction → Option Queue
  | .add sg cookie env => some (s.add sg cookie env)
  | .get => some s.get
  | .scribble used => some { s with vq := { s.vq with used := used } }

/-- A call of `VirtQueue_GetBuf` that does no damage. -/
structure GetBufSafe (s : Queue) : Prop where
  free_nodup : (freeDescs (virtQueueGetBuf s.vq).vq).Nodup
  numFree_le : (virtQueueGetBuf s.vq).vq.numFree.toNat ≤ s.vq.num.toNat
  /-- Only descriptors of an outstanding request are moved to the free list. -/
  moved : ∀ i ∈ freeDescs (virtQueueGetBuf s.vq).vq, i ∉ freeDescs s.vq →
    ∃ r ∈ s.outstanding, i ∈ r.descs
  /-- An entry that names no outstanding request is skipped. -/
  skipped : ∀ entry, usedEntry s.vq = some entry →
    (∀ r ∈ s.outstanding, r.head.toUInt32 ≠ entry.id) →
      virtQueueGetBuf s.vq = ⟨{ s.vq with lastUsedIdx := s.vq.lastUsedIdx + 1 }, 0, none, []⟩

/-- The entry that `VirtQueue_GetBuf` finds, if any, is out of range or names an
outstanding request. -/
def EntryHarmless (s : Queue) : Prop :=
  ∀ entry, usedEntry s.vq = some entry →
    s.vq.num ≤ entry.id ∨ ∃ r ∈ s.outstanding, r.head.toUInt32 = entry.id

/-- The requirement `P` on the states in which the driver calls `VirtQueue_GetBuf`. -/
def AtGetBuf (P : Queue → Prop) (s : Queue) : HostileAction → Prop
  | .get => P s
  | _ => True

/-! ## One call -/

/-- An id below `num` is never skipped. -/
theorem getBuf_lenOut {vq : Virtqueue} {entry : VringUsedElem} (hentry : usedEntry vq = some entry)
    (hid : ¬ vq.num ≤ entry.id) : (virtQueueGetBuf vq).lenOut = some entry.len := by
  simp [virtQueueGetBuf, hentry, hid]

/-- An id out of range names no outstanding request. -/
theorem DescInv.head_ne_of_num_le {vq : Virtqueue} {outs : List Request} (inv : DescInv vq outs)
    {id : UInt32} (hid : vq.num ≤ id) {r : Request} (hr : r ∈ outs) : r.head.toUInt32 ≠ id := by
  rintro rfl
  have hlt := inv.head_lt hr
  rw [UInt32.le_iff_toNat_le, UInt16.toNat_toUInt32] at hid
  omega

/-- In a state of the invariant, a call is safe exactly when its entry is harmless. -/
theorem DescInv.getBufSafe_iff {s : Queue} (inv : DescInv s.vq s.outstanding) :
    GetBufSafe s ↔ EntryHarmless s := by
  constructor
  · intro safe entry hentry
    by_contra hbad
    rw [not_or] at hbad
    obtain ⟨hid, hnone⟩ := hbad
    -- an id in range that nobody has handed out would be freed all the same
    have hskip := safe.skipped entry hentry fun r hr heq => hnone ⟨r, hr, heq⟩
    have hlen := getBuf_lenOut hentry hid
    rw [hskip] at hlen
    exact absurd hlen (by simp)
  · intro harmless
    cases hentry : usedEntry s.vq with
    | none =>
        have hget := getBuf_of_none hentry
        refine ⟨?_, ?_, ?_, ?_⟩
        · rw [hget]
          exact inv.free_nodup
        · rw [hget]
          exact inv.numFree_le
        · rw [hget]
          exact fun i hi hnot => absurd hi hnot
        · intro entry h
          simp [hentry] at h
    | some entry =>
        -- out of range it is refused; otherwise it is the head of a request
        rcases harmless entry hentry with hid | ⟨r, hr, hid⟩
        · have hget := getBuf_of_num_le hentry hid
          refine ⟨?_, ?_, ?_, ?_⟩
          · rw [hget]
            exact inv.free_nodup
          · rw [hget]
            exact inv.numFree_le
          · rw [hget]
            exact fun i hi hnot => absurd hi hnot
          · exact fun _ _ _ => hget
        · obtain ⟨-, -, -, hfree, inv'⟩ := inv.getBuf_spec hr hentry hid.symm
          refine ⟨inv'.free_nodup, ?_, ?_, ?_⟩
          · have hnum := inv'.numFree_le
            rwa [(getBuf_config s.vq).1] at hnum
          · intro i hi hnot
            rw [hfree, List.mem_append, List.mem_reverse] at hi
            exact ⟨r, hr, hi.resolve_right hnot⟩
          · intro entry' hentry' hnone
            obtain rfl := Option.some.inj (hentry.symm.trans hentry')
            exact absurd hid (hnone r hr)

theorem DescInv.get {s : Queue} (inv : DescInv s.vq s.outstanding) (harmless : EntryHarmless s) :
    DescInv s.get.vq s.get.outstanding := by
  cases hentry : usedEntry s.vq with
  | none => simpa only [Queue.get, hentry, getBuf_of_none hentry] using inv
  | some entry =>
      simp only [Queue.get, hentry]
      rcases harmless entry hentry with hid | ⟨r, hr, hid⟩
      · have hkeep : dropRequest s.outstanding entry.id = s.outstanding := by
          rw [dropRequest, List.filter_eq_self]
          exact fun r hr => decide_eq_true (inv.head_ne_of_num_le hid hr)
        rw [hkeep, getBuf_of_num_le hentry hid]
        exact ⟨inv.num_le, inv.partition, inv.path, inv.cookie, inv.table⟩
      · exact (inv.getBuf_spec hr hentry hid.symm).2.2.2.2

/-! ## Whole runs -/

theorem DescInv.hostileStep {s t : Queue} {action : HostileAction}
    (inv : DescInv s.vq s.outstanding) (hpermitted : AtGetBuf EntryHarmless s action)
    (hstep : s.hostileStep action = some t) : DescInv t.vq t.outstanding := by
  cases action with
  | add sg cookie env =>
      obtain rfl := Option.some.inj hstep
      exact inv.add sg cookie env
  | get =>
      obtain rfl := Option.some.inj hstep
      exact inv.get hpermitted
  | scribble used =>
      obtain rfl := Option.some.inj hstep
      exact ⟨inv.num_le, inv.partition, inv.path, inv.cookie, inv.table⟩

/-- From every reachable state and for every content of the used ring: all calls of
`VirtQueue_GetBuf` are safe if and only if every entry that they find is harmless. -/
theorem hostile_used_ring {queueSize : UInt32} {modern useEventIdx useIndirect : Bool} {s : Queue}
    (hsize : ValidQueueSize queueSize)
    (h : s.ReachableFrom queueSize modern useEventIdx useIndirect)
    (actions : List HostileAction) :
    Machine.Within Queue.hostileStep (AtGetBuf GetBufSafe) s actions ↔
      Machine.Within Queue.hostileStep (AtGetBuf EntryHarmless) s actions := by
  obtain ⟨-, x, -, inv⟩ := h.exists_inv hsize
  have hagree : ∀ t action, DescInv t.vq t.outstanding →
      (AtGetBuf GetBufSafe t action ↔ AtGetBuf EntryHarmless t action) := by
    intro t action inv
    cases action with
    | get => exact inv.getBufSafe_iff
    | _ => exact Iff.rfl
  exact Machine.within_congr (I := fun t => DescInv t.vq t.outstanding) hagree
    (fun t action u inv hsafe hstep => inv.hostileStep ((hagree t action inv).mp hsafe) hstep)
    actions inv.desc

/-- A used entry with an id out of range is skipped. -/
theorem hostile_used_ring_out_of_range :
    Machine.Within Queue.hostileStep (AtGetBuf GetBufSafe) (Queue.initial 4 true false false)
      [.scribble { idx := 256, ring := fun _ => { id := 150994944, len := 0 } }, .get] := by
  refine (hostile_used_ring validQueueSize_four ⟨[], rfl⟩ _).mpr
    ⟨trivial, fun t hstep => ?_⟩
  obtain rfl := Option.some.inj hstep
  refine ⟨fun entry hentry => Or.inl ?_, fun _ _ => trivial⟩
  -- in modern mode the bytes of the entry are the id 9
  obtain rfl := Option.some.inj hentry
  decide

/-- A used entry for descriptor 0 of a fresh queue of four, on which nothing is
outstanding: the free list becomes a loop and counts five descriptors. -/
theorem free_id_accepted :
    let s := Queue.initial 4 false false false
    let used : VringUsed := { idx := 1, ring := fun _ => { id := 0, len := 0 } }
    let vq := (virtQueueGetBuf { s.vq with used := used }).vq
    s.outstanding.length = 0 ∧ vq.num = 4 ∧ vq.numFree = 5 ∧ freeDescs vq = [0, 0, 0, 0, 0] ∧
      ¬ Machine.Within Queue.hostileStep (AtGetBuf GetBufSafe) s [.scribble used, .get] := by
  refine ⟨rfl, rfl, rfl, rfl, fun hwithin => ?_⟩
  have hsafe : GetBufSafe _ := (hwithin.2 _ rfl).1
  exact absurd hsafe.free_nodup (by decide)

end VirtIOGPU
