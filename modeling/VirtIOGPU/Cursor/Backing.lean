import VirtIOGPU.Card.Virgl
import VirtIOGPU.Commands.Backing
import VirtIOGPU.Lib.Machine
import VirtIOGPU.Lib.Scatter

/-!
# Creating the cursor again after a failure

`chip_CursorCreate` is called for every pointer image until it succeeds.  Here it runs with the
entries of its DMA list, and the host keeps the backing that it has read from the command.

Two paths break what a later call, or the transfer of the pixels, builds on.  When the backing is
refused, the resource stays on the host, and the next `RESOURCE_CREATE_2D` of its id is refused;
and the command names one entry however many there are.  Every other path gives back what it took
(`cursor_retryable_iff`).

## Strategy

The model is the `chip_CursorCreate` of `Card.Virgl` with the backings added; forgetting these gives
it back, result and card (`chipCursorCreate_follows`).  `CreateOutcome` lists what one call leaves.

```text
outcome    when                          ledger       host                  backing
failed     before the create command,    as before    as before             as before
           or refused by it
unbacked   ATTACH_BACKING is refused     -            resource 2 is live    none
created    all succeed                   buffer kept  resource 2 is live    the first entry
```

A later call starts from one of these (`Sound`).  After `unbacked` it cannot succeed, and `created`
covers the buffer exactly if the first entry does; hence the condition `BacksWhole`.
-/

namespace VirtIOGPU.Cursor

open Lib Lib.Hoare Lib.Machine Lib.Scatter
open Card (Driver GpuState GpuAnswer Host)

/-! ## State -/

structure BackedCard where
  card : Card.CardState
  /-- The memory entries that the host was given last for each resource. -/
  backing : UInt32 → List BackingEntry
  /-- What `GetDMAList` gave for the cursor's buffer; for statements only. -/
  cursorMap : List BackingEntry
  /-- `gs->cursor_phys`. -/
  cursorPhys : UInt32

abbrev BackedDriver := StateM BackedCard

def onCard {α : Type} (m : Driver α) : BackedDriver α :=
  modifyGet fun b => ((m b.card).1, { b with card := (m b.card).2 })

/-- The answers to one call of `chip_CursorCreate`.  A command that fails has had no effect on
the host. -/
structure CursorCall where
  mem : Bool
  /-- The list that `GetDMAList` fills in; `StartDMA` fails where it is empty. -/
  dma : DmaList
  list : Bool
  create : Bool
  attach : Bool

def answerOf (ok : Bool) : GpuAnswer := if ok then .done else .refused

/-- The call as the card without backings sees it. -/
def CursorCall.env (call : CursorCall) : Card.CursorEnv where
  mem := call.mem
  count := call.dma.count
  list := call.list
  create := answerOf call.create
  attach := answerOf call.attach

/-! ## `chip_CursorCreate` -/

def getDmaList (dma : DmaList) : BackedDriver Unit :=
  modify fun b =>
    { b with
      cursorMap := dma.entries.map DmaEntry.memory
      cursorPhys := (dma.entries.headD ⟨0, 0⟩).physicalAddress }

/-- A resource is created without a backing. -/
def createResource (id : UInt32) (ok : Bool) : BackedDriver Bool := do
  let created ← onCard (Card.chipResourceCreate2D id Card.formatB8G8R8A8 64 64 (answerOf ok))
  if created then
    modify fun b => { b with backing := Function.update b.backing id [] }
  return created

/-- The first `count` entries, as the `dma_count` argument of a command names them. -/
def firstEntries (dma : DmaList) (count : ℕ) : DmaList :=
  ⟨dma.entries.take count, (List.length_take_le' ..).trans_lt dma.length_lt⟩

/-- `RESOURCE_ATTACH_BACKING`; the host takes the entries from the bytes of the command. -/
def attachBacking (id : UInt32) (dma : DmaList) (ok : Bool) : BackedDriver Bool :=
  let sent := (chipResourceAttachBacking id dma acceptingDevice).sent
  match ok, sent.bind readAttachBacking with
  | true, some (resource, entries) => do
      modify fun b =>
        { b with backing := Function.update b.backing (UInt32.ofNat resource) entries }
      return true
  | _, _ => return false

def chipCursorCreate (gs : GpuState) (call : CursorCall) : BackedDriver (Bool × GpuState) := do
  if gs.cursorCreated then
    return (true, gs)
  if gs.cursorq = none then
    return (false, gs)
  let mem ← onCard (Card.allocVec Card.cursorSize call.mem)
  let gs := gs.withCursorMem mem
  if mem = 0 then
    return (false, gs)
  let n ← onCard (Card.startDma gs.cursorMem Card.cursorSize call.dma.count)
  if n = 0 then
    onCard (Card.freeVec gs.cursorMem)
    return (false, gs.withCursorMem 0)
  let dma ← onCard (Card.allocDmaList call.list)
  if dma = 0 then
    onCard (Card.endDma gs.cursorMem Card.cursorSize)
    onCard (Card.freeVec gs.cursorMem)
    return (false, gs.withCursorMem 0)
  getDmaList call.dma
  let gs := gs.withCursorId
  let created ← createResource gs.cursorResourceId call.create
  if !created then
    onCard (Card.failCursor gs dma)
  else
    -- the count is 1, not `n`
    let attached ← attachBacking gs.cursorResourceId (firstEntries call.dma 1) call.attach
    if !attached then
      onCard (Card.failCursor gs dma)
    else
      onCard (Card.freeDmaList dma)
      return (true, gs.withCursorCreated)

/-! ## Calls in a row -/

/-- One call, with what it returns. -/
def attempt (call : CursorCall) (b : BackedCard) : Bool × BackedCard :=
  match b.card.gs with
  | none => (false, b)
  | some gs =>
      let ((ok, gs'), b') := chipCursorCreate gs call b
      (ok, { b' with card := { b'.card with gs := some gs' } })

def attemptStep (b : BackedCard) (call : CursorCall) : Option BackedCard := some (attempt call b).2

/-- The backing of the cursor resource stands for all bytes of the buffer. -/
def BackedCard.Covered (b : BackedCard) : Prop :=
  FindsAll BackingEntry.length (b.backing 2) b.cursorMap Card.cursorSize.toNat

/-- A call that was made in `b` and came out as `r`: after a failure everything that it acquired
has been released, each thing once, and the host is as it was, without a resource of this id; after
a success the backing is complete. -/
structure Retryable (b : BackedCard) (r : Bool × BackedCard) : Prop where
  released : r.1 = false → ∀ held, b.card.sys.Holds held → r.2.card.sys.Holds held
  host : r.1 = false →
    r.2.card.host = b.card.host ∧ r.2.backing = b.backing ∧ ¬ r.2.card.host.Live 2
  covered : r.1 = true → r.2.Covered

/-- The call gets as far as a resource on the host. -/
def MakesResource (gs : GpuState) (call : CursorCall) : Prop :=
  gs.cursorCreated = false ∧ gs.cursorq ≠ none ∧ call.mem = true ∧ call.dma.count ≠ 0 ∧
    call.list = true ∧ call.create = true

/-- A call that gets as far as a resource gets it backed, and the first DMA entry holds the whole
buffer. -/
def BacksWhole (b : BackedCard) (call : CursorCall) : Prop :=
  ∀ gs ∈ b.card.gs, MakesResource gs call →
    call.attach = true ∧
      ∀ entry ∈ call.dma.entries.head?, Card.cursorSize.toNat ≤ entry.blockLength.toNat

/-! ## The card without backings -/

section Follows

variable {α β : Type} {m : BackedDriver α} {m' : Driver α}

/-- The program does to the card what `m'` does, with the same result. -/
def Follows (m : BackedDriver α) (m' : Driver α) : Prop :=
  ∀ b, (m b).1 = (m' b.card).1 ∧ (m b).2.card = (m' b.card).2

theorem Follows.onCard (m : Driver α) : Follows (onCard m) m := fun _ => ⟨rfl, rfl⟩

theorem Follows.ret (a : α) : Follows (pure a) (pure a) := fun _ => ⟨rfl, rfl⟩

theorem Follows.bind {k : α → BackedDriver β} {k' : α → Driver β} (hm : Follows m m')
    (hk : ∀ a, Follows (k a) (k' a)) : Follows (m >>= k) (m' >>= k') := by
  intro b
  obtain ⟨hresult, hcard⟩ := hm b
  have hrest := hk (m b).1 (m b).2
  rw [hresult, hcard] at hrest
  change (k (m b).1 (m b).2).1 = _ ∧ (k (m b).1 (m b).2).2.card = _
  rw [hresult]
  exact hrest

theorem Follows.ite {c : Prop} [Decidable c] {n : BackedDriver α} {n' : Driver α}
    (hm : Follows m m') (hn : Follows n n') :
    Follows (if c then m else n) (if c then m' else n') := by
  by_cases hc : c
  · rw [if_pos hc, if_pos hc]
    exact hm
  · rw [if_neg hc, if_neg hc]
    exact hn

/-- A step that the card does not see. -/
theorem Follows.getDmaList (dma : DmaList) {k : Unit → BackedDriver β} {k' : Driver β}
    (hk : Follows (k ()) k') : Follows (getDmaList dma >>= k) k' := by
  intro b
  exact hk (Cursor.getDmaList dma b).2

theorem createResource_follows (id : UInt32) (ok : Bool) :
    Follows (createResource id ok)
      (Card.chipResourceCreate2D id Card.formatB8G8R8A8 64 64 (answerOf ok)) := by
  intro b
  cases ok with
  | false => exact ⟨rfl, rfl⟩
  | true => exact ⟨rfl, rfl⟩

theorem attachBacking_follows (id : UInt32) (dma : DmaList) (ok : Bool) :
    Follows (attachBacking id dma ok) (Card.chipResourceAttachBacking (answerOf ok)) := by
  intro b
  unfold attachBacking
  simp only [attachBacking_sent]
  cases ok with
  | false => exact ⟨rfl, rfl⟩
  | true => exact ⟨rfl, rfl⟩

/-- With the backings forgotten it is the function of the card. -/
theorem chipCursorCreate_follows (gs : GpuState) (call : CursorCall) :
    Follows (chipCursorCreate gs call) (Card.chipCursorCreate gs call.env) := by
  unfold chipCursorCreate Card.chipCursorCreate
  refine .ite (.ret _) (.ite (.ret _) (.bind (.onCard _) fun mem => ?_))
  refine .ite (.ret _) (.bind (.onCard _) fun n => ?_)
  refine .ite (.bind (.onCard _) fun _ => .ret _) (.bind (.onCard _) fun dma => ?_)
  refine .ite (.bind (.onCard _) fun _ => .bind (.onCard _) fun _ => .ret _) ?_
  refine .getDmaList _ ?_
  refine .bind (createResource_follows _ _) fun created => ?_
  refine .ite (.onCard _) (.bind (attachBacking_follows _ _ _) fun attached => ?_)
  exact .ite (.onCard _) (.bind (.onCard _) fun _ => .ret _)

end Follows

/-! ## The parts of a call -/

/-- What a call can leave behind: on the ledger, on the host and of the backings. -/
structure Standing where
  sys : Ledger Card.Resource
  host : Host
  backing : UInt32 → List BackingEntry
  cursorMap : List BackingEntry

def BackedCard.standing (b : BackedCard) : Standing :=
  ⟨b.card.sys, b.card.host, b.backing, b.cursorMap⟩

abbrev Stands (s : Standing) (b : BackedCard) : Prop := b.standing = s

def Standing.acquire (s : Standing) (resource : Card.Resource) : Standing :=
  { s with sys := s.sys.acquire resource }

/-- The cursor resource has been created, and has no backing. -/
def Standing.create (s : Standing) : Standing :=
  { s with
    host := s.host.create 2 (.classic2D Card.formatB8G8R8A8 64 64)
    backing := Function.update s.backing 2 [] }

variable {s : Standing} {gs : GpuState} {call : CursorCall} {b : BackedCard}

theorem obtain_stands (resource : ℕ → Card.Resource) (ok : Bool) :
    Triple (Stands s) (onCard (Card.obtain resource ok)) fun n b =>
      (n ≠ 0 ↔ ok = true) ∧ Stands (if n = 0 then s else s.acquire (resource n)) b := by
  rintro b rfl
  cases ok with
  | false => exact ⟨iff_of_false (fun h => h rfl) Bool.false_ne_true, rfl⟩
  | true => exact ⟨iff_of_true (Nat.succ_ne_zero _) rfl, (if_neg (Nat.succ_ne_zero _)).symm⟩

theorem allocVec_stands (size : UInt32) (ok : Bool) :
    Triple (Stands s) (onCard (Card.allocVec size ok)) fun n b =>
      (n ≠ 0 ↔ ok = true) ∧ Stands (if n = 0 then s else s.acquire (.block n)) b := by
  rintro b rfl
  cases ok with
  | false => exact ⟨iff_of_false (fun h => h rfl) Bool.false_ne_true, rfl⟩
  | true => exact ⟨iff_of_true (Nat.succ_ne_zero _) rfl, (if_neg (Nat.succ_ne_zero _)).symm⟩

theorem startDma_stands (mem : ℕ) (size count : UInt32) :
    Triple (Stands s) (onCard (Card.startDma mem size count)) fun n b =>
      n = count ∧ Stands (if n = 0 then s else s.acquire (.dma mem size)) b := by
  rintro b rfl
  by_cases hcount : count = 0
  · subst hcount
    exact ⟨rfl, rfl⟩
  · have hrun : onCard (Card.startDma mem size count) b =
        (count, { b with card := { b.card with sys := b.card.sys.acquire (.dma mem size) } }) := by
      unfold Card.startDma Lib.Hoare.onlyIf
      rw [if_pos hcount]
      rfl
    rw [hrun, if_neg hcount]
    exact ⟨rfl, rfl⟩

theorem giveBack_stands (resource : Card.Resource) :
    Triple (Stands (s.acquire resource)) (onCard (Card.giveBack resource)) fun _ => Stands s := by
  intro b hb
  calc
    (onCard (Card.giveBack resource) b).2.standing
        = { b.standing with sys := b.standing.sys.release resource } := rfl
    _ = { s.acquire resource with sys := (s.sys.acquire resource).release resource } := by
      rw [hb]
      rfl
    _ = s := by
      rw [Ledger.release_acquire]
      rfl

/-- The cleanup of the last two failures gives back what has been acquired by then. -/
theorem failCursor_stands (gs : GpuState) (dma : ℕ) :
    Triple
      (Stands (((s.acquire (.block gs.cursorMem)).acquire
        (.dma gs.cursorMem Card.cursorSize)).acquire (.dmaList dma)))
      (onCard (Card.failCursor gs dma)) fun r b =>
        r = (false, gs.withCursorMem 0) ∧ Stands s b := by
  intro b hb
  have hlist := giveBack_stands (.dmaList dma) b hb
  have hdma := giveBack_stands (.dma gs.cursorMem Card.cursorSize) _ hlist
  have hblock := giveBack_stands (.block gs.cursorMem) _ hdma
  exact ⟨rfl, hblock⟩

theorem createResource_stands (ok : Bool) :
    Triple (Stands s) (createResource 2 ok) fun created b =>
      created = ok ∧ Stands (if ok then s.create else s) b := by
  rintro b rfl
  cases ok with
  | false => exact ⟨rfl, rfl⟩
  | true => exact ⟨rfl, rfl⟩

/-- The host gets the entries that the command names. -/
theorem attachBacking_stands (dma : DmaList) (ok : Bool) (hshort : dma.entries.length ≤ 254) :
    Triple (Stands s) (attachBacking 2 dma ok) fun attached b =>
      attached = ok ∧ Stands (if ok then { s with
        backing := Function.update s.backing 2 (dma.entries.map DmaEntry.memory) } else s) b := by
  rintro b rfl
  have hsent := attachBacking_sent 2 dma acceptingDevice
  rw [List.take_of_length_le hshort] at hsent
  unfold attachBacking
  simp only [hsent]
  cases ok with
  | false => exact ⟨rfl, rfl⟩
  | true => exact ⟨rfl, rfl⟩

/-! ## One call -/

/-- How a call comes out for a cursor that does not exist; the last case is the only success. -/
inductive CreateOutcome (gs : GpuState) (call : CursorCall) (s : Standing) :
    Bool × GpuState → Standing → Prop where
  | failed {gs' : GpuState} {map : List BackingEntry} (hmakes : ¬ MakesResource gs call)
      (hcreated : gs'.cursorCreated = false) :
      CreateOutcome gs call s (false, gs') { s with cursorMap := map }
  | unbacked {gs' : GpuState} {s' : Standing} (hmakes : MakesResource gs call)
      (hrefused : call.attach = false) (hhost : s'.host = s.create.host) :
      CreateOutcome gs call s (false, gs') s'
  | created {gs' : GpuState} {s' : Standing} (hmakes : MakesResource gs call)
      (hattach : call.attach = true) (hcreated : gs'.cursorCreated = true)
      (hbacking : s'.backing 2 = (call.dma.entries.take 1).map DmaEntry.memory)
      (hmap : s'.cursorMap = call.dma.entries.map DmaEntry.memory) :
      CreateOutcome gs call s (true, gs') s'

theorem getDmaList_stands (dma : DmaList) :
    Triple (Stands s) (getDmaList dma) fun _ =>
      Stands { s with cursorMap := dma.entries.map DmaEntry.memory } := by
  rintro b rfl
  rfl

/-- Early failures, after which nothing is left. -/
theorem CreateOutcome.early {gs' : GpuState} (hcreated : gs'.cursorCreated = false)
    (hmakes : ¬ MakesResource gs call) :
    Triple (Stands s) (pure (false, gs')) fun r b => CreateOutcome gs call s r b.standing := by
  rintro b rfl
  exact .failed hmakes hcreated

theorem chipCursorCreate_cases (call : CursorCall) (hnew : gs.cursorCreated = false) :
    Triple (Stands s) (chipCursorCreate gs call) fun r b =>
      CreateOutcome gs call s r b.standing := by
  unfold chipCursorCreate
  refine Triple.ite (fun hcreated => absurd hcreated (by simp [hnew])) fun _ => ?_
  refine Triple.ite (fun hqueue => .early hnew fun h => h.2.1 hqueue) fun hqueue => ?_
  -- memory, pages and list: up to here a failure leaves nothing on the host
  refine Triple.bind (allocVec_stands _ _) fun mem => Triple.fact fun hmem => ?_
  refine Triple.ite (fun hnull => ?_) fun hnull => ?_
  · rw [if_pos hnull]
    exact .early hnew fun h => hmem.mpr h.2.2.1 hnull
  rw [if_neg hnull]
  refine Triple.bind (startDma_stands _ _ _) fun n => Triple.fact fun hn => ?_
  subst hn
  refine Triple.ite (fun hcount => ?_) fun hcount => ?_
  · rw [if_pos hcount]
    exact Triple.bind (giveBack_stands _) fun _ => .early hnew fun h => h.2.2.2.1 hcount
  rw [if_neg hcount]
  refine Triple.bind (obtain_stands _ _) fun dma => Triple.fact fun hdma => ?_
  refine Triple.ite (fun hlist => ?_) fun hlist => ?_
  · rw [if_pos hlist]
    exact Triple.bind (giveBack_stands _) fun _ => Triple.bind (giveBack_stands _) fun _ =>
      .early hnew fun h => hdma.mpr h.2.2.2.2.1 hlist
  rw [if_neg hlist]
  refine Triple.bind (getDmaList_stands _) fun _ => ?_
  refine Triple.bind (createResource_stands _) fun created => Triple.fact fun hcreate => ?_
  subst hcreate
  refine Triple.ite (fun hrefused => ?_) fun hcreated => ?_
  · -- the resource is refused
    have hcreate : call.create = false := by simpa using hrefused
    rw [if_neg (by simp [hcreate])]
    intro b hb
    obtain ⟨hr, hb'⟩ := failCursor_stands (s := { s with
      cursorMap := call.dma.entries.map DmaEntry.memory })
      (gs.withCursorMem mem).withCursorId dma b hb
    rw [hr, hb']
    exact .failed (fun h => absurd h.2.2.2.2.2 (by simp [hcreate])) hnew
  have hmakes : MakesResource gs call :=
    ⟨hnew, hqueue, hmem.mp hnull, hcount, hdma.mp hlist, by simpa using hcreated⟩
  rw [if_pos hmakes.2.2.2.2.2]
  refine Triple.bind (attachBacking_stands _ _ ?_) fun attached => Triple.fact fun hattach => ?_
  · exact (List.length_take_le 1 _).trans (by decide)
  subst hattach
  refine Triple.ite (fun hrefused => ?_) fun hattached => ?_
  · -- the backing is refused, and the cleanup leaves the resource on the host
    have hattach : call.attach = false := by simpa using hrefused
    rw [if_neg (by simp [hattach])]
    intro b hb
    obtain ⟨hr, hb'⟩ := failCursor_stands (s := { s.create with
      cursorMap := call.dma.entries.map DmaEntry.memory })
      (gs.withCursorMem mem).withCursorId dma b hb
    rw [hr, hb']
    exact .unbacked hmakes hattach rfl
  · -- the cursor is there, with the first entry as its backing
    have hattach : call.attach = true := by simpa using hattached
    rw [if_pos hattach]
    intro b hb
    have hb' := giveBack_stands (s := { s.create with
      sys := (s.sys.acquire (.block mem)).acquire (.dma mem Card.cursorSize)
      backing := Function.update s.create.backing 2
        ((firstEntries call.dma 1).entries.map DmaEntry.memory)
      cursorMap := call.dma.entries.map DmaEntry.memory }) (.dmaList dma) b hb
    refine .created hmakes hattach rfl ?_ ?_
    · exact (congrArg (fun s => s.backing 2) hb').trans
        (Function.update_self (β := fun _ => List BackingEntry) 2 _ s.create.backing)
    · exact congrArg Standing.cursorMap hb'

/-! ## Runs -/

/-- Before the cursor is created its id is free, and afterwards its backing is complete. -/
def Sound (b : BackedCard) : Prop :=
  ∃ gs, b.card.gs = some gs ∧ if gs.cursorCreated then b.Covered else ¬ b.card.host.Live 2

theorem attempt_created (call : CursorCall) (hgs : b.card.gs = some gs)
    (hcreated : gs.cursorCreated = true) :
    attempt call b = (true, b) := by
  have hrun : chipCursorCreate gs call b = ((true, gs), b) := by
    unfold chipCursorCreate
    rw [if_pos hcreated]
    rfl
  have hb : { b with card := { b.card with gs := some gs } } = b := by rw [← hgs]
  unfold attempt
  rw [hgs]
  simp only [hrun, hb]

theorem attempt_outcome (call : CursorCall) (hgs : b.card.gs = some gs)
    (hnew : gs.cursorCreated = false) :
    ∃ gs', (attempt call b).2.card.gs = some gs' ∧
      CreateOutcome gs call b.standing ((attempt call b).1, gs') (attempt call b).2.standing := by
  have hcases := chipCursorCreate_cases call hnew b rfl
  unfold attempt
  rw [hgs]
  exact ⟨_, rfl, hcases⟩

/-- One entry is the backing of the whole buffer if it has all its bytes. -/
theorem findsAll_first_iff {dma : DmaList} (hcount : dma.count ≠ 0) (n : ℕ) :
    FindsAll BackingEntry.length ((dma.entries.take 1).map DmaEntry.memory)
        (dma.entries.map DmaEntry.memory) n ↔
      ∀ entry ∈ dma.entries.head?, n ≤ entry.blockLength.toNat := by
  rw [List.map_take, findsAll_take_iff]
  cases hentries : dma.entries with
  | nil => exact absurd (by rw [DmaList.count, hentries]; rfl) hcount
  | cons entry rest => simp [DmaEntry.memory]

theorem BackedCard.covered_iff {b : BackedCard} {dma : DmaList} (hcount : dma.count ≠ 0)
    (hbacking : b.backing 2 = (dma.entries.take 1).map DmaEntry.memory)
    (hmap : b.cursorMap = dma.entries.map DmaEntry.memory) :
    b.Covered ↔
      ∀ entry ∈ dma.entries.head?, Card.cursorSize.toNat ≤ entry.blockLength.toNat := by
  rw [BackedCard.Covered, hbacking, hmap]
  exact findsAll_first_iff hcount _

theorem CreateOutcome.retryable_iff {gs' : GpuState} {r : Bool × BackedCard}
    (h : CreateOutcome gs call b.standing (r.1, gs') r.2.standing) (hfree : ¬ b.card.host.Live 2) :
    Retryable b r ↔ (MakesResource gs call → call.attach = true ∧
      ∀ entry ∈ call.dma.entries.head?, Card.cursorSize.toNat ≤ entry.blockLength.toNat) := by
  obtain ⟨ok, b'⟩ := r
  generalize hstanding : b'.standing = s' at h
  cases h with
  | failed hmakes hcreated =>
      have hsys : b'.card.sys = b.card.sys := congrArg Standing.sys hstanding
      have hhost : b'.card.host = b.card.host := congrArg Standing.host hstanding
      have hbacking : b'.backing = b.backing := congrArg Standing.backing hstanding
      refine iff_of_true ⟨fun _ held hheld => ?_, fun _ => ⟨hhost, hbacking, ?_⟩, fun h => ?_⟩
        fun h => absurd h hmakes
      · exact hsys ▸ hheld
      · rw [hhost]
        exact hfree
      · exact absurd h Bool.false_ne_true
  | unbacked hmakes hrefused hhost =>
      -- the resource is there
      have hlive : b'.card.host.Live 2 := by
        have hhost' : b'.card.host = b.standing.create.host :=
          (congrArg Standing.host hstanding).trans hhost
        rw [hhost']
        simp [Host.Live, Standing.create, Host.create]
      refine iff_of_false (fun h => (h.host rfl).2.2 hlive) fun h => ?_
      rw [hrefused] at h
      exact absurd (h hmakes).1 Bool.false_ne_true
  | created hmakes hattach hcreated hbacking hmap =>
      have hcovered : b'.Covered ↔ _ := BackedCard.covered_iff hmakes.2.2.2.1
        ((congrArg (fun s => s.backing 2) hstanding).trans hbacking)
        ((congrArg Standing.cursorMap hstanding).trans hmap)
      constructor
      · exact fun h _ => ⟨hattach, hcovered.mp (h.covered rfl)⟩
      · intro h
        refine ⟨fun hfalse => ?_, fun hfalse => ?_, fun _ => hcovered.mpr (h hmakes).2⟩
        · exact absurd hfalse.symm Bool.false_ne_true
        · exact absurd hfalse.symm Bool.false_ne_true

theorem backsWhole_iff (hgs : b.card.gs = some gs) :
    BacksWhole b call ↔ (MakesResource gs call → call.attach = true ∧
      ∀ entry ∈ call.dma.entries.head?, Card.cursorSize.toNat ≤ entry.blockLength.toNat) := by
  unfold BacksWhole
  rw [hgs]
  exact ⟨fun h => h gs rfl, fun h gs' hgs' => Option.some.inj hgs' ▸ h⟩

theorem Sound.attempt_iff (h : Sound b) (call : CursorCall) :
    BacksWhole b call ↔ Retryable b (attempt call b) := by
  obtain ⟨gs, hgs, hstate⟩ := h
  rw [backsWhole_iff hgs]
  by_cases hcreated : gs.cursorCreated = true
  · rw [if_pos hcreated] at hstate
    have hnone : ¬ MakesResource gs call := fun hmakes => by simp [hmakes.1] at hcreated
    rw [attempt_created call hgs hcreated]
    -- the call returns at once
    refine iff_of_true (fun hmakes => absurd hmakes hnone)
      ⟨fun h => ?_, fun h => ?_, fun _ => hstate⟩
    · exact absurd h.symm Bool.false_ne_true
    · exact absurd h.symm Bool.false_ne_true
  · rw [if_neg hcreated] at hstate
    obtain ⟨gs', -, houtcome⟩ := attempt_outcome call hgs (by simpa using hcreated)
    exact (houtcome.retryable_iff hstate).symm

/-- A call that keeps to the condition leaves a sound state. -/
theorem Sound.attempt (h : Sound b) {call : CursorCall} (hwhole : BacksWhole b call) :
    Sound (attempt call b).2 := by
  have hretryable := (h.attempt_iff call).mp hwhole
  obtain ⟨gs, hgs, hstate⟩ := h
  by_cases hcreated : gs.cursorCreated = true
  · rw [attempt_created call hgs hcreated]
    exact ⟨gs, hgs, hstate⟩
  · rw [if_neg hcreated] at hstate
    obtain ⟨gs', hgs', houtcome⟩ := attempt_outcome call hgs (by simpa using hcreated)
    refine ⟨gs', hgs', ?_⟩
    generalize Cursor.attempt call b = r at *
    obtain ⟨ok, b'⟩ := r
    generalize b'.standing = s' at houtcome
    cases houtcome with
    | failed hmakes hcreated =>
        rw [if_neg (by simp [hcreated])]
        exact (hretryable.host rfl).2.2
    | unbacked hmakes hrefused hhost =>
        -- the condition excludes this
        have hattach := ((backsWhole_iff hgs).mp hwhole hmakes).1
        rw [hrefused] at hattach
        exact absurd hattach Bool.false_ne_true
    | created hmakes hattach hcreated hbacking hmap =>
        rw [if_pos hcreated]
        exact hretryable.covered rfl

/-- In every run of calls, with any failures and any DMA lists, each call can be made again after a
failure and has a complete backing after a success, if and only if each call that gets as far as a
resource gets it backed and finds the whole buffer in its first DMA entry. -/
theorem cursor_retryable_iff (hgs : b.card.gs = some gs) (hnew : gs.cursorCreated = false)
    (hfree : ¬ b.card.host.Live 2) (calls : List CursorCall) :
    Within attemptStep BacksWhole b calls ↔
      Within attemptStep (fun b call => Retryable b (attempt call b)) b calls := by
  have hsound : Sound b := ⟨gs, hgs, by rwa [if_neg (by simp [hnew])]⟩
  refine within_congr (fun b call hb => hb.attempt_iff call) (fun b call t hb hwhole hstep => ?_)
    calls hsound
  obtain rfl := Option.some.inj hstep
  exact hb.attempt hwhole

/-! ### Concrete calls -/

/-- A card with a cursor queue on which nothing has been created. -/
def waiting : BackedCard where
  card :=
    { Card.CardState.start with
      gs := some { self := 1, cursorq := some ⟨2, 3, 4096, 4, 5, 1⟩ } }
  backing := fun _ => []
  cursorMap := []
  cursorPhys := 0

/-- Everything is there, and both commands are accepted. -/
def CursorCall.granted (dma : DmaList) : CursorCall := ⟨true, dma, true, true, true⟩

def onePiece : DmaList := ⟨[⟨0x100000, 16384⟩], by decide⟩

def twoPieces : DmaList := ⟨[⟨0x100000, 4096⟩, ⟨0x300000, 12288⟩], by decide⟩

/-- The second call succeeds after the first has found no memory for its DMA list. -/
theorem cursor_retryable_second :
    Within attemptStep (fun b call => Retryable b (attempt call b)) waiting
      [{ CursorCall.granted onePiece with list := false }, .granted onePiece] := by
  have hfree : ¬ waiting.card.host.Live 2 := by
    simp [waiting, Host.Live, Card.CardState.start, Host.reset]
  refine (cursor_retryable_iff rfl rfl hfree _).mp ⟨fun gs _ _ => ⟨rfl, by decide⟩, fun t _ => ?_⟩
  exact ⟨fun gs _ _ => ⟨rfl, by decide⟩, fun _ _ => trivial⟩

/-- When the backing is refused the resource stays; of a buffer in two pieces only the first is
backed. -/
theorem cursor_not_retryable :
    ¬ Within attemptStep (fun b call => Retryable b (attempt call b)) waiting
        [{ CursorCall.granted onePiece with attach := false }] ∧
      ¬ Within attemptStep (fun b call => Retryable b (attempt call b)) waiting
        [.granted twoPieces] := by
  constructor
  · rintro ⟨h, -⟩
    exact (h.host (by decide)).2.2 rfl
  · rintro ⟨h, -⟩
    have hcovered := h.covered (by decide) 4096 (by decide)
    exact hcovered.1 (by decide)

end VirtIOGPU.Cursor
