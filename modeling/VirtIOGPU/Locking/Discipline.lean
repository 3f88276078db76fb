import VirtIOGPU.Locking.Frames

/-!
# What every function does with the lock

A task writes to the buffers, and reads from them, while it holds `io_lock`; when a function
returns, the task holds the lock as often as on entry.  `guarded` says so of one task, and every
function is shown to keep to it on every path (`GpuCall.code_follows`).

A place also notes whether something has been written and the lock has been free since: then the
buffers may be those of another task, and nothing is read.

## Strategy

The programs are typed by what they do with the lock, and each kind is closed under the combinators
that the functions are written with:

```text
kind          starts               ends                      for
Quiet         anywhere             there                     looks and tests
Holding       with the lock        with it, has written      parts of a transaction
GivesBack     with the lock        without it                the end of a wrapper
WrapperBody   outside              outside, has written      the body of a wrapper
Balanced      outside              outside, as before        every function
```

So a function that changes in the source needs its own lemma again and no other.  What a task may
read after its lock has been free is the field `exposed`; a return and a delay clear it.
-/

namespace VirtIOGPU.Locking

open Card Drawing Lib.Mutex
open Virgl (VirglCall UploadRequest)
open Compositing (StreamData)

/-! ## The discipline -/

structure Place where
  depth : ℕ
  /-- The functions that the task is in, the innermost first, each with the depth on entry. -/
  entries : List (LockUser × ℕ)
  /-- A buffer has been written to. -/
  written : Bool
  /-- And after that the lock has been free. -/
  exposed : Bool
  deriving DecidableEq

/-- What has been written does not matter any more after a return, and at a delay. -/
def Place.perform (p : Place) : Event → Option Place
  | .enter f => some { p with entries := (f, p.depth) :: p.entries }
  | .leave f =>
      match p.entries with
      | (g, depth) :: rest =>
          if g = f ∧ depth = p.depth then some ⟨p.depth, rest, false, false⟩ else none
      | [] => none
  | .delay => some (if p.depth = 0 then ⟨p.depth, p.entries, false, false⟩ else p)
  | .clear _ _ | .fill _ _ => if p.depth = 0 then none else some { p with written := true }
  | .await | .load _ _ | .loadByte _ _ _ =>
      if p.depth = 0 ∨ p.exposed = true then none else some p
  | .look _ | .put _ _ | .stage _ | .addBuf _ _ | .notify | .parseEdid | .convert _ _ _
  | .allocResourceId | .allocVec _ | .freeVec | .original => some p

def Place.next (p : Place) : Op Event → Option Place
  | .obtain => some { p with depth := p.depth + 1 }
  | .release =>
      match p.depth with
      | 0 => none
      | depth + 1 =>
          some { p with depth := depth, exposed := p.exposed || (p.written && depth == 0) }
  | .perform e _ => p.perform e

/-- What an event can do to a place. -/
inductive Place.Performed (p : Place) : Event → Place → Prop where
  | enter (f : LockUser) : Performed p (.enter f) { p with entries := (f, p.depth) :: p.entries }
  | leave (f : LockUser) {rest : List (LockUser × ℕ)}
      (hentries : p.entries = (f, p.depth) :: rest) :
      Performed p (.leave f) ⟨p.depth, rest, false, false⟩
  | delay (hfree : p.depth = 0) : Performed p .delay ⟨p.depth, p.entries, false, false⟩
  | write {e : Event} (hwrites : e.Writes) (hheld : p.depth ≠ 0) :
      Performed p e { p with written := true }
  | keep {e : Event} (hcall : ∀ f, e ≠ .enter f ∧ e ≠ .leave f) (hwrites : ¬ e.Writes)
      (hreads : e.Reads → p.exposed = false) : Performed p e p

theorem Place.perform_cases {p p' : Place} {e : Event} (h : p.perform e = some p') :
    p.Performed e p' := by
  cases e with
  | enter f =>
      obtain rfl := Option.some.inj h
      exact .enter f
  | leave f =>
      unfold Place.perform at h
      cases hentries : p.entries with
      | nil => simp [hentries] at h
      | cons entry rest =>
          obtain ⟨g, depth⟩ := entry
          simp only [hentries, Option.ite_none_right_eq_some] at h
          obtain ⟨⟨rfl, rfl⟩, h⟩ := h
          obtain rfl := Option.some.inj h
          exact .leave g hentries
  | delay =>
      obtain rfl := Option.some.inj h
      split
      · rename_i hfree
        exact .delay hfree
      · exact .keep (fun f => ⟨nofun, nofun⟩) not_false False.elim
  | clear buffer i | fill l store =>
      simp only [Place.perform, Option.ite_none_left_eq_some] at h
      obtain rfl := Option.some.inj h.2
      exact .write trivial h.1
  | await | load l f | loadByte l f i =>
      simp only [Place.perform, Option.ite_none_left_eq_some] at h
      obtain rfl := Option.some.inj h.2
      refine .keep (fun f => ⟨nofun, nofun⟩) not_false fun _ => ?_
      exact Bool.eq_false_iff.mpr fun hexposed => h.1 (Or.inr hexposed)
  | look field | put field value | stage i | addBuf readable writable | notify | parseEdid
  | convert mem w h' | allocResourceId | allocVec bytes | freeVec | original =>
      obtain rfl := Option.some.inj h
      exact .keep (fun f => ⟨nofun, nofun⟩) not_false False.elim

theorem Place.perform_depth {p p' : Place} {e : Event} (h : p.perform e = some p') :
    p'.depth = p.depth := by
  cases Place.perform_cases h with
  | enter | leave | delay | write | keep => rfl

theorem Place.next_release {p p' : Place} (h : p.next .release = some p') :
    p.depth = p'.depth + 1 ∧ p'.entries = p.entries ∧ p'.written = p.written ∧
      p'.exposed = (p.exposed || (p.written && p'.depth == 0)) := by
  unfold Place.next at h
  cases hdepth : p.depth with
  | zero => simp [hdepth] at h
  | succ depth =>
      simp only [hdepth] at h
      obtain rfl := Option.some.inj h
      exact ⟨rfl, rfl, rfl, rfl⟩

/-- The rules for `io_lock`. -/
def guarded : Discipline Event Place where
  start := ⟨0, [], false, false⟩
  next := Place.next
  depth := Place.depth
  depth_start := rfl
  depth_obtain h := by
    obtain rfl := Option.some.inj h
    rfl
  depth_release h := (Place.next_release h).1
  depth_perform h := Place.perform_depth h

/-! ## Outside and inside the lock -/

/-- Nothing has been written. -/
def outside (depth : ℕ) (entries : List (LockUser × ℕ)) : Place := ⟨depth, entries, false, false⟩

/-- The transaction is over, and the lock is as deep as before. -/
def Over (depth : ℕ) (entries : List (LockUser × ℕ)) (p : Place) : Prop :=
  ∃ written, p = ⟨depth, entries, written, written && depth == 0⟩

section Rules

variable {α β : Type}

/-- The program may run anywhere and does nothing to the lock or the buffers. -/
def Quiet (m : Task α) : Prop := ∀ p, Follows guarded m p (· = p)

/-- The program runs with the lock held, and keeps it. -/
def Holding (m : Task α) : Prop :=
  ∀ depth entries written, Follows guarded m ⟨depth + 1, entries, written, false⟩
    fun p => ∃ written', p = ⟨depth + 1, entries, written', false⟩

/-- The program runs with the lock held, and gives it back once. -/
def GivesBack (m : Task α) : Prop :=
  ∀ depth entries written, Follows guarded m ⟨depth + 1, entries, written, false⟩
    (Over depth entries)

/-- The body of a wrapper. -/
def WrapperBody (m : Task α) : Prop :=
  ∀ depth entries, Follows guarded m (outside depth entries) (Over depth entries)

/-- The program leaves the lock as it finds it, and nothing that it has written matters. -/
def Balanced (m : Task α) : Prop :=
  ∀ depth entries, Follows guarded m (outside depth entries) (· = outside depth entries)

/-- The program runs between its own transactions, with a lock that it gives back. -/
def Unlocks (m : Task α) : Prop :=
  ∀ depth entries, Follows guarded m (outside (depth + 1) entries) (· = outside depth entries)

theorem over_outside (depth : ℕ) (entries : List (LockUser × ℕ)) :
    Over depth entries (outside depth entries) := ⟨false, rfl⟩

namespace Quiet

variable {m m' : Task α} {k : α → Task β}

theorem ret (a : α) : Quiet (pure a : Task α) := fun _ => Follows.ret rfl

theorem bind (hm : Quiet m) (hk : ∀ a, Quiet (k a)) : Quiet (m >>= k) := by
  intro p
  refine Follows.bind ((hm p).mono ?_)
  rintro _ rfl a
  exact hk a _

theorem ite {c : Prop} [Decidable c] (h : Quiet m) (h' : Quiet m') :
    Quiet (if c then m else m') :=
  fun p => Follows.ite (fun _ => h p) fun _ => h' p

theorem act {e : Event} (h : ∀ p : Place, p.perform e = some p) : Quiet (act e) :=
  fun p => Follows.act (fun _ => h p) rfl

theorem event {e : Event} (h : ∀ p : Place, p.perform e = some p) : Quiet (event e) :=
  fun p => Follows.event (fun _ => h p) rfl

theorem word {e : Event} (h : ∀ p : Place, p.perform e = some p) : Quiet (word e) :=
  bind (event h) fun _ => ret _

theorem look (field : GsField) : Quiet (look field) := word fun _ => rfl

theorem isSet (field : GsField) : Quiet (isSet field) := bind (look field) fun _ => ret _

theorem isClear (field : GsField) : Quiet (isClear field) := bind (look field) fun _ => ret _

theorem put (field : GsField) (value : UInt32) : Quiet (put field value) := act fun _ => rfl

theorem both {first second : Task Bool} (h : Quiet first) (h' : Quiet second) :
    Quiet (both first second) :=
  bind h fun _ => ite h' (ret _)

theorem forEach {l : List β} {body : β → Task Unit} (h : ∀ b, Quiet (body b)) :
    Quiet (forEach l body) :=
  fun _ => Follows.forEach (fun b s hs => hs ▸ h b s) rfl

theorem balanced (h : Quiet m) : Balanced m := fun _ _ => h _

theorem holding (h : Quiet m) : Holding m :=
  fun _ _ written => (h _).mono fun _ hp => ⟨written, hp⟩

end Quiet

namespace Holding

variable {m m' : Task α} {k : α → Task β}

theorem ret (a : α) : Holding (pure a : Task α) := (Quiet.ret a).holding

theorem bind (hm : Holding m) (hk : ∀ a, Holding (k a)) : Holding (m >>= k) := by
  intro depth entries written
  refine Follows.bind ((hm depth entries written).mono ?_)
  rintro _ ⟨written', rfl⟩ a
  exact hk a depth entries written'

theorem ite {c : Prop} [Decidable c] (h : Holding m) (h' : Holding m') :
    Holding (if c then m else m') :=
  fun depth entries written =>
    Follows.ite (fun _ => h depth entries written) fun _ => h' depth entries written

theorem writes {e : Event} (h : ∀ p : Place, p.perform e =
    if p.depth = 0 then none else some { p with written := true }) : Holding (act e) := by
  intro depth entries written
  refine Follows.act (fun _ => ?_) ⟨true, rfl⟩
  exact (h _).trans (if_neg (Nat.succ_ne_zero depth))

theorem reads {e : Event} (h : ∀ p : Place, p.perform e =
    if p.depth = 0 ∨ p.exposed = true then none else some p) : Holding (event e) := by
  intro depth entries written
  refine Follows.event (fun _ => ?_) ⟨written, rfl⟩
  exact (h _).trans (if_neg (not_or.mpr ⟨Nat.succ_ne_zero depth, Bool.false_ne_true⟩))

theorem loads {e : Event} (h : ∀ p : Place, p.perform e =
    if p.depth = 0 ∨ p.exposed = true then none else some p) : Holding (word e) :=
  bind (reads h) fun _ => ret _

theorem readsOnly {e : Event} (h : ∀ p : Place, p.perform e =
    if p.depth = 0 ∨ p.exposed = true then none else some p) : Holding (act e) :=
  bind (reads h) fun _ => ret ()

theorem forEach {l : List β} {body : β → Task Unit} (h : ∀ b, Holding (body b)) :
    Holding (forEach l body) := by
  intro depth entries written
  refine Follows.forEach (fun b s hs => ?_) ⟨written, rfl⟩
  obtain ⟨written', rfl⟩ := hs
  exact h b depth entries written'

/-- What comes before the release. -/
theorem givesBack (hm : Holding m) (hk : ∀ a, GivesBack (k a)) : GivesBack (m >>= k) := by
  intro depth entries written
  refine Follows.bind ((hm depth entries written).mono ?_)
  rintro _ ⟨written', rfl⟩ a
  exact hk a depth entries written'

end Holding

namespace GivesBack

variable {m m' : Task α} {k : Unit → Task β}

theorem release (h : Quiet (k ())) : GivesBack (mutexRelease >>= k) := by
  intro depth entries written
  refine Follows.bind (Follows.release rfl fun _ => (h _).mono ?_)
  rintro _ rfl
  refine ⟨written, ?_⟩
  rw [Bool.false_or]

theorem ite {c : Prop} [Decidable c] (h : GivesBack m) (h' : GivesBack m') :
    GivesBack (if c then m else m') :=
  fun depth entries written =>
    Follows.ite (fun _ => h depth entries written) fun _ => h' depth entries written

/-- Also where something has been written before, as long as the lock has been held since. -/
theorem locked (h : GivesBack (k ())) {depth : ℕ} {entries : List (LockUser × ℕ)}
    {written : Bool} :
    Follows guarded (mutexObtain >>= k) ⟨depth, entries, written, false⟩ (Over depth entries) :=
  Follows.bind (Follows.obtain rfl fun _ => h depth entries written)

end GivesBack

namespace WrapperBody

variable {m m' : Task α} {k : α → Task β}

theorem ret (a : α) : WrapperBody (pure a : Task α) :=
  fun depth entries => Follows.ret (over_outside depth entries)

theorem locked {k : Unit → Task β} (h : GivesBack (k ())) : WrapperBody (mutexObtain >>= k) :=
  fun _ _ => h.locked

theorem ite {c : Prop} [Decidable c] (h : WrapperBody m) (h' : WrapperBody m') :
    WrapperBody (if c then m else m') :=
  fun depth entries => Follows.ite (fun _ => h depth entries) fun _ => h' depth entries

/-- Without the lock. -/
theorem after (hm : Quiet m) (hk : ∀ a, WrapperBody (k a)) : WrapperBody (m >>= k) := by
  intro depth entries
  refine Follows.bind ((hm _).mono ?_)
  rintro _ rfl a
  exact hk a depth entries

end WrapperBody

namespace Balanced

variable {m m' : Task α} {k : α → Task β}

theorem ret (a : α) : Balanced (pure a : Task α) := (Quiet.ret a).balanced

theorem bind (hm : Balanced m) (hk : ∀ a, Balanced (k a)) : Balanced (m >>= k) := by
  intro depth entries
  refine Follows.bind ((hm depth entries).mono ?_)
  rintro _ rfl a
  exact hk a depth entries

theorem ite {c : Prop} [Decidable c] (h : Balanced m) (h' : Balanced m') :
    Balanced (if c then m else m') :=
  fun depth entries => Follows.ite (fun _ => h depth entries) fun _ => h' depth entries

theorem wrapperBody (h : Balanced m) : WrapperBody m := by
  intro depth entries
  refine (h depth entries).mono ?_
  rintro _ rfl
  exact over_outside depth entries

theorem locked {k : Unit → Task β} (h : Unlocks (k ())) : Balanced (mutexObtain >>= k) :=
  fun depth entries => Follows.bind (Follows.obtain rfl fun _ => h depth entries)

/-- What comes before the release. -/
theorem unlocks (hm : Balanced m) (hk : ∀ a, Unlocks (k a)) : Unlocks (m >>= k) := by
  intro depth entries
  refine Follows.bind ((hm (depth + 1) entries).mono ?_)
  rintro _ rfl a
  exact hk a depth entries

/-- A function returns to the depth of its entry. -/
theorem function {f : LockUser} (h : WrapperBody m) : Balanced (function f m) := by
  intro depth entries
  refine Follows.bind (Follows.act (fun _ => rfl) fun _ => ?_)
  refine Follows.bind ((h depth ((f, depth) :: entries)).mono ?_)
  rintro _ ⟨written, rfl⟩ result
  -- the depth is that of the entry on top
  refine Follows.bind (Follows.act (fun _ => ?_) fun _ => Follows.ret rfl)
  exact if_pos ⟨rfl, rfl⟩

end Balanced

namespace Unlocks

variable {m m' : Task α}

theorem release : Unlocks mutexRelease := fun _ _ => Follows.release rfl rfl

theorem thenBalanced {k : Unit → Task β} (h : Balanced (k ())) : Unlocks (mutexRelease >>= k) :=
  fun depth entries => Follows.bind (Follows.release rfl fun _ => h depth entries)

theorem ite {c : Prop} [Decidable c] (h : Unlocks m) (h' : Unlocks m') :
    Unlocks (if c then m else m') :=
  fun depth entries => Follows.ite (fun _ => h depth entries) fun _ => h' depth entries

end Unlocks

end Rules

/-! ## Transactions -/

open Lib.Layout

theorem chipZero_holding (buffer : SharedBuffer) (n : ℕ) : Holding (chipZero buffer n) :=
  Holding.forEach fun _ => Holding.writes fun _ => rfl

theorem prepare_holding (l : Struct Wrappers.Field) (stores : List Wrappers.Store)
    (cmdSize respSize : ℕ) : Holding (prepare l stores cmdSize respSize) := by
  refine (chipZero_holding _ _).bind fun _ => (chipZero_holding _ _).bind fun _ => ?_
  exact Holding.forEach fun _ => Holding.writes fun _ => rfl

theorem chipDoIo_holding (readable : List ℕ) (respSize : ℕ) :
    Holding (chipDoIo readable respSize) := by
  refine (Quiet.isSet _).holding.bind fun vq => Holding.ite (Holding.ret _) ?_
  refine (Quiet.event fun _ => rfl).holding.bind fun rc => Holding.ite (Holding.ret _) ?_
  exact (Quiet.act fun _ => rfl).holding.bind fun _ => Holding.loads fun _ => rfl

theorem responseType_holding (written : UInt32) : Holding (responseType written) :=
  Holding.ite (Holding.ret _) (Holding.loads fun _ => rfl)

theorem chipGpuSend_holding (cmdSize respSize : ℕ) : Holding (chipGpuSend cmdSize respSize) :=
  (chipDoIo_holding _ _).bind fun written => responseType_holding written

/-- From the lock on. -/
theorem request_givesBack {α : Type} (l : Struct Wrappers.Field) (stores : List Wrappers.Store)
    (cmdSize respSize sent expected : ℕ) {k : UInt32 → Task α} (h : ∀ rt, GivesBack (k rt)) :
    GivesBack (do
      prepare l stores cmdSize respSize
      let rt ← chipGpuSend sent expected
      k rt) :=
  (prepare_holding _ _ _ _).givesBack fun _ => (chipGpuSend_holding _ _).givesBack h

theorem requestNodata_over (l : Struct Wrappers.Field) (stores : List Wrappers.Store)
    (cmdSize : ℕ) {p : Place} {depth : ℕ} {entries : List (LockUser × ℕ)}
    (h : Over depth entries p) (hexposed : p.exposed = false) :
    Follows guarded (requestNodata l stores cmdSize) p (Over depth entries) := by
  obtain ⟨written, rfl⟩ := h
  have hplace : (⟨depth, entries, written, written && depth == 0⟩ : Place) =
      ⟨depth, entries, written, false⟩ := congrArg (Place.mk depth entries written) hexposed
  rw [hplace]
  refine GivesBack.locked (request_givesBack _ _ _ _ _ _ fun rt => ?_)
  exact GivesBack.release (Quiet.ret _)

theorem requestNodata_wrapperBody (l : Struct Wrappers.Field) (stores : List Wrappers.Store)
    (cmdSize : ℕ) : WrapperBody (requestNodata l stores cmdSize) :=
  fun depth entries => requestNodata_over _ _ _ (over_outside depth entries) rfl

/-! ## The wrappers -/

theorem enabledScanout_givesBack (scanouts : List ℕ) : GivesBack (enabledScanout scanouts) := by
  induction scanouts with
  | nil => exact GivesBack.release (Quiet.ret _)
  | cons i rest ih =>
      refine (Holding.loads fun _ => rfl).givesBack fun enabled => GivesBack.ite ?_ ih
      refine (Holding.loads fun _ => rfl).givesBack fun width => ?_
      refine (Holding.loads fun _ => rfl).givesBack fun height => ?_
      exact GivesBack.release (Quiet.ret _)

theorem chipGetDisplayInfo_balanced : Balanced chipGetDisplayInfo := by
  refine Balanced.function (WrapperBody.locked (request_givesBack _ _ _ _ _ _ fun rt => ?_))
  exact GivesBack.ite (GivesBack.release (Quiet.ret _)) (enabledScanout_givesBack _)

theorem chipResourceCreate2D_balanced (id format width height : UInt32) :
    Balanced (chipResourceCreate2D id format width height) :=
  Balanced.function (requestNodata_wrapperBody _ _ _)

theorem chipResourceUnref_balanced (id : UInt32) : Balanced (chipResourceUnref id) :=
  Balanced.function (requestNodata_wrapperBody _ _ _)

theorem chipResourceAttachBacking_balanced (id : UInt32) (dma : DmaList) :
    Balanced (chipResourceAttachBacking id dma) :=
  Balanced.function (requestNodata_wrapperBody _ _ _)

/-- After the delay nothing is exposed: either the lock has been held all the time, or what has
been written is given up. -/
theorem delay_follows {p : Place} {depth : ℕ} {entries : List (LockUser × ℕ)}
    (h : Over depth entries p) :
    Follows guarded (act .delay) p fun p' => Over depth entries p' ∧ p'.exposed = false := by
  obtain ⟨written, rfl⟩ := h
  by_cases hdepth : depth = 0
  · subst hdepth
    exact Follows.act (fun _ => rfl) ⟨⟨false, rfl⟩, rfl⟩
  · have hexposed : (written && depth == 0) = false := by simp [hdepth]
    refine Follows.act (fun _ => congrArg some (if_neg hdepth)) ⟨⟨written, rfl⟩, hexposed⟩

/-- Each attempt is a transaction of its own. -/
theorem setScanoutAttempts_over (args : Wrappers.ScanoutArgs) (attempts : ℕ) {p : Place}
    {depth : ℕ} {entries : List (LockUser × ℕ)} (h : Over depth entries p)
    (hexposed : p.exposed = false) :
    Follows guarded (setScanoutAttempts args attempts) p (Over depth entries) := by
  induction attempts generalizing p with
  | zero => exact Follows.ret h
  | succ left ih =>
      refine Follows.bind ((requestNodata_over _ _ _ h hexposed).mono fun p hp ok => ?_)
      -- success, or the last attempt
      refine Follows.ite (fun _ => Follows.ret hp) fun _ => ?_
      refine Follows.ite (fun _ => Follows.ret hp) fun _ => Follows.bind ?_
      exact (delay_follows hp).mono fun p' hp' _ => ih hp'.1 hp'.2

theorem chipSetScanout_balanced (args : Wrappers.ScanoutArgs) : Balanced (chipSetScanout args) :=
  Balanced.function fun depth entries =>
    setScanoutAttempts_over args 3 (over_outside depth entries) rfl

theorem chipTransferToHost2D_balanced (id x y width height : UInt32) (offset : UInt64) :
    Balanced (chipTransferToHost2D id x y width height offset) := by
  refine Balanced.function (WrapperBody.after ?_ fun shared => ?_)
  · exact Quiet.both (Quiet.isSet _) ((Quiet.look _).bind fun _ => Quiet.ret _)
  · exact WrapperBody.ite (WrapperBody.ret _) (requestNodata_wrapperBody _ _ _)

theorem chipGetEdid_balanced (scanout : UInt32) : Balanced (chipGetEdid scanout) := by
  refine Balanced.function (WrapperBody.locked (request_givesBack _ _ _ _ _ _ fun rt => ?_))
  refine GivesBack.ite ?_ ?_
  · exact GivesBack.release ((Quiet.put _ _).bind fun _ => Quiet.ret _)
  · refine (Holding.loads fun _ => rfl).givesBack fun edidSize => ?_
    refine (Quiet.put _ _).holding.givesBack fun _ => ?_
    have hcopied : GivesBack (do
        forEach (List.range (if edidSize > 1024 then 1024 else edidSize).toNat) fun i =>
          act (.loadByte Wrappers.respEdid .edid i)
        put .hasEdid 1
        mutexRelease
        act .parseEdid
        return true) := by
      refine (Holding.forEach fun i => ?_).givesBack fun _ => ?_
      · exact Holding.readsOnly fun _ => rfl
      · refine (Quiet.put _ _).holding.givesBack fun _ => GivesBack.release ?_
        exact (Quiet.act fun _ => rfl).bind fun _ => Quiet.ret _
    exact GivesBack.ite ((Quiet.put _ _).holding.givesBack fun _ => hcopied) hcopied

theorem chipResourceFlush_balanced (id x y width height : UInt32) :
    Balanced (chipResourceFlush id x y width height) :=
  Balanced.function (requestNodata_wrapperBody _ _ _)

theorem chipGetCapsetInfo_balanced (index : UInt32) : Balanced (chipGetCapsetInfo index) := by
  refine Balanced.function (WrapperBody.locked (request_givesBack _ _ _ _ _ _ fun rt => ?_))
  refine GivesBack.ite (GivesBack.release (Quiet.ret _)) ?_
  refine (Holding.loads fun _ => rfl).givesBack fun id => ?_
  refine (Holding.loads fun _ => rfl).givesBack fun maxVersion => ?_
  refine (Holding.loads fun _ => rfl).givesBack fun maxSize => ?_
  exact GivesBack.release (Quiet.ret _)

theorem chipGetCapset_balanced (capsetId capsetVersion bufSize : UInt32) :
    Balanced (chipGetCapset capsetId capsetVersion bufSize) := by
  refine Balanced.function (WrapperBody.locked (request_givesBack _ _ _ _ _ _ fun rt => ?_))
  refine GivesBack.ite (GivesBack.release (Quiet.ret _)) ?_
  refine (Holding.forEach fun i => ?_).givesBack fun _ => GivesBack.release (Quiet.ret _)
  exact Holding.readsOnly fun _ => rfl

theorem chipCtxCreate_balanced (ctxId : UInt32) (debugName : Option Wrappers.CString)
    (contextInit : UInt32) : Balanced (chipCtxCreate ctxId debugName contextInit) :=
  Balanced.function (requestNodata_wrapperBody _ _ _)

theorem chipCtxDestroy_balanced (ctxId : UInt32) : Balanced (chipCtxDestroy ctxId) := by
  refine Balanced.function fun depth entries => Follows.bind ?_
  exact (requestNodata_wrapperBody _ _ _ depth entries).mono fun p hp _ => hp

theorem chipCtxAttachResource_balanced (ctxId id : UInt32) :
    Balanced (chipCtxAttachResource ctxId id) :=
  Balanced.function (requestNodata_wrapperBody _ _ _)

theorem chipCtxDetachResource_balanced (ctxId id : UInt32) :
    Balanced (chipCtxDetachResource ctxId id) :=
  Balanced.function (requestNodata_wrapperBody _ _ _)

theorem chipResourceCreate3D_balanced (args : Wrappers.Resource3D) :
    Balanced (chipResourceCreate3D args) :=
  Balanced.function (requestNodata_wrapperBody _ _ _)

theorem chipTransferToHost3D_balanced (args : Wrappers.Transfer3D) :
    Balanced (chipTransferToHost3D args) :=
  Balanced.function (requestNodata_wrapperBody _ _ _)

theorem chipTransferFromHost3D_balanced (args : Wrappers.Transfer3D) :
    Balanced (chipTransferFromHost3D args) :=
  Balanced.function (requestNodata_wrapperBody _ _ _)

theorem chipSubmit3D_balanced (ctxId cmdSize : UInt32) : Balanced (chipSubmit3D ctxId cmdSize) := by
  refine Balanced.function (WrapperBody.after (Quiet.isSet _) fun cmd3d => ?_)
  refine WrapperBody.ite (WrapperBody.ret _) (WrapperBody.ite (WrapperBody.ret _) ?_)
  refine WrapperBody.ite (WrapperBody.ret _) (WrapperBody.locked ?_)
  refine (prepare_holding _ _ _ _).givesBack fun _ => ?_
  refine (Quiet.forEach fun i => Quiet.act fun _ => rfl).holding.givesBack fun _ => ?_
  refine (chipDoIo_holding _ _).givesBack fun written => ?_
  exact (responseType_holding _).givesBack fun rt => GivesBack.release (Quiet.ret _)

theorem chipResourceCreateBlob_balanced (args : BlobArgs) (dma : DmaList) :
    Balanced (chipResourceCreateBlob args dma) := by
  refine Balanced.function (WrapperBody.after (Quiet.isSet _) fun hasBlob => ?_)
  exact WrapperBody.ite (WrapperBody.ret _) (requestNodata_wrapperBody _ _ _)

/-! ## Several commands under one lock -/

theorem lookMin_quiet (first second : GsField) : Quiet (lookMin first second) := by
  refine (Quiet.look _).bind fun a => (Quiet.look _).bind fun b => ?_
  exact Quiet.ite (Quiet.look _) (Quiet.look _)

theorem transfer2D_balanced {id2D : Task UInt32} (h : Quiet id2D) (w h' : UInt32) :
    Balanced (do
      let id ← id2D
      chipTransferToHost2D id 0 0 w h' 0) :=
  h.balanced.bind fun id => chipTransferToHost2D_balanced id _ _ _ _ _

theorem transferFrame_balanced {id3D id2D : Task UInt32} (h3D : Quiet id3D) (h2D : Quiet id2D)
    (virgl : Bool) (w h : UInt32) : Balanced (transferFrame virgl id3D id2D w h) := by
  refine Balanced.ite ?_ (transfer2D_balanced h2D w h)
  refine (Quiet.look _).balanced.bind fun ctx => h3D.balanced.bind fun id => ?_
  refine (Quiet.look _).balanced.bind fun stride => ?_
  refine (chipTransferToHost3D_balanced _).bind fun ok => Balanced.ite (Balanced.ret _) ?_
  exact (Quiet.put _ _).balanced.bind fun _ => transfer2D_balanced h2D w h

theorem flushedResource_quiet : Quiet flushedResource := by
  refine (Quiet.both (Quiet.isClear _) (Quiet.isSet _)).bind fun virgl => ?_
  exact Quiet.ite (Quiet.look _) (Quiet.look _)

theorem flushSingle_balanced (w h : UInt32) : Balanced (flushSingle w h) := by
  refine Balanced.locked ((Quiet.look _).balanced.unlocks fun mem => ?_)
  refine (Quiet.act fun _ => rfl).balanced.unlocks fun _ => ?_
  refine (Quiet.both (Quiet.isSet _) (Quiet.isClear _)).balanced.unlocks fun virgl => ?_
  refine (transferFrame_balanced (Quiet.look _) (Quiet.look _) virgl w h).unlocks fun ok => ?_
  refine Unlocks.ite ?_ Unlocks.release
  refine flushedResource_quiet.balanced.unlocks fun id => ?_
  exact (chipResourceFlush_balanced _ _ _ _ _).unlocks fun _ => Unlocks.release

theorem swap_quiet (first second : GsField) : Quiet (swap first second) := by
  refine (Quiet.look _).bind fun tmp => (Quiet.look _).bind fun other => ?_
  exact (Quiet.put _ _).bind fun _ => Quiet.put _ _

theorem chipSwapBuffers_quiet : Quiet chipSwapBuffers := by
  refine (swap_quiet _ _).bind fun _ => (swap_quiet _ _).bind fun _ => ?_
  refine (swap_quiet _ _).bind fun _ => (swap_quiet _ _).bind fun _ => ?_
  refine (swap_quiet _ _).bind fun _ => (swap_quiet _ _).bind fun _ => ?_
  refine (Quiet.both (Quiet.both (Quiet.isSet _) (Quiet.isClear _)) (Quiet.isSet _)).bind ?_
  intro virgl
  exact Quiet.ite ((Quiet.look _).bind fun id => Quiet.put _ _)
    ((Quiet.look _).bind fun id => Quiet.put _ _)

theorem presentBack_unlocks (useVirgl : Bool) (back2D back3D w h : UInt32) :
    Unlocks (presentBack useVirgl back2D back3D w h) := by
  refine (chipSetScanout_balanced _).unlocks fun _ => ?_
  refine (chipResourceFlush_balanced _ _ _ _ _).unlocks fun _ => ?_
  exact chipSwapBuffers_quiet.balanced.unlocks fun _ => Unlocks.release

theorem flushDouble_balanced (w h : UInt32) : Balanced (flushDouble w h) := by
  refine (Quiet.look _).balanced.bind fun backMem => (Quiet.look _).balanced.bind fun back2D => ?_
  refine (Quiet.look _).balanced.bind fun back3D => ?_
  refine (Quiet.both (Quiet.isSet _) (Quiet.isClear _)).balanced.bind fun useVirgl => ?_
  refine (Quiet.act fun _ => rfl).balanced.bind fun _ => Balanced.locked ?_
  -- the way back to 2D ends in the same present
  have htwo : ∀ ok : Bool, Unlocks
      (if ok then presentBack false back2D back3D w h else mutexRelease) :=
    fun ok => Unlocks.ite (presentBack_unlocks _ _ _ _ _) Unlocks.release
  refine Unlocks.ite ?_ ?_
  · refine (Quiet.look _).balanced.unlocks fun ctx => ?_
    refine (Quiet.look _).balanced.unlocks fun stride => ?_
    refine (chipTransferToHost3D_balanced _).unlocks fun ok => ?_
    refine Unlocks.ite (presentBack_unlocks _ _ _ _ _) ?_
    refine (Quiet.put _ _).balanced.unlocks fun _ => ?_
    exact (chipTransferToHost2D_balanced _ _ _ _ _ _).unlocks htwo
  · exact (chipTransferToHost2D_balanced _ _ _ _ _ _).unlocks htwo

theorem chipFlushAll_balanced : Balanced chipFlushAll := by
  refine Balanced.function (Balanced.wrapperBody ?_)
  refine (Quiet.both (Quiet.isSet _) (Quiet.isSet _)).balanced.bind fun present => ?_
  refine Balanced.ite (Balanced.ret _) ?_
  refine (lookMin_quiet _ _).balanced.bind fun w => (lookMin_quiet _ _).balanced.bind fun h => ?_
  refine Balanced.ite (Balanced.ret _) ?_
  refine (Quiet.both (Quiet.isSet _) (Quiet.isSet _)).balanced.bind fun double => ?_
  exact Balanced.ite (flushDouble_balanced w h) (flushSingle_balanced w h)

/-! ## Compositing -/

theorem virglSubmit_balanced (ctxId : UInt32) (calls : List VirglCall) :
    Balanced (virglSubmit ctxId calls) := by
  refine Balanced.ite (Balanced.ret _) ((Quiet.isSet _).balanced.bind fun poisoned => ?_)
  refine Balanced.ite (Balanced.ret _) ((chipSubmit3D_balanced _ _).bind fun ok => ?_)
  exact Balanced.ite (Balanced.ret _) ((Quiet.put _ _).balanced.bind fun _ => Balanced.ret _)

theorem compAllocHandle_quiet : Quiet compAllocHandle :=
  (Quiet.look _).bind fun _ => (Quiet.put _ _).bind fun _ => Quiet.ret _

theorem uploadStrips_balanced (data : StreamData) (ctxId : UInt32) (r : UploadRequest) (fuel : ℕ)
    (rowsDone : UInt32) : Balanced (uploadStrips data ctxId r fuel rowsDone) := by
  induction fuel generalizing rowsDone with
  | zero => exact Balanced.ret _
  | succ fuel ih =>
      refine Balanced.ite ((virglSubmit_balanced _ _).bind fun ok => ?_) (Balanced.ret _)
      exact Balanced.ite (ih _) (Balanced.ret _)

theorem chipCompUploadPixels32bpp_balanced (data : StreamData) (r : UploadRequest) :
    Balanced (chipCompUploadPixels32bpp data r) := by
  refine (Quiet.look _).balanced.bind fun ctxId => ?_
  refine (Quiet.event fun _ => rfl).balanced.bind fun words => Balanced.ite (Balanced.ret _) ?_
  refine (uploadStrips_balanced _ _ _ _ _).bind fun ok => ?_
  exact (Quiet.act fun _ => rfl).balanced.bind fun _ => Balanced.ret _

/-- What follows a texture that is given up. -/
theorem unref_balanced {α : Type} (ctxId id : UInt32) {m : Task α} (h : Balanced m) :
    Balanced (do
      let _ ← chipCtxDetachResource ctxId id
      let _ ← chipResourceUnref id
      m) :=
  (chipCtxDetachResource_balanced _ _).bind fun _ =>
    (chipResourceUnref_balanced _).bind fun _ => h

theorem freeTexture_balanced : Balanced freeTexture := by
  refine (Quiet.look _).balanced.bind fun ctxId => (Quiet.look _).balanced.bind fun view => ?_
  refine (virglSubmit_balanced _ _).bind fun _ => (Quiet.look _).balanced.bind fun id => ?_
  refine unref_balanced _ _ (Quiet.balanced ?_)
  refine (Quiet.put _ _).bind fun _ => (Quiet.put _ _).bind fun _ => ?_
  exact (Quiet.put _ _).bind fun _ => Quiet.put _ _

theorem chipCompFreeTexture_balanced : Balanced chipCompFreeTexture :=
  (Quiet.isSet _).balanced.bind fun _ => Balanced.ite freeTexture_balanced (Balanced.ret _)

theorem discard_balanced (ctxId id : UInt32) : Balanced (discard ctxId id) :=
  unref_balanced _ _ (Balanced.ret _)

theorem viewTexture_balanced (ctxId id format w h : UInt32) :
    Balanced (viewTexture ctxId id format w h) := by
  refine compAllocHandle_quiet.balanced.bind fun view => ?_
  refine (virglSubmit_balanced _ _).bind fun submitted => ?_
  refine Balanced.ite (Quiet.balanced ?_) (discard_balanced _ _)
  refine (Quiet.put _ _).bind fun _ => (Quiet.put _ _).bind fun _ => ?_
  exact (Quiet.put _ _).bind fun _ => (Quiet.put _ _).bind fun _ => Quiet.ret _

theorem makeTexture_balanced (data : StreamData) (srcData srcBpr w h : UInt32)
    (hasAlpha : Bool) : Balanced (makeTexture data srcData srcBpr w h hasAlpha) := by
  refine (Quiet.look _).balanced.bind fun ctxId => ?_
  refine (Quiet.word fun _ => rfl).balanced.bind fun id => ?_
  refine (chipResourceCreate3D_balanced _).bind fun created => ?_
  refine Balanced.ite ((chipCtxAttachResource_balanced _ _).bind fun _ => ?_) (Balanced.ret _)
  refine (chipCompUploadPixels32bpp_balanced _ _).bind fun uploaded => ?_
  exact Balanced.ite (viewTexture_balanced _ _ _ _ _) (discard_balanced _ _)

theorem pipelineReady_quiet : Quiet pipelineReady := Quiet.both (Quiet.isSet _) (Quiet.isSet _)

theorem chipCompUploadBitmap_balanced (data : StreamData) (srcData srcBpr w h : UInt32)
    (hasAlpha : Bool) : Balanced (chipCompUploadBitmap data srcData srcBpr w h hasAlpha) := by
  refine pipelineReady_quiet.balanced.bind fun ready => Balanced.ite (Balanced.ret _) ?_
  refine Balanced.ite (Balanced.ret _) (chipCompFreeTexture_balanced.bind fun _ => ?_)
  exact makeTexture_balanced _ _ _ _ _ _

theorem flushIf_balanced (drawn : Bool) (x y w h : UInt32) : Balanced (flushIf drawn x y w h) := by
  refine Balanced.ite ((Quiet.look _).balanced.bind fun id => ?_) (Balanced.ret _)
  exact (chipResourceFlush_balanced _ _ _ _ _).bind fun _ => Balanced.ret _

theorem chipCompDrawTexturedQuad_balanced (data : StreamData) (x y w h : UInt32)
    (useLinear : Bool) : Balanced (chipCompDrawTexturedQuad data x y w h useLinear) := by
  refine pipelineReady_quiet.balanced.bind fun ready => Balanced.ite (Balanced.ret _) ?_
  refine (Quiet.both (Quiet.isSet _) (Quiet.isSet _)).balanced.bind fun present => ?_
  refine Balanced.ite (Balanced.ret _) ((Quiet.look _).balanced.bind fun ctxId => ?_)
  refine (Quiet.look _).balanced.bind fun fsTex => (Quiet.look _).balanced.bind fun sampler => ?_
  refine (Quiet.look _).balanced.bind fun view => (Quiet.look _).balanced.bind fun vbuf => ?_
  refine (virglSubmit_balanced _ _).bind fun ok => (flushIf_balanced _ _ _ _ _).bind fun _ => ?_
  refine (Quiet.look _).balanced.bind fun fs => (virglSubmit_balanced _ _).bind fun _ => ?_
  exact Balanced.ret _

theorem chipVirglDrawColoredQuad_balanced (data : StreamData) (x y w h : UInt32) :
    Balanced (chipVirglDrawColoredQuad data x y w h) := by
  refine pipelineReady_quiet.balanced.bind fun ready => Balanced.ite (Balanced.ret _) ?_
  refine (Quiet.both (Quiet.isSet _) (Quiet.isSet _)).balanced.bind fun present => ?_
  refine Balanced.ite (Balanced.ret _) ((Quiet.look _).balanced.bind fun ctxId => ?_)
  refine (Quiet.look _).balanced.bind fun vbuf => (virglSubmit_balanced _ _).bind fun ok => ?_
  exact (flushIf_balanced _ _ _ _ _).bind fun _ => Balanced.ret _

theorem restoreBlend_balanced (ctxId : UInt32) (ok : Bool) : Balanced (restoreBlend ctxId ok) :=
  (Quiet.look _).balanced.bind fun _ => (virglSubmit_balanced _ _).bind fun _ => Balanced.ret _

theorem compositeSolid_balanced (env : DrawingData) (ctxId : UInt32) (args : CompArgs) :
    Balanced (compositeSolid env ctxId args) :=
  (chipVirglDrawColoredQuad_balanced _ _ _ _ _).bind fun ok => restoreBlend_balanced ctxId ok

theorem compositeBitMap_balanced (env : DrawingData) (ctxId : UInt32) (source : Source)
    (format : RgbfType) (args : CompArgs) :
    Balanced (compositeBitMap env ctxId source format args) := by
  refine Balanced.ite (Balanced.ret _) (Balanced.ite (Balanced.ret _) ?_)
  refine (chipCompUploadBitmap_balanced _ _ _ _ _ _).bind fun uploaded => ?_
  refine Balanced.ite ?_ (Balanced.ret _)
  refine (chipCompDrawTexturedQuad_balanced _ _ _ _ _ _).bind fun ok => ?_
  exact chipCompFreeTexture_balanced.bind fun _ => restoreBlend_balanced ctxId ok

theorem compositeBound_balanced (env : DrawingData) (operator : UInt32) (source : Source)
    (format : RgbfType) (args : CompArgs) :
    Balanced (compositeBound env operator source format args) := by
  refine (Quiet.look _).balanced.bind fun ctxId => (Quiet.look _).balanced.bind fun blend => ?_
  refine (virglSubmit_balanced _ _).bind fun bound => Balanced.ite (Balanced.ret _) ?_
  exact Balanced.ite (compositeSolid_balanced _ _ _) (compositeBitMap_balanced _ _ _ _ _)

theorem chipVirglComposite_balanced (env : DrawingData) (operator : UInt32) (source : Source)
    (format : RgbfType) (args : CompArgs) :
    Balanced (chipVirglComposite env operator source format args) := by
  refine pipelineReady_quiet.balanced.bind fun ready => Balanced.ite (Balanced.ret _) ?_
  refine Balanced.ite (Balanced.ret _) (Balanced.ite (Balanced.ret _) ?_)
  refine Balanced.ite (Balanced.ret _) ((Quiet.look _).balanced.bind fun blend => ?_)
  refine Balanced.ite (Balanced.ret _) (Balanced.ite (Balanced.ret _) ?_)
  exact Balanced.ite (Balanced.ret _) (compositeBound_balanced _ _ _ _ _)

theorem isOurs_quiet (address : UInt32) : Quiet (isOurs address) := by
  refine (Quiet.look _).bind fun boardMem => Quiet.ite ?_ (Quiet.ret _)
  exact (Quiet.look _).bind fun start => (Quiet.look _).bind fun size => Quiet.ret _

/-- The exits that leave the work to the original method. -/
theorem original_quiet {α : Type} (a : α) : Quiet (do
    act .original
    return a) :=
  (Quiet.act fun _ => rfl).bind fun _ => Quiet.ret a

theorem attemptHardware_balanced (env : DrawingData) (call : CompositeCall) (args : CompArgs) :
    Balanced (attemptHardware env call args) := by
  refine (Quiet.isSet _).balanced.bind fun double => ?_
  refine Balanced.ite (original_quiet _).balanced ((Quiet.isSet _).balanced.bind fun graphics => ?_)
  refine Balanced.ite (original_quiet _).balanced (Balanced.locked ?_)
  refine (chipVirglComposite_balanced _ _ _ _ _).unlocks fun result => ?_
  exact Unlocks.thenBalanced (original_quiet _).balanced

theorem hookCompositeTagList_balanced (env : DrawingData) (call : CompositeCall) :
    Balanced (hookCompositeTagList env call) := by
  refine Balanced.function (Balanced.wrapperBody ?_)
  refine (Quiet.both (Quiet.isSet _) (Quiet.isSet _)).balanced.bind fun ready => ?_
  cases ready with
  | false => exact (original_quiet _).balanced
  | true =>
      cases call.destination with
      | none => exact (original_quiet _).balanced
      | some destination =>
          refine (isOurs_quiet _).balanced.bind fun ours => ?_
          refine Balanced.ite (original_quiet _).balanced ?_
          refine (Quiet.isSet _).balanced.bind fun graphics => ?_
          exact Balanced.ite (original_quiet _).balanced (attemptHardware_balanced _ _ _)

theorem ignore_balanced {α : Type} {m : Task α} (h : Balanced m) : Balanced (ignore m) :=
  h.bind fun _ => Balanced.ret _

/-- Whatever a task calls, it leaves the lock as it has found it. -/
theorem GpuCall.code_balanced (call : GpuCall) : Balanced call.code := by
  cases call with
  | getDisplayInfo => exact ignore_balanced chipGetDisplayInfo_balanced
  | resourceCreate2D id format width height =>
      exact ignore_balanced (chipResourceCreate2D_balanced _ _ _ _)
  | resourceUnref id => exact ignore_balanced (chipResourceUnref_balanced _)
  | resourceAttachBacking id dma => exact ignore_balanced (chipResourceAttachBacking_balanced _ _)
  | setScanout args => exact ignore_balanced (chipSetScanout_balanced _)
  | transferToHost2D id x y width height offset =>
      exact ignore_balanced (chipTransferToHost2D_balanced _ _ _ _ _ _)
  | getEdid scanout => exact ignore_balanced (chipGetEdid_balanced _)
  | resourceFlush id x y width height =>
      exact ignore_balanced (chipResourceFlush_balanced _ _ _ _ _)
  | getCapsetInfo index => exact ignore_balanced (chipGetCapsetInfo_balanced _)
  | getCapset capsetId capsetVersion bufSize =>
      exact ignore_balanced (chipGetCapset_balanced _ _ _)
  | ctxCreate ctxId debugName contextInit => exact ignore_balanced (chipCtxCreate_balanced _ _ _)
  | ctxDestroy ctxId => exact chipCtxDestroy_balanced _
  | ctxAttachResource ctxId id => exact ignore_balanced (chipCtxAttachResource_balanced _ _)
  | ctxDetachResource ctxId id => exact ignore_balanced (chipCtxDetachResource_balanced _ _)
  | resourceCreate3D args => exact ignore_balanced (chipResourceCreate3D_balanced _)
  | transferToHost3D args => exact ignore_balanced (chipTransferToHost3D_balanced _)
  | transferFromHost3D args => exact ignore_balanced (chipTransferFromHost3D_balanced _)
  | submit3D ctxId cmdSize => exact ignore_balanced (chipSubmit3D_balanced _ _)
  | resourceCreateBlob args dma => exact ignore_balanced (chipResourceCreateBlob_balanced _ _)
  | flushAll => exact chipFlushAll_balanced
  | compositeTagList env call => exact ignore_balanced (hookCompositeTagList_balanced _ _)

/-- A task that begins without the lock. -/
theorem GpuCall.code_follows (call : GpuCall) :
    Follows guarded call.code guarded.start (· = guarded.start) :=
  call.code_balanced 0 []

end VirtIOGPU.Locking
