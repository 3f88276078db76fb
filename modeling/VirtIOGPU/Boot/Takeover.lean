import Mathlib.Tactic.Abel
import VirtIOGPU.Boot.Hooks
import VirtIOGPU.Lib.Machine

/-!
# What the boot module takes over

`Service` is the card driver as graphics.library sees it: the original one until the boot module
has taken it over for a device, and then one that gives every board that device and starts the
chip driver on it.  There is no patch block and no vtable in it, and nothing that could go wrong.
The boot module and its hooks refine it over every run (`hooks_take_over`).

## Strategy

Each program of the boot module has a specification with its `Booting`, and the refinement relates
its result to one step of the service.

```text
action       the boot module                             the service
board_init   acquisitions, undone on failure             boot: takes over, or stays as it is
FindCard     the hook, or the original method            findCard: gives the device
InitBoard    the hook, or the original method            initBoard: starts the chip driver, or not
```

`Refines` connects them in every state of a run.  What the takeover is for is then a matter of the
service alone (`Served`): every board that has been started has the device and the interrupt code.
-/

namespace VirtIOGPU.Boot

open Lib Lib.Hoare Lib.Machine

/-! ## The service -/

/-- The patch block is there. -/
def BootAnswers.allocates (a : BootAnswers) : Bool :=
  a.expansion && a.pci && a.device != 0 && (a.namedMemory || a.vecMemory)

def BootAnswers.takesOver (a : BootAnswers) : Bool :=
  a.allocates && a.resident && a.pciGraphics && a.interface

/-- What stays acquired.  The patch block is never freed. -/
def BootAnswers.kept (a : BootAnswers) : Multiset Resource :=
  if a.takesOver then
    {.library .pciGraphics, .patch, .interface .expansion, .library .expansion}
  else if a.allocates then {.patch} else 0

/-- The chip library can be opened. -/
def InitBoardAnswers.loads (a : InitBoardAnswers) : Bool :=
  a.opened || (a.resident && a.openedAgain)

/-- What a board that was found has. -/
def BoardInfo.give (info : BoardInfo) (device : UInt32) : BoardInfo :=
  { info with pcidevice := device, boardName := some "VirtIOGPU" }

/-- What `chip_InitCard_C` finds. -/
def BoardInfo.prepare (info : BoardInfo) (board : ℕ) : BoardInfo :=
  { info with
    cardBase := some .pciGraphics
    chipBase := some .chip
    hardInterrupt := some (chipHardInterrupt board) }

structure Service where
  /-- The device for which the driver is taken over. -/
  device : Option UInt32
  boards : ℕ → BoardInfo
  calls : List Call
  booted : Bool
  kept : Multiset Resource

namespace Service

def start (boards : ℕ → BoardInfo) : Service := ⟨none, boards, [], false, 0⟩

def boot (x : Service) (a : BootAnswers) : Service :=
  { x with
    device := if a.takesOver then some a.device else none
    booted := true
    kept := a.kept }

/-- The original method, with what is made of the board and of the result. -/
def original (x : Service) (method : Method) (board : ℕ) (info : BoardInfo) (result : Bool) :
    Service :=
  { x with
    boards := Function.update x.boards board info
    calls := x.calls ++ [.original method board (x.boards board), .returned method board result] }

def findCard (x : Service) (board : ℕ) (a : Answer) : Service :=
  match x.device with
  | none => x.original .findCard board a.info a.result
  | some device => x.original .findCard board (a.info.give device) true

/-- The chip driver is started on the board. -/
def startChip (x : Service) (board : ℕ) (a : InitBoardAnswers) : Service :=
  let info := x.boards board
  if !a.loads then
    { x with calls := x.calls ++ [.returned .initBoard board false] }
  else if !a.interface then
    { x with
      boards := Function.update x.boards board
        { info with cardBase := some .pciGraphics, chipBase := none }
      calls := x.calls ++ [.returned .initBoard board false] }
  else
    { x with
      boards := Function.update x.boards board a.initCard.info
      calls := x.calls ++ [.initCard board (info.prepare board),
        .returned .initBoard board a.initCard.result]
      kept := .library .chip ::ₘ x.kept }

def initBoard (x : Service) (board : ℕ) (a : InitBoardAnswers) : Service :=
  if x.device = some (x.boards board).pcidevice then x.startChip board a
  else x.original .initBoard board a.original.info a.original.result

def step (x : Service) : Action → Option Service
  | .boardInit a => if x.booted then none else some (x.boot a)
  | .findCard board a => some (x.findCard board a)
  | .initBoard board a => some (x.initBoard board a)

end Service

/-! ## The refinement -/

/-- The slots and the patch block of a driver that is taken over for this device. -/
def Installed (slot : Method → Code) (patch : Option Patch) : Option UInt32 → Prop
  | none => slot = fun _ => .original
  | some device =>
      device ≠ 0 ∧ (slot = fun _ => .hook) ∧ patch = some ⟨device, fun _ => some .original⟩

structure Refines (s : BootState) (x : Service) : Prop where
  installed : Installed s.slot s.patch x.device
  fresh : x.booted = false → x.device = none ∧ x.kept = 0
  boards : s.boards = x.boards
  calls : s.calls = x.calls
  booted : s.booted = x.booted
  kept : s.sys.Holds x.kept
  running : s.crashed = false

theorem start_refines (boards : ℕ → BoardInfo) :
    Refines (BootState.start boards) (Service.start boards) :=
  ⟨rfl, fun _ => ⟨rfl, rfl⟩, rfl, rfl, rfl, ⟨rfl, rfl⟩, rfl⟩

/-! ## `board_init` -/

/-- On the way through `board_init`: the ledger holds `all`, `g_patch` is `patch`, and nothing
else has changed. -/
structure Booting (x : Service) (patch : Option Patch) (all : Multiset Resource)
    (s : BootState) : Prop where
  slot : s.slot = fun _ => .original
  patch : s.patch = patch
  boards : s.boards = x.boards
  calls : s.calls = x.calls
  held : s.sys.Holds all
  running : s.crashed = false

section

variable {x : Service} {patch : Option Patch} {all : Multiset Resource}

/-- What can be had is held. -/
theorem acquire_spec (resource : Resource) (ok : Bool) :
    Triple (Booting x patch all)
      (do
        onlyIf ok (modify fun s => { s with sys := s.sys.acquire resource })
        return ok)
      fun got s => got = ok ∧ Booting x patch ((if ok then {resource} else 0) + all) s := by
  intro s hs
  cases ok with
  | false =>
      refine ⟨rfl, ?_⟩
      rw [if_neg Bool.false_ne_true, zero_add]
      exact hs
  | true => exact ⟨rfl, hs.slot, hs.patch, hs.boards, hs.calls, hs.held.acquire, hs.running⟩

theorem openLibrary_spec (name : LibraryName) (ok : Bool) :
    Triple (Booting x patch all) (openLibrary name ok)
      fun opened s => opened = ok ∧
        Booting x patch ((if ok then {.library name} else 0) + all) s :=
  acquire_spec (.library name) ok

theorem getInterface_spec (name : LibraryName) (ok : Bool) :
    Triple (Booting x patch all) (getInterface name ok)
      fun got s => got = ok ∧
        Booting x patch ((if ok then {.interface name} else 0) + all) s :=
  acquire_spec (.interface name) ok

theorem allocPatch_spec (named vec : Bool) :
    Triple (Booting x patch all) (allocPatch named vec)
      fun got s => got = (named || vec) ∧
        Booting x patch ((if named || vec then {.patch} else 0) + all) s :=
  acquire_spec .patch (named || vec)

theorem closeLibrary_spec (name : LibraryName) :
    Triple (Booting x patch ({.library name} + all)) (closeLibrary name)
      fun _ => Booting x patch all :=
  fun _ hs => ⟨hs.slot, hs.patch, hs.boards, hs.calls, hs.held.release, hs.running⟩

theorem dropInterface_spec (name : LibraryName) :
    Triple (Booting x patch ({.interface name} + all)) (dropInterface name)
      fun _ => Booting x patch all :=
  fun _ hs => ⟨hs.slot, hs.patch, hs.boards, hs.calls, hs.held.release, hs.running⟩

theorem setPatch_spec (f : Option Patch → Option Patch) :
    Triple (Booting x patch all) (setPatch f) fun _ => Booting x (f patch) all :=
  fun _ hs => ⟨hs.slot, congrArg f hs.patch, hs.boards, hs.calls, hs.held, hs.running⟩

/-- The interface and the library that every later path has to give back. -/
def openedFirst : Multiset Resource := {.interface .expansion} + {.library .expansion}

theorem leave_spec :
    Triple (Booting x patch (openedFirst + all)) leave
      fun ok s => ok = false ∧ Booting x patch all s := by
  unfold openedFirst leave
  rw [add_assoc]
  exact Triple.bind (dropInterface_spec _) fun _ => Triple.bind (closeLibrary_spec _) fun _ =>
    Triple.ret fun _ hs => ⟨rfl, hs⟩

/-- What `board_init` leaves. -/
structure Booted (x : Service) (a : BootAnswers) (s : BootState) : Prop where
  installed : Installed s.slot s.patch (if a.takesOver then some a.device else none)
  boards : s.boards = x.boards
  calls : s.calls = x.calls
  held : s.sys.Holds a.kept
  running : s.crashed = false

variable {a : BootAnswers}

/-- A path that fails leaves the methods as they are. -/
theorem Booting.booted {s : BootState} (h : Booting x patch a.kept s)
    (hno : a.takesOver = false) : Booted x a s := by
  refine ⟨?_, h.boards, h.calls, h.held, h.running⟩
  rw [hno]
  exact h.slot

theorem leave_booted (hno : a.takesOver = false) :
    Triple (Booting x patch (openedFirst + a.kept)) leave
      fun ok s => ok = a.takesOver ∧ Booted x a s :=
  leave_spec.strengthen fun _ _ hs => ⟨by rw [hno, hs.1], hs.2.booted hno⟩

/-- Step 4 and step 5, with a patch block. -/
theorem hookPciGraphics_spec (halloc : a.allocates = true) :
    Triple (Booting x (some ⟨a.device, fun _ => none⟩) (openedFirst + {.patch}))
      (hookPciGraphics a) fun ok s => ok = a.takesOver ∧ Booted x a s := by
  have hkept : a.takesOver = false → a.kept = {.patch} := by
    intro hno
    simp [BootAnswers.kept, hno, halloc]
  have hdevice : a.device ≠ 0 := by
    intro h0
    simp [BootAnswers.allocates, h0] at halloc
  unfold hookPciGraphics
  refine Triple.ite (fun hresident => ?_) fun hresident => ?_
  · have hno : a.takesOver = false := by
      simp [BootAnswers.takesOver, show a.resident = false by simpa using hresident]
    rw [← hkept hno]
    exact leave_booted hno
  refine Triple.bind (openLibrary_spec _ _) fun pcigfxLib => Triple.fact fun hlib => ?_
  subst hlib
  refine Triple.ite (fun hlib => ?_) fun hlib => ?_
  · have hfailed : a.pciGraphics = false := by simpa using hlib
    have hno : a.takesOver = false := by simp [BootAnswers.takesOver, hfailed]
    rw [hfailed, if_neg Bool.false_ne_true, zero_add, ← hkept hno]
    exact leave_booted hno
  rw [if_pos (by simpa using hlib)]
  refine Triple.bind (getInterface_spec _ _) fun pcigfxIface => Triple.fact fun hiface => ?_
  subst hiface
  refine Triple.ite (fun hiface => ?_) fun hiface => ?_
  · have hfailed : a.interface = false := by simpa using hiface
    have hno : a.takesOver = false := by simp [BootAnswers.takesOver, hfailed]
    rw [hfailed, if_neg Bool.false_ne_true, zero_add, ← hkept hno]
    exact Triple.bind (closeLibrary_spec _) fun _ => leave_booted hno
  have hyes : a.takesOver = true := by
    simp only [Bool.not_eq_true, Bool.not_eq_false'] at hresident hlib hiface
    simp [BootAnswers.takesOver, halloc, hresident, hlib, hiface]
  rw [if_pos (by simpa using hiface), hyes]
  -- the hooks are installed, and everything that was opened stays open
  intro s hs
  have hinstalled : (installHooks s).2.patch = some ⟨a.device, fun _ => some .original⟩ := by
    change s.patch.map _ = _
    rw [hs.patch, hs.slot]
    rfl
  have hall : a.kept = {.library .pciGraphics} + (openedFirst + {.patch}) := by
    simp only [BootAnswers.kept, hyes, if_true, openedFirst]
    decide
  refine ⟨rfl, ?_, hs.boards, hs.calls, ?_, hs.running⟩
  · rw [hyes]
    exact ⟨hdevice, rfl, hinstalled⟩
  · rw [hall]
    exact hs.held.release

theorem boardInit_spec :
    Triple (Booting x patch 0) (boardInit a) fun ok s => ok = a.takesOver ∧ Booted x a s := by
  have hnone : a.allocates = false → a.takesOver = false ∧ a.kept = 0 := by
    intro hno
    simp [BootAnswers.takesOver, BootAnswers.kept, hno]
  unfold boardInit
  refine Triple.bind (openLibrary_spec _ _) fun expBase => Triple.fact fun hexp => ?_
  subst hexp
  refine Triple.ite (fun hexp => Triple.ret fun s hs => ?_) fun hexp => ?_
  · have hfailed : a.expansion = false := by simpa using hexp
    obtain ⟨hno, hkept⟩ := hnone (by simp [BootAnswers.allocates, hfailed])
    rw [hfailed, if_neg Bool.false_ne_true, zero_add, ← hkept] at hs
    exact ⟨hno.symm, hs.booted hno⟩
  rw [if_pos (by simpa using hexp), add_zero]
  refine Triple.bind (getInterface_spec _ _) fun ipci => Triple.fact fun hpci => ?_
  subst hpci
  refine Triple.ite (fun hpci => ?_) fun hpci => ?_
  · have hfailed : a.pci = false := by simpa using hpci
    obtain ⟨hno, hkept⟩ := hnone (by simp [BootAnswers.allocates, hfailed])
    rw [hfailed, if_neg Bool.false_ne_true, zero_add]
    have hclose := @closeLibrary_spec x patch 0 .expansion
    refine Triple.bind hclose fun _ => Triple.ret fun s hs => ?_
    rw [← hkept] at hs
    exact ⟨hno.symm, hs.booted hno⟩
  rw [if_pos (by simpa using hpci)]
  change Triple (Booting x patch openedFirst) _ _
  refine Triple.ite (fun hdevice => ?_) fun hdevice => ?_
  · obtain ⟨hno, hkept⟩ := hnone (by simp [BootAnswers.allocates, hdevice])
    rw [← add_zero openedFirst, ← hkept]
    exact leave_booted hno
  -- the memory for the patch: named, or else anonymous
  refine Triple.bind (allocPatch_spec _ _) fun allocated => Triple.fact fun hmem => ?_
  subst hmem
  refine Triple.bind (setPatch_spec _) fun _ => ?_
  refine Triple.ite (fun hmem => ?_) fun hmem => ?_
  · have hfailed : (a.namedMemory || a.vecMemory) = false := by simpa using hmem
    obtain ⟨hno, hkept⟩ := hnone (by simp only [BootAnswers.allocates, hfailed, Bool.and_false])
    rw [hfailed, if_neg Bool.false_ne_true, if_neg Bool.false_ne_true, zero_add,
      ← add_zero openedFirst, ← hkept]
    exact leave_booted hno
  have hgot : (a.namedMemory || a.vecMemory) = true := by
    rwa [Bool.not_eq_true, Bool.not_eq_false'] at hmem
  have halloc : a.allocates = true := by
    simp only [Bool.not_eq_true, Bool.not_eq_false'] at hexp hpci
    simp [BootAnswers.allocates, hexp, hpci, hdevice, hgot]
  rw [if_pos hgot, if_pos hgot, add_comm]
  exact Triple.bind (setPatch_spec _) fun _ => hookPciGraphics_spec halloc

end

/-! ## The methods -/

section

variable {s : BootState} {device : UInt32}

/-- The call is noted, and the board is what the method leaves. -/
def BootState.called (s : BootState) (method : Method) (board : ℕ) (info : BoardInfo) : BootState :=
  { s with
    boards := Function.update s.boards board info
    calls := s.calls ++ [.original method board (s.boards board)] }

theorem callSaved_apply (hpatch : s.patch = some ⟨device, fun _ => some .original⟩)
    (method : Method) (board : ℕ) (a : Answer) :
    callSaved method board a s = (a.result, s.called method board a.info) := by
  unfold callSaved
  rw [get_bind_apply, hpatch]
  rfl

/-- The original method runs first; then the board has the device. -/
theorem hookFindCard_apply (hdevice : device ≠ 0)
    (hpatch : s.patch = some ⟨device, fun _ => some .original⟩) (board : ℕ) (a : Answer) :
    hookFindCard board a s = (true, s.called .findCard board (a.info.give device)) := by
  unfold hookFindCard
  rw [bind_apply (callSaved_apply hpatch .findCard board a), get_bind_apply]
  have hlater : (s.called .findCard board a.info).patch = s.patch := rfl
  rw [hlater, hpatch]
  simp only [if_neg hdevice]
  change (true, _) = (true, _)
  simp [BootState.called, BoardInfo.give]

theorem ours_iff (hdevice : device ≠ 0)
    (hpatch : s.patch = some ⟨device, fun _ => some .original⟩) (board : ℕ) :
    s.Ours board ↔ some device = some (s.boards board).pcidevice := by
  rw [BootState.Ours, hpatch, Option.some.injEq]
  constructor
  · rintro ⟨-, hsame⟩
    simpa using hsame
  · rintro rfl
    exact ⟨hdevice, by simp⟩

theorem openChip_apply (s : BootState) (a : InitBoardAnswers) :
    openChip a s =
      (a.loads, { s with sys := if a.loads then s.sys.acquire (.library .chip) else s.sys }) := by
  obtain ⟨opened, resident, openedAgain, interface, initCard, original⟩ := a
  cases opened <;> cases resident <;> cases openedAgain <;> rfl

/-- On a board that is not the module's, the original method runs. -/
theorem hookInitBoard_other (hpatch : s.patch = some ⟨device, fun _ => some .original⟩)
    {board : ℕ} (hother : ¬ s.Ours board) (a : InitBoardAnswers) :
    hookInitBoard board a s =
      (a.original.result, s.called .initBoard board a.original.info) := by
  unfold hookInitBoard
  rw [get_bind_apply, if_neg hother]
  exact callSaved_apply hpatch .initBoard board a.original

theorem hookInitBoard_unloaded {board : ℕ} (hours : s.Ours board) {a : InitBoardAnswers}
    (hloads : a.loads = false) : hookInitBoard board a s = (false, s) := by
  unfold hookInitBoard
  rw [get_bind_apply, if_pos hours, bind_apply (openChip_apply s a), hloads]
  rfl

/-- The library is closed again when it has no interface. -/
theorem hookInitBoard_bare {board : ℕ} (hours : s.Ours board) {a : InitBoardAnswers}
    (hloads : a.loads = true) (hiface : a.interface = false) :
    hookInitBoard board a s =
      (false, { s with
        boards := Function.update s.boards board
          { s.boards board with cardBase := some .pciGraphics, chipBase := none } }) := by
  unfold hookInitBoard
  rw [get_bind_apply, if_pos hours, bind_apply (openChip_apply s a), hloads, hiface]
  change (false, { s with
    sys := (s.sys.acquire (.library .chip)).release (.library .chip)
    boards := _ }) = _
  rw [Ledger.release_acquire]
  simp

theorem chipFindCard_apply {board : ℕ} (hset : (s.boards board).pcidevice ≠ 0) (a : Answer) :
    chipFindCard board a s =
      (a.result, { s with
        boards := Function.update s.boards board a.info
        calls := s.calls ++ [.initCard board
          { s.boards board with hardInterrupt := some (chipHardInterrupt board) }] }) := by
  unfold chipFindCard
  rw [get_bind_apply, if_neg hset]
  change (a.result, _) = (a.result, _)
  simp

/-- `chip_InitCard_C` finds a board that is prepared. -/
theorem hookInitBoard_started {board : ℕ} (hours : s.Ours board) {a : InitBoardAnswers}
    (hloads : a.loads = true) (hiface : a.interface = true) :
    hookInitBoard board a s =
      (a.initCard.result, { s with
        sys := s.sys.acquire (.library .chip)
        boards := Function.update s.boards board a.initCard.info
        calls := s.calls ++ [.initCard board ((s.boards board).prepare board)] }) := by
  unfold hookInitBoard
  rw [get_bind_apply, if_pos hours, bind_apply (openChip_apply s a), hloads, hiface]
  -- the state in which `chip_FindCard` is called
  let t : BootState := { s with
    sys := (s.sys.acquire (.library .chip)).acquire (.interface .chip)
    boards := Function.update s.boards board
      { s.boards board with cardBase := some .pciGraphics, chipBase := some .chip } }
  have hset : (t.boards board).pcidevice ≠ 0 := by
    simpa [t] using hours.1
  have hcall := chipFindCard_apply hset a.initCard
  change (chipFindCard board a.initCard >>= fun ok => do dropInterface .chip; return ok) t = _
  rw [bind_apply hcall]
  change (a.initCard.result, { t with
    sys := ((s.sys.acquire (.library .chip)).acquire (.interface .chip)).release (.interface .chip)
    boards := _
    calls := _ }) = _
  rw [Ledger.release_acquire]
  simp [t, BoardInfo.prepare]

end

namespace Refines

variable {s : BootState} {x : Service}

theorem boot (h : Refines s x) (hbooted : x.booted = false) (a : BootAnswers) :
    Refines { (boardInit a s).2 with booted := true } (x.boot a) := by
  obtain ⟨hdevice, hkept⟩ := h.fresh hbooted
  have hslot : Installed s.slot s.patch none := hdevice ▸ h.installed
  have hstart : Booting x s.patch 0 s :=
    ⟨hslot, rfl, h.boards, h.calls, hkept ▸ h.kept, h.running⟩
  obtain ⟨-, hend⟩ := boardInit_spec (a := a) s hstart
  refine ⟨hend.installed, fun hno => ?_, hend.boards, hend.calls, rfl, hend.held, hend.running⟩
  cases hno

/-- What a method leaves when it changes only the board and the calls. -/
theorem noted (h : Refines s x) {boards boards' : ℕ → BoardInfo} {calls calls' : List Call}
    (hboards : boards = boards') (hcalls : calls = calls') :
    Refines { s with boards := boards, calls := calls }
      { x with boards := boards', calls := calls' } :=
  ⟨h.installed, h.fresh, hboards, hcalls, h.booted, h.kept, h.running⟩

/-- The original method, called directly or by a hook. -/
theorem original (h : Refines s x) (method : Method) (board : ℕ) (info : BoardInfo)
    (result : Bool) :
    Refines ((s.called method board info).note method board result)
      (x.original method board info result) := by
  refine h.noted ?_ ?_
  · change Function.update s.boards board info = _
    rw [h.boards]
  · change s.calls ++ _ ++ _ = _
    rw [h.calls, h.boards, List.append_assoc]
    rfl

theorem findCard (h : Refines s x) (board : ℕ) (a : Answer) :
    Refines (callFindCard board a s).2 (x.findCard board a) := by
  unfold callFindCard Service.findCard
  rw [get_bind_apply]
  cases hdevice : x.device with
  | none =>
      have hslot : Installed s.slot s.patch none := hdevice ▸ h.installed
      have hslot : s.slot = fun _ => .original := hslot
      rw [hslot]
      exact h.original .findCard board a.info a.result
  | some device =>
      have hhooked : Installed s.slot s.patch (some device) := hdevice ▸ h.installed
      obtain ⟨hne, hslot, hpatch⟩ := hhooked
      rw [hslot]
      dsimp only
      rw [bind_apply (hookFindCard_apply hne hpatch board a)]
      exact h.original .findCard board (a.info.give device) true

theorem startChip (h : Refines s x) (hdevice : x.device ≠ none) {board : ℕ}
    (hours : s.Ours board) (a : InitBoardAnswers) :
    Refines ((hookInitBoard board a s).2.note .initBoard board (hookInitBoard board a s).1)
      (x.startChip board a) := by
  unfold Service.startChip
  cases hloads : a.loads with
  | false =>
      rw [hookInitBoard_unloaded hours hloads]
      refine h.noted h.boards ?_
      rw [h.calls]
  | true =>
      cases hiface : a.interface with
      | false =>
          rw [hookInitBoard_bare hours hloads hiface]
          refine h.noted ?_ ?_
          · rw [h.boards]
          · change s.calls ++ _ = _
            rw [h.calls]
      | true =>
          rw [hookInitBoard_started hours hloads hiface]
          have hkept : (s.sys.acquire (.library .chip)).Holds (.library .chip ::ₘ x.kept) := by
            rw [← Multiset.singleton_add]
            exact h.kept.acquire
          refine ⟨h.installed, fun hno => ?_, ?_, ?_, h.booted, hkept, h.running⟩
          · exact absurd (h.fresh hno).1 hdevice
          · change Function.update s.boards board _ = _
            rw [h.boards]
            rfl
          · change s.calls ++ _ ++ _ = _
            rw [h.calls, h.boards, List.append_assoc]
            rfl

theorem initBoard (h : Refines s x) (board : ℕ) (a : InitBoardAnswers) :
    Refines (callInitBoard board a s).2 (x.initBoard board a) := by
  unfold callInitBoard Service.initBoard
  rw [get_bind_apply]
  cases hdevice : x.device with
  | none =>
      have hslot : Installed s.slot s.patch none := hdevice ▸ h.installed
      have hslot : s.slot = fun _ => .original := hslot
      rw [hslot, if_neg (Option.some_ne_none _).symm]
      exact h.original .initBoard board a.original.info a.original.result
  | some device =>
      have hhooked : Installed s.slot s.patch (some device) := hdevice ▸ h.installed
      obtain ⟨hne, hslot, hpatch⟩ := hhooked
      have hiff := ours_iff hne hpatch board
      rw [h.boards] at hiff
      rw [hslot]
      by_cases hours : s.Ours board
      · rw [if_pos (hiff.mp hours)]
        exact h.startChip (by simp [hdevice]) hours a
      · rw [if_neg fun hsame => hours (hiff.mpr hsame)]
        dsimp only
        rw [bind_apply (hookInitBoard_other hpatch hours a)]
        exact h.original .initBoard board a.original.info a.original.result

theorem step (h : Refines s x) {action : Action} {t : BootState}
    (hstep : Boot.step s action = some t) :
    ∃ y, Service.step x action = some y ∧ Refines t y := by
  cases action with
  | boardInit a =>
      simp only [Boot.step, Service.step, h.booted] at hstep ⊢
      by_cases hbooted : x.booted = true
      · rw [if_pos hbooted] at hstep
        cases hstep
      · rw [if_neg hbooted] at hstep ⊢
        obtain rfl := Option.some.inj hstep
        exact ⟨_, rfl, h.boot (by simpa using hbooted) a⟩
  | findCard board a =>
      obtain rfl := Option.some.inj hstep
      exact ⟨_, rfl, h.findCard board a⟩
  | initBoard board a =>
      obtain rfl := Option.some.inj hstep
      exact ⟨_, rfl, h.initBoard board a⟩

end Refines

/-! ## Runs of the service -/

/-- The board that the method is called for. -/
def Action.board? : Action → Option ℕ
  | .boardInit _ => none
  | .findCard board _ => some board
  | .initBoard board _ => some board

namespace Service

variable {x y : Service}

/-! What the methods leave alone. -/

@[simp] theorem findCard_device (board : ℕ) (a : Answer) :
    (x.findCard board a).device = x.device := by
  unfold findCard
  split <;> rfl

@[simp] theorem findCard_booted (board : ℕ) (a : Answer) :
    (x.findCard board a).booted = x.booted := by
  unfold findCard
  split <;> rfl

@[simp] theorem startChip_device (board : ℕ) (a : InitBoardAnswers) :
    (x.startChip board a).device = x.device := by
  unfold startChip
  cases a.loads <;> cases a.interface <;> rfl

@[simp] theorem startChip_booted (board : ℕ) (a : InitBoardAnswers) :
    (x.startChip board a).booted = x.booted := by
  unfold startChip
  cases a.loads <;> cases a.interface <;> rfl

@[simp] theorem initBoard_device (board : ℕ) (a : InitBoardAnswers) :
    (x.initBoard board a).device = x.device := by
  unfold initBoard
  split
  · exact startChip_device board a
  · rfl

@[simp] theorem initBoard_booted (board : ℕ) (a : InitBoardAnswers) :
    (x.initBoard board a).booted = x.booted := by
  unfold initBoard
  split
  · exact startChip_booted board a
  · rfl

theorem findCard_elsewhere {board other : ℕ} (hne : other ≠ board) (a : Answer) :
    (x.findCard board a).boards other = x.boards other := by
  unfold findCard
  split <;> exact Function.update_of_ne hne _ _

theorem initBoard_elsewhere {board other : ℕ} (hne : other ≠ board) (a : InitBoardAnswers) :
    (x.initBoard board a).boards other = x.boards other := by
  unfold initBoard
  split
  · unfold startChip
    cases a.loads <;> cases a.interface <;>
      first | rfl | exact Function.update_of_ne hne _ _
  · exact Function.update_of_ne hne _ _

/-- The chip driver is started on prepared boards that have the device, and only after the
driver was taken over for it. -/
structure Served (x : Service) : Prop where
  fresh : x.booted = false → x.device = none
  started : ∀ board info, .initCard board info ∈ x.calls →
    x.device = some info.pcidevice ∧ info.cardBase = some .pciGraphics ∧
      info.chipBase = some .chip ∧ info.hardInterrupt = some (chipHardInterrupt board)

theorem start_served (boards : ℕ → BoardInfo) : (start boards).Served :=
  ⟨fun _ => rfl, fun _ _ hmem => by cases hmem⟩

namespace Served

theorem boot (h : x.Served) (hbooted : x.booted = false) (a : BootAnswers) :
    (x.boot a).Served := by
  refine ⟨fun hno => (by cases hno), fun board info hmem => ?_⟩
  -- before the takeover there was none
  have hbefore := (h.started board info hmem).1
  rw [h.fresh hbooted] at hbefore
  cases hbefore

theorem original (h : x.Served) (method : Method) (board : ℕ) (info : BoardInfo)
    (result : Bool) : (x.original method board info result).Served := by
  refine ⟨h.fresh, fun board' info' hmem => h.started board' info' ?_⟩
  simpa [Service.original] using hmem

theorem startChip (h : x.Served) {board : ℕ}
    (hours : x.device = some (x.boards board).pcidevice) (a : InitBoardAnswers) :
    (x.startChip board a).Served := by
  refine ⟨by simpa using h.fresh, fun board' info' hmem => ?_⟩
  rw [startChip_device]
  by_cases hold : .initCard board' info' ∈ x.calls
  · exact h.started board' info' hold
  · have hnew : board' = board ∧ info' = (x.boards board).prepare board := by
      unfold Service.startChip at hmem
      cases hloads : a.loads with
      | false => simp [hloads, hold] at hmem
      | true =>
          cases hiface : a.interface with
          | false => simp [hloads, hiface, hold] at hmem
          | true => simpa [hloads, hiface, hold] using hmem
    obtain ⟨rfl, rfl⟩ := hnew
    exact ⟨hours, rfl, rfl, rfl⟩

theorem step (h : x.Served) {action : Action} (hstep : Service.step x action = some y) :
    y.Served := by
  cases action with
  | boardInit a =>
      rw [Service.step] at hstep
      split at hstep
      · cases hstep
      · obtain rfl := Option.some.inj hstep
        exact h.boot (by simpa using ‹¬ x.booted = true›) a
  | findCard board a =>
      obtain rfl := Option.some.inj hstep
      unfold Service.findCard
      split
      · exact h.original _ _ _ _
      · exact h.original _ _ _ _
  | initBoard board a =>
      obtain rfl := Option.some.inj hstep
      unfold Service.initBoard
      split
      · exact h.startChip ‹_› a
      · exact h.original _ _ _ _

end Served

/-- Once `board_init` has run, the device is not changed. -/
theorem step_device (hbooted : x.booted = true) {action : Action}
    (hstep : step x action = some y) : y.device = x.device ∧ y.booted = true := by
  cases action with
  | boardInit a =>
      rw [step, if_pos hbooted] at hstep
      cases hstep
  | findCard board a =>
      obtain rfl := Option.some.inj hstep
      exact ⟨findCard_device board a, (findCard_booted board a).trans hbooted⟩
  | initBoard board a =>
      obtain rfl := Option.some.inj hstep
      exact ⟨initBoard_device board a, (initBoard_booted board a).trans hbooted⟩

/-- After a `board_init` that succeeds, the driver stays taken over. -/
theorem run_device {actions : List Action} {a : BootAnswers} (hmem : .boardInit a ∈ actions)
    (htakes : a.takesOver = true) (hrun : run step x actions = some y) :
    y.device = some a.device ∧ y.booted = true := by
  induction actions generalizing x with
  | nil => cases hmem
  | cons action rest ih =>
      obtain ⟨u, hstep, hrest⟩ := run_cons_eq_some.mp hrun
      rcases List.mem_cons.mp hmem with rfl | hmem
      · have hu : u.device = some a.device ∧ u.booted = true := by
          rw [step] at hstep
          split at hstep
          · cases hstep
          · obtain rfl := Option.some.inj hstep
            exact ⟨if_pos htakes, rfl⟩
        refine run_invariant' (I := fun z => z.device = some a.device ∧ z.booted = true)
          (fun s b t hs ht => ?_) hu hrest
        obtain ⟨hdevice, hbooted⟩ := step_device hs.2 ht
        exact ⟨hdevice.trans hs.1, hbooted⟩
      · exact ih hmem hrest

theorem step_elsewhere {action : Action} {board : ℕ} (hother : action.board? ≠ some board)
    (hstep : step x action = some y) : y.boards board = x.boards board := by
  cases action with
  | boardInit a =>
      rw [step] at hstep
      split at hstep
      · cases hstep
      · obtain rfl := Option.some.inj hstep
        rfl
  | findCard other a =>
      obtain rfl := Option.some.inj hstep
      exact findCard_elsewhere (fun heq => hother (by rw [heq]; rfl)) a
  | initBoard other a =>
      obtain rfl := Option.some.inj hstep
      exact initBoard_elsewhere (fun heq => hother (by rw [heq]; rfl)) a

/-- A board that was found keeps the device until it is initialised. -/
theorem found_run {device : UInt32} (hdevice : x.device = some device) (hbooted : x.booted = true)
    {board : ℕ} {a : Answer} {mid : List Action}
    (hmid : ∀ action ∈ mid, action.board? ≠ some board)
    (hrun : run step x (.findCard board a :: mid) = some y) :
    y.device = some device ∧ y.boards board = a.info.give device := by
  obtain ⟨u, hstep, hrest⟩ := run_cons_eq_some.mp hrun
  obtain rfl := Option.some.inj hstep
  have hfound : (x.findCard board a).boards board = a.info.give device := by
    unfold findCard
    rw [hdevice]
    exact Function.update_self ..
  let I : Service → Prop := fun z =>
    (z.device = some device ∧ z.booted = true) ∧ z.boards board = a.info.give device
  have hstart : I (x.findCard board a) := by
    refine ⟨⟨?_, ?_⟩, hfound⟩
    · rw [findCard_device, hdevice]
    · rw [findCard_booted, hbooted]
  have hend : I y := by
    have hwithin : Within step (fun _ action => action.board? ≠ some board)
        (x.findCard board a) mid :=
      within_of_forall hmid
    refine run_invariant (fun s b t hs hb ht => ?_) hstart hwithin hrest
    obtain ⟨hdevice, hbooted⟩ := step_device hs.1.2 ht
    exact ⟨⟨hdevice.trans hs.1.1, hbooted⟩, (step_elsewhere hb ht).trans hs.2⟩
  exact ⟨hend.1.1, hend.2⟩

end Service

/-! ## The takeover -/

/-- Over every run, the boot module and its hooks do what the service does, for every answer of
the system: the boards and the calls are the same, what is acquired is what the service keeps,
nothing is released that is not held, and there is no jump to nowhere.  The chip driver is
started on prepared boards with the device only; and on a board that was found since the takeover
the next call of `InitBoard` starts it, where the chip library can be opened and has its
interface. -/
theorem hooks_take_over (boards : ℕ → BoardInfo) {actions : List Action} {s : BootState}
    (hrun : run step (BootState.start boards) actions = some s) :
    (∃ x, run Service.step (Service.start boards) actions = some x ∧ Refines s x ∧ x.Served) ∧
      ∀ first a c mid board b,
        actions = first ++ (.findCard board c :: mid ++ [.initBoard board b]) →
        .boardInit a ∈ first → a.takesOver = true →
        (∀ action ∈ mid, action.board? ≠ some board) → b.loads = true → b.interface = true →
        ∃ earlier, s.calls = earlier ++ [.initCard board ((c.info.give a.device).prepare board),
          .returned .initBoard board b.initCard.result] := by
  have hmatched : ∀ s action t x, Refines s x → step s action = some t →
      ∃ y, Service.step x action = some y ∧ Refines t y :=
    fun _ _ _ _ hR hstep => hR.step hstep
  obtain ⟨x, hx, hrefines⟩ := run_lockstep hmatched (start_refines boards) hrun
  refine ⟨⟨x, hx, hrefines, ?_⟩, ?_⟩
  · exact run_invariant' (I := Service.Served) (fun _ _ _ hI hstep => hI.step hstep)
      (Service.start_served boards) hx
  rintro first a c mid board b rfl hmem htakes hmid hloads hiface
  obtain ⟨x₁, hfirst, hsecond⟩ := run_append_eq_some.mp hx
  obtain ⟨x₂, hfound, hlast⟩ := run_append_eq_some.mp hsecond
  obtain ⟨hdevice, hbooted⟩ := Service.run_device hmem htakes hfirst
  obtain ⟨hdevice, hboard⟩ := Service.found_run hdevice hbooted hmid hfound
  obtain ⟨x₃, hstep, hend⟩ := run_cons_eq_some.mp hlast
  obtain rfl : x₃ = x := by simpa using hend
  obtain rfl := Option.some.inj hstep
  have hours : x₂.device = some (x₂.boards board).pcidevice := by
    rw [hdevice, hboard]
    rfl
  refine ⟨x₂.calls, ?_⟩
  rw [hrefines.calls, ← hboard]
  simp [Service.initBoard, if_pos hours, Service.startChip, hloads, hiface]

/-- The answers of a system where everything is there. -/
def BootAnswers.working (device : UInt32) : BootAnswers :=
  ⟨true, true, device, true, false, true, true, true⟩

/-- The original `FindCard` finds nothing, and the chip library comes from its resident. -/
theorem hooks_take_over_resident :
    ∃ s, run step (BootState.start fun _ => {})
        [.boardInit (.working 7), .findCard 1 ⟨false, {}⟩,
          .initBoard 1 ⟨false, true, true, true, ⟨true, {}⟩, ⟨false, {}⟩⟩] = some s ∧
      ∃ earlier, s.calls = earlier ++
        [.initCard 1 ((BoardInfo.give {} 7).prepare 1), .returned .initBoard 1 true] :=
  ⟨_, rfl, (hooks_take_over (fun _ => {}) rfl).2 [.boardInit (.working 7)] (.working 7)
    ⟨false, {}⟩ [] 1 _ rfl (by simp) rfl (by simp) rfl rfl⟩

end VirtIOGPU.Boot
