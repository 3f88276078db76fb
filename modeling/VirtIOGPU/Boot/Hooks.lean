import Mathlib.Logic.Function.Basic
import VirtIOGPU.Lib.Hoare
import VirtIOGPU.Lib.Ledger

/-!
# The boot module and its two hooks

Before graphics.library starts, `board_init` looks for the device and replaces two methods of
`PCIGraphics.card`, which graphics.library calls later for its boards: `hook_FindCard` lets every
board have the device, and `hook_InitBoard` gives a board that has it to `virtiogpu.chip`.

`PCIGraphics.card` is not part of the program.  What its methods return and leave in the
`BoardInfo` is an argument of each call, as are the results of exec.library.
-/

namespace VirtIOGPU.Boot

open Lib Lib.Hoare

/-! ## The state -/

/-- `expansion.library`, `PCIGraphics.card` and `virtiogpu.chip`. -/
inductive LibraryName where
  | expansion
  | pciGraphics
  | chip
  deriving DecidableEq, Repr

inductive Resource where
  | library (name : LibraryName)
  | interface (name : LibraryName)
  /-- The block for `VirtIOGPUPatch`. -/
  | patch
  deriving DecidableEq, Repr

/-- The methods at the offsets 76 and 80. -/
inductive Method where
  | findCard
  | initBoard
  deriving DecidableEq, Repr

/-- What a method can be. -/
inductive Code where
  | original
  | hook
  deriving DecidableEq, Repr

/-- `struct VirtIOGPUPatch`: `pciDev`, and `orig_FindCard` and `orig_InitBoard` as `orig`. -/
structure Patch where
  pciDev : UInt32 := 0
  orig : Method → Option Code := fun _ => none

/-- What `is_Code` can be. -/
inductive InterruptCode where
  | chipIrqNop
  | other
  deriving DecidableEq, Repr

/-- `bi->HardInterrupt`. -/
structure HardInterrupt where
  lnType : UInt8
  lnPri : Int8
  lnName : String
  isData : ℕ
  isCode : InterruptCode
  deriving DecidableEq, Repr

/-- What the functions read and write of a `BoardInfo`. -/
structure BoardInfo where
  /-- The field at the offset 1630. -/
  pcidevice : UInt32 := 0
  boardName : Option String := none
  cardBase : Option LibraryName := none
  chipBase : Option LibraryName := none
  hardInterrupt : Option HardInterrupt := none
  deriving DecidableEq, Repr

/-- What can be seen from outside: the calls of code that is not this module's, with the
`BoardInfo` that they find, and the results of the methods. -/
inductive Call where
  | original (method : Method) (board : ℕ) (info : BoardInfo)
  /-- `chip_InitCard_C`. -/
  | initCard (board : ℕ) (info : BoardInfo)
  | returned (method : Method) (board : ℕ) (result : Bool)
  deriving DecidableEq, Repr

structure BootState where
  sys : Ledger Resource
  /-- `g_patch`. -/
  patch : Option Patch
  /-- The `main` interface of `PCIGraphics.card`. -/
  slot : Method → Code
  boards : ℕ → BoardInfo
  calls : List Call
  /-- `board_init` has run. -/
  booted : Bool
  /-- A jump through `NULL`, or a hook that calls itself. -/
  crashed : Bool

def BootState.start (boards : ℕ → BoardInfo) : BootState :=
  ⟨⟨0, false⟩, none, fun _ => .original, boards, [], false, false⟩

abbrev Exec := StateM BootState

/-! ## Calls of exec.library -/

def openLibrary (name : LibraryName) (ok : Bool) : Exec Bool := do
  onlyIf ok (modify fun s => { s with sys := s.sys.acquire (.library name) })
  return ok

def closeLibrary (name : LibraryName) : Exec Unit :=
  modify fun s => { s with sys := s.sys.release (.library name) }

def getInterface (name : LibraryName) (ok : Bool) : Exec Bool := do
  onlyIf ok (modify fun s => { s with sys := s.sys.acquire (.interface name) })
  return ok

def dropInterface (name : LibraryName) : Exec Unit :=
  modify fun s => { s with sys := s.sys.release (.interface name) }

/-- `AllocNamedMemoryTags`, or `AllocVecTags` where that fails. -/
def allocPatch (named vec : Bool) : Exec Bool := do
  onlyIf (named || vec) (modify fun s => { s with sys := s.sys.acquire .patch })
  return named || vec

def setInfo (board : ℕ) (f : BoardInfo → BoardInfo) : Exec Unit :=
  modify fun s => { s with boards := Function.update s.boards board (f (s.boards board)) }

/-! ## Code that is not this module's -/

/-- What a call returns, and the `BoardInfo` that it leaves. -/
structure Answer where
  result : Bool
  info : BoardInfo
  deriving DecidableEq, Repr

def callOriginal (method : Method) (board : ℕ) (a : Answer) : Exec Bool := do
  modify fun s => { s with calls := s.calls ++ [.original method board (s.boards board)] }
  setInfo board fun _ => a.info
  return a.result

/-- `chip_InitCard_C`, which is `VirtIOGPU.Card.chipInitCard`. -/
def chipInitCardC (board : ℕ) (a : Answer) : Exec Bool := do
  modify fun s => { s with calls := s.calls ++ [.initCard board (s.boards board)] }
  setInfo board fun _ => a.info
  return a.result

/-! ## `chip_FindCard` -/

def ntInterrupt : UInt8 := 2

def chipHardInterrupt (board : ℕ) : HardInterrupt where
  lnType := ntInterrupt
  lnPri := 0
  lnName := "VirtIOGPU"
  isData := board
  isCode := .chipIrqNop

/-- `chip_FindCard`, with `cardDesc = NULL`. -/
def chipFindCard (board : ℕ) (a : Answer) : Exec Bool := do
  let s ← get
  if (s.boards board).pcidevice = 0 then
    return false
  setInfo board fun info => { info with hardInterrupt := some (chipHardInterrupt board) }
  chipInitCardC board a

/-! ## The hooks -/

/-- A call through `orig_FindCard` or `orig_InitBoard`. -/
def callSaved (method : Method) (board : ℕ) (a : Answer) : Exec Bool := do
  let s ← get
  if s.patch.bind (fun patch => patch.orig method) = some .original then
    callOriginal method board a
  else
    modify fun s => { s with crashed := true }
    return false

def hookFindCard (board : ℕ) (a : Answer) : Exec Bool := do
  let result ← callSaved .findCard board a
  let s ← get
  match s.patch with
  | none => return result
  | some patch =>
      if patch.pciDev = 0 then
        return result
      setInfo board fun info =>
        { info with pcidevice := patch.pciDev, boardName := some "VirtIOGPU" }
      return true

/-- The answers to `hook_InitBoard`. -/
structure InitBoardAnswers where
  opened : Bool
  resident : Bool
  openedAgain : Bool
  interface : Bool
  initCard : Answer
  original : Answer
  deriving DecidableEq, Repr

/-- The chip library, from its resident where it is not there yet. -/
def openChip (a : InitBoardAnswers) : Exec Bool := do
  let chipLib ← openLibrary .chip a.opened
  if chipLib then
    return true
  if !a.resident then
    return false
  openLibrary .chip a.openedAgain

/-- `pciDev && g_patch && pciDev == g_patch->pciDev`. -/
def BootState.Ours (s : BootState) (board : ℕ) : Prop :=
  (s.boards board).pcidevice ≠ 0 ∧
    s.patch.any (fun patch => patch.pciDev = (s.boards board).pcidevice) = true

instance (s : BootState) (board : ℕ) : Decidable (s.Ours board) :=
  inferInstanceAs (Decidable (_ ∧ _))

def hookInitBoard (board : ℕ) (a : InitBoardAnswers) : Exec Bool := do
  let s ← get
  if s.Ours board then
    let chipLib ← openChip a
    if !chipLib then
      return false
    setInfo board fun info =>
      { info with cardBase := some .pciGraphics, chipBase := some .chip }
    let chipIFace ← getInterface .chip a.interface
    if !chipIFace then
      setInfo board fun info => { info with chipBase := none }
      closeLibrary .chip
      return false
    let ok ← chipFindCard board a.initCard
    -- the library stays open
    dropInterface .chip
    return ok
  else
    callSaved .initBoard board a.original

/-! ## `board_init` -/

/-- The answers to `board_init`; `device` is what `FindDeviceTags` returns. -/
structure BootAnswers where
  expansion : Bool
  pci : Bool
  device : UInt32
  namedMemory : Bool
  vecMemory : Bool
  resident : Bool
  pciGraphics : Bool
  interface : Bool
  deriving DecidableEq, Repr

def setPatch (f : Option Patch → Option Patch) : Exec Unit :=
  modify fun s => { s with patch := f s.patch }

/-- The end of every failing path. -/
def leave : Exec Bool := do
  dropInterface .expansion
  closeLibrary .expansion
  return false

/-- Step 5: the methods are saved, and `SetMethod` replaces them. -/
def installHooks : Exec Unit :=
  modify fun s =>
    { s with
      patch := s.patch.map fun patch => { patch with orig := fun method => some (s.slot method) }
      slot := fun _ => .hook }

/-- Step 4: `PCIGraphics.card`. -/
def hookPciGraphics (a : BootAnswers) : Exec Bool := do
  if !a.resident then
    leave
  else
    let pcigfxLib ← openLibrary .pciGraphics a.pciGraphics
    if !pcigfxLib then
      leave
    else
      let pcigfxIface ← getInterface .pciGraphics a.interface
      if !pcigfxIface then
        closeLibrary .pciGraphics
        leave
      else
        installHooks
        dropInterface .pciGraphics
        return true

def boardInit (a : BootAnswers) : Exec Bool := do
  let expBase ← openLibrary .expansion a.expansion
  if !expBase then
    return false
  let ipci ← getInterface .expansion a.pci
  if !ipci then
    closeLibrary .expansion
    return false
  if a.device = 0 then
    leave
  else
    let allocated ← allocPatch a.namedMemory a.vecMemory
    setPatch fun _ => if allocated then some {} else none
    if !allocated then
      leave
    else
      setPatch fun patch => patch.map fun patch => { patch with pciDev := a.device }
      hookPciGraphics a

/-! ## Runs -/

def BootState.note (s : BootState) (method : Method) (board : ℕ) (result : Bool) : BootState :=
  { s with calls := s.calls ++ [.returned method board result] }

/-- A call of the method in the slot. -/
def callFindCard (board : ℕ) (a : Answer) : Exec Unit := do
  let s ← get
  let result ← match s.slot .findCard with
    | .original => callOriginal .findCard board a
    | .hook => hookFindCard board a
  modify fun s => s.note .findCard board result

def callInitBoard (board : ℕ) (a : InitBoardAnswers) : Exec Unit := do
  let s ← get
  let result ← match s.slot .initBoard with
    | .original => callOriginal .initBoard board a.original
    | .hook => hookInitBoard board a
  modify fun s => s.note .initBoard board result

inductive Action where
  /-- exec.library initialises a resident once. -/
  | boardInit (a : BootAnswers)
  | findCard (board : ℕ) (a : Answer)
  | initBoard (board : ℕ) (a : InitBoardAnswers)
  deriving DecidableEq, Repr

def step (s : BootState) : Action → Option BootState
  | .boardInit a => if s.booted then none else some { (boardInit a s).2 with booted := true }
  | .findCard board a => some (callFindCard board a s).2
  | .initBoard board a => some (callInitBoard board a s).2

end VirtIOGPU.Boot
