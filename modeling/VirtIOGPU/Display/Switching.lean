import VirtIOGPU.Lib.Ledger

/-!
# Switching the display on

`chip_SetSwitch` and `chip_SetDisplay` start the flush task, and the first calls of
`chip_SetSwitch` with `TRUE` do what could not be done in `chip_InitCard_C`, because the display
database or `dos.library` were not there yet.  Each of these late things has a guard of its own,
which is set whether it succeeds or not.

```text
  function                          guard                  when                 effect
  chip_comp_set_dipf_flags          done                   TRUE, card ready     patchMode
  chip_dump_displayinfobase         displayinfo_dumped     TRUE                 hideMode
  chip_apply_null_vtable_overrides  null_vtable_checked    TRUE                 methods to NULL
```

The first two walk over all modes of the display database.  `patchMode` marks the RTG modes of this
board with `DIPF_IS_HWCOMPOSITE`; `hideMode` makes every mode that is no RTG mode unavailable,
whosever it is and whether the card is ready or not.  No mode is touched by both, so it does not
matter in which order they come (`patchWhen_hideWhen`).

What the whole run has come to is said in terms of the calls alone (`display_switched`): the first
call with `TRUE` decides about the hidden modes and about the methods, the first one on a ready card
about the marked modes.  There is one flush task at most, and of all that is opened only
`dos.library` stays open.
-/

namespace VirtIOGPU.Switching

open Lib

/-! ## The state -/

/-- `dos.library` and `graphics.library`. -/
inductive LibraryName where
  | dos
  | graphics
  deriving DecidableEq, Repr

inductive Resource where
  | library (name : LibraryName)
  | interface (name : LibraryName)
  deriving DecidableEq, Repr

/-- An entry of the display database. -/
structure DisplayMode where
  /-- `FindDisplayInfo` finds it. -/
  handle : Bool
  /-- What `GetDisplayInfoData` returns. -/
  got : UInt32
  propertyFlags : UInt32
  notAvailable : UInt16
  rtgBoardNum : UInt8
  deriving DecidableEq, Repr

/-- The bits of the SDK, and `gs->bi->BoardNum`. -/
structure BoardBits where
  isRtg : UInt32
  isHwComposite : UInt32
  /-- `DI_AVAIL_NOCHIPS`. -/
  noChips : UInt16
  boardNum : UInt32
  deriving DecidableEq, Repr

structure SwitchState where
  sys : Ledger Resource
  /-- The display database, in the order of `NextDisplayInfo`. -/
  modes : List DisplayMode
  /-- `done` of `chip_comp_set_dipf_flags`. -/
  done : Bool
  rtgOutputEnabled : Bool
  flushRunning : Bool
  dosBase : Bool
  idos : Bool
  displayinfoDumped : Bool
  nullVtableChecked : Bool
  /-- The eighteen drawing methods are `NULL`. -/
  nulled : Bool
  /-- The flush tasks and processes that were created. -/
  tasks : ℕ

/-- After `chip_InitCard_C`. -/
def SwitchState.start (modes : List DisplayMode) : SwitchState :=
  ⟨⟨0, false⟩, modes, false, true, false, false, false, false, false, false, 0⟩

/-- The answers to `chip_SetSwitch`; `ready` is `gs->virgl_2d_ready`. -/
structure SwitchAnswers where
  ready : Bool
  openDos : Bool
  getDos : Bool
  createProc : Bool
  openGraphics : Bool
  getGraphics : Bool
  /-- For `chip_dump_displayinfobase`, which asks for version 53 instead of 54. -/
  openGraphics53 : Bool
  getGraphics53 : Bool
  openDosLate : Bool
  getDosLate : Bool
  /-- `GetVar` finds the variable. -/
  getVar : Bool
  deriving DecidableEq, Repr

/-! ## The functions -/

/-- `gs->DOSBase` and `gs->IDOS`, where there is no library yet.  One of the two places also tests
`!gs->IDOS`, which holds there (`Sound.interface`). -/
def openDos (opens gets : Bool) (s : SwitchState) : SwitchState :=
  if s.dosBase then s
  else if !opens then s
  else
    let s := { s with dosBase := true, sys := s.sys.acquire (.library .dos) }
    if !gets then s
    else { s with idos := true, sys := s.sys.acquire (.interface .dos) }

def startTask (created : Bool) (s : SwitchState) : SwitchState :=
  if created then { s with flushRunning := true, tasks := s.tasks + 1 } else s

/-- The process that `chip_SetSwitch` starts. -/
def startFallback (a : SwitchAnswers) (s : SwitchState) : SwitchState :=
  let s := openDos a.openDos a.getDos s
  if s.idos then startTask a.createProc s else s

/-- The body of the loop of `chip_comp_set_dipf_flags`. -/
def patchMode (bits : BoardBits) (mode : DisplayMode) : DisplayMode :=
  if !mode.handle then mode
  else if mode.got < 48 then mode
  else if mode.propertyFlags &&& bits.isRtg = 0 then mode
  else if mode.rtgBoardNum.toUInt32 ≠ bits.boardNum then mode
  else if mode.propertyFlags &&& bits.isHwComposite ≠ 0 then mode
  else { mode with propertyFlags := mode.propertyFlags ||| bits.isHwComposite }

/-- Change the display database, where `graphics.library` and its interface can be had. -/
def withGraphics (opens gets : Bool) (change : DisplayMode → DisplayMode) (s : SwitchState) :
    SwitchState :=
  if !opens then s
  else
    let s := { s with sys := s.sys.acquire (.library .graphics) }
    if !gets then { s with sys := s.sys.release (.library .graphics) }
    else
      let s := { s with sys := s.sys.acquire (.interface .graphics) }
      let s := { s with modes := s.modes.map change }
      let s := { s with sys := s.sys.release (.interface .graphics) }
      { s with sys := s.sys.release (.library .graphics) }

def chipCompSetDipfFlags (bits : BoardBits) (a : SwitchAnswers) (s : SwitchState) : SwitchState :=
  if s.done then s
  else withGraphics a.openGraphics a.getGraphics (patchMode bits) { s with done := true }

/-- The body of the second loop of `chip_dump_displayinfobase`; `got` is a `LONG` here. -/
def hideMode (bits : BoardBits) (mode : DisplayMode) : DisplayMode :=
  if !mode.handle then mode
  else if mode.got.toInt32 < 48 then mode
  else if mode.propertyFlags &&& bits.isRtg ≠ 0 then mode
  else if mode.notAvailable = bits.noChips then mode
  else { mode with notAvailable := bits.noChips }

/-- The first loop only logs. -/
def chipDumpDisplayinfobase (bits : BoardBits) (a : SwitchAnswers) (s : SwitchState) :
    SwitchState :=
  withGraphics a.openGraphics53 a.getGraphics53 (hideMode bits) s

def chipApplyNullVtableOverrides (a : SwitchAnswers) (s : SwitchState) : SwitchState :=
  let s := openDos a.openDosLate a.getDosLate s
  if !s.idos then s
  else if !a.getVar then s
  else { s with nulled := true }

def onlyWhen (c : Bool) (f : SwitchState → SwitchState) (s : SwitchState) : SwitchState :=
  if c then f s else s

def chipSetSwitch (bits : BoardBits) (enabled : Bool) (a : SwitchAnswers) (s : SwitchState) :
    SwitchState :=
  let s := { s with rtgOutputEnabled := enabled }
  let s := onlyWhen (enabled && !s.flushRunning) (startFallback a) s
  let s := onlyWhen (enabled && a.ready) (chipCompSetDipfFlags bits a) s
  let s := onlyWhen (enabled && !s.displayinfoDumped)
    (fun s => { chipDumpDisplayinfobase bits a s with displayinfoDumped := true }) s
  onlyWhen (enabled && !s.nullVtableChecked)
    (fun s => { chipApplyNullVtableOverrides a s with nullVtableChecked := true }) s

/-- `created` is the answer of `CreateTaskTags`. -/
def chipSetDisplay (enabled created : Bool) (s : SwitchState) : SwitchState :=
  onlyWhen (enabled && !s.flushRunning) (startTask created) s

inductive SwitchCall where
  | setSwitch (enabled : Bool) (a : SwitchAnswers)
  | setDisplay (enabled created : Bool)
  deriving DecidableEq, Repr

def SwitchState.step (bits : BoardBits) (s : SwitchState) : SwitchCall → SwitchState
  | .setSwitch enabled a => chipSetSwitch bits enabled a s
  | .setDisplay enabled created => chipSetDisplay enabled created s

def SwitchState.run (bits : BoardBits) (s : SwitchState) (calls : List SwitchCall) : SwitchState :=
  calls.foldl (SwitchState.step bits) s

/-! ## What each function changes -/

section

variable {bits : BoardBits} {a : SwitchAnswers} {s : SwitchState}

/-- Only `sys`, `DOSBase` and `IDOS`. -/
theorem openDos_frame (opens gets : Bool) (s : SwitchState) :
    openDos opens gets s =
      { s with
        sys := (openDos opens gets s).sys
        dosBase := (openDos opens gets s).dosBase
        idos := (openDos opens gets s).idos } := by
  unfold openDos
  split_ifs <;> rfl

@[simp] theorem openDos_modes (opens gets : Bool) (s : SwitchState) :
    (openDos opens gets s).modes = s.modes := by
  rw [openDos_frame]

@[simp] theorem openDos_done (opens gets : Bool) (s : SwitchState) :
    (openDos opens gets s).done = s.done := by
  rw [openDos_frame]

@[simp] theorem openDos_rtgOutputEnabled (opens gets : Bool) (s : SwitchState) :
    (openDos opens gets s).rtgOutputEnabled = s.rtgOutputEnabled := by
  rw [openDos_frame]

@[simp] theorem openDos_flushRunning (opens gets : Bool) (s : SwitchState) :
    (openDos opens gets s).flushRunning = s.flushRunning := by
  rw [openDos_frame]

@[simp] theorem openDos_displayinfoDumped (opens gets : Bool) (s : SwitchState) :
    (openDos opens gets s).displayinfoDumped = s.displayinfoDumped := by
  rw [openDos_frame]

@[simp] theorem openDos_nullVtableChecked (opens gets : Bool) (s : SwitchState) :
    (openDos opens gets s).nullVtableChecked = s.nullVtableChecked := by
  rw [openDos_frame]

@[simp] theorem openDos_nulled (opens gets : Bool) (s : SwitchState) :
    (openDos opens gets s).nulled = s.nulled := by
  rw [openDos_frame]

@[simp] theorem openDos_tasks (opens gets : Bool) (s : SwitchState) :
    (openDos opens gets s).tasks = s.tasks := by
  rw [openDos_frame]

/-- A task is created where `IDOS` is there and the process can be created. -/
theorem startFallback_eq (a : SwitchAnswers) (s : SwitchState) :
    startFallback a s =
      startTask ((openDos a.openDos a.getDos s).idos && a.createProc)
        (openDos a.openDos a.getDos s) := by
  have hcases : ∀ t : SwitchState, (if t.idos = true then startTask a.createProc t else t) =
      startTask (t.idos && a.createProc) t := by
    intro t
    cases hidos : t.idos with
    | false => rfl
    | true => rfl
  exact hcases _

@[simp] theorem startTask_eq (created : Bool) (s : SwitchState) :
    startTask created s =
      { s with
        flushRunning := s.flushRunning || created
        tasks := s.tasks + if created then 1 else 0 } := by
  unfold startTask
  cases created <;> simp

/-- The graphics library is given back on every path. -/
theorem withGraphics_eq (opens gets : Bool) (change : DisplayMode → DisplayMode)
    (s : SwitchState) :
    withGraphics opens gets change s =
      { s with modes := if opens && gets then s.modes.map change else s.modes } := by
  unfold withGraphics
  cases opens with
  | false => simp
  | true =>
      cases gets with
      | false => simp
      | true => simp

theorem chipCompSetDipfFlags_eq (bits : BoardBits) (a : SwitchAnswers) (s : SwitchState) :
    chipCompSetDipfFlags bits a s =
      { s with
        done := true
        modes := if !s.done && a.openGraphics && a.getGraphics then s.modes.map (patchMode bits)
          else s.modes } := by
  unfold chipCompSetDipfFlags
  cases hdone : s.done with
  | true => rw [if_pos rfl, if_neg (by simp), ← hdone]
  | false =>
      rw [if_neg Bool.false_ne_true, withGraphics_eq]
      simp

theorem chipDumpDisplayinfobase_eq (bits : BoardBits) (a : SwitchAnswers) (s : SwitchState) :
    chipDumpDisplayinfobase bits a s =
      { s with
        modes := if a.openGraphics53 && a.getGraphics53 then s.modes.map (hideMode bits)
          else s.modes } :=
  withGraphics_eq _ _ _ _

theorem chipApplyNullVtableOverrides_eq (a : SwitchAnswers) (s : SwitchState) :
    chipApplyNullVtableOverrides a s =
      { openDos a.openDosLate a.getDosLate s with
        nulled := s.nulled || ((openDos a.openDosLate a.getDosLate s).idos && a.getVar) } := by
  have hcases : ∀ t : SwitchState,
      (if (!t.idos) = true then t else if (!a.getVar) = true then t else { t with nulled := true })
        = { t with nulled := t.nulled || (t.idos && a.getVar) } := by
    rintro ⟨_, _, _, _, _, _, idos, _, _, _, _⟩
    cases idos <;> cases a.getVar <;> simp
  rw [← openDos_nulled a.openDosLate a.getDosLate s]
  exact hcases _

/-! ## One task, and what is acquired -/

def held (s : SwitchState) : Multiset Resource :=
  (if s.idos then {.interface .dos} else 0) + (if s.dosBase then {.library .dos} else 0)

structure Sound (s : SwitchState) : Prop where
  one : s.tasks = if s.flushRunning then 1 else 0
  held : s.sys.Holds (held s)
  interface : s.idos = true → s.dosBase = true

theorem start_sound (modes : List DisplayMode) : Sound (SwitchState.start modes) :=
  ⟨rfl, ⟨rfl, rfl⟩, fun h => by cases h⟩

namespace Sound

theorem openDos (h : Sound s) (opens gets : Bool) : Sound (openDos opens gets s) := by
  refine ⟨by simpa using h.one, ?_, ?_⟩
  · unfold Switching.openDos
    cases hbase : s.dosBase with
    | true => exact h.held
    | false =>
        have hidos : s.idos = false := by
          by_contra hno
          have := h.interface (by simpa using hno)
          rw [hbase] at this
          cases this
        have hnone : s.sys.Holds 0 := by
          have hheld := h.held
          unfold Switching.held at hheld
          rwa [hidos, hbase] at hheld
        have hlib : (s.sys.acquire (.library .dos)).Holds {.library .dos} := by
          have hlib := hnone.acquire (r := .library .dos)
          rwa [add_zero] at hlib
        cases opens with
        | false => exact h.held
        | true =>
            cases gets with
            | false =>
                show (s.sys.acquire (.library .dos)).Holds
                  ((if s.idos then {.interface .dos} else 0) + {.library .dos})
                rw [hidos, if_neg Bool.false_ne_true, zero_add]
                exact hlib
            | true => exact hlib.acquire
  · unfold Switching.openDos
    split_ifs with hbase hopens hgets
    · exact h.interface
    · exact h.interface
    · exact fun _ => rfl
    · exact fun _ => rfl

theorem startTask (h : Sound s) (hrunning : s.flushRunning = false) (created : Bool) :
    Sound (startTask created s) := by
  have hnone : s.tasks = 0 := by
    have hone := h.one
    rwa [hrunning, if_neg Bool.false_ne_true] at hone
  rw [startTask_eq]
  refine ⟨?_, h.held, h.interface⟩
  show s.tasks + _ = if (s.flushRunning || created) = true then 1 else 0
  rw [hnone, hrunning, zero_add, Bool.false_or]

theorem startFallback (h : Sound s) (hrunning : s.flushRunning = false) (a : SwitchAnswers) :
    Sound (startFallback a s) := by
  rw [startFallback_eq]
  refine (h.openDos _ _).startTask ?_ _
  rw [openDos_flushRunning, hrunning]

theorem setDipfFlags (h : Sound s) (bits : BoardBits) (a : SwitchAnswers) :
    Sound (chipCompSetDipfFlags bits a s) := by
  rw [chipCompSetDipfFlags_eq]
  exact ⟨h.one, h.held, h.interface⟩

theorem dumpDisplayinfobase (h : Sound s) (bits : BoardBits) (a : SwitchAnswers) :
    Sound { chipDumpDisplayinfobase bits a s with displayinfoDumped := true } := by
  rw [chipDumpDisplayinfobase_eq]
  exact ⟨h.one, h.held, h.interface⟩

theorem applyOverrides (h : Sound s) (a : SwitchAnswers) :
    Sound { chipApplyNullVtableOverrides a s with nullVtableChecked := true } := by
  rw [chipApplyNullVtableOverrides_eq]
  have hdos := h.openDos a.openDosLate a.getDosLate
  exact ⟨hdos.one, hdos.held, hdos.interface⟩

theorem onlyWhen (h : Sound s) (c : Bool) {f : SwitchState → SwitchState}
    (hf : Sound s → Sound (f s)) : Sound (onlyWhen c f s) := by
  unfold Switching.onlyWhen
  split_ifs
  · exact hf h
  · exact h

theorem step (h : Sound s) (bits : BoardBits) (call : SwitchCall) :
    Sound (s.step bits call) := by
  cases call with
  | setSwitch enabled a =>
      show Sound (chipSetSwitch bits enabled a s)
      unfold chipSetSwitch
      have hfirst : Sound (Switching.onlyWhen (enabled && !s.flushRunning)
          (Switching.startFallback a) { s with rtgOutputEnabled := enabled }) := by
        have hs : Sound { s with rtgOutputEnabled := enabled } := ⟨h.one, h.held, h.interface⟩
        unfold Switching.onlyWhen
        split_ifs with hc
        · exact hs.startFallback (by simpa using (Bool.and_eq_true_iff.mp hc).2) a
        · exact hs
      have hflags := hfirst.onlyWhen (enabled && a.ready) fun h => h.setDipfFlags bits a
      refine Sound.onlyWhen ?_ _ fun h => h.applyOverrides a
      exact hflags.onlyWhen _ fun h => h.dumpDisplayinfobase bits a
  | setDisplay enabled created =>
      show Sound (Switching.onlyWhen (enabled && !s.flushRunning) (Switching.startTask created) s)
      unfold Switching.onlyWhen
      split_ifs with hc
      · exact h.startTask (by simpa using (Bool.and_eq_true_iff.mp hc).2) created
      · exact h

end Sound

/-! ## What the first call decides -/

/-- The first call of `chip_SetSwitch` with `TRUE` on a card whose 2D pipeline is ready. -/
def firstReady : List SwitchCall → Option SwitchAnswers
  | [] => none
  | .setSwitch enabled a :: rest => if enabled && a.ready then some a else firstReady rest
  | .setDisplay _ _ :: rest => firstReady rest

/-- The first call of `chip_SetSwitch` with `TRUE`, and whether the task runs before it. -/
def firstEnabled (running : Bool) : List SwitchCall → Option (Bool × SwitchAnswers)
  | [] => none
  | .setSwitch enabled a :: rest => if enabled then some (running, a) else firstEnabled running rest
  | .setDisplay enabled created :: rest => firstEnabled (running || (enabled && created)) rest

/-- The last argument of `chip_SetSwitch`. -/
def lastOutput (output : Bool) : List SwitchCall → Bool
  | [] => output
  | .setSwitch enabled _ :: rest => lastOutput enabled rest
  | .setDisplay _ _ :: rest => lastOutput output rest

/-- `graphics.library` and its interface can be had. -/
def SwitchAnswers.marks (a : SwitchAnswers) : Bool := a.openGraphics && a.getGraphics
def SwitchAnswers.hides (a : SwitchAnswers) : Bool := a.openGraphics53 && a.getGraphics53

/-- In a first call, where the task runs already or not: `IDOS` is there, and the variable. -/
def SwitchAnswers.nulls (a : SwitchAnswers) (running : Bool) : Bool :=
  (if !running && a.openDos then a.getDos else a.openDosLate && a.getDosLate) && a.getVar

/-! The fields after one call. -/

@[simp] theorem startFallback_modes : (startFallback a s).modes = s.modes := by
  simp [startFallback_eq]

@[simp] theorem startFallback_done : (startFallback a s).done = s.done := by
  simp [startFallback_eq]

@[simp] theorem startFallback_dumped :
    (startFallback a s).displayinfoDumped = s.displayinfoDumped := by
  simp [startFallback_eq]

@[simp] theorem startFallback_checked :
    (startFallback a s).nullVtableChecked = s.nullVtableChecked := by
  simp [startFallback_eq]

@[simp] theorem startFallback_nulled : (startFallback a s).nulled = s.nulled := by
  simp [startFallback_eq]

@[simp] theorem startFallback_output :
    (startFallback a s).rtgOutputEnabled = s.rtgOutputEnabled := by
  simp [startFallback_eq]

/-- What the function keeps is kept. -/
theorem onlyWhen_keeps {α : Type} (g : SwitchState → α) {c : Bool}
    {f : SwitchState → SwitchState} (hf : ∀ s, g (f s) = g s) (s : SwitchState) :
    g (onlyWhen c f s) = g s := by
  unfold onlyWhen
  split_ifs
  · exact hf s
  · rfl

/-- The state in which `chip_SetSwitch` comes to the modes. -/
def afterFallback (enabled : Bool) (a : SwitchAnswers) (s : SwitchState) : SwitchState :=
  onlyWhen (enabled && !s.flushRunning) (startFallback a) { s with rtgOutputEnabled := enabled }

/-- The state in which it comes to the native modes. -/
def afterFlags (bits : BoardBits) (enabled : Bool) (a : SwitchAnswers) (s : SwitchState) :
    SwitchState :=
  onlyWhen (enabled && a.ready) (chipCompSetDipfFlags bits a) (afterFallback enabled a s)

/-- The state in which it comes to the methods. -/
def afterDump (bits : BoardBits) (enabled : Bool) (a : SwitchAnswers) (s : SwitchState) :
    SwitchState :=
  onlyWhen (enabled && !(afterFlags bits enabled a s).displayinfoDumped)
    (fun s => { chipDumpDisplayinfobase bits a s with displayinfoDumped := true })
    (afterFlags bits enabled a s)

theorem chipSetSwitch_eq (enabled : Bool) :
    chipSetSwitch bits enabled a s =
      onlyWhen (enabled && !(afterDump bits enabled a s).nullVtableChecked)
        (fun s => { chipApplyNullVtableOverrides a s with nullVtableChecked := true })
        (afterDump bits enabled a s) := rfl

theorem afterFlags_dumped (enabled : Bool) :
    (afterFlags bits enabled a s).displayinfoDumped = s.displayinfoDumped := by
  unfold afterFlags
  rw [onlyWhen_keeps SwitchState.displayinfoDumped fun t => by rw [chipCompSetDipfFlags_eq]]
  exact onlyWhen_keeps SwitchState.displayinfoDumped (fun _ => startFallback_dumped) _

/-! The display database.  The RTG modes are marked, and the others hidden. -/

def patchWhen (bits : BoardBits) (c : Bool) (modes : List DisplayMode) : List DisplayMode :=
  if c then modes.map (patchMode bits) else modes

def hideWhen (bits : BoardBits) (c : Bool) (modes : List DisplayMode) : List DisplayMode :=
  if c then modes.map (hideMode bits) else modes

theorem patchMode_of_native {mode : DisplayMode} (h : mode.propertyFlags &&& bits.isRtg = 0) :
    patchMode bits mode = mode := by
  unfold patchMode
  rw [if_pos h, ite_self, ite_self]

theorem hideMode_of_rtg {mode : DisplayMode} (h : mode.propertyFlags &&& bits.isRtg ≠ 0) :
    hideMode bits mode = mode := by
  unfold hideMode
  rw [if_pos h, ite_self, ite_self]

/-- What is marked stays an RTG mode. -/
theorem patchMode_rtg {mode : DisplayMode} (h : mode.propertyFlags &&& bits.isRtg ≠ 0) :
    (patchMode bits mode).propertyFlags &&& bits.isRtg ≠ 0 := by
  have hor : (mode.propertyFlags ||| bits.isHwComposite) &&& bits.isRtg ≠ 0 := by
    intro hzero
    have hdistrib : (mode.propertyFlags ||| bits.isHwComposite) &&& bits.isRtg =
        mode.propertyFlags &&& bits.isRtg ||| bits.isHwComposite &&& bits.isRtg :=
      UInt32.toBitVec_inj.mp BitVec.and_or_distrib_right
    rw [hdistrib, UInt32.or_eq_zero_iff] at hzero
    exact h hzero.1
  unfold patchMode
  split_ifs
  all_goals first | exact h | exact hor

theorem hideMode_native {mode : DisplayMode} (h : mode.propertyFlags &&& bits.isRtg = 0) :
    (hideMode bits mode).propertyFlags &&& bits.isRtg = 0 := by
  unfold hideMode
  split_ifs <;> exact h

/-- No mode is both marked and hidden. -/
theorem patchMode_hideMode (mode : DisplayMode) :
    patchMode bits (hideMode bits mode) = hideMode bits (patchMode bits mode) := by
  by_cases h : mode.propertyFlags &&& bits.isRtg = 0
  · rw [patchMode_of_native h, patchMode_of_native (hideMode_native h)]
  · rw [hideMode_of_rtg h, hideMode_of_rtg (patchMode_rtg h)]

theorem patchWhen_hideWhen (c c' : Bool) (modes : List DisplayMode) :
    patchWhen bits c (hideWhen bits c' modes) = hideWhen bits c' (patchWhen bits c modes) := by
  unfold patchWhen hideWhen
  cases c with
  | false => rfl
  | true =>
      cases c' with
      | false => rfl
      | true =>
          rw [if_pos rfl, if_pos rfl, if_pos rfl, if_pos rfl, List.map_map, List.map_map]
          exact List.map_congr_left fun mode _ => patchMode_hideMode mode

theorem afterFlags_modes (enabled : Bool) :
    (afterFlags bits enabled a s).modes =
      patchWhen bits (enabled && a.ready && !s.done && a.marks) s.modes := by
  have hmodes : (afterFallback enabled a s).modes = s.modes :=
    onlyWhen_keeps SwitchState.modes (fun _ => startFallback_modes) _
  have hdone : (afterFallback enabled a s).done = s.done :=
    onlyWhen_keeps SwitchState.done (fun _ => startFallback_done) _
  unfold afterFlags onlyWhen SwitchAnswers.marks patchWhen
  rw [chipCompSetDipfFlags_eq, ← hmodes, ← hdone]
  cases enabled && a.ready <;> simp [Bool.and_assoc]

theorem setSwitch_modes (enabled : Bool) :
    (chipSetSwitch bits enabled a s).modes =
      hideWhen bits (enabled && !s.displayinfoDumped && a.hides)
        (patchWhen bits (enabled && a.ready && !s.done && a.marks) s.modes) := by
  rw [chipSetSwitch_eq, onlyWhen_keeps SwitchState.modes fun t => by
    simp [chipApplyNullVtableOverrides_eq], ← afterFlags_modes, afterDump, onlyWhen,
    afterFlags_dumped, chipDumpDisplayinfobase_eq]
  unfold hideWhen SwitchAnswers.hides
  cases enabled && !s.displayinfoDumped <;> simp

theorem setSwitch_done (enabled : Bool) :
    (chipSetSwitch bits enabled a s).done = (s.done || (enabled && a.ready)) := by
  have hdone : (afterFallback enabled a s).done = s.done :=
    onlyWhen_keeps SwitchState.done (fun _ => startFallback_done) _
  rw [chipSetSwitch_eq, onlyWhen_keeps SwitchState.done fun t => by
    simp [chipApplyNullVtableOverrides_eq], afterDump,
    onlyWhen_keeps SwitchState.done fun t => by rw [chipDumpDisplayinfobase_eq]]
  unfold afterFlags onlyWhen
  rw [chipCompSetDipfFlags_eq, ← hdone]
  cases enabled && a.ready <;> simp

theorem setSwitch_dumped (enabled : Bool) :
    (chipSetSwitch bits enabled a s).displayinfoDumped = (s.displayinfoDumped || enabled) := by
  rw [chipSetSwitch_eq, onlyWhen_keeps SwitchState.displayinfoDumped fun t => by
    simp [chipApplyNullVtableOverrides_eq], afterDump, onlyWhen, afterFlags_dumped]
  cases enabled with
  | false => simp [afterFlags_dumped]
  | true =>
      cases hdumped : s.displayinfoDumped with
      | false => simp
      | true => simp [afterFlags_dumped, hdumped]

theorem setSwitch_output (enabled : Bool) :
    (chipSetSwitch bits enabled a s).rtgOutputEnabled = enabled := by
  rw [chipSetSwitch_eq, onlyWhen_keeps SwitchState.rtgOutputEnabled fun t => by
    simp [chipApplyNullVtableOverrides_eq], afterDump,
    onlyWhen_keeps SwitchState.rtgOutputEnabled fun t => by rw [chipDumpDisplayinfobase_eq]]
  unfold afterFlags
  rw [onlyWhen_keeps SwitchState.rtgOutputEnabled fun t => by rw [chipCompSetDipfFlags_eq]]
  exact onlyWhen_keeps SwitchState.rtgOutputEnabled (fun _ => startFallback_output) _

theorem setDisplay_eq (enabled created : Bool) :
    chipSetDisplay enabled created s =
      { s with
        flushRunning := s.flushRunning || (enabled && created)
        tasks := s.tasks + if enabled && !s.flushRunning && created then 1 else 0 } := by
  obtain ⟨_, _, _, _, running, _, _, _, _, _, _⟩ := s
  unfold chipSetDisplay onlyWhen
  cases enabled <;> cases running <;> cases created <;> simp

theorem setDisplay_output (enabled created : Bool) :
    (chipSetDisplay enabled created s).rtgOutputEnabled = s.rtgOutputEnabled := by
  rw [setDisplay_eq]

theorem openDos_dosBase (opens gets : Bool) (s : SwitchState) :
    (openDos opens gets s).dosBase = (s.dosBase || opens) := by
  unfold openDos
  cases hbase : s.dosBase <;> cases opens <;> cases gets <;> simp [hbase]

theorem openDos_idos (opens gets : Bool) (s : SwitchState) :
    (openDos opens gets s).idos = if s.dosBase then s.idos else s.idos || (opens && gets) := by
  unfold openDos
  cases s.dosBase <;> cases opens <;> cases gets <;> simp

/-- The display database does not matter for the task and the methods. -/
theorem afterDump_keeps (enabled : Bool) (a : SwitchAnswers) (s : SwitchState) :
    (afterDump bits enabled a s).dosBase = (afterFallback enabled a s).dosBase ∧
      (afterDump bits enabled a s).idos = (afterFallback enabled a s).idos ∧
      (afterDump bits enabled a s).flushRunning = (afterFallback enabled a s).flushRunning ∧
      (afterDump bits enabled a s).nullVtableChecked = s.nullVtableChecked ∧
      (afterDump bits enabled a s).nulled = s.nulled := by
  have hkeeps {α : Type} (g : SwitchState → α)
      (hflags : ∀ t, g (chipCompSetDipfFlags bits a t) = g t)
      (hdump : ∀ t, g { chipDumpDisplayinfobase bits a t with displayinfoDumped := true } = g t) :
      g (afterDump bits enabled a s) = g (afterFallback enabled a s) :=
    (onlyWhen_keeps g hdump _).trans (onlyWhen_keeps g hflags _)
  refine ⟨?_, ?_, ?_, ?_, ?_⟩
  · exact hkeeps SwitchState.dosBase (fun t => by rw [chipCompSetDipfFlags_eq])
      (fun t => by rw [chipDumpDisplayinfobase_eq])
  · exact hkeeps SwitchState.idos (fun t => by rw [chipCompSetDipfFlags_eq])
      (fun t => by rw [chipDumpDisplayinfobase_eq])
  · exact hkeeps SwitchState.flushRunning (fun t => by rw [chipCompSetDipfFlags_eq])
      (fun t => by rw [chipDumpDisplayinfobase_eq])
  · refine (hkeeps SwitchState.nullVtableChecked (fun t => by rw [chipCompSetDipfFlags_eq])
      (fun t => by rw [chipDumpDisplayinfobase_eq])).trans ?_
    exact onlyWhen_keeps SwitchState.nullVtableChecked (fun _ => startFallback_checked) _
  · refine (hkeeps SwitchState.nulled (fun t => by rw [chipCompSetDipfFlags_eq])
      (fun t => by rw [chipDumpDisplayinfobase_eq])).trans ?_
    exact onlyWhen_keeps SwitchState.nulled (fun _ => startFallback_nulled) _

/-- A task that runs is not started again. -/
theorem afterFallback_running (hrunning : s.flushRunning = true) (enabled : Bool) :
    afterFallback enabled a s = { s with rtgOutputEnabled := enabled } := by
  unfold afterFallback onlyWhen
  rw [hrunning, Bool.not_true, Bool.and_false, if_neg Bool.false_ne_true]

/-- `IDOS` after the attempt, where there was no library. -/
theorem afterFallback_dos (hbase : s.dosBase = false) (hidos : s.idos = false) :
    (afterFallback true a s).dosBase = (!s.flushRunning && a.openDos) ∧
      (afterFallback true a s).idos = (!s.flushRunning && (a.openDos && a.getDos)) := by
  cases hrunning : s.flushRunning with
  | true =>
      rw [afterFallback_running hrunning]
      exact ⟨hbase, hidos⟩
  | false =>
      unfold afterFallback onlyWhen
      rw [hrunning, Bool.not_false, Bool.and_true, if_pos rfl, startFallback_eq, startTask_eq]
      simp [openDos_dosBase, openDos_idos, hbase, hidos]

/-- The methods are looked at in one call. -/
theorem setSwitch_checked (hchecked : s.nullVtableChecked = true) (enabled : Bool) :
    (chipSetSwitch bits enabled a s).nullVtableChecked = true ∧
      (chipSetSwitch bits enabled a s).nulled = s.nulled := by
  obtain ⟨-, -, -, hkept, hnulled⟩ := @afterDump_keeps bits enabled a s
  rw [chipSetSwitch_eq, hkept, hchecked]
  unfold onlyWhen
  rw [Bool.not_true, Bool.and_false, if_neg Bool.false_ne_true]
  exact ⟨hkept.trans hchecked, hnulled⟩

theorem setSwitch_first (hchecked : s.nullVtableChecked = false) (hbase : s.dosBase = false)
    (hidos : s.idos = false) :
    (chipSetSwitch bits true a s).nullVtableChecked = true ∧
      (chipSetSwitch bits true a s).nulled = (s.nulled || a.nulls s.flushRunning) := by
  obtain ⟨hdos, hiface, -, hkept, hnulled⟩ := @afterDump_keeps bits true a s
  obtain ⟨hbase', hidos'⟩ := @afterFallback_dos a s hbase hidos
  rw [chipSetSwitch_eq, hkept, hchecked]
  unfold onlyWhen
  rw [Bool.not_false, Bool.and_true, if_pos rfl]
  refine ⟨rfl, ?_⟩
  show (chipApplyNullVtableOverrides a (afterDump bits true a s)).nulled = _
  rw [chipApplyNullVtableOverrides_eq]
  simp only [openDos_idos, hnulled, hdos, hiface, hbase', hidos', SwitchAnswers.nulls]
  cases s.flushRunning <;> cases a.openDos <;> simp

theorem setSwitch_running (hrunning : s.flushRunning = true) (enabled : Bool) :
    (chipSetSwitch bits enabled a s).flushRunning = true := by
  obtain ⟨-, -, hkept, -, -⟩ := @afterDump_keeps bits enabled a s
  rw [chipSetSwitch_eq, onlyWhen_keeps SwitchState.flushRunning fun t => by
    simp [chipApplyNullVtableOverrides_eq], hkept, afterFallback_running hrunning]
  exact hrunning

/-! ## Runs -/

theorem run_sound (h : Sound s) (calls : List SwitchCall) : Sound (s.run bits calls) := by
  induction calls generalizing s with
  | nil => exact h
  | cons call rest ih => exact ih (h.step bits call)

theorem run_output (calls : List SwitchCall) :
    (s.run bits calls).rtgOutputEnabled = lastOutput s.rtgOutputEnabled calls := by
  induction calls generalizing s with
  | nil => rfl
  | cons call rest ih =>
      rw [SwitchState.run, List.foldl_cons]
      refine (ih (s := s.step bits call)).trans ?_
      cases call with
      | setSwitch enabled a =>
          rw [lastOutput]
          congr 1
          exact setSwitch_output enabled
      | setDisplay enabled created =>
          rw [lastOutput]
          congr 1
          exact setDisplay_output enabled created

/-- The two first calls decide, each once, and in whichever order they come. -/
theorem run_modes (running : Bool) (calls : List SwitchCall) :
    (s.run bits calls).modes =
      hideWhen bits (!s.displayinfoDumped &&
          (firstEnabled running calls).any fun first => first.2.hides)
        (patchWhen bits (!s.done && (firstReady calls).any SwitchAnswers.marks) s.modes) := by
  induction calls generalizing s running with
  | nil => simp [firstEnabled, firstReady, SwitchState.run, hideWhen, patchWhen]
  | cons call rest ih =>
      cases call with
      | setSwitch enabled a =>
          have hmodes := @setSwitch_modes bits a s enabled
          have hdone := @setSwitch_done bits a s enabled
          have hdumped := @setSwitch_dumped bits a s enabled
          change ((chipSetSwitch bits enabled a s).run bits rest).modes = _
          rw [ih running, hmodes, hdone, hdumped, firstEnabled, firstReady]
          cases enabled with
          | false => simp [hideWhen, patchWhen]
          | true =>
              -- the native modes are decided about, and the marked ones on a ready card
              rw [patchWhen_hideWhen]
              cases hready : a.ready with
              | true => simp [hideWhen, patchWhen]
              | false => simp [hideWhen, patchWhen]
      | setDisplay enabled created =>
          change ((chipSetDisplay enabled created s).run bits rest).modes = _
          rw [ih (running || (enabled && created)), setDisplay_eq]
          rfl

/-- Once looked at, the methods stay as they are. -/
theorem run_nulled_checked (hchecked : s.nullVtableChecked = true) (calls : List SwitchCall) :
    (s.run bits calls).nulled = s.nulled := by
  induction calls generalizing s with
  | nil => rfl
  | cons call rest ih =>
      cases call with
      | setSwitch enabled a =>
          obtain ⟨hnext, hnulled⟩ := @setSwitch_checked bits a s hchecked enabled
          exact (ih hnext).trans hnulled
      | setDisplay enabled created =>
          have hstep := @setDisplay_eq s enabled created
          refine (ih (s := chipSetDisplay enabled created s) ?_).trans ?_
          · rw [hstep]
            exact hchecked
          · rw [hstep]

theorem run_nulled (hchecked : s.nullVtableChecked = false) (hbase : s.dosBase = false)
    (hidos : s.idos = false) (calls : List SwitchCall) :
    (s.run bits calls).nulled =
      (s.nulled || (firstEnabled s.flushRunning calls).any fun first => first.2.nulls first.1) := by
  induction calls generalizing s with
  | nil => simp [firstEnabled, SwitchState.run]
  | cons call rest ih =>
      cases call with
      | setSwitch enabled a =>
          cases enabled with
          | true =>
              obtain ⟨hnext, hnulled⟩ := @setSwitch_first bits a s hchecked hbase hidos
              exact (run_nulled_checked hnext rest).trans hnulled
          | false => exact ih (s := { s with rtgOutputEnabled := false }) hchecked hbase hidos
      | setDisplay enabled created =>
          have hstep := @setDisplay_eq s enabled created
          show ((chipSetDisplay enabled created s).run bits rest).nulled = _
          rw [hstep, ih (by exact hchecked) (by exact hbase) (by exact hidos)]
          rfl

theorem run_running (hrunning : s.flushRunning = true) (calls : List SwitchCall) :
    (s.run bits calls).flushRunning = true := by
  induction calls generalizing s with
  | nil => exact hrunning
  | cons call rest ih =>
      cases call with
      | setSwitch enabled a => exact ih (setSwitch_running hrunning enabled)
      | setDisplay enabled created =>
          refine ih (s := chipSetDisplay enabled created s) ?_
          rw [setDisplay_eq]
          exact Bool.or_eq_true_iff.mpr (Or.inl hrunning)

/-- A task that `chip_SetDisplay` can create is there afterwards. -/
theorem run_created {calls : List SwitchCall} (hmem : .setDisplay true true ∈ calls) :
    (s.run bits calls).flushRunning = true := by
  induction calls generalizing s with
  | nil => cases hmem
  | cons call rest ih =>
      rcases List.mem_cons.mp hmem with rfl | hmem
      · refine run_running (s := chipSetDisplay true true s) ?_ rest
        rw [setDisplay_eq]
        exact Bool.or_true _
      · exact ih hmem

/-- `dos.library` is open without its interface, and no task runs. -/
structure Stuck (s : SwitchState) : Prop where
  base : s.dosBase = true
  interface : s.idos = false
  idle : s.flushRunning = false

theorem Stuck.setSwitch (h : Stuck s) (enabled : Bool) :
    Stuck (chipSetSwitch bits enabled a s) := by
  have hfallback : Stuck (afterFallback enabled a s) := by
    have hs : Stuck { s with rtgOutputEnabled := enabled } := ⟨h.base, h.interface, h.idle⟩
    unfold afterFallback onlyWhen
    split_ifs
    · rw [startFallback_eq, startTask_eq]
      refine ⟨?_, ?_, ?_⟩ <;> simp [openDos_dosBase, openDos_idos, h.base, h.interface, h.idle]
    · exact hs
  obtain ⟨hbase, hiface, hrunning, -, -⟩ := @afterDump_keeps bits enabled a s
  have hflags : Stuck (afterDump bits enabled a s) :=
    ⟨hbase.trans hfallback.base, hiface.trans hfallback.interface, hrunning.trans hfallback.idle⟩
  rw [chipSetSwitch_eq]
  unfold onlyWhen
  split_ifs
  · show Stuck { chipApplyNullVtableOverrides a (afterDump bits enabled a s) with
      nullVtableChecked := true }
    rw [chipApplyNullVtableOverrides_eq]
    refine ⟨?_, ?_, ?_⟩ <;>
      simp [openDos_dosBase, openDos_idos, hflags.base, hflags.interface, hflags.idle]
  · exact hflags

/-- Then only `chip_SetDisplay` can start the task. -/
theorem Stuck.run (h : Stuck s) {calls : List SwitchCall}
    (hnone : .setDisplay true true ∉ calls) : Stuck (s.run bits calls) := by
  induction calls generalizing s with
  | nil => exact h
  | cons call rest ih =>
      have hne := List.ne_of_not_mem_cons hnone
      have hrest := List.not_mem_of_not_mem_cons hnone
      cases call with
      | setSwitch enabled a => exact ih (h.setSwitch enabled) hrest
      | setDisplay enabled created =>
          refine ih (s := chipSetDisplay enabled created s) ?_ hrest
          rw [setDisplay_eq]
          refine ⟨h.base, h.interface, ?_⟩
          show (s.flushRunning || (enabled && created)) = false
          rw [h.idle]
          cases enabled <;> cases created <;> simp_all

end

/-! ## The whole -/

/-- What the calls have come to. -/
structure Switched (bits : BoardBits) (modes : List DisplayMode) (calls : List SwitchCall)
    (s : SwitchState) : Prop where
  /-- There is one task at most, and only `dos.library` stays open. -/
  sound : Sound s
  output : s.rtgOutputEnabled = lastOutput true calls
  /-- The first call with `TRUE` decides about the native modes, and the first one on a ready card
  about those of the board. -/
  modes : s.modes =
    hideWhen bits ((firstEnabled false calls).any fun first => first.2.hides)
      (patchWhen bits ((firstReady calls).any SwitchAnswers.marks) modes)
  /-- The first call with `TRUE` decides about the methods. -/
  nulled : s.nulled = (firstEnabled false calls).any fun first => first.2.nulls first.1
  created : .setDisplay true true ∈ calls → s.flushRunning = true
  /-- A `dos.library` without its interface is never asked again. -/
  stuck : Stuck s → ∀ later, .setDisplay true true ∉ later →
    (s.run bits later).flushRunning = false

/-- Whatever the system answers, and in whichever order the two functions are called. -/
theorem display_switched (bits : BoardBits) (modes : List DisplayMode)
    (calls : List SwitchCall) :
    Switched bits modes calls ((SwitchState.start modes).run bits calls) where
  sound := run_sound (start_sound modes) calls
  output := run_output calls
  modes := run_modes false calls
  nulled := by
    rw [run_nulled rfl rfl rfl]
    exact Bool.false_or _
  created := run_created
  stuck h _ hnone := (h.run hnone).idle

end VirtIOGPU.Switching
