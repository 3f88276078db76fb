import VirtIOGPU.Compositing.Restore
import VirtIOGPU.Compositing.Tags

/-!
# The hook for `CompositeTagList`

`hook_CompositeTagList` leaves through seven exits, and each of them calls the method that it
replaces once, with the arguments it has been given (`composite_forwarded`).  In between it calls
`chip_virgl_composite` at most once, with the last value of every tag.

A dimension of 0 stands for one that is missing: it is replaced by that of the bitmap, also where a
tag has given it, and it stays 0 while `IGraphics` is not there to ask (`zero_width_replaced`).

## Strategy

```text
exit                               chip_virgl_composite   lemma
no chip driver, no destination     no                     hook_without
Virgl not ready, not on the board  no                     hook_some
vertex array, alpha mask           no                     forwardOrAttempt_forwards
two buffers, no 32 bits            no                     forwardOrAttempt_forwards
any other                          once                   finish_forwards
```

`Forwards` is a statement about the outcome as a whole: what has been called, in addition to what
had been called before.  The tags come in through `hook_parsed`, with the values that
`parseTags_eq` gives, and `Tries` is the last row.
-/

namespace VirtIOGPU.Compositing

open Card Drawing Lib.Links

/-! ## The code -/

/-- The arguments of the method. -/
structure HookCall where
  self : UInt32
  operator : UInt32
  source : Source
  /-- `none` for `NULL`. -/
  destination : Option BitMap
  tags : UInt32
  deriving DecidableEq, Repr

/-- What the hook is installed in. -/
structure HookEnv where
  bits : CompFlagBits
  numbers : CompTagNumbers
  objects : PipelineObjects
  data : StreamData
  /-- `gs->IGraphics`. -/
  iGraphics : Bool
  /-- Where things are in memory. -/
  address : ℕ → UInt32
  load : UInt32 → UInt32
  /-- How the original method comes out. -/
  original : HookCall → UInt32
  /-- `COMPERR_*`. -/
  errorCode : CompError → UInt32

structure HookState where
  /-- `g_chip_state`. -/
  chip : Option Compositor
  /-- The calls of the original method, the last one first. -/
  originals : List HookCall
  /-- The calls of `chip_virgl_composite`. -/
  composites : List CompositeRequest

/-- A loop may not end. -/
abbrev Hook := StateT HookState Option

/-- `g_orig_CompositeTagList`. -/
def callOriginal (env : HookEnv) (call : HookCall) : Hook UInt32 := fun st =>
  some (env.original call, { st with originals := call :: st.originals })

/-- `chip_virgl_composite` between `MutexObtain` and `MutexRelease`. -/
def composite (env : HookEnv) (replies : CompositeReplies) (s : Compositor)
    (r : CompositeRequest) : Hook CompError := fun st =>
  let composed := chipVirglComposite env.bits env.objects env.data replies r s
  some (composed.1, { st with chip := some composed.2, composites := r :: st.composites })

/-- A dimension that is missing is that of the bitmap. -/
def defaultDim (dim : Int32) (size : UInt32) : Int32 := if dim = 0 then size.toInt32 else dim

/-- The dimensions of the bitmaps, where `IGraphics` is there to ask for them. -/
def ParsedTags.withDefaults (args : ParsedTags) (iGraphics : Bool) (source : Source)
    (destination : BitMap) : ParsedTags :=
  if iGraphics then
    let args :=
      match source with
      | .bitMap b => { args with
          srcW := defaultDim args.srcW b.width
          srcH := defaultDim args.srcH b.height }
      | _ => args
    { args with
      dstW := defaultDim args.dstW destination.width
      dstH := defaultDim args.dstH destination.height }
  else args

/-- `src_data`, `src_bpr` and `src_format`. -/
def sourceData (env : HookEnv) : Source → UInt32 × UInt32 × RgbfType
  | .bitMap b =>
      (env.address b.planes0, b.bytesPerRow.toUInt32, if env.iGraphics then b.format else .a8r8g8b8)
  | _ => (0, 0, .a8r8g8b8)

/-- The arguments for `chip_virgl_composite`. -/
def request (env : HookEnv) (call : HookCall) (args : ParsedTags) : CompositeRequest :=
  let (srcData, srcBpr, srcFormat) := sourceData env call.source
  ⟨call.operator, call.source, srcData, srcBpr, srcFormat, args.srcX, args.srcY, args.srcW,
    args.srcH, args.dstX, args.dstY, args.dstW, args.dstH, args.flags, args.color0⟩

/-- With the result of `chip_virgl_composite`. -/
def finish (env : HookEnv) (call : HookCall) (result : CompError) : Hook UInt32 :=
  if result ≠ .success then callOriginal env call
  else do
    let _ ← callOriginal env call
    return env.errorCode result

/-- From the double buffer on. -/
def attemptHardware (env : HookEnv) (replies : CompositeReplies) (s : Compositor) (call : HookCall)
    (args : ParsedTags) : Hook UInt32 :=
  if s.gs.doubleBuffer then callOriginal env call
  else if chipFormatBpp (sourceData env call.source).2.2 ≠ 4 then callOriginal env call
  else do
    let result ← composite env replies s (request env call args)
    finish env call result

/-- With the values of the tags. -/
def forwardOrAttempt (env : HookEnv) (replies : CompositeReplies) (s : Compositor)
    (call : HookCall) (args : ParsedTags) : Hook UInt32 :=
  if args.hasVertexArray = true ∨ args.hasAlphaMask = true then callOriginal env call
  else attemptHardware env replies s call args

/-- `is_ours`. -/
def IsOurs (env : HookEnv) (s : Compositor) (destination : BitMap) : Prop :=
  s.gs.OnBoard env.address destination.planes0

instance (env : HookEnv) (s : Compositor) (destination : BitMap) :
    Decidable (IsOurs env s destination) := inferInstanceAs (Decidable (GpuState.OnBoard ..))

/-- The loop over the tags may run `fuel` times. -/
def hookCompositeTagList (env : HookEnv) (replies : CompositeReplies) (fuel : ℕ)
    (call : HookCall) : Hook UInt32 := do
  let st ← get
  match st.chip, call.destination with
  | some s, some destination =>
    if s.gs.virgl2dReady = false then callOriginal env call
    else if ¬ IsOurs env s destination then callOriginal env call
    else do
      let args ← StateT.lift (parseTags env.numbers env.load fuel call.tags {})
      forwardOrAttempt env replies s call
        (args.withDefaults env.iGraphics call.source destination)
  | _, _ => callOriginal env call

/-! ## What it should do -/

/-- The original method has been called once, with the arguments of the hook, and
`chip_virgl_composite` with these. -/
def Forwards (call : HookCall) (requests : List CompositeRequest) (st : HookState)
    (outcome : Option (UInt32 × HookState)) : Prop :=
  ∃ result st', outcome = some (result, st') ∧ st'.originals = call :: st.originals ∧
    st'.composites = requests ++ st.composites

/-- The hardware is tried. -/
def Tries (env : HookEnv) (s : Compositor) (call : HookCall) (destination : BitMap)
    (args : ParsedTags) : Prop :=
  (s.gs.virgl2dReady = true ∧ IsOurs env s destination) ∧
    (args.hasVertexArray = false ∧ args.hasAlphaMask = false) ∧
      s.gs.doubleBuffer = false ∧ chipFormatBpp (sourceData env call.source).2.2 = 4

instance (env : HookEnv) (s : Compositor) (call : HookCall) (destination : BitMap)
    (args : ParsedTags) : Decidable (Tries env s call destination args) :=
  inferInstanceAs (Decidable (_ ∧ _))

/-- The calls of `chip_virgl_composite` for a list of tags with these items. -/
def expectedRequests (env : HookEnv) (st : HookState) (call : HookCall) (items : List TagItem) :
    List CompositeRequest :=
  match st.chip, call.destination with
  | some s, some destination =>
      let args := (lastValues env.numbers items).withDefaults env.iGraphics call.source destination
      if Tries env s call destination args then [request env call args] else []
  | _, _ => []

section

variable {env : HookEnv} {replies : CompositeReplies} {call : HookCall} {st : HookState}

theorem callOriginal_forwards : Forwards call [] st (callOriginal env call st) :=
  ⟨_, _, rfl, rfl, rfl⟩

theorem finish_forwards (result : CompError) : Forwards call [] st (finish env call result st) := by
  by_cases hok : result = .success
  · have hrun : finish env call result =
        (callOriginal env call >>= fun _ => pure (env.errorCode result)) :=
      if_neg (not_not.mpr hok)
    rw [hrun]
    exact ⟨_, _, rfl, rfl, rfl⟩
  · have hrun : finish env call result = callOriginal env call := if_pos hok
    rw [hrun]
    exact callOriginal_forwards

/-- After the parse. -/
theorem forwardOrAttempt_forwards (s : Compositor) (args : ParsedTags) :
    Forwards call (if (args.hasVertexArray = false ∧ args.hasAlphaMask = false) ∧
      s.gs.doubleBuffer = false ∧ chipFormatBpp (sourceData env call.source).2.2 = 4
        then [request env call args] else []) st (forwardOrAttempt env replies s call args st) := by
  by_cases hunsupported : args.hasVertexArray = true ∨ args.hasAlphaMask = true
  · have hrun : forwardOrAttempt env replies s call args = callOriginal env call :=
      if_pos hunsupported
    rw [hrun, if_neg fun h => by simp [h.1.1, h.1.2] at hunsupported]
    exact callOriginal_forwards
  have hsupported : args.hasVertexArray = false ∧ args.hasAlphaMask = false := by
    rw [not_or, Bool.not_eq_true, Bool.not_eq_true] at hunsupported
    exact hunsupported
  have hrun : forwardOrAttempt env replies s call args = attemptHardware env replies s call args :=
    if_neg hunsupported
  rw [hrun]
  unfold attemptHardware
  by_cases hdouble : s.gs.doubleBuffer = true
  · rw [if_pos hdouble, if_neg fun h => by simp [h.2.1] at hdouble]
    exact callOriginal_forwards
  rw [if_neg hdouble]
  by_cases hbpp : chipFormatBpp (sourceData env call.source).2.2 = 4
  · rw [if_neg (not_not.mpr hbpp),
      if_pos ⟨hsupported, Bool.eq_false_iff.mpr hdouble, hbpp⟩]
    obtain ⟨result, st', hrun, horiginals, hcomposites⟩ :=
      @finish_forwards env call
        { st with
          chip := some (chipVirglComposite env.bits env.objects env.data replies
            (request env call args) s).2
          composites := request env call args :: st.composites }
        (chipVirglComposite env.bits env.objects env.data replies (request env call args) s).1
    exact ⟨result, st', hrun, horiginals, hcomposites⟩
  · rw [if_pos hbpp, if_neg fun h => hbpp h.2.2]
    exact callOriginal_forwards

theorem hook_without (fuel : ℕ) (h : st.chip = none ∨ call.destination = none) :
    hookCompositeTagList env replies fuel call st = callOriginal env call st := by
  change (match st.chip, call.destination with
    | some s, some destination => _
    | _, _ => callOriginal env call : Hook UInt32) st = _
  rcases h with hchip | hdestination
  · rw [hchip]
  · rw [hdestination]
    cases st.chip with
    | none => rfl
    | some s => rfl

/-- For a driver and a destination that are there. -/
theorem hook_parsed (fuel : ℕ) {s : Compositor} {destination : BitMap} (hchip : st.chip = some s)
    (hdestination : call.destination = some destination) {args : ParsedTags}
    (hparse : parseTags env.numbers env.load fuel call.tags {} = some args) :
    hookCompositeTagList env replies fuel call st =
      (if s.gs.virgl2dReady = false then callOriginal env call
        else if ¬ IsOurs env s destination then callOriginal env call
        else forwardOrAttempt env replies s call
          (args.withDefaults env.iGraphics call.source destination)) st := by
  change (match st.chip, call.destination with
    | some s, some destination => _
    | _, _ => callOriginal env call : Hook UInt32) st = _
  rw [hchip, hdestination]
  change (if s.gs.virgl2dReady = false then callOriginal env call
    else if ¬ IsOurs env s destination then callOriginal env call
    else StateT.lift (parseTags env.numbers env.load fuel call.tags {}) >>= fun args =>
      forwardOrAttempt env replies s call
        (args.withDefaults env.iGraphics call.source destination)) st = _
  rw [hparse]
  rfl

theorem hook_some (fuel : ℕ) {s : Compositor} {destination : BitMap} (hchip : st.chip = some s)
    (hdestination : call.destination = some destination) {args : ParsedTags}
    (hparse : parseTags env.numbers env.load fuel call.tags {} = some args) :
    let args := args.withDefaults env.iGraphics call.source destination
    Forwards call (if Tries env s call destination args then [request env call args] else []) st
      (hookCompositeTagList env replies fuel call st) := by
  intro args
  rw [hook_parsed fuel hchip hdestination hparse]
  by_cases hready : s.gs.virgl2dReady = false
  · rw [if_pos hready, if_neg fun h => by simp [h.1.1] at hready]
    exact callOriginal_forwards
  rw [if_neg hready]
  by_cases hours : IsOurs env s destination
  · rw [if_neg (not_not.mpr hours)]
    have hready' : s.gs.virgl2dReady = true := Bool.not_eq_false _ ▸ hready
    have hforwards := @forwardOrAttempt_forwards env replies call st s args
    have htries : Tries env s call destination args ↔
        (args.hasVertexArray = false ∧ args.hasAlphaMask = false) ∧ s.gs.doubleBuffer = false ∧
          chipFormatBpp (sourceData env call.source).2.2 = 4 :=
      ⟨And.right, fun hsupported => ⟨⟨hready', hours⟩, hsupported⟩⟩
    simp only [htries]
    exact hforwards
  · rw [if_pos hours, if_neg fun h => hours h.1.2]
    exact callOriginal_forwards

end

/-- For every list of tags that does not lead back to itself, and every state, operator, source and
destination: the hook ends, it has called the original method once with its own arguments, and
`chip_virgl_composite`, where it gets so far, with the last value of every tag. -/
theorem composite_forwarded (env : HookEnv) (replies : CompositeReplies) (call : HookCall)
    (st : HookState) (h : Acyclic (nextTag env.load) call.tags) :
    (∃ items, Flattens env.load call.tags items) ∧
      ∀ items, Flattens env.load call.tags items → ∃ n, ∀ fuel ≥ n,
        Forwards call (expectedRequests env st call items) st
          (hookCompositeTagList env replies fuel call st) := by
  refine ⟨Flattens.exists_of_acyclic h, fun items hitems => ?_⟩
  obtain ⟨n, hn⟩ := @parseTags_eq env.numbers env.load items call.tags hitems {}
  refine ⟨n, fun fuel hfuel => ?_⟩
  have hparse := hn fuel hfuel
  rw [foldl_set] at hparse
  unfold expectedRequests
  cases hchip : st.chip with
  | none =>
      rw [hook_without fuel (Or.inl hchip)]
      exact callOriginal_forwards
  | some s =>
      cases hdestination : call.destination with
      | none =>
          rw [hook_without fuel (Or.inr hdestination)]
          exact callOriginal_forwards
      | some destination => exact hook_some fuel hchip hdestination hparse

def exampleNumber (name : CompTagName) : UInt32 :=
  0x80000001 + UInt32.ofNat (CompTagName.all.idxOf name)

def exampleEnv : HookEnv where
  bits := exampleBits
  numbers :=
    { number := exampleNumber
      number_inj := by
        intro first second h
        cases first <;> cases second <;> first | rfl | exact absurd h (by decide)
      number_user := by
        intro name
        cases name <;> decide }
  objects := exampleObjects
  data := exampleData
  iGraphics := true
  address n := UInt32.ofNat (0x10000 * n)
  -- one item, at 0x2000
  load a := if a = 0x2000 then exampleNumber .srcWidth else 0
  original _ := 0
  errorCode
    | .success => 0
    | _ => 1

/-- A bitmap of 16 by 16 pixels drawn on itself, with a tag that gives it the width 0. -/
def exampleCall : HookCall :=
  let b : BitMap := ⟨1, 64, 16, 16, .a8r8g8b8⟩
  ⟨0x3000, 3, .bitMap b, some b, 0x2000⟩

def exampleHook : HookState where
  chip := some (exampleCompositor.withGs
    { exampleCompositor.gs with boardMem := 1, boardMemSize := 0x100000 })
  originals := []
  composites := []

theorem example_items :
    Flattens exampleEnv.load exampleCall.tags [⟨exampleNumber .srcWidth, 0⟩] :=
  .item (by decide) (by decide) (.done (by decide))

/-- Every control tag and a tag that comes twice: the list skips one item, and goes on at 0x4000. -/
def exampleList (a : UInt32) : UInt32 :=
  match a.toNat with
  | 0x2000 => tagIgnore
  | 0x2008 => exampleNumber .srcWidth
  | 0x200C => 4
  | 0x2010 => tagSkip
  | 0x2014 => 1
  -- the item that is skipped
  | 0x2018 => exampleNumber .destWidth
  | 0x201C => 9
  | 0x2020 => tagMore
  | 0x2024 => 0x4000
  | 0x4000 => exampleNumber .srcWidth
  | 0x4004 => 8
  | 0x4008 => exampleNumber .destX
  | 0x400C => 3
  | _ => tagDone

theorem exampleList_acyclic : Acyclic (nextTag exampleList) 0x2000 := by
  have path : Path (nextTag exampleList) 0x2000
      [0x2000, 0x2008, 0x2010, 0x2020, 0x4000, 0x4008, 0x4010] :=
    .step (by decide) <| .step (by decide) <| .step (by decide) <| .step (by decide) <|
      .step (by decide) <| .step (by decide) <| .last (by decide)
  exact path.acyclic

theorem exampleList_items :
    Flattens exampleList 0x2000
      [⟨exampleNumber .srcWidth, 4⟩, ⟨exampleNumber .srcWidth, 8⟩, ⟨exampleNumber .destX, 3⟩] :=
  .ignore (by decide) (by decide) <| .item (by decide) (by decide) <|
    .skip (by decide) (by decide) <| .more (by decide) (by decide) <|
      .item (by decide) (by decide) <| .item (by decide) (by decide) <| .done (by decide)

theorem composite_forwarded_example :
    ∃ n, ∀ fuel ≥ n, Forwards exampleCall
      (expectedRequests { exampleEnv with load := exampleList } exampleHook exampleCall
        [⟨exampleNumber .srcWidth, 4⟩, ⟨exampleNumber .srcWidth, 8⟩, ⟨exampleNumber .destX, 3⟩])
      exampleHook
      (hookCompositeTagList { exampleEnv with load := exampleList } allDone fuel exampleCall
        exampleHook) :=
  (composite_forwarded { exampleEnv with load := exampleList } allDone exampleCall exampleHook
    exampleList_acyclic).2 _ exampleList_items

/-- The last value of `COMPTAG_SrcWidth` is 0, and `chip_virgl_composite` is called with 16. -/
theorem zero_width_replaced :
    Flattens exampleEnv.load exampleCall.tags [⟨exampleNumber .srcWidth, 0⟩] ∧
      lastValue [⟨exampleNumber .srcWidth, 0⟩] (exampleNumber .srcWidth) = some 0 ∧
        (hookCompositeTagList exampleEnv allDone 3 exampleCall exampleHook).map
          (fun outcome => outcome.2.composites.map CompositeRequest.srcW) = some [16] :=
  ⟨example_items, by decide, by decide +kernel⟩

end VirtIOGPU.Compositing
