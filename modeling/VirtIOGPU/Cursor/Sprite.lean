import Mathlib.Data.Int.ConditionallyCompleteOrder
import Mathlib.Order.Interval.Set.LinearOrder
import VirtIOGPU.Card.Mode
import VirtIOGPU.Commands.Encoding

/-!
# The position of the sprite

`chip_SetSpritePosition` and `chip_SetSpriteImage` both store where the pointer is, relative to the
panned origin.  Only the first of them clamps it to the mode, and it clamps to the width and the
height, not to the last column and row.  So the two agree on a position in the mode exactly where
the clamps have nothing to do (`positions_agree_iff`).

## Strategy

Each callback is followed to the position that it stores (`storedPosition_setSpritePosition`,
`storedPosition_setSpriteImage`), and the rest is about one axis at a time:

```text
position v, relative      SetSpriteImage   SetSpritePosition   the sprite at v
below 1 - size            v                1 - size            is outside
1 - size and more, and    v                v                   shows
  below the extent
the extent, and beyond    v                the extent          is outside
```

`clampFar_toInt` and `clampNear_toInt` read the clamps as a minimum and a maximum of integers.  The
extent is a signed word there, so a mode of more than 32767 has another table (`Shows.word`).
-/

namespace VirtIOGPU.Sprite

open Lib.ByteOrder Lib.Memory Lib.Layout Lib.Hoare Wrappers

/-! ## State -/

/-- What the callbacks read of `struct BoardInfo`. -/
structure BoardInfo where
  modeInfo : Option Card.ModeInfo
  xOffset : Int16
  yOffset : Int16
  mouseX : Int16
  mouseY : Int16
  mouseWidth : UInt8
  mouseHeight : UInt8
  mouseXOffset : UInt8
  mouseYOffset : UInt8
  /-- The address of the sprite data, 0 for `NULL`. -/
  mouseImage : ℕ

/-- What the callbacks use of `ChipGPUState`, and the memory that `MouseImage` points into. -/
structure SpriteState where
  channel : Channel
  memory : Mem UInt8
  /-- The pixels at `cursor_mem`; `none` for `NULL`. -/
  cursorMem : Option (Mem UInt32)
  /-- Red, green and blue. -/
  cursorColors : ℕ → UInt8 × UInt8 × UInt8
  cursorW : UInt16
  cursorH : UInt16
  cursorHotX : UInt16
  cursorHotY : UInt16
  cursorNeedsRefresh : Bool

abbrev SpriteM := StateM SpriteState

/-- A callback; it returns at once when `g_chip_state` is `NULL`. -/
def callback (m : SpriteM PUnit) : StateM (Option SpriteState) PUnit :=
  modify fun s => s.map fun gs => (m gs).2

def onChannel {α : Type} (m : GpuM α) : SpriteM α :=
  modifyGet fun s => ((m s.channel).1, { s with channel := (m s.channel).2 })

def modifyFields (f : ChannelFields → ChannelFields) : SpriteM PUnit :=
  modify fun s => { s with channel := { s.channel with gs := f s.channel.gs } }

/-- `gs->cursor_x = x; gs->cursor_y = y`. -/
def setPosition (x y : Int16) : SpriteM PUnit :=
  modifyFields fun gs => { gs with cursorX := x, cursorY := y }

/-! ## `chip_SetSpritePosition` -/

/-- `if (v > (WORD)extent) v = (WORD)extent`. -/
def clampFar (extent : UInt16) (v : Int16) : Int16 :=
  if extent.toInt16 < v then extent.toInt16 else v

/-- `if (v < (WORD)(1 - size)) v = (WORD)(1 - size)`. -/
def clampNear (size : UInt8) (v : Int16) : Int16 :=
  let least : Int16 := 1 - size.toUInt16.toInt16
  if v < least then least else v

/-- `vx`, `vy`. -/
def spritePosition (bi : Option BoardInfo) (x y : Int16) : Int16 × Int16 :=
  match bi with
  | none => (x, y)
  | some bi =>
      let vx := x - bi.xOffset
      let vy := y - bi.yOffset
      let (vx, vy) :=
        match bi.modeInfo with
        | none => (vx, vy)
        | some mi => (clampFar mi.width vx, clampFar mi.height vy)
      (clampNear bi.mouseWidth vx, clampNear bi.mouseHeight vy)

def chipSetSpritePosition (bi : Option BoardInfo) (x y : Int16) :
    SpriteM PUnit := do
  let vx := (spritePosition bi x y).1
  let vy := (spritePosition bi x y).2
  setPosition vx vy
  let s ← get
  let gs := s.channel.gs
  -- only the first move after a change of the mode goes to the host
  onlyIf
    (s.cursorNeedsRefresh ∧ gs.cursorCreated ∧ (vx ≠ gs.cursorLastSentX ∨ vy ≠ gs.cursorLastSentY))
    (do
      onChannel (chipCursorMove vx vy)
      modifyFields fun gs => { gs with cursorLastSentX := vx, cursorLastSentY := vy }
      modify fun s => { s with cursorNeedsRefresh := false })

/-! ## `chip_SetSpriteImage` -/

/-- How `chip_CursorCreate` comes out. -/
inductive CreateAnswer where
  | created
  /-- There is no queue, or no memory. -/
  | noBuffer
  /-- A command has failed. -/
  | noResource
  deriving DecidableEq, Repr

/-- `chip_CursorCreate` for a cursor that does not exist. -/
def chipCursorCreate (answer : CreateAnswer) : SpriteM Bool := do
  match answer with
  | .created =>
      modifyFields fun gs => { gs with cursorResourceId := 2, cursorCreated := true }
      modify fun s => { s with cursorMem := some fun _ => 0 }
      return true
  | .noBuffer =>
      modify fun s => { s with cursorMem := none }
      return false
  | .noResource =>
      modifyFields fun gs => { gs with cursorResourceId := 2 }
      modify fun s => { s with cursorMem := none }
      return false

/-- `colors[4]`, for `B8G8R8A8` on a big-endian CPU. -/
def spriteColors (cursorColors : ℕ → UInt8 × UInt8 × UInt8) : ℕ → UInt32
  | 0 => 0
  | c + 1 =>
      let (r, g, b) := cursorColors c
      b.toUInt32 <<< 24 ||| g.toUInt32 <<< 16 ||| r.toUInt32 <<< 8 ||| 0xFF

/-- A native load of `width` bytes. -/
def load (m : Mem UInt8) (start width : ℕ) : ℕ := ofBE ((bytes m start width).map UInt8.toNat)

/-- `data_bits` and `mask_bits` of a row; row 0 of the image is a header. -/
def spriteRow (m : Mem UInt8) (image row : ℕ) (wide : Bool) : UInt32 × UInt32 :=
  if wide then
    let src := image + (row + 1) * 8
    (UInt32.ofNat (load m src 4), UInt32.ofNat (load m (src + 4) 4))
  else
    let src := image + (row + 1) * 4
    (UInt32.ofNat (load m src 2) <<< 16, UInt32.ofNat (load m (src + 2) 2) <<< 16)

/-- `cidx`: the mask bit and the data bit of a column. -/
def colorIndex (dataBits maskBits : UInt32) (col : ℕ) : ℕ :=
  let bit : UInt32 := 1 <<< UInt32.ofNat (31 - col)
  let d := if dataBits &&& bit ≠ 0 then 1 else 0
  let m := if maskBits &&& bit ≠ 0 then 1 else 0
  m <<< 1 ||| d

/-- The conversion to 64 pixels a row. -/
def drawSprite (m : Mem UInt8) (image : ℕ) (colors : ℕ → UInt32) (mw mh : UInt8)
    (cursor : Mem UInt32) : Mem UInt32 :=
  let wide : Bool := 16 < mw
  let bits := min (if wide then 32 else 16) mw.toNat
  up mh.toNat (fun row cursor =>
    let (dataBits, maskBits) := spriteRow m image row wide
    up bits (fun col cursor =>
      Function.update cursor (row * 64 + col) (colors (colorIndex dataBits maskBits col))) cursor)
    cursor

/-- `if (size > 64) size = 64`. -/
def clampSize (size : UInt8) : UInt8 := if 64 < size then 64 else size

/-- What follows the creation of the cursor. -/
def showSprite (device : GpuDevice) (bi : BoardInfo) (cursor : Mem UInt32) : SpriteM PUnit := do
  let cursor := overwrite 0 (64 * 64) (fun _ => 0) cursor
  modify fun s => { s with cursorMem := some cursor }
  if bi.mouseWidth = 0 ∨ bi.mouseHeight = 0 then
    return
  let mw := clampSize bi.mouseWidth
  let mh := clampSize bi.mouseHeight
  modify fun s => { s with cursorW := mw.toUInt16, cursorH := mh.toUInt16 }
  -- the size is that of the new image, the position still that of the old one
  if bi.mouseImage = 0 then
    return
  modify fun s =>
    { s with
      cursorMem :=
        some (drawSprite s.memory bi.mouseImage (spriteColors s.cursorColors) mw mh cursor) }
  setPosition (bi.mouseX - bi.xOffset) (bi.mouseY - bi.yOffset)
  modify fun s =>
    { s with cursorHotX := bi.mouseXOffset.toUInt16, cursorHotY := bi.mouseYOffset.toUInt16 }
  onChannel (chipCursorUpdate device bi.mouseXOffset.toUInt32 bi.mouseYOffset.toUInt32)

/-- There is a cursor from here on, if the result is `true`. -/
def ensureCursor (answer : CreateAnswer) : SpriteM Bool := do
  let s ← get
  if s.channel.gs.cursorCreated then
    return true
  else
    chipCursorCreate answer

/-- `if (!cursor) return`. -/
def withCursorMem (k : Mem UInt32 → SpriteM PUnit) : SpriteM PUnit := fun s =>
  match s.cursorMem with
  | none => (⟨⟩, s)
  | some cursor => k cursor s

def chipSetSpriteImage (device : GpuDevice) (answer : CreateAnswer) (bi : Option BoardInfo) :
    SpriteM PUnit := do
  match bi with
  | none => return
  | some bi =>
      let ready ← ensureCursor answer
      if ready then
        withCursorMem (showSprite device bi)

/-! ## What the two callbacks store -/

/-- `cursor_x` and `cursor_y`. -/
def storedPosition (s : Option SpriteState) : Option (Int16 × Int16) :=
  s.map fun gs => (gs.channel.gs.cursorX, gs.channel.gs.cursorY)

def afterSetSpritePosition (bi : BoardInfo) (s : SpriteState) : Option SpriteState :=
  (callback (chipSetSpritePosition (some bi) bi.mouseX bi.mouseY) (some s)).2

def afterSetSpriteImage (device : GpuDevice) (answer : CreateAnswer) (bi : BoardInfo)
    (s : SpriteState) : Option SpriteState :=
  (callback (chipSetSpriteImage device answer (some bi)) (some s)).2

/-- The cursor is there, or it can be created. -/
def HasCursor (answer : CreateAnswer) (s : SpriteState) : Prop :=
  if s.channel.gs.cursorCreated then s.cursorMem ≠ none else answer = .created

/-- `chip_SetSpriteImage` gets as far as the position. -/
structure ShowsSprite (answer : CreateAnswer) (bi : BoardInfo) (s : SpriteState) : Prop where
  cursor : HasCursor answer s
  width : 1 ≤ bi.mouseWidth
  height : 1 ≤ bi.mouseHeight
  image : bi.mouseImage ≠ 0

/-- The state stores this position. -/
abbrev At (x y : Int16) (s : SpriteState) : Prop :=
  s.channel.gs.cursorX = x ∧ s.channel.gs.cursorY = y

variable (device : GpuDevice) {answer : CreateAnswer} {bi : BoardInfo} {s t : SpriteState}
  {x y : Int16}

theorem chipCursorSend_gs (type id x y hotX hotY : UInt32) (c : Channel) :
    (chipCursorSend type id x y hotX hotY c).2.gs = c.gs := by
  change (if c.gs.cursorQueue ∧ c.gs.cursorCmdBuf then _ else c : Channel).gs = c.gs
  split <;> rfl

/-- Sending the image leaves the position alone. -/
theorem chipCursorUpdate_position (hotX hotY : UInt32) (c : Channel) :
    (chipCursorUpdate device hotX hotY c).2.gs.cursorX = c.gs.cursorX ∧
      (chipCursorUpdate device hotX hotY c).2.gs.cursorY = c.gs.cursorY := by
  by_cases hcreated : c.gs.cursorCreated = true
  · let transferred := (chipTransferToHost2D device c.gs.cursorResourceId 0 0 64 64 0 c).2
    let sent := (chipCursorSend 0x0300 c.gs.cursorResourceId (clampPos c.gs.cursorX)
      (clampPos c.gs.cursorY) hotX hotY transferred).2
    have hsent : sent.gs = c.gs := by
      calc
        sent.gs = transferred.gs := chipCursorSend_gs ..
        _ = c.gs := chipTransferToHost2D_gs ..
    have hrun : (chipCursorUpdate device hotX hotY c).2 =
        { sent with
          gs := { sent.gs with
            cursorLastSentX := sent.gs.cursorX, cursorLastSentY := sent.gs.cursorY } } := by
      change ((if c.gs.cursorCreated then _ else pure ⟨⟩ : GpuM PUnit) c).2 = _
      rw [if_pos hcreated]
      rfl
    rw [hrun, hsent]
    exact ⟨rfl, rfl⟩
  · have hrun : (chipCursorUpdate device hotX hotY c).2 = c := by
      change ((if c.gs.cursorCreated then _ else pure ⟨⟩ : GpuM PUnit) c).2 = _
      rw [if_neg hcreated]
      rfl
    rw [hrun]
    exact ⟨rfl, rfl⟩

theorem chipCursorMove_position (c : Channel) (hc : c.gs.cursorX = x ∧ c.gs.cursorY = y) :
    (chipCursorMove x y c).2.gs.cursorX = x ∧
      (chipCursorMove x y c).2.gs.cursorY = y := by
  by_cases hcreated : c.gs.cursorCreated = true
  · have hrun : (chipCursorMove x y c).2.gs = { c.gs with cursorX := x, cursorY := y } := by
      change ((if c.gs.cursorCreated then _ else pure ⟨⟩ : GpuM PUnit) c).2.gs = _
      rw [if_pos hcreated]
      exact chipCursorSend_gs ..
    rw [hrun]
    exact ⟨rfl, rfl⟩
  · have hrun : (chipCursorMove x y c).2 = c := by
      change ((if c.gs.cursorCreated then _ else pure ⟨⟩ : GpuM PUnit) c).2 = _
      rw [if_neg hcreated]
      rfl
    rw [hrun]
    exact hc

theorem chipSetSpritePosition_stores (bi : Option BoardInfo) (x y : Int16) :
    Triple (fun _ => True) (chipSetSpritePosition bi x y)
      fun _ => At (spritePosition bi x y).1 (spritePosition bi x y).2 := by
  unfold chipSetSpritePosition
  generalize (spritePosition bi x y).1 = vx
  generalize (spritePosition bi x y).2 = vy
  refine Triple.bind (R := fun _ => At vx vy) (Triple.update fun s _ => ⟨rfl, rfl⟩) fun _ => ?_
  intro s hs
  refine Triple.onlyIf (P := At vx vy) (Q := fun _ => At vx vy) (fun _ => ?_)
    (fun _ s hs => hs) s hs
  refine Triple.bind (R := fun _ => At vx vy)
    (Triple.transition fun s hs => chipCursorMove_position s.channel hs) fun _ => ?_
  exact Triple.bind (R := fun _ => At vx vy) (Triple.update fun s hs => hs) fun _ =>
    Triple.update fun s hs => hs

theorem showSprite_stores (hwidth : 1 ≤ bi.mouseWidth) (hheight : 1 ≤ bi.mouseHeight)
    (himage : bi.mouseImage ≠ 0) (cursor : Mem UInt32) :
    Triple (fun _ => True) (showSprite device bi cursor)
      fun _ => At (bi.mouseX - bi.xOffset) (bi.mouseY - bi.yOffset) := by
  have hsize : ¬ (bi.mouseWidth = 0 ∨ bi.mouseHeight = 0) := by
    rw [UInt8.le_iff_toNat_le] at hwidth hheight
    rintro (h | h)
    · rw [h] at hwidth
      exact absurd hwidth (by decide)
    · rw [h] at hheight
      exact absurd hheight (by decide)
  unfold showSprite
  generalize bi.mouseX - bi.xOffset = vx
  generalize bi.mouseY - bi.yOffset = vy
  -- before the position is stored nothing has to be known of the state
  refine Triple.bind (R := fun _ _ => True) (fun _ _ => trivial) fun _ => ?_
  refine Triple.ite (fun h => absurd h hsize) fun _ => ?_
  refine Triple.bind (R := fun _ _ => True) (fun _ _ => trivial) fun _ => ?_
  refine Triple.ite (fun h => absurd h himage) fun _ => ?_
  refine Triple.bind (R := fun _ _ => True) (fun _ _ => trivial) fun _ => ?_
  refine Triple.bind (R := fun _ => At vx vy) (Triple.update fun s _ => ⟨rfl, rfl⟩) fun _ => ?_
  refine Triple.bind (R := fun _ => At vx vy) (Triple.update fun s hs => hs) fun _ => ?_
  refine Triple.transition fun s hs => ?_
  obtain ⟨hx, hy⟩ := chipCursorUpdate_position device bi.mouseXOffset.toUInt32
    bi.mouseYOffset.toUInt32 s.channel
  exact ⟨hx.trans hs.1, hy.trans hs.2⟩

theorem ensureCursor_spec (answer : CreateAnswer) :
    Triple (HasCursor answer) (ensureCursor answer) fun ready s =>
      ready = true ∧ s.cursorMem ≠ none := by
  intro s hs
  unfold HasCursor at hs
  change (fun r : Bool × SpriteState => r.1 = true ∧ r.2.cursorMem ≠ none)
    ((if s.channel.gs.cursorCreated then pure true else chipCursorCreate answer : SpriteM Bool) s)
  by_cases hcreated : s.channel.gs.cursorCreated = true
  · rw [if_pos hcreated] at hs ⊢
    exact ⟨rfl, hs⟩
  · rw [if_neg hcreated] at hs ⊢
    subst hs
    exact ⟨rfl, Option.some_ne_none _⟩

theorem withCursorMem_spec {k : Mem UInt32 → SpriteM PUnit} {Q : PUnit → SpriteState → Prop}
    (hk : ∀ cursor, Triple (fun _ => True) (k cursor) Q) :
    Triple (fun s => s.cursorMem ≠ none) (withCursorMem k) Q := by
  intro s hs
  unfold withCursorMem
  obtain ⟨cursor, hcursor⟩ := Option.ne_none_iff_exists'.mp hs
  rw [hcursor]
  exact hk cursor s trivial

theorem chipSetSpriteImage_stores (hwidth : 1 ≤ bi.mouseWidth) (hheight : 1 ≤ bi.mouseHeight)
    (himage : bi.mouseImage ≠ 0) :
    Triple (HasCursor answer) (chipSetSpriteImage device answer (some bi))
      fun _ => At (bi.mouseX - bi.xOffset) (bi.mouseY - bi.yOffset) := by
  refine Triple.bind (ensureCursor_spec answer) fun ready => Triple.fact fun hready => ?_
  refine Triple.ite (fun _ => ?_) fun hnot => absurd hready hnot
  exact withCursorMem_spec fun cursor => showSprite_stores device hwidth hheight himage cursor

theorem storedPosition_setSpritePosition {mi : Card.ModeInfo} (hmode : bi.modeInfo = some mi)
    (t : SpriteState) :
    storedPosition (afterSetSpritePosition bi t) =
      some (clampNear bi.mouseWidth (clampFar mi.width (bi.mouseX - bi.xOffset)),
        clampNear bi.mouseHeight (clampFar mi.height (bi.mouseY - bi.yOffset))) := by
  obtain ⟨hx, hy⟩ :=
    chipSetSpritePosition_stores (some bi) bi.mouseX bi.mouseY t trivial
  rw [spritePosition, hmode] at hx hy
  exact congrArg some (Prod.ext hx hy)

theorem storedPosition_setSpriteImage (h : ShowsSprite answer bi s) :
    storedPosition (afterSetSpriteImage device answer bi s) =
      some (bi.mouseX - bi.xOffset, bi.mouseY - bi.yOffset) := by
  obtain ⟨hx, hy⟩ := chipSetSpriteImage_stores device h.width h.height h.image s h.cursor
  exact congrArg some (Prod.ext hx hy)

/-! ## Positions in a mode -/

/-- The columns that a sprite of this size covers, or its rows. -/
def span (size : UInt8) (v : Int16) : Set ℤ := Set.Ico v.toInt (v.toInt + size.toNat)

def spriteBox (bi : BoardInfo) (position : Int16 × Int16) : Set (ℤ × ℤ) :=
  span bi.mouseWidth position.1 ×ˢ span bi.mouseHeight position.2

def modeRectangle (mi : Card.ModeInfo) : Set (ℤ × ℤ) :=
  Set.Ico 0 (mi.width.toNat : ℤ) ×ˢ Set.Ico 0 (mi.height.toNat : ℤ)

/-- A sprite at `v` shows in the mode, and no clamp moves it. -/
structure Shows (extent : UInt16) (size : UInt8) (v : Int16) : Prop where
  mode : 0 < extent.toNat
  near : 1 - (size.toNat : ℤ) ≤ v.toInt
  far : v.toInt < extent.toNat
  /-- A mode of more than 32767 is a negative number for the clamp. -/
  word : v.toInt ≤ extent.toInt16.toInt ∨ v.toInt = 1 - (size.toNat : ℤ)

theorem toInt16_toInt (extent : UInt16) :
    extent.toInt16.toInt = (extent.toNat : ℤ).bmod (2 ^ 16) :=
  BitVec.toInt_eq_toNat_bmod extent.toBitVec

/-- `(WORD)(1 - size)` is not truncated. -/
theorem least_toInt (size : UInt8) :
    ((1 : Int16) - size.toUInt16.toInt16).toInt = 1 - (size.toNat : ℤ) := by
  have hlt := size.toNat_lt
  have hsize : size.toUInt16.toInt16.toInt = size.toNat := by
    rw [toInt16_toInt, UInt8.toNat_toUInt16, Int.bmod]
    omega
  have hone : (1 : Int16).toInt = 1 := rfl
  rw [Int16.toInt_sub, hsize, hone, Int.bmod]
  omega

theorem clampFar_toInt (extent : UInt16) (v : Int16) :
    (clampFar extent v).toInt = min v.toInt extent.toInt16.toInt := by
  unfold clampFar
  split
  · rename_i h
    rw [Int16.lt_iff_toInt_lt] at h
    exact (min_eq_right h.le).symm
  · rename_i h
    rw [Int16.lt_iff_toInt_lt, not_lt] at h
    exact (min_eq_left h).symm

theorem clampNear_toInt (size : UInt8) (v : Int16) :
    (clampNear size v).toInt = max v.toInt (1 - (size.toNat : ℤ)) := by
  rw [← least_toInt]
  change (if v < 1 - size.toUInt16.toInt16 then _ else v : Int16).toInt = _
  split
  · rename_i h
    rw [Int16.lt_iff_toInt_lt] at h
    exact (max_eq_right h.le).symm
  · rename_i h
    rw [Int16.lt_iff_toInt_lt, not_lt] at h
    exact (max_eq_left h).symm

theorem span_meets_iff (extent : UInt16) (size : UInt8) (v : Int16) :
    (span size v ∩ Set.Ico 0 (extent.toNat : ℤ)).Nonempty ↔
      max v.toInt 0 < min (v.toInt + size.toNat) extent.toNat := by
  rw [span, Set.Ico_inter_Ico, Set.nonempty_Ico]

/-- One of the two coordinates. -/
theorem clamped_iff (extent : UInt16) {size : UInt8} (hsize : 1 ≤ size) (v : Int16) :
    v = clampNear size (clampFar extent v) ∧
        (span size v ∩ Set.Ico 0 (extent.toNat : ℤ)).Nonempty ↔
      Shows extent size v := by
  have hsize : 1 ≤ size.toNat := UInt8.le_iff_toNat_le.mp hsize
  rw [span_meets_iff, ← Int16.toInt_inj, clampNear_toInt, clampFar_toInt, toInt16_toInt]
  -- both clamps are now a minimum and a maximum of integers
  constructor
  · rintro ⟨hsame, hmeets⟩
    refine ⟨by omega, by omega, by omega, ?_⟩
    rw [toInt16_toInt]
    omega
  · rintro ⟨hmode, hnear, hfar, hword⟩
    rw [toInt16_toInt] at hword
    constructor <;> omega

theorem box_meets_iff {mi : Card.ModeInfo} (position : Int16 × Int16) :
    (spriteBox bi position ∩ modeRectangle mi).Nonempty ↔
      (span bi.mouseWidth position.1 ∩ Set.Ico 0 (mi.width.toNat : ℤ)).Nonempty ∧
        (span bi.mouseHeight position.2 ∩ Set.Ico 0 (mi.height.toNat : ℤ)).Nonempty := by
  rw [spriteBox, modeRectangle, Set.prod_inter_prod, Set.prod_nonempty_iff]

/-! ## Agreement -/

/-- Both callbacks store the same position, and a sprite there shows in the mode. -/
def PositionsAgree (bi : BoardInfo) (mi : Card.ModeInfo) (image position : Option SpriteState) :
    Prop :=
  storedPosition image = storedPosition position ∧
    ∀ s ∈ [image, position], ∀ v ∈ storedPosition s,
      (spriteBox bi v ∩ modeRectangle mi).Nonempty

/-- The pointer of `bi`, relative to the panned origin as a 16-bit number, shows in the mode and
lies where `chip_SetSpritePosition` clamps nothing. -/
def PointerShows (bi : BoardInfo) (mi : Card.ModeInfo) : Prop :=
  Shows mi.width bi.mouseWidth (bi.mouseX - bi.xOffset) ∧
    Shows mi.height bi.mouseHeight (bi.mouseY - bi.yOffset)

/-- The two callbacks store the same position, whose box meets the mode, if and only if the pointer
shows in the mode and no clamp moves it. -/
theorem positions_agree_iff {mi : Card.ModeInfo} (hmode : bi.modeInfo = some mi)
    (hshows : ShowsSprite answer bi s) (t : SpriteState) :
    PositionsAgree bi mi (afterSetSpriteImage device answer bi s)
        (afterSetSpritePosition bi t) ↔ PointerShows bi mi := by
  have hx := clamped_iff mi.width hshows.width (bi.mouseX - bi.xOffset)
  have hy := clamped_iff mi.height hshows.height (bi.mouseY - bi.yOffset)
  have himage := storedPosition_setSpriteImage device hshows
  have hposition := storedPosition_setSpritePosition hmode t
  generalize afterSetSpriteImage device answer bi s = image at himage ⊢
  generalize afterSetSpritePosition bi t = position at hposition ⊢
  unfold PositionsAgree PointerShows
  rw [← hx, ← hy]
  constructor
  · rintro ⟨hsame, hbox⟩
    have hmeets := hbox image (by simp) _ himage
    rw [box_meets_iff] at hmeets
    rw [himage, hposition, Option.some_inj, Prod.mk.injEq] at hsame
    exact ⟨⟨hsame.1, hmeets.1⟩, hsame.2, hmeets.2⟩
  · rintro ⟨⟨hsamex, hmeetsx⟩, hsamey, hmeetsy⟩
    have hsame : storedPosition position = storedPosition image := by
      rw [himage, hposition, ← hsamex, ← hsamey]
    refine ⟨hsame.symm, fun s hs v hv => ?_⟩
    have hstored : storedPosition s = storedPosition image := by
      rcases List.mem_pair.mp hs with rfl | rfl
      · rfl
      · exact hsame
    rw [hstored, himage] at hv
    obtain rfl := Option.some.inj hv
    exact (box_meets_iff _).mpr ⟨hmeetsx, hmeetsy⟩

/-! ### Concrete positions -/

/-- A 16 by 16 pointer in a mode of 640 by 480 that is not panned. -/
def smallPointer (x y : Int16) : BoardInfo where
  modeInfo := some ⟨640, 480, 32⟩
  xOffset := 0
  yOffset := 0
  mouseX := x
  mouseY := y
  mouseWidth := 16
  mouseHeight := 16
  mouseXOffset := 0
  mouseYOffset := 0
  mouseImage := 0x1000

/-- No cursor has been created yet. -/
def freshSprite : SpriteState where
  channel := .bare
  memory := fun _ => 0
  cursorMem := none
  cursorColors := fun _ => (0, 0, 0)
  cursorW := 0
  cursorH := 0
  cursorHotX := 0
  cursorHotY := 0
  cursorNeedsRefresh := false

/-- Partly off the left edge. -/
theorem positions_agree_left :
    PositionsAgree (smallPointer (-9) 479) ⟨640, 480, 32⟩
      (afterSetSpriteImage accepting .created (smallPointer (-9) 479) freshSprite)
      (afterSetSpritePosition (smallPointer (-9) 479) freshSprite) := by
  have hshows : ShowsSprite .created (smallPointer (-9) 479) freshSprite :=
    ⟨rfl, by decide, by decide, by decide⟩
  refine (positions_agree_iff accepting rfl hshows freshSprite).mpr ⟨?_, ?_⟩
  · exact ⟨by decide, by decide, by decide, Or.inl (by decide)⟩
  · exact ⟨by decide, by decide, by decide, Or.inl (by decide)⟩

/-- A position of a larger mode: one path keeps it, the other puts the box just right of the
mode. -/
theorem positions_disagree :
    ShowsSprite .created (smallPointer 700 10) freshSprite ∧
    storedPosition (afterSetSpriteImage accepting .created (smallPointer 700 10) freshSprite) =
      some (700, 10) ∧
    storedPosition (afterSetSpritePosition (smallPointer 700 10) freshSprite) =
      some (640, 10) ∧
    ¬ (spriteBox (smallPointer 700 10) (640, 10) ∩ modeRectangle ⟨640, 480, 32⟩).Nonempty ∧
    ¬ PositionsAgree (smallPointer 700 10) ⟨640, 480, 32⟩
      (afterSetSpriteImage accepting .created (smallPointer 700 10) freshSprite)
      (afterSetSpritePosition (smallPointer 700 10) freshSprite) := by
  have himage : storedPosition
      (afterSetSpriteImage accepting .created (smallPointer 700 10) freshSprite) =
        some (700, 10) := rfl
  have hposition : storedPosition
      (afterSetSpritePosition (smallPointer 700 10) freshSprite) = some (640, 10) := rfl
  refine ⟨⟨rfl, by decide, by decide, by decide⟩, himage, hposition, ?_, ?_⟩
  · rw [box_meets_iff, span_meets_iff]
    exact fun h => absurd h.1 (by decide)
  · rintro ⟨hsame, -⟩
    rw [himage, hposition] at hsame
    exact absurd hsame (by decide)

end VirtIOGPU.Sprite
