import Mathlib.Data.List.GetD
import VirtIOGPU.Commands.Wrappers

/-!
# The commands on the wire

`Intended` is what a command is meant to say: a structure, the numbers of its fields, and how
many memory entries follow it.  `GpuCommand.intended` gives it for every wrapper and says when
the wrapper sends nothing.  `commands_encoded` compares it with the bytes that a little-endian
reader finds in the command buffer.

Two arguments do not reach the device as they are.  `debug_name` has 64 bytes, of which the
last one is zero, so a longer name is cut off, and a negative cursor position becomes 0.
`long_name_cut` is a name of 64 characters.

## Strategy

`Message.carries_of_stores` reduces a command to its stores: names without repetition, widths that
fit, and for each field the number that the last store has put there.  All three are closed terms
for a fixed structure, and `simp` or `decide` evaluate them.

```text
a wrapper with                       is encoded by
one command and no data              control_sends
up to three attempts                 Sends.retry
a list of memory entries             entries_send
a name                               read_ctxCreateStores
a command stream behind the header   chipSubmit3D_accepted
```

The wrappers are put together with `Sends.bind`, so an entry of the table is a lemma about one
exchange with the device, and no wrapper is unfolded twice.
-/

namespace VirtIOGPU.Wrappers

open Lib.ByteOrder Lib.Memory Lib.Layout

/-! ## What the commands are meant to say -/

structure Intended where
  queue : GpuQueue
  struct : Struct Field
  /-- The memory entries behind the structure. -/
  entries : ℕ
  fields : Field → ℕ
  /-- What the device reads besides the command. -/
  data : List (List UInt8)

def Intended.layout (e : Intended) : Struct Field := e.struct ++ memEntryArray e.entries

/-- The message is the command: the bytes are the fields, one after the other, and no others. -/
def Message.Carries (message : Message) (e : Intended) : Prop :=
  message.queue = e.queue ∧ ∃ command, message.parts = command :: e.data ∧
    command.length = size e.struct + 16 * e.entries ∧
    decode e.layout command = e.layout.map fun entry => (entry.1, e.fields entry.1)

/-- The program hands the device the commands of `intended`, each at least once, and nothing
else. -/
def Sends {α : Type} (c : Channel) (program : GpuM α) (intended : List Intended) : Prop :=
  ∃ sent, (program c).2.handed = sent ++ c.handed ∧
    (∀ message ∈ sent, ∃ e ∈ intended, message.Carries e) ∧
    ∀ e ∈ intended, ∃ message ∈ sent, message.Carries e

/-- A command without data on the control queue. -/
def control (struct : Struct Field) (fields : Field → ℕ) : Intended :=
  ⟨.control, struct, 0, fields, []⟩

def entryFields (dma : DmaList) : Field → ℕ
  | .entryAddr i => (dma.entries.map fun entry => entry.physicalAddress.toNat).getD i 0
  | .entryLength i => (dma.entries.map fun entry => entry.blockLength.toNat).getD i 0
  | _ => 0

def transferFields (id x y width height : UInt32) (offset : UInt64) : Field → ℕ
  | .type => 0x0105
  | .rX => x.toNat
  | .rY => y.toNat
  | .rWidth => width.toNat
  | .rHeight => height.toNat
  | .offset => offset.toNat
  | .resourceId => id.toNat
  | _ => 0

def cursorFields (type x y id hotX hotY : ℕ) : Field → ℕ
  | .type => type
  | .posX => x
  | .posY => y
  | .resourceId => id
  | .hotX => hotX
  | .hotY => hotY
  | _ => 0

def ctxResourceFields (type : ℕ) (ctxId id : UInt32) : Field → ℕ
  | .type => type
  | .ctxId => ctxId.toNat
  | .resourceId => id.toNat
  | _ => 0

def transfer3DFields (type : ℕ) (args : Transfer3D) : Field → ℕ
  | .type => type
  | .ctxId => args.ctxId.toNat
  | .resourceId => args.resourceId.toNat
  | .level => args.level.toNat
  | .stride => args.stride.toNat
  | .layerStride => args.layerStride.toNat
  | .offset => args.offset.toNat
  | .boxX => args.box.x.toNat
  | .boxY => args.box.y.toNat
  | .boxZ => args.box.z.toNat
  | .boxW => args.box.w.toNat
  | .boxH => args.box.h.toNat
  | .boxD => args.box.d.toNat
  | _ => 0

/-- `CTX_CREATE` with this name. -/
def ctxCreateFields (ctxId : UInt32) (name : List UInt8) (contextInit : UInt32) : Field → ℕ
  | .type => 0x0200
  | .ctxId => ctxId.toNat
  | .nlen => name.length
  | .contextInit => contextInit.toNat
  | .debugName i => (name.getD i 0).toNat
  | _ => 0

/-- The characters of the name, or none. -/
def nameChars (debugName : Option CString) : List UInt8 :=
  (debugName.map CString.chars).getD []

/-- The transfer is left out for the frame buffer that the host reads itself. -/
def transferIntended (gs : ChannelFields) (id x y width height : UInt32) (offset : UInt64) :
    List Intended :=
  if gs.ctrlQueue ∧ ¬ (gs.fbIsBlob ∧ id = gs.fbResourceId) then
    [control transferToHost2D (transferFields id x y width height offset)]
  else []

/-- A cursor command, when there is a cursor and a way to send it. -/
def cursorIntended (gs : ChannelFields) (fields : Field → ℕ) : List Intended :=
  if gs.cursorCreated ∧ gs.cursorQueue ∧ gs.cursorCmdBuf then
    [⟨.cursor, updateCursor, 0, fields, []⟩]
  else []

def controlIntended (gs : ChannelFields) (e : Intended) : List Intended :=
  if gs.ctrlQueue then [e] else []

/-- What the wrappers are meant to send.  A name is cut off after 63 characters, and a negative
cursor position is 0. -/
def GpuCommand.intended (gs : ChannelFields) : GpuCommand → List Intended
  | .getDisplayInfo => controlIntended gs <| control ctrlHdr fun
      | .type => 0x0100
      | _ => 0
  | .resourceCreate2D id format width height =>
      controlIntended gs <| control Wrappers.resourceCreate2D fun
        | .type => 0x0101
        | .resourceId => id.toNat
        | .format => format.toNat
        | .width => width.toNat
        | .height => height.toNat
        | _ => 0
  | .resourceUnref id => controlIntended gs <| control Wrappers.resourceUnref fun
      | .type => 0x0102
      | .resourceId => id.toNat
      | _ => 0
  | .resourceAttachBacking id dma =>
      controlIntended gs
        ⟨.control, Wrappers.resourceAttachBacking, dma.entries.length, fun
          | .type => 0x0106
          | .resourceId => id.toNat
          | .nrEntries => dma.entries.length
          | f => entryFields dma f, []⟩
  | .setScanout args => controlIntended gs <| control Wrappers.setScanout fun
      | .type => 0x0103
      | .rX => args.x.toNat
      | .rY => args.y.toNat
      | .rWidth => args.width.toNat
      | .rHeight => args.height.toNat
      | .scanoutId => args.scanoutId.toNat
      | .resourceId => args.resourceId.toNat
      | _ => 0
  | .transferToHost2D id x y width height offset =>
      transferIntended gs id x y width height offset
  | .getEdid scanout => controlIntended gs <| control Wrappers.getEdid fun
      | .type => 0x010A
      | .scanout => scanout.toNat
      | _ => 0
  | .resourceFlush id x y width height =>
      controlIntended gs <| control Wrappers.resourceFlush fun
        | .type => 0x0104
        | .rX => x.toNat
        | .rY => y.toNat
        | .rWidth => width.toNat
        | .rHeight => height.toNat
        | .resourceId => id.toNat
        | _ => 0
  | .cursorUpdate hotX hotY =>
      (if gs.cursorCreated then transferIntended gs gs.cursorResourceId 0 0 64 64 0 else []) ++
        cursorIntended gs (cursorFields 0x0300 gs.cursorX.toInt.toNat gs.cursorY.toInt.toNat
          gs.cursorResourceId.toNat hotX.toNat hotY.toNat)
  | .cursorMove x y =>
      cursorIntended gs (cursorFields 0x0301 x.toInt.toNat y.toInt.toNat
        gs.cursorResourceId.toNat 0 0)
  | .cursorHide => cursorIntended gs (cursorFields 0x0300 0 0 0 0 0)
  | .getCapsetInfo index => controlIntended gs <| control Wrappers.getCapsetInfo fun
      | .type => 0x0108
      | .capsetIndex => index.toNat
      | _ => 0
  | .getCapset capsetId capsetVersion _ =>
      controlIntended gs <| control Wrappers.getCapset fun
        | .type => 0x0109
        | .capsetId => capsetId.toNat
        | .capsetVersion => capsetVersion.toNat
        | _ => 0
  | .ctxCreate ctxId debugName contextInit =>
      controlIntended gs <| control Wrappers.ctxCreate
        (ctxCreateFields ctxId ((nameChars debugName).take 63) contextInit)
  | .ctxDestroy ctxId => controlIntended gs <| control ctrlHdr fun
      | .type => 0x0201
      | .ctxId => ctxId.toNat
      | _ => 0
  | .ctxAttachResource ctxId id =>
      controlIntended gs <| control ctxResource (ctxResourceFields 0x0202 ctxId id)
  | .ctxDetachResource ctxId id =>
      controlIntended gs <| control ctxResource (ctxResourceFields 0x0203 ctxId id)
  | .resourceCreate3D args => controlIntended gs <| control Wrappers.resourceCreate3D fun
      | .type => 0x0204
      | .resourceId => args.resourceId.toNat
      | .target => args.target.toNat
      | .format => args.format.toNat
      | .bind => args.bind.toNat
      | .width => args.width.toNat
      | .height => args.height.toNat
      | .depth => args.depth.toNat
      | .arraySize => args.arraySize.toNat
      | .lastLevel => args.lastLevel.toNat
      | .nrSamples => args.nrSamples.toNat
      | .resourceFlags => args.flags.toNat
      | _ => 0
  | .transferToHost3D args =>
      controlIntended gs <| control transferHost3D (transfer3DFields 0x0205 args)
  | .transferFromHost3D args =>
      controlIntended gs <| control transferHost3D (transfer3DFields 0x0206 args)
  | .submit3D ctxId cmdData cmdSize =>
      if gs.ctrlQueue ∧ gs.cmd3dBuf ∧ cmdSize ≠ 0 ∧ cmdSize ≤ 64 * 1024 then
        [⟨.control, cmdSubmit, 0, fun
          | .type => 0x0207
          | .ctxId => ctxId.toNat
          | .size => cmdSize.toNat
          | _ => 0, [(List.range cmdSize.toNat).map cmdData]⟩]
      else []
  | .resourceCreateBlob args dma =>
      if gs.ctrlQueue ∧ gs.hasBlob then
        [⟨.control, Wrappers.resourceCreateBlob, dma.entries.length, fun
          | .type => 0x010D
          | .resourceId => args.resourceId.toNat
          | .blobMem => args.blobMem.toNat
          | .blobFlags => args.blobFlags.toNat
          | .nrEntries => dma.entries.length
          | .blobId => args.blobId.toNat
          | .size => args.size.toNat
          | f => entryFields dma f, []⟩]
      else []

/-- The memory entries fit into the buffer of 4096 bytes. -/
def GpuCommand.Fits : GpuCommand → Prop
  | .resourceAttachBacking _ dma =>
      size Wrappers.resourceAttachBacking + 16 * dma.entries.length ≤ 4096
  | .resourceCreateBlob _ dma =>
      size Wrappers.resourceCreateBlob + 16 * dma.entries.length ≤ 4096
  | _ => True

/-! ## Stores and fields -/

/-- What a little-endian reader makes of a store to a field of its width. -/
def Store.read (s : Store) : Field × ℕ := (s.field, swap s.width s.native)

theorem read_set32 (f : Field) (v : UInt32) : (set32 f v).read = (f, v.toNat) := by
  have hlt : swap 4 v.toNat < 2 ^ 32 := swap_lt 4 _
  have hv : v.toNat < 256 ^ 4 := v.toNat_lt
  rw [Store.read, set32, gp32, bswap32, UInt32.toNat_ofNat', Nat.mod_eq_of_lt hlt, swap_swap,
    Nat.mod_eq_of_lt hv]

theorem read_set64 (f : Field) (v : UInt64) : (set64 f v).read = (f, v.toNat) := by
  have hlt : swap 8 v.toNat < 2 ^ 64 := swap_lt 8 _
  have hv : v.toNat < 256 ^ 8 := v.toNat_lt
  rw [Store.read, set64, gp64, bswap64, UInt64.toNat_ofNat', Nat.mod_eq_of_lt hlt, swap_swap,
    Nat.mod_eq_of_lt hv]

theorem read_setByte (f : Field) (b : UInt8) : (setByte f b).read = (f, b.toNat) := by
  have hb : b.toNat % 256 = b.toNat := Nat.mod_eq_of_lt b.toNat_lt
  simp [Store.read, setByte, swap, toBE, toLE, ofLE, hb]

theorem size_append (l l' : Struct Field) : size (l ++ l') = size l + size l' := by
  simp [size]

theorem size_memEntryArray (count : ℕ) : size (memEntryArray count) = 16 * count := by
  induction count with
  | zero => rfl
  | succ count ih =>
      have hsucc : memEntryArray (count + 1) = memEntryArray count ++
          [(.entryAddr count, 8), (.entryLength count, 4), (.entryPadding count, 4)] := by
        simp [memEntryArray, List.range_succ]
      rw [hsucc, size_append, ih]
      rfl

/-- The command buffer after it has been zeroed and filled in is the command. -/
theorem Message.carries_of_stores {message : Message} {e : Intended}
    (hnames : (e.layout.map Prod.fst).Nodup) {stores : List Store}
    (hwidths : ∀ s ∈ stores, width e.layout s.field = s.width)
    (hfields : ∀ f, assigned (stores.map Store.read) (fun _ => 0) f = e.fields f) {n : ℕ}
    (hn : n = size e.struct + 16 * e.entries) {m : Mem UInt8} (hqueue : message.queue = e.queue)
    (hparts : message.parts = bytes (fillIn e.layout stores (chipZero n m)) 0 n :: e.data) :
    message.Carries e := by
  have hsize : size e.layout = n := by
    rw [hn, Intended.layout, size_append, size_memEntryArray]
  refine ⟨hqueue, _, hparts, ?_, ?_⟩
  · rw [length_bytes, hn]
  · have hreads : (stores.map fun s => (s.field, s.native)).map
        (fun store => (store.1, swap (width e.layout store.1) store.2)) =
          stores.map Store.read := by
      rw [List.map_map]
      apply List.map_congr_left
      intro s hs
      simp only [Function.comp_apply, hwidths s hs, Store.read]
    have hdecode := decode_fill hnames (Nat.le_of_eq hsize)
      (stores.map fun s => (s.field, s.native)) m
    rw [hreads, ← chipZero_eq, hsize] at hdecode
    rw [fillIn, hdecode]
    apply List.map_congr_left
    intro entry _
    rw [hfields]

/-! ## What a program sends -/

section Sending

variable {device : GpuDevice} {c : Channel} {α β : Type}

theorem Sends.nothing {program : GpuM α} (h : (program c).2.handed = c.handed) :
    Sends c program [] := by
  refine ⟨[], h, ?_, ?_⟩
  · exact fun message hmessage => absurd hmessage (List.not_mem_nil)
  · exact fun e he => absurd he (List.not_mem_nil)

theorem Sends.single {program : GpuM α} {message : Message} {e : Intended}
    (h : (program c).2.handed = message :: c.handed) (hcarries : message.Carries e) :
    Sends c program [e] := by
  refine ⟨[message], h, ?_, ?_⟩
  · intro other hother
    rw [List.mem_singleton.mp hother]
    exact ⟨e, List.mem_singleton_self e, hcarries⟩
  · intro other hother
    rw [List.mem_singleton.mp hother]
    exact ⟨message, List.mem_singleton_self _, hcarries⟩

/-- One program after the other. -/
theorem Sends.bind {program : GpuM α} {k : α → GpuM β} {first second : List Intended}
    (h : Sends c program first) (hk : Sends (program c).2 (k (program c).1) second) :
    Sends c (program >>= k) (first ++ second) := by
  obtain ⟨sent, hsent, hall, hsome⟩ := h
  obtain ⟨sent', hsent', hall', hsome'⟩ := hk
  refine ⟨sent' ++ sent, ?_, ?_, ?_⟩
  · rw [List.append_assoc, ← hsent, ← hsent']
    rfl
  · intro message hmessage
    rcases List.mem_append.mp hmessage with h | h
    · obtain ⟨e, he, hcarries⟩ := hall' message h
      exact ⟨e, List.mem_append_right _ he, hcarries⟩
    · obtain ⟨e, he, hcarries⟩ := hall message h
      exact ⟨e, List.mem_append_left _ he, hcarries⟩
  · intro e he
    rcases List.mem_append.mp he with h | h
    · obtain ⟨message, hmessage, hcarries⟩ := hsome e h
      exact ⟨message, List.mem_append_right _ hmessage, hcarries⟩
    · obtain ⟨message, hmessage, hcarries⟩ := hsome' e h
      exact ⟨message, List.mem_append_left _ hmessage, hcarries⟩

theorem Sends.map {program : GpuM α} {intended : List Intended} (f : α → β)
    (h : Sends c program intended) : Sends c (f <$> program) intended := h

/-- What follows hands nothing to the device. -/
theorem Sends.finish {program : GpuM α} {k : α → GpuM β} {intended : List Intended}
    (h : Sends c program intended) (hk : ∀ a d, (k a d).2.handed = d.handed) :
    Sends c (program >>= k) intended := by
  have hboth := h.bind (k := k) (.nothing (hk _ _))
  rwa [List.append_nil] at hboth

theorem responseType_state (written : UInt32) (d : Channel) : (responseType written d).2 = d := by
  rw [responseType]
  split <;> rfl

/-- What `chip_do_io` hands to the device. -/
theorem chipDoIo_handed (parts : Channel → List (List UInt8)) (respSize : ℕ) (d : Channel) :
    (chipDoIo device parts respSize d).2.gs = d.gs ∧
      (chipDoIo device parts respSize d).2.handed =
        if d.gs.ctrlQueue then ⟨.control, parts d, respSize⟩ :: d.handed else d.handed := by
  have hrun : chipDoIo device parts respSize d = if d.gs.ctrlQueue then _ else (0, d) := rfl
  rw [hrun]
  split
  · exact ⟨rfl, rfl⟩
  · exact ⟨rfl, rfl⟩

/-- Prepare the buffers and send; the reply that is asked for may be shorter than what is zeroed. -/
def exchange (device : GpuDevice) (l : Struct Field) (stores : List Store)
    (cmdSize respSize writable : ℕ) : GpuM UInt32 := do
  prepare l stores cmdSize respSize
  chipGpuSend device cmdSize writable

/-- The state after an exchange, apart from the reply. -/
theorem exchange_handed (device : GpuDevice) (c : Channel) (l : Struct Field)
    (stores : List Store) (cmdSize respSize writable : ℕ) :
    (exchange device l stores cmdSize respSize writable c).2.gs = c.gs ∧
      (exchange device l stores cmdSize respSize writable c).2.handed =
        if c.gs.ctrlQueue then
          ⟨.control, [bytes (fillIn l stores (chipZero cmdSize c.cmdBuf)) 0 cmdSize], writable⟩ ::
            c.handed
        else c.handed := by
  let prepared := (prepare l stores cmdSize respSize c).2
  have hrun : exchange device l stores cmdSize respSize writable c =
      responseType (chipDoIo device (fun c => [bytes c.cmdBuf 0 cmdSize]) writable prepared).1
        (chipDoIo device (fun c => [bytes c.cmdBuf 0 cmdSize]) writable prepared).2 := rfl
  rw [hrun, responseType_state]
  exact chipDoIo_handed _ writable prepared

/-- An exchange sends its command, if there is a queue. -/
theorem exchange_sends {e : Intended} {stores : List Store} {cmdSize : ℕ}
    (respSize writable : ℕ) (hnames : (e.layout.map Prod.fst).Nodup)
    (hwidths : ∀ s ∈ stores, width e.layout s.field = s.width)
    (hfields : ∀ f, assigned (stores.map Store.read) (fun _ => 0) f = e.fields f)
    (hsize : cmdSize = size e.struct + 16 * e.entries) (hqueue : e.queue = .control)
    (hdata : e.data = []) :
    Sends c (exchange device e.layout stores cmdSize respSize writable)
      (controlIntended c.gs e) := by
  obtain ⟨-, hhanded⟩ := exchange_handed device c e.layout stores cmdSize respSize writable
  rw [controlIntended]
  by_cases hctrl : c.gs.ctrlQueue = true
  · rw [if_pos hctrl] at hhanded ⊢
    let message : Message := ⟨.control,
      [bytes (fillIn e.layout stores (chipZero cmdSize c.cmdBuf)) 0 cmdSize], writable⟩
    have hcarries : message.Carries e :=
      Message.carries_of_stores hnames hwidths hfields hsize hqueue.symm (by rw [hdata])
    exact .single hhanded hcarries
  · rw [if_neg hctrl] at hhanded ⊢
    exact .nothing hhanded

/-- A structure without memory entries. -/
theorem control_sends {struct : Struct Field} {fields : Field → ℕ} {stores : List Store}
    (respSize writable : ℕ) (hnames : (struct.map Prod.fst).Nodup)
    (hwidths : ∀ s ∈ stores, width struct s.field = s.width)
    (hfields : ∀ f, assigned (stores.map Store.read) (fun _ => 0) f = fields f) :
    Sends c (exchange device struct stores (size struct) respSize writable)
      (controlIntended c.gs (control struct fields)) := by
  have hlayout : (control struct fields).layout = struct := List.append_nil struct
  have hsends : Sends c
      (exchange device (control struct fields).layout stores (size struct) respSize writable)
      (controlIntended c.gs (control struct fields)) := by
    apply exchange_sends respSize writable _ _ hfields rfl rfl rfl
    · rwa [hlayout]
    · rwa [hlayout]
  rwa [hlayout] at hsends

/-- The stores are checked against the structure field by field. -/
theorem widths_of_all {struct : Struct Field} {stores : List Store}
    (h : (stores.all fun s => width struct s.field == s.width) = true) :
    ∀ s ∈ stores, width struct s.field = s.width := by
  intro s hs
  have hwidth := List.all_eq_true.mp h s hs
  exact beq_iff_eq.mp hwidth

theorem requestNodata_sends {struct : Struct Field} {fields : Field → ℕ} {stores : List Store}
    (hnames : (struct.map Prod.fst).Nodup)
    (hwidths : (stores.all fun s => width struct s.field == s.width) = true)
    (hfields : ∀ f, assigned (stores.map Store.read) (fun _ => 0) f = fields f) :
    Sends c (requestNodata device struct stores (size struct))
      (controlIntended c.gs (control struct fields)) :=
  (control_sends _ _ hnames (widths_of_all hwidths) hfields).finish fun _ _ => rfl

theorem requestNodata_gs (device : GpuDevice) (c : Channel) (l : Struct Field)
    (stores : List Store) (cmdSize : ℕ) :
    (requestNodata device l stores cmdSize c).2.gs = c.gs :=
  (exchange_handed device c l stores cmdSize (size ctrlHdr) (size ctrlHdr)).1

theorem Sends.of_get {k : Channel → GpuM β} {intended : List Intended}
    (h : Sends c (k c) intended) : Sends c (get >>= k) intended := h

/-- A list of commands says which are sent, not how often. -/
theorem Sends.of_mem_iff {program : GpuM α} {first second : List Intended}
    (h : Sends c program first) (hmem : ∀ e, e ∈ first ↔ e ∈ second) : Sends c program second := by
  obtain ⟨sent, hsent, hall, hsome⟩ := h
  refine ⟨sent, hsent, ?_, ?_⟩
  · intro message hmessage
    obtain ⟨e, he, hcarries⟩ := hall message hmessage
    exact ⟨e, (hmem e).mp he, hcarries⟩
  · intro e he
    exact hsome e ((hmem e).mpr he)

/-- A program that is repeated after a failure. -/
theorem Sends.retry {attempt rest : GpuM Bool} {intended : List Intended}
    (h : Sends c attempt intended) (hrest : Sends (attempt c).2 rest intended) :
    Sends c (attempt >>= fun ok => if ok then return true else rest) intended := by
  cases hok : (attempt c).1 with
  | true =>
      have hdone : Sends (attempt c).2 (if (attempt c).1 then return true else rest) [] := by
        rw [hok]
        exact .nothing rfl
      have hboth := h.bind (k := fun ok => if ok then return true else rest) hdone
      rwa [List.append_nil] at hboth
  | false =>
      have hagain : Sends (attempt c).2 (if (attempt c).1 then return true else rest) intended := by
        rw [hok]
        exact hrest
      have hboth := h.bind (k := fun ok => if ok then return true else rest) hagain
      exact hboth.of_mem_iff fun e => by simp

end Sending

/-! ## The wrappers -/

section Commands

variable {device : GpuDevice} {c : Channel}

/-- A program whose rest looks at the reply and hands nothing to the device. -/
theorem reply_sends {α : Type} {struct : Struct Field} {fields : Field → ℕ}
    {stores : List Store} {respSize : ℕ} {expected : UInt32} {failed : α} (f : Mem UInt8 → α)
    (hnames : (struct.map Prod.fst).Nodup)
    (hwidths : (stores.all fun s => width struct s.field == s.width) = true)
    (hfields : ∀ f, assigned (stores.map Store.read) (fun _ => 0) f = fields f) :
    Sends c
      (do
        let rt ← request device struct stores (size struct) respSize
        if rt ≠ expected then
          return failed
        else
          let c ← get
          return f c.respBuf)
      (controlIntended c.gs (control struct fields)) := by
  apply (control_sends respSize respSize hnames (widths_of_all hwidths) hfields).finish
  intro rt d
  split <;> rfl

theorem chipGetDisplayInfo_sends :
    Sends c (chipGetDisplayInfo device) (GpuCommand.getDisplayInfo.intended c.gs) := by
  apply reply_sends enabledScanout (by decide) rfl
  intro f
  simp only [List.map_cons, List.map_nil, read_set32]
  cases f <;> rfl

theorem chipResourceCreate2D_sends (id format width height : UInt32) :
    Sends c (chipResourceCreate2D device id format width height)
      ((GpuCommand.resourceCreate2D id format width height).intended c.gs) := by
  apply requestNodata_sends (by decide) rfl
  intro f
  simp only [List.map_cons, List.map_nil, read_set32]
  cases f <;> rfl

theorem chipResourceUnref_sends (id : UInt32) :
    Sends c (chipResourceUnref device id) ((GpuCommand.resourceUnref id).intended c.gs) := by
  apply requestNodata_sends (by decide) rfl
  intro f
  simp only [List.map_cons, List.map_nil, read_set32]
  cases f <;> rfl

/-- One attempt. -/
theorem scanoutAttempt_sends (args : ScanoutArgs) (d : Channel) :
    Sends d (requestNodata device setScanout
      [set32 .type 0x0103, set32 .rX args.x, set32 .rY args.y, set32 .rWidth args.width,
        set32 .rHeight args.height, set32 .scanoutId args.scanoutId,
        set32 .resourceId args.resourceId]
      (size setScanout)) ((GpuCommand.setScanout args).intended d.gs) := by
  apply requestNodata_sends (by decide) rfl
  intro f
  simp only [List.map_cons, List.map_nil, read_set32]
  cases f <;> rfl

/-- The attempts that are left send the same command. -/
theorem setScanoutAttempts_sends (args : ScanoutArgs) (attempts : ℕ) (d : Channel) :
    Sends d (setScanoutAttempts device args (attempts + 1))
      ((GpuCommand.setScanout args).intended d.gs) := by
  induction attempts generalizing d with
  | zero =>
      apply (scanoutAttempt_sends args d).finish
      intro ok d'
      cases ok <;> rfl
  | succ attempts ih =>
      apply (scanoutAttempt_sends args d).retry
      rw [← requestNodata_gs device d]
      exact ih _

theorem chipTransferToHost2D_sends (id x y width height : UInt32) (offset : UInt64) :
    Sends c (chipTransferToHost2D device id x y width height offset)
      (transferIntended c.gs id x y width height offset) := by
  have hsent : Sends c (requestNodata device transferToHost2D
      [set32 .type 0x0105, set32 .rX x, set32 .rY y, set32 .rWidth width, set32 .rHeight height,
        set64 .offset offset, set32 .resourceId id]
      (size transferToHost2D))
      (controlIntended c.gs (control transferToHost2D
        (transferFields id x y width height offset))) := by
    apply requestNodata_sends (by decide) rfl
    intro f
    simp only [List.map_cons, List.map_nil, read_set32, read_set64]
    cases f <;> rfl
  apply Sends.of_get
  rw [transferIntended]
  by_cases hblob : c.gs.fbIsBlob ∧ id = c.gs.fbResourceId
  · rw [if_pos hblob, if_neg fun h => h.2 hblob]
    exact .nothing rfl
  · rw [if_neg hblob]
    by_cases hctrl : c.gs.ctrlQueue = true
    · rw [if_pos ⟨hctrl, hblob⟩]
      rwa [controlIntended, if_pos hctrl] at hsent
    · rw [if_neg fun h => hctrl h.1]
      rwa [controlIntended, if_neg hctrl] at hsent

theorem chipGetEdid_sends (scanout : UInt32) :
    Sends c (chipGetEdid device scanout) ((GpuCommand.getEdid scanout).intended c.gs) := by
  have hsent : Sends c (request device getEdid [set32 .type 0x010A, set32 .scanout scanout]
      (size getEdid) (size respEdid)) ((GpuCommand.getEdid scanout).intended c.gs) := by
    apply control_sends _ _ (by decide) (widths_of_all rfl)
    intro f
    simp only [List.map_cons, List.map_nil, read_set32]
    cases f <;> rfl
  exact hsent.finish fun _ _ => rfl

theorem chipResourceFlush_sends (id x y width height : UInt32) :
    Sends c (chipResourceFlush device id x y width height)
      ((GpuCommand.resourceFlush id x y width height).intended c.gs) := by
  apply requestNodata_sends (by decide) rfl
  intro f
  simp only [List.map_cons, List.map_nil, read_set32]
  cases f <;> rfl

theorem chipGetCapsetInfo_sends (index : UInt32) :
    Sends c (chipGetCapsetInfo device index) ((GpuCommand.getCapsetInfo index).intended c.gs) := by
  let info (m : Mem UInt8) : Option CapsetInfo := some (load32 respCapsetInfo m .capsetId,
    load32 respCapsetInfo m .capsetMaxVersion, load32 respCapsetInfo m .capsetMaxSize)
  apply reply_sends info (by decide) rfl
  intro f
  simp only [List.map_cons, List.map_nil, read_set32]
  cases f <;> rfl

theorem chipCtxDestroy_sends (ctxId : UInt32) :
    Sends c (chipCtxDestroy device ctxId) ((GpuCommand.ctxDestroy ctxId).intended c.gs) := by
  have hsent : Sends c (request device ctrlHdr [set32 .type 0x0201, set32 .ctxId ctxId]
      (size ctrlHdr) (size ctrlHdr)) ((GpuCommand.ctxDestroy ctxId).intended c.gs) := by
    apply control_sends _ _ (by decide) (widths_of_all rfl)
    intro f
    simp only [List.map_cons, List.map_nil, read_set32]
    cases f <;> rfl
  exact hsent.finish fun _ _ => rfl

theorem chipCtxAttachResource_sends (ctxId id : UInt32) :
    Sends c (chipCtxAttachResource device ctxId id)
      ((GpuCommand.ctxAttachResource ctxId id).intended c.gs) := by
  apply requestNodata_sends (by decide) rfl
  intro f
  simp only [List.map_cons, List.map_nil, read_set32]
  cases f <;> rfl

theorem chipCtxDetachResource_sends (ctxId id : UInt32) :
    Sends c (chipCtxDetachResource device ctxId id)
      ((GpuCommand.ctxDetachResource ctxId id).intended c.gs) := by
  apply requestNodata_sends (by decide) rfl
  intro f
  simp only [List.map_cons, List.map_nil, read_set32]
  cases f <;> rfl

theorem chipResourceCreate3D_sends (args : Resource3D) :
    Sends c (chipResourceCreate3D device args)
      ((GpuCommand.resourceCreate3D args).intended c.gs) := by
  apply requestNodata_sends (by decide) rfl
  intro f
  simp only [List.map_cons, List.map_nil, read_set32]
  cases f <;> rfl

/-- Both directions. -/
theorem transfer3D_sends (type : UInt32) (args : Transfer3D) :
    Sends c (transfer3D device type args)
      (controlIntended c.gs (control transferHost3D (transfer3DFields type.toNat args))) := by
  apply requestNodata_sends (by decide) rfl
  intro f
  simp only [List.map_cons, List.map_nil, read_set32, read_set64]
  cases f <;> rfl

/-- The reply buffer is zeroed for the largest capset, whatever is asked for. -/
theorem chipGetCapset_sends (capsetId capsetVersion bufSize : UInt32) :
    Sends c (chipGetCapset device capsetId capsetVersion bufSize)
      ((GpuCommand.getCapset capsetId capsetVersion bufSize).intended c.gs) := by
  have hsent : Sends c (exchange device getCapset
      [set32 .type 0x0109, set32 .capsetId capsetId, set32 .capsetVersion capsetVersion]
      (size getCapset) (size respCapset) (respExpect bufSize).toNat)
      ((GpuCommand.getCapset capsetId capsetVersion bufSize).intended c.gs) := by
    apply control_sends _ _ (by decide) (widths_of_all rfl)
    intro f
    simp only [List.map_cons, List.map_nil, read_set32]
    cases f <;> rfl
  rw [chipGetCapset, ← bind_assoc]
  apply hsent.finish
  intro rt d
  split <;> rfl

/-! ## The cursor -/

/-- A negative position is clamped, any other one is kept. -/
theorem clampPos_toNat (v : Int16) : (clampPos v).toNat = v.toInt.toNat := by
  rw [clampPos]
  split
  · rename_i hneg
    rw [Int16.lt_iff_toInt_lt] at hneg
    have hzero : (0 : Int16).toInt = 0 := rfl
    rw [UInt32.toNat_zero]
    omega
  · rename_i hpos
    have hle : 0 ≤ v.toInt32 := by
      rw [Int32.le_iff_toInt_le, Int16.toInt_toInt32]
      rw [Int16.lt_iff_toInt_lt] at hpos
      exact Int.not_lt.mp hpos
    rw [Int32.toNat_toUInt32_of_le hle, Int16.toNatClampNeg_toInt32]
    rfl

/-- `chip_cursor_send` with its arguments as the reader sees them. -/
theorem chipCursorSend_sends (type id x y hotX hotY : UInt32) :
    Sends c (chipCursorSend type id x y hotX hotY)
      (if c.gs.cursorQueue ∧ c.gs.cursorCmdBuf then
        [⟨.cursor, updateCursor, 0,
          cursorFields type.toNat x.toNat y.toNat id.toNat hotX.toNat hotY.toNat, []⟩]
      else []) := by
  let e : Intended := ⟨.cursor, updateCursor, 0,
    cursorFields type.toNat x.toNat y.toNat id.toNat hotX.toNat hotY.toNat, []⟩
  let stores : List Store := [set32 .type type, set32 .posScanoutId 0, set32 .posX x,
    set32 .posY y, set32 .resourceId id, set32 .hotX hotX, set32 .hotY hotY]
  let message : Message := ⟨.cursor, [bytes (fillIn updateCursor stores
    (chipZero (size updateCursor) c.cursorCmdBuf)) 0 (size updateCursor)], 0⟩
  have hcarries : message.Carries e := by
    have hnames : (e.layout.map Prod.fst).Nodup := by
      have hlayout : e.layout = updateCursor := rfl
      rw [hlayout]
      decide
    apply Message.carries_of_stores hnames (widths_of_all rfl) _ rfl rfl rfl
    intro f
    simp only [stores, List.map_cons, List.map_nil, read_set32]
    cases f <;> rfl
  have hrun : (chipCursorSend type id x y hotX hotY c).2 =
      if c.gs.cursorQueue ∧ c.gs.cursorCmdBuf then
        { c with
          cursorCmdBuf := fillIn updateCursor stores (chipZero (size updateCursor) c.cursorCmdBuf)
          handed := message :: c.handed }
      else c := rfl
  by_cases hqueue : c.gs.cursorQueue ∧ c.gs.cursorCmdBuf
  · rw [if_pos hqueue] at hrun ⊢
    exact .single (by rw [hrun]) hcarries
  · rw [if_neg hqueue] at hrun ⊢
    exact .nothing (by rw [hrun])

theorem chipTransferToHost2D_gs (id x y width height : UInt32) (offset : UInt64) :
    (chipTransferToHost2D device id x y width height offset c).2.gs = c.gs := by
  have hrun : chipTransferToHost2D device id x y width height offset c =
      (if c.gs.fbIsBlob ∧ id = c.gs.fbResourceId then return true
        else requestNodata device transferToHost2D _ (size transferToHost2D)) c := rfl
  rw [hrun]
  split
  · rfl
  · exact requestNodata_gs ..

theorem chipCursorUpdate_sends (hotX hotY : UInt32) :
    Sends c (chipCursorUpdate device hotX hotY)
      ((GpuCommand.cursorUpdate hotX hotY).intended c.gs) := by
  apply Sends.of_get
  rw [GpuCommand.intended, cursorIntended]
  by_cases hcreated : c.gs.cursorCreated = true
  · let transferred := (chipTransferToHost2D device c.gs.cursorResourceId 0 0 64 64 0 c).2
    have htransfer : Sends c (chipTransferToHost2D device c.gs.cursorResourceId 0 0 64 64 0) _ :=
      chipTransferToHost2D_sends _ _ _ _ _ _
    have hsend : Sends transferred (chipCursorSend 0x0300 c.gs.cursorResourceId
        (clampPos c.gs.cursorX) (clampPos c.gs.cursorY) hotX hotY) _ :=
      chipCursorSend_sends _ _ _ _ _ _
    rw [clampPos_toNat, clampPos_toNat, chipTransferToHost2D_gs] at hsend
    rw [if_pos hcreated, if_pos hcreated]
    simp only [hcreated, true_and]
    apply htransfer.bind
    exact hsend.finish fun _ _ => rfl
  · rw [if_neg hcreated, if_neg hcreated, if_neg fun h => hcreated h.1]
    exact .nothing rfl

theorem chipCursorMove_sends (x y : Int16) :
    Sends c (chipCursorMove x y) ((GpuCommand.cursorMove x y).intended c.gs) := by
  apply Sends.of_get
  rw [GpuCommand.intended, cursorIntended]
  by_cases hcreated : c.gs.cursorCreated = true
  · let moved : Channel := { c with gs := { c.gs with cursorX := x, cursorY := y } }
    have hsend : Sends moved (chipCursorSend 0x0301 c.gs.cursorResourceId (clampPos x)
        (clampPos y) 0 0) _ := chipCursorSend_sends _ _ _ _ _ _
    rw [clampPos_toNat, clampPos_toNat] at hsend
    rw [if_pos hcreated]
    simp only [hcreated, true_and]
    exact hsend
  · rw [if_neg hcreated, if_neg fun h => hcreated h.1]
    exact .nothing rfl

theorem chipCursorHide_sends :
    Sends c (chipCursorHide) (GpuCommand.cursorHide.intended c.gs) := by
  apply Sends.of_get
  rw [GpuCommand.intended, cursorIntended]
  by_cases hcreated : c.gs.cursorCreated = true
  · rw [if_pos hcreated]
    simp only [hcreated, true_and]
    exact chipCursorSend_sends 0x0300 0 0 0 0 0
  · rw [if_neg hcreated, if_neg fun h => hcreated h.1]
    exact .nothing rfl

/-! ## Memory entries -/

/-- The names of the fields of `count` memory entries. -/
def entryNames (count : ℕ) : List Field :=
  (List.range count).flatMap fun i => [.entryAddr i, .entryLength i, .entryPadding i]

def Field.isEntry : Field → Bool
  | .entryAddr _ | .entryLength _ | .entryPadding _ => true
  | _ => false

theorem entryNames_nodup (count : ℕ) : (entryNames count).Nodup := by
  rw [entryNames, List.nodup_flatMap]
  constructor
  · intro i _
    simp
  · refine List.nodup_range.imp fun {i j} hne => ?_
    simp [Function.onFun, List.disjoint_left, hne]

theorem isEntry_of_mem {count : ℕ} {f : Field} (h : f ∈ entryNames count) : f.isEntry = true := by
  simp only [entryNames, List.mem_flatMap, List.mem_range, List.mem_cons, List.not_mem_nil,
    or_false] at h
  obtain ⟨i, -, rfl | rfl | rfl⟩ := h <;> rfl

theorem names_memEntryArray (count : ℕ) :
    (memEntryArray count).map Prod.fst = entryNames count := by
  simp [memEntryArray, entryNames, List.map_flatMap]

theorem names_entryStores (dma : DmaList) (count : UInt32) :
    ((entryStores dma count).map Store.read).map Prod.fst = entryNames count.toNat := by
  simp [entryStores, entryNames, List.map_flatMap, Store.read, set32, set64]

/-- The structure with its memory entries has no field twice. -/
theorem layout_nodup {struct : Struct Field} (hnames : (struct.map Prod.fst).Nodup)
    (hentries : ∀ f ∈ struct.map Prod.fst, f.isEntry = false) (count : ℕ) :
    ((struct ++ memEntryArray count).map Prod.fst).Nodup := by
  rw [List.map_append, names_memEntryArray, List.nodup_append']
  refine ⟨hnames, entryNames_nodup count, ?_⟩
  rw [List.disjoint_left]
  intro f hf hentry
  have hfalse := hentries f hf
  rw [isEntry_of_mem hentry] at hfalse
  cases hfalse

theorem width_append_of_mem {l l' : Struct Field} {f : Field} (h : f ∈ l.map Prod.fst) :
    width (l ++ l') f = width l f := by
  induction l with
  | nil => cases h
  | cons entry rest ih =>
      obtain ⟨g, w⟩ := entry
      rw [List.cons_append, width, width]
      by_cases hg : g = f
      · rw [if_pos hg, if_pos hg]
      · rw [if_neg hg, if_neg hg]
        rcases List.mem_cons.mp h with heq | hmem
        · exact absurd heq.symm hg
        · exact ih hmem

theorem width_append_of_not_mem {l l' : Struct Field} {f : Field} (h : f ∉ l.map Prod.fst) :
    width (l ++ l') f = width l' f := by
  induction l with
  | nil => rfl
  | cons entry rest ih =>
      obtain ⟨g, w⟩ := entry
      rw [List.map_cons, List.mem_cons, not_or] at h
      rw [List.cons_append, width, if_neg fun hg => h.1 hg.symm]
      exact ih h.2

/-- The entries have the width of what is stored in them. -/
theorem width_memEntryArray {count i : ℕ} (hi : i < count) :
    width (memEntryArray count) (.entryAddr i) = 8 ∧
      width (memEntryArray count) (.entryLength i) = 4 ∧
      width (memEntryArray count) (.entryPadding i) = 4 := by
  induction count with
  | zero => exact absurd hi (Nat.not_lt_zero i)
  | succ count ih =>
      have hsucc : memEntryArray (count + 1) = memEntryArray count ++
          [(.entryAddr count, 8), (.entryLength count, 4), (.entryPadding count, 4)] := by
        simp [memEntryArray, List.range_succ]
      rw [hsucc]
      rcases Nat.lt_succ_iff_lt_or_eq.mp hi with hlt | rfl
      · obtain ⟨haddr, hlength, hpadding⟩ := ih hlt
        have hmem (f : Field) (hf : f ∈ [Field.entryAddr i, .entryLength i, .entryPadding i]) :
            f ∈ (memEntryArray count).map Prod.fst := by
          rw [names_memEntryArray, entryNames, List.mem_flatMap]
          exact ⟨i, List.mem_range.mpr hlt, hf⟩
        rw [width_append_of_mem (hmem _ (by simp)), width_append_of_mem (hmem _ (by simp)),
          width_append_of_mem (hmem _ (by simp))]
        exact ⟨haddr, hlength, hpadding⟩
      · have hnot (f : Field) (hf : f ∈ [Field.entryAddr i, .entryLength i, .entryPadding i]) :
            f ∉ (memEntryArray i).map Prod.fst := by
          rw [names_memEntryArray, entryNames, List.mem_flatMap]
          rintro ⟨j, hj, hmem⟩
          have hne : j ≠ i := Nat.ne_of_lt (List.mem_range.mp hj)
          simp only [List.mem_cons, List.not_mem_nil, or_false] at hf hmem
          rcases hf with rfl | rfl | rfl <;> simp_all
        rw [width_append_of_not_mem (hnot _ (by simp)),
          width_append_of_not_mem (hnot _ (by simp)), width_append_of_not_mem (hnot _ (by simp))]
        simp [width]

theorem assigned_append (first second : List (Field × ℕ)) (v : Field → ℕ) :
    assigned (first ++ second) v = assigned second (assigned first v) :=
  List.foldl_append

theorem entryFields_addr (dma : DmaList) (i : ℕ) :
    entryFields dma (.entryAddr i) = (dma.entries.getD i ⟨0, 0⟩).physicalAddress.toNat := by
  rw [entryFields, List.getD_eq_getElem?_getD, List.getElem?_map, List.getD_eq_getElem?_getD]
  cases dma.entries[i]? <;> rfl

theorem entryFields_length (dma : DmaList) (i : ℕ) :
    entryFields dma (.entryLength i) = (dma.entries.getD i ⟨0, 0⟩).blockLength.toNat := by
  rw [entryFields, List.getD_eq_getElem?_getD, List.getElem?_map, List.getD_eq_getElem?_getD]
  cases dma.entries[i]? <;> rfl

/-- There is no entry behind the last one. -/
theorem entryFields_of_not_mem {dma : DmaList} {f : Field}
    (h : f ∉ entryNames dma.entries.length) : entryFields dma f = 0 := by
  have hbeyond (i : ℕ) (hf : f ∈ [Field.entryAddr i, .entryLength i, .entryPadding i]) :
      dma.entries.getD i ⟨0, 0⟩ = ⟨0, 0⟩ := by
    have hi : ¬ i < dma.entries.length := by
      intro hi
      refine h ?_
      rw [entryNames, List.mem_flatMap]
      exact ⟨i, List.mem_range.mpr hi, hf⟩
    rw [List.getD_eq_getElem?_getD, List.getElem?_eq_none (Nat.le_of_not_lt hi)]
    rfl
  cases f with
  | entryAddr i => rw [entryFields_addr, hbeyond i (by simp)]; rfl
  | entryLength i => rw [entryFields_length, hbeyond i (by simp)]; rfl
  | _ => rfl

/-- A header and the memory entries behind it. -/
theorem assigned_entries {header : List Store} {dma : DmaList} {count : UInt32}
    (hcount : count.toNat = dma.entries.length)
    (hheader : ∀ s ∈ header, s.field.isEntry = false) {fields : Field → ℕ}
    (hfields : ∀ f, f.isEntry = false →
      assigned (header.map Store.read) (fun _ => 0) f = fields f)
    (hentries : ∀ f, f.isEntry = true → fields f = entryFields dma f) :
    ∀ f, assigned ((header ++ entryStores dma count).map Store.read) (fun _ => 0) f =
      fields f := by
  intro f
  rw [List.map_append, assigned_append]
  have hnames := names_entryStores dma count
  by_cases hmem : f ∈ entryNames count.toNat
  · have hentry := isEntry_of_mem hmem
    rw [hentries f hentry]
    apply assigned_of_mem
    · rw [hnames]
      exact entryNames_nodup _
    · simp only [entryNames, List.mem_flatMap, List.mem_range] at hmem
      obtain ⟨i, hi, hf⟩ := hmem
      rw [List.mem_map]
      simp only [entryStores, List.mem_flatMap, List.mem_range]
      simp only [List.mem_cons, List.not_mem_nil, or_false] at hf
      rcases hf with rfl | rfl | rfl
      · refine ⟨_, ⟨i, hi, List.mem_cons_self ..⟩, ?_⟩
        rw [read_set64, entryFields_addr, UInt32.toNat_toUInt64]
      · refine ⟨_, ⟨i, hi, List.mem_cons_of_mem _ (List.mem_cons_self ..)⟩, ?_⟩
        rw [read_set32, entryFields_length]
      · refine ⟨⟨.entryPadding i, 4, 0⟩, ⟨i, hi, by simp⟩, ?_⟩
        rw [Store.read, swap_zero]
        rfl
  · rw [assigned_of_not_mem (by rwa [hnames])]
    cases hentry : f.isEntry with
    | false => exact hfields f hentry
    | true =>
        rw [hcount] at hmem
        rw [hentries f hentry, entryFields_of_not_mem hmem]
        apply assigned_of_not_mem
        intro hheaderMem
        obtain ⟨read, hread, rfl⟩ := List.mem_map.mp hheaderMem
        obtain ⟨s, hs, rfl⟩ := List.mem_map.mp hread
        have hfalse := hheader s hs
        rw [show s.field.isEntry = true from hentry] at hfalse
        cases hfalse

/-- The stores for a header and its entries have the widths of their fields. -/
theorem widths_entries {struct : Struct Field} {header : List Store} {dma : DmaList}
    {count : UInt32}
    (hheader : (header.all fun s => width struct s.field == s.width) = true)
    (hmem : ∀ s ∈ header, s.field ∈ struct.map Prod.fst)
    (hentries : ∀ f ∈ struct.map Prod.fst, f.isEntry = false) :
    ∀ s ∈ header ++ entryStores dma count,
      width (struct ++ memEntryArray count.toNat) s.field = s.width := by
  intro s hs
  rcases List.mem_append.mp hs with h | h
  · rw [width_append_of_mem (hmem s h)]
    exact widths_of_all hheader s h
  · simp only [entryStores, List.mem_flatMap, List.mem_range] at h
    obtain ⟨i, hi, hs⟩ := h
    obtain ⟨haddr, hlength, hpadding⟩ := width_memEntryArray hi
    have hbehind (hentry : s.field.isEntry = true) : s.field ∉ struct.map Prod.fst := by
      intro hf
      rw [hentries _ hf] at hentry
      cases hentry
    simp only [List.mem_cons, List.not_mem_nil, or_false] at hs
    rcases hs with rfl | rfl | rfl
    · exact (width_append_of_not_mem (hbehind rfl)).trans haddr
    · exact (width_append_of_not_mem (hbehind rfl)).trans hlength
    · exact (width_append_of_not_mem (hbehind rfl)).trans hpadding

/-- A command with memory entries that fit. -/
theorem entries_send {struct : Struct Field} {header : List Store} {dma : DmaList}
    {maxEntries headerSize : UInt32} {fields : Field → ℕ}
    (hmax : headerSize.toNat + 16 * maxEntries.toNat ≤ 4096)
    (hsize : size struct = headerSize.toNat) (hfits : dma.entries.length ≤ maxEntries.toNat)
    (hnames : (struct.map Prod.fst).Nodup)
    (hplain : ∀ f ∈ struct.map Prod.fst, f.isEntry = false)
    (hwidths : (header.all fun s => width struct s.field == s.width) = true)
    (hknown : (header.all fun s => (struct.map Prod.fst).contains s.field) = true)
    (hfields : ∀ f, f.isEntry = false →
      assigned (header.map Store.read) (fun _ => 0) f = fields f)
    (hentries : ∀ f, f.isEntry = true → fields f = entryFields dma f) :
    let count := clampCount maxEntries dma.count
    Sends c
      (requestNodata device (struct ++ memEntryArray count.toNat) (header ++ entryStores dma count)
        (headerSize + 16 * count).toNat)
      (controlIntended c.gs ⟨.control, struct, dma.entries.length, fields, []⟩) := by
  intro count
  have hmem : ∀ s ∈ header, s.field ∈ struct.map Prod.fst := by
    intro s hs
    have hfield := List.all_eq_true.mp hknown s hs
    rwa [List.contains_iff_mem] at hfield
  have hcount : count.toNat = dma.entries.length := by
    rw [clampCount_toNat, dma.count_toNat]
    exact Nat.min_eq_left hfits
  have hlength : (headerSize + 16 * count).toNat = size struct + 16 * dma.entries.length := by
    rw [cmdSize_toNat _ _ _ hmax, hcount, hsize]
  rw [hlength, hcount]
  have hsends : Sends c
      (exchange device (Intended.layout ⟨.control, struct, dma.entries.length, fields, []⟩)
        (header ++ entryStores dma count) (size struct + 16 * dma.entries.length) (size ctrlHdr)
        (size ctrlHdr))
      (controlIntended c.gs ⟨.control, struct, dma.entries.length, fields, []⟩) := by
    apply exchange_sends
    · exact layout_nodup hnames hplain _
    · rw [← hcount]
      exact widths_entries hwidths hmem hplain
    · exact assigned_entries hcount (fun s hs => hplain _ (hmem s hs)) hfields hentries
    · rfl
    · rfl
    · rfl
  exact hsends.finish fun _ _ => rfl

theorem chipResourceAttachBacking_sends {id : UInt32} {dma : DmaList}
    (hfits : (GpuCommand.resourceAttachBacking id dma).Fits) :
    Sends c (chipResourceAttachBacking device id dma)
      ((GpuCommand.resourceAttachBacking id dma).intended c.gs) := by
  have hroom : dma.entries.length ≤ 254 := by
    have hsize : size resourceAttachBacking = 32 := by decide
    rw [GpuCommand.Fits, hsize] at hfits
    omega
  have hcount : (clampCount attachBackingMax dma.count).toNat = dma.entries.length := by
    rw [clampCount_toNat, dma.count_toNat]
    exact Nat.min_eq_left hroom
  apply entries_send (by decide) (by decide) hroom (by decide) (by decide) rfl rfl
  · intro f hf
    simp only [List.map_cons, List.map_nil, read_set32, hcount]
    cases f <;> first | rfl | cases hf
  · intro f hf
    cases f <;> first | rfl | cases hf

theorem chipResourceCreateBlob_sends {args : BlobArgs} {dma : DmaList}
    (hfits : (GpuCommand.resourceCreateBlob args dma).Fits) :
    Sends c (chipResourceCreateBlob device args dma)
      ((GpuCommand.resourceCreateBlob args dma).intended c.gs) := by
  have hroom : dma.entries.length ≤ 252 := by
    have hsize : size resourceCreateBlob = 56 := by decide
    rw [GpuCommand.Fits, hsize] at hfits
    omega
  have hcount : (clampCount createBlobMax dma.count).toNat = dma.entries.length := by
    rw [clampCount_toNat, dma.count_toNat]
    exact Nat.min_eq_left hroom
  apply Sends.of_get
  rw [GpuCommand.intended]
  by_cases hblob : c.gs.hasBlob = true
  · rw [if_pos hblob]
    simp only [hblob, and_true]
    apply entries_send (by decide) (by decide) hroom (by decide) (by decide) rfl rfl
    · intro f hf
      simp only [List.map_cons, List.map_nil, read_set32, read_set64, hcount]
      cases f <;> first | rfl | cases hf
    · intro f hf
      cases f <;> first | rfl | cases hf
  · rw [if_neg hblob, if_neg fun h => hblob h.2]
    exact .nothing rfl

/-! ## The name of a context -/

/-- The loop copies the characters before the 64th and stops behind them. -/
theorem nameLoop_eq (s : CString) {nlen : ℕ} (h : nlen ≤ (s.chars.take 63).length) :
    nameLoop s nlen =
      ((List.range' nlen ((s.chars.take 63).length - nlen)).map fun i =>
        setByte (.debugName i) (s.at i), (s.chars.take 63).length) := by
  have hlast : (s.chars.take 63).length = min 63 s.chars.length := List.length_take
  have hgoes : nlen < 63 ∧ s.at nlen ≠ 0 ↔ nlen < (s.chars.take 63).length := by
    rw [hlast]
    constructor
    · rintro ⟨hlt, hchar⟩
      have hin : nlen < s.chars.length := by
        by_contra hout
        rw [CString.at, List.getD_eq_default _ _ (Nat.le_of_not_lt hout)] at hchar
        exact hchar rfl
      omega
    · intro hlt
      have hin : nlen < s.chars.length := by omega
      refine ⟨by omega, ?_⟩
      rw [CString.at, List.getD_eq_getElem _ _ hin]
      exact s.ne_zero _ (List.getElem_mem hin)
  rw [nameLoop]
  split
  · rename_i hgo
    have hlt := hgoes.mp hgo
    have hcount : (s.chars.take 63).length - nlen =
        (s.chars.take 63).length - (nlen + 1) + 1 := by omega
    rw [nameLoop_eq s hlt, hcount, List.range'_succ]
    rfl
  · rename_i hstop
    have hend : nlen = (s.chars.take 63).length := by
      have hnot := mt hgoes.mpr hstop
      omega
    rw [← hend, Nat.sub_self]
    rfl
termination_by 63 - nlen
decreasing_by
  simp only [List.length_take] at h
  omega

/-- The character at `i` of the name that is sent. -/
theorem sentName_getD (s : CString) {i : ℕ} (h : i < (s.chars.take 63).length) :
    (s.chars.take 63).getD i 0 = s.at i := by
  have hlast : (s.chars.take 63).length = min 63 s.chars.length := List.length_take
  have hin : i < s.chars.length := by omega
  rw [CString.at, List.getD_eq_getElem _ _ h, List.getD_eq_getElem _ _ hin, List.getElem_take]

/-- What `chip_CTXCreate` stores, as the reader sees it. -/
def ctxCreateStores (ctxId : UInt32) (debugName : Option CString) (contextInit : UInt32) :
    List Store :=
  [set32 .type 0x0200, set32 .ctxId ctxId] ++ nameStores debugName ++
    [set32 .contextInit contextInit]

/-- The same with a name: the characters, the terminating zero and the length. -/
def ctxCreateReads (ctxId : UInt32) (s : CString) (contextInit : UInt32) : List (Field × ℕ) :=
  [(.type, 0x0200), (.ctxId, ctxId.toNat)] ++
    (List.range' 0 (s.chars.take 63).length).map (fun i => (.debugName i, (s.at i).toNat)) ++
    [(.debugName (s.chars.take 63).length, 0), (.nlen, (s.chars.take 63).length),
      (.contextInit, contextInit.toNat)]

theorem ctxCreateReads_nodup (ctxId : UInt32) (s : CString) (contextInit : UInt32) :
    ((ctxCreateReads ctxId s contextInit).map Prod.fst).Nodup := by
  simp only [ctxCreateReads, List.map_append, List.map_cons, List.map_nil, List.map_map,
    Function.comp_def]
  rw [List.nodup_append', List.nodup_append']
  refine ⟨⟨by simp, ?_, ?_⟩, by simp, ?_⟩
  · apply List.Nodup.map
    · intro i j h
      exact Field.debugName.inj h
    · exact List.nodup_range'
  · simp [List.disjoint_left]
  · simp only [List.disjoint_left, List.mem_append, List.mem_cons, List.mem_map,
      List.mem_range'_1, List.not_mem_nil, or_false]
    rintro f ((rfl | rfl) | ⟨i, hi, rfl⟩)
    · simp
    · simp
    · simp only [Field.debugName.injEq, reduceCtorEq, or_false]
      omega

theorem read_ctxCreateStores (ctxId : UInt32) (s : CString) (contextInit : UInt32) :
    (ctxCreateStores ctxId (some s) contextInit).map Store.read =
      ctxCreateReads ctxId s contextInit := by
  have hlast : (s.chars.take 63).length = min 63 s.chars.length := List.length_take
  have hnlen : (UInt32.ofNat (s.chars.take 63).length).toNat = (s.chars.take 63).length := by
    rw [UInt32.toNat_ofNat']
    exact Nat.mod_eq_of_lt (by omega)
  simp only [ctxCreateReads, ctxCreateStores, nameStores, nameLoop_eq s (Nat.zero_le _),
    List.map_append, List.map_cons, List.map_nil, List.map_map, Function.comp_def, read_set32,
    read_setByte, hnlen,
    Nat.sub_zero, List.append_assoc, List.cons_append, List.nil_append]
  rfl

theorem widths_ctxCreate (ctxId : UInt32) (debugName : Option CString) (contextInit : UInt32) :
    ∀ s ∈ ctxCreateStores ctxId debugName contextInit, width ctxCreate s.field = s.width := by
  have hwidth : ∀ i < 64, width ctxCreate (.debugName i) = 1 := by decide +kernel
  intro store hstore
  rcases List.mem_append.mp hstore with h | h
  · rcases List.mem_append.mp h with h | h
    · have hheader : ∀ s ∈ [set32 .type 0x0200, set32 .ctxId ctxId],
          width ctxCreate s.field = s.width := widths_of_all rfl
      exact hheader store h
    · cases debugName with
      | none =>
          have hlength : ∀ s ∈ [set32 .nlen 0], width ctxCreate s.field = s.width :=
            widths_of_all rfl
          exact hlength store h
      | some s =>
          have hlast : (s.chars.take 63).length = min 63 s.chars.length := List.length_take
          simp only [nameStores, nameLoop_eq s (Nat.zero_le _), Nat.sub_zero, List.mem_append,
            List.mem_map, List.mem_range'_1, List.mem_cons, List.not_mem_nil, or_false] at h
          rcases h with ⟨i, hi, rfl⟩ | rfl | rfl
          · exact hwidth i (by omega)
          · exact hwidth _ (by omega)
          · rfl
  · have hinit : ∀ s ∈ [set32 .contextInit contextInit], width ctxCreate s.field = s.width :=
      widths_of_all rfl
    exact hinit store h

theorem fields_ctxCreate (ctxId : UInt32) (s : CString) (contextInit : UInt32) (f : Field) :
    assigned ((ctxCreateStores ctxId (some s) contextInit).map Store.read) (fun _ => 0) f =
      ctxCreateFields ctxId (s.chars.take 63) contextInit f := by
  rw [read_ctxCreateStores]
  have hnames := ctxCreateReads_nodup ctxId s contextInit
  cases f with
  | type | ctxId | nlen | contextInit =>
      apply assigned_of_mem hnames
      simp [ctxCreateReads, ctxCreateFields]
  | debugName i =>
      rcases Nat.lt_trichotomy i (s.chars.take 63).length with hi | hi | hi
      · rw [ctxCreateFields, sentName_getD s hi]
        apply assigned_of_mem hnames
        apply List.mem_append_left
        apply List.mem_append_right
        rw [List.mem_map]
        exact ⟨i, List.mem_range'_1.mpr ⟨Nat.zero_le i, by omega⟩, rfl⟩
      · -- the terminating zero
        rw [ctxCreateFields, List.getD_eq_default _ _ (Nat.le_of_eq hi.symm), hi]
        apply assigned_of_mem hnames
        simp [ctxCreateReads]
      · rw [ctxCreateFields, List.getD_eq_default _ _ (Nat.le_of_lt hi)]
        apply assigned_of_not_mem
        simp only [ctxCreateReads, List.map_append, List.map_cons, List.map_nil, List.map_map,
          List.mem_append, List.mem_map, List.mem_range'_1, List.mem_cons, List.not_mem_nil,
          or_false, Function.comp_apply, Field.debugName.injEq, reduceCtorEq, false_or, not_or]
        constructor
        · rintro ⟨j, hj, rfl⟩
          omega
        · omega
  | _ =>
      apply assigned_of_not_mem
      simp [ctxCreateReads]

theorem chipCtxCreate_sends (ctxId : UInt32) (debugName : Option CString)
    (contextInit : UInt32) :
    Sends c (chipCtxCreate device ctxId debugName contextInit)
      ((GpuCommand.ctxCreate ctxId debugName contextInit).intended c.gs) := by
  have hsends : Sends c (exchange device ctxCreate (ctxCreateStores ctxId debugName contextInit)
      (size ctxCreate) (size ctrlHdr) (size ctrlHdr))
      ((GpuCommand.ctxCreate ctxId debugName contextInit).intended c.gs) := by
    apply control_sends _ _ (by decide +kernel) (widths_ctxCreate ctxId debugName contextInit)
    intro f
    cases debugName with
    | none =>
        simp only [ctxCreateStores, nameStores, List.map_append, List.map_cons, List.map_nil,
          read_set32]
        cases f <;> rfl
    | some s => exact fields_ctxCreate ctxId s contextInit f
  exact hsends.finish fun _ _ => rfl

/-! ## The command stream -/

def submitStores (ctxId cmdSize : UInt32) : List Store :=
  [set32 .type 0x0207, set32 .ctxId ctxId, set32 .size cmdSize]

/-- The message of `chip_Submit3D`: the header and the stream are two buffers. -/
def submitMessage (c : Channel) (ctxId : UInt32) (cmdData : ℕ → UInt8) (cmdSize : UInt32) :
    Message :=
  ⟨.control, [bytes (fillIn cmdSubmit (submitStores ctxId cmdSize)
      (chipZero (size cmdSubmit) c.cmdBuf)) 0 (size cmdSubmit),
    (List.range cmdSize.toNat).map cmdData], size ctrlHdr⟩

/-- Without the buffer for it, or when it is empty or too long, nothing is sent. -/
theorem chipSubmit3D_rejected {ctxId : UInt32} {cmdData : ℕ → UInt8} {cmdSize : UInt32}
    (h : ¬ (c.gs.cmd3dBuf = true ∧ cmdSize ≠ 0 ∧ cmdSize ≤ 64 * 1024)) :
    chipSubmit3D device ctxId cmdData cmdSize c = (false, c) := by
  change (if c.gs.cmd3dBuf = false then _ else if cmdSize = 0 then _ else
    if cmdSize > 64 * 1024 then _ else _ : GpuM Bool) c = _
  by_cases hbuf : c.gs.cmd3dBuf = false
  · rw [if_pos hbuf]
    rfl
  rw [if_neg hbuf]
  by_cases hempty : cmdSize = 0
  · rw [if_pos hempty]
    rfl
  have hlarge : cmdSize > 64 * 1024 :=
    UInt32.not_le.mp fun hroom => h ⟨Bool.not_eq_false _ ▸ hbuf, hempty, hroom⟩
  rw [if_neg hempty, if_pos hlarge]
  rfl

/-- Otherwise the queue gets one message, if it is there. -/
theorem chipSubmit3D_accepted {ctxId : UInt32} {cmdData : ℕ → UInt8} {cmdSize : UInt32}
    (hbuf : c.gs.cmd3dBuf = true) (hsome : cmdSize ≠ 0) (hroom : cmdSize ≤ 64 * 1024) :
    (c.gs.ctrlQueue = true → (chipSubmit3D device ctxId cmdData cmdSize c).2.handed =
      submitMessage c ctxId cmdData cmdSize :: c.handed) ∧
    (c.gs.ctrlQueue = false → (chipSubmit3D device ctxId cmdData cmdSize c).1 = false ∧
      (chipSubmit3D device ctxId cmdData cmdSize c).2.handed = c.handed) := by
  let prepared := (prepare cmdSubmit (submitStores ctxId cmdSize) (size cmdSubmit)
    (size ctrlHdr) c).2
  let copied : Channel := { prepared with
    cmd3dBuf := up cmdSize.toNat (fun i m => Function.update m i (cmdData i)) prepared.cmd3dBuf }
  let parts (d : Channel) : List (List UInt8) :=
    [bytes d.cmdBuf 0 (size cmdSubmit), bytes d.cmd3dBuf 0 cmdSize.toNat]
  let sent := chipDoIo device parts (size ctrlHdr) copied
  have hrun : chipSubmit3D device ctxId cmdData cmdSize c =
      ((responseType sent.1 sent.2).1 == virtioGpuRespOkNodata,
        (responseType sent.1 sent.2).2) := by
    change (if c.gs.cmd3dBuf = false then _ else if cmdSize = 0 then _ else
      if cmdSize > 64 * 1024 then _ else _ : GpuM Bool) c = _
    rw [if_neg (by simp [hbuf]), if_neg hsome, if_neg (UInt32.not_lt.mpr hroom)]
    rfl
  have hstream :
      bytes copied.cmd3dBuf 0 cmdSize.toNat = (List.range cmdSize.toNat).map cmdData := by
    apply List.map_congr_left
    intro i hi
    have hlt := List.mem_range.mp hi
    simp only [copied, up_update, Nat.zero_add]
    rw [overwrite, if_pos (by omega), Nat.sub_zero]
  have hmessage : (⟨.control, parts copied, size ctrlHdr⟩ : Message) =
      submitMessage c ctxId cmdData cmdSize := by
    rw [submitMessage, ← hstream]
    rfl
  have hhanded := (@chipDoIo_handed device parts (size ctrlHdr) copied).2
  refine ⟨fun hctrl => ?_, fun hctrl => ?_⟩
  · rw [hrun, responseType_state, hhanded, hmessage]
    exact if_pos hctrl
  · have hoff : ¬ copied.gs.ctrlQueue = true := Bool.eq_false_iff.mp hctrl
    have hnone : sent = (0, copied) := if_neg hoff
    rw [hrun, hnone]
    exact ⟨rfl, rfl⟩

/-- The message is the command, with the stream as its data. -/
theorem chipSubmit3D_sends (ctxId : UInt32) (cmdData : ℕ → UInt8) (cmdSize : UInt32) :
    Sends c (chipSubmit3D device ctxId cmdData cmdSize)
      ((GpuCommand.submit3D ctxId cmdData cmdSize).intended c.gs) := by
  rw [GpuCommand.intended]
  by_cases hready : c.gs.cmd3dBuf = true ∧ cmdSize ≠ 0 ∧ cmdSize ≤ 64 * 1024
  · obtain ⟨hbuf, hsome, hroom⟩ := hready
    obtain ⟨hqueue, hnone⟩ :=
      @chipSubmit3D_accepted device c ctxId cmdData cmdSize hbuf hsome hroom
    by_cases hctrl : c.gs.ctrlQueue = true
    · rw [if_pos ⟨hctrl, hbuf, hsome, hroom⟩]
      let e : Intended := ⟨.control, cmdSubmit, 0, fun
        | .type => 0x0207
        | .ctxId => ctxId.toNat
        | .size => cmdSize.toNat
        | _ => 0, [(List.range cmdSize.toNat).map cmdData]⟩
      let message := submitMessage c ctxId cmdData cmdSize
      have hcarries : message.Carries e := by
        have hnames : (e.layout.map Prod.fst).Nodup := by
          have hlayout : e.layout = cmdSubmit := rfl
          rw [hlayout]
          decide
        apply Message.carries_of_stores hnames (widths_of_all rfl) _ rfl rfl
          (rfl : message.parts = bytes (fillIn e.layout (submitStores ctxId cmdSize)
            (chipZero (size cmdSubmit) c.cmdBuf)) 0 (size cmdSubmit) :: e.data)
        intro f
        simp only [submitStores, List.map_cons, List.map_nil, read_set32]
        cases f <;> rfl
      exact .single (hqueue hctrl) hcarries
    · rw [if_neg fun h => hctrl h.1]
      exact .nothing (hnone (Bool.eq_false_iff.mpr hctrl)).2
  · rw [if_neg fun h => hready h.2]
    exact .nothing (congrArg (fun r => r.2.handed) (chipSubmit3D_rejected hready))

end Commands

/-! ## Every wrapper -/

/-- Every wrapper sends its command, as often as it tries, and nothing else. -/
theorem commands_encoded (device : GpuDevice) {command : GpuCommand} (hfits : command.Fits)
    (c : Channel) : Sends c (command.run device) (command.intended c.gs) := by
  cases command with
  | getDisplayInfo => exact chipGetDisplayInfo_sends.map _
  | resourceCreate2D id format width height =>
      exact (chipResourceCreate2D_sends id format width height).map _
  | resourceUnref id =>
      exact (chipResourceUnref_sends id).map _
  | resourceAttachBacking id dma =>
      exact (chipResourceAttachBacking_sends hfits).map _
  | setScanout args =>
      exact (setScanoutAttempts_sends args 2 c).map _
  | transferToHost2D id x y width height offset =>
      exact (chipTransferToHost2D_sends id x y width height offset).map _
  | getEdid scanout =>
      exact (chipGetEdid_sends scanout).map _
  | resourceFlush id x y width height =>
      exact (chipResourceFlush_sends id x y width height).map _
  | cursorUpdate hotX hotY =>
      exact (chipCursorUpdate_sends hotX hotY).map _
  | cursorMove x y =>
      exact (chipCursorMove_sends x y).map _
  | cursorHide =>
      exact chipCursorHide_sends.map _
  | getCapsetInfo index =>
      exact (chipGetCapsetInfo_sends index).map _
  | getCapset capsetId capsetVersion bufSize =>
      exact (chipGetCapset_sends capsetId capsetVersion bufSize).map _
  | ctxCreate ctxId debugName contextInit =>
      exact (chipCtxCreate_sends ctxId debugName contextInit).map _
  | ctxDestroy ctxId =>
      exact (chipCtxDestroy_sends ctxId).map _
  | ctxAttachResource ctxId id =>
      exact (chipCtxAttachResource_sends ctxId id).map _
  | ctxDetachResource ctxId id =>
      exact (chipCtxDetachResource_sends ctxId id).map _
  | resourceCreate3D args =>
      exact (chipResourceCreate3D_sends args).map _
  | transferToHost3D args =>
      exact (transfer3D_sends 0x0205 args).map _
  | transferFromHost3D args =>
      exact (transfer3D_sends 0x0206 args).map _
  | submit3D ctxId cmdData cmdSize =>
      exact (chipSubmit3D_sends ctxId cmdData cmdSize).map _
  | resourceCreateBlob args dma =>
      exact (chipResourceCreateBlob_sends hfits).map _

/-- A buffer in two parts. -/
def twoEntries : DmaList := ⟨[⟨0x10000, 4096⟩, ⟨0x24000, 8192⟩], by decide⟩

theorem commands_encoded_two_entries :
    Sends .bare (GpuCommand.run accepting (.resourceAttachBacking 1 twoEntries))
      (GpuCommand.intended Channel.bare.gs (.resourceAttachBacking 1 twoEntries)) := by
  have hfits : (GpuCommand.resourceAttachBacking 1 twoEntries).Fits := by
    rw [GpuCommand.Fits]
    decide
  exact commands_encoded accepting hfits .bare

/-! ## Arguments that do not fit -/

/-- The commands with their arguments as they are given. -/
def GpuCommand.asGiven (gs : ChannelFields) : GpuCommand → List Intended
  | .ctxCreate ctxId debugName contextInit =>
      controlIntended gs <| control Wrappers.ctxCreate
        (ctxCreateFields ctxId (nameChars debugName) contextInit)
  | .cursorMove x y =>
      cursorIntended gs (cursorFields 0x0301 x.toInt32.toUInt32.toNat y.toInt32.toUInt32.toNat
        gs.cursorResourceId.toNat 0 0)
  | command => command.intended gs

/-- A message says one thing. -/
theorem Message.fields_unique {message : Message} {e e' : Intended} (entry : Field × ℕ)
    (h : message.Carries e) (h' : message.Carries e') (hstruct : e'.layout = e.layout)
    (hentry : entry ∈ e.layout) : e.fields entry.1 = e'.fields entry.1 := by
  obtain ⟨-, command, hparts, -, hdecode⟩ := h
  obtain ⟨-, command', hparts', -, hdecode'⟩ := h'
  obtain rfl : command = command' := (List.cons.inj (hparts.symm.trans hparts')).1
  rw [hstruct, hdecode] at hdecode'
  have hpair := List.map_inj_left.mp hdecode' entry hentry
  exact (Prod.mk.inj hpair).2

/-- A name of 64 characters. -/
def longName : CString := ⟨List.replicate 64 97, by simp⟩

/-- The device is told that the name has 63 characters. -/
theorem long_name_cut : ¬ ∀ (device : GpuDevice) (command : GpuCommand), command.Fits → ∀ c,
    Sends c (command.run device) (command.asGiven c.gs) := by
  intro hall_given
  have hgiven := hall_given (fun _ => ⟨0, []⟩) (.ctxCreate 1 (some longName) 0) trivial .bare
  have hmeant : Sends .bare (GpuCommand.run (fun _ => ⟨0, []⟩) (.ctxCreate 1 (some longName) 0))
      (GpuCommand.intended Channel.bare.gs (.ctxCreate 1 (some longName) 0)) :=
    (chipCtxCreate_sends 1 (some longName) 0).map _
  obtain ⟨sent, hsent, hall, -⟩ := hmeant
  obtain ⟨sent', hsent', -, hsome⟩ := hgiven
  obtain rfl : sent = sent' := List.append_cancel_right (hsent.symm.trans hsent')
  obtain ⟨message, hmessage, hcarries'⟩ := hsome _ (List.mem_singleton_self _)
  obtain ⟨e, he, hcarries⟩ := hall message hmessage
  obtain rfl := List.mem_singleton.mp he
  have hlength := Message.fields_unique (.nlen, 4) hcarries hcarries' rfl (by decide)
  exact absurd hlength (by decide)

end VirtIOGPU.Wrappers
