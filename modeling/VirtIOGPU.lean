import VirtIOGPU.Board.Allocator
import VirtIOGPU.Board.FirstFit
import VirtIOGPU.Board.Reclaim
import VirtIOGPU.Board.Release
import VirtIOGPU.Board.Runs
import VirtIOGPU.Board.Table
import VirtIOGPU.Boot.Hooks
import VirtIOGPU.Boot.Takeover
import VirtIOGPU.Card.AllOrNothing
import VirtIOGPU.Card.BlobFlag
import VirtIOGPU.Card.BoardMemory
import VirtIOGPU.Card.Capabilities
import VirtIOGPU.Card.Composite
import VirtIOGPU.Card.DoubleBuffer
import VirtIOGPU.Card.FlushTwice
import VirtIOGPU.Card.IdRuns
import VirtIOGPU.Card.Init
import VirtIOGPU.Card.Mode
import VirtIOGPU.Card.Numbering
import VirtIOGPU.Card.Panning
import VirtIOGPU.Card.PanningFormat
import VirtIOGPU.Card.Ready
import VirtIOGPU.Card.Resize
import VirtIOGPU.Card.ResourceIds
import VirtIOGPU.Card.Retry
import VirtIOGPU.Card.RingRegisters
import VirtIOGPU.Card.RowReads
import VirtIOGPU.Card.Scanout
import VirtIOGPU.Card.Screen
import VirtIOGPU.Card.Selected
import VirtIOGPU.Card.State
import VirtIOGPU.Card.Unwind
import VirtIOGPU.Card.Virgl
import VirtIOGPU.Card.VirglFallback
import VirtIOGPU.Commands.Backing
import VirtIOGPU.Commands.Bridge
import VirtIOGPU.Commands.Capsets
import VirtIOGPU.Commands.Completion
import VirtIOGPU.Commands.Encoding
import VirtIOGPU.Commands.Matching
import VirtIOGPU.Commands.Ownership
import VirtIOGPU.Commands.StaleBuffers
import VirtIOGPU.Commands.Timeout
import VirtIOGPU.Commands.Transaction
import VirtIOGPU.Commands.Wakeup
import VirtIOGPU.Commands.Wrappers
import VirtIOGPU.Compositing.Blends
import VirtIOGPU.Compositing.Bridge
import VirtIOGPU.Compositing.Hook
import VirtIOGPU.Compositing.Pipeline
import VirtIOGPU.Compositing.Restore
import VirtIOGPU.Compositing.Setup
import VirtIOGPU.Compositing.SetupRun
import VirtIOGPU.Compositing.Tags
import VirtIOGPU.Compositing.Texels
import VirtIOGPU.Cursor.Backing
import VirtIOGPU.Cursor.Sprite
import VirtIOGPU.Display.DisplayIds
import VirtIOGPU.Display.Edid
import VirtIOGPU.Display.ModeList
import VirtIOGPU.Display.Modes
import VirtIOGPU.Display.Refresh
import VirtIOGPU.Display.Switching
import VirtIOGPU.Drawing.BlitRect
import VirtIOGPU.Drawing.Bytewise
import VirtIOGPU.Drawing.Colours
import VirtIOGPU.Drawing.Convert
import VirtIOGPU.Drawing.Fill
import VirtIOGPU.Drawing.Footprint
import VirtIOGPU.Drawing.Frame
import VirtIOGPU.Drawing.Isolation
import VirtIOGPU.Drawing.Lines
import VirtIOGPU.Drawing.Patterns
import VirtIOGPU.Drawing.Pixels
import VirtIOGPU.Drawing.Planar
import VirtIOGPU.Drawing.RasterOps
import VirtIOGPU.Drawing.Rows
import VirtIOGPU.Drawing.Xor
import VirtIOGPU.Framebuffer.Consistency
import VirtIOGPU.Framebuffer.FlushLocals
import VirtIOGPU.Framebuffer.ModeSwitch
import VirtIOGPU.Framebuffer.Resize
import VirtIOGPU.Framebuffer.Undisturbed
import VirtIOGPU.Lib.Bresenham
import VirtIOGPU.Lib.ByteOrder
import VirtIOGPU.Lib.Cells
import VirtIOGPU.Lib.Distinct
import VirtIOGPU.Lib.Exchange
import VirtIOGPU.Lib.Hoare
import VirtIOGPU.Lib.Layout
import VirtIOGPU.Lib.Ledger
import VirtIOGPU.Lib.Links
import VirtIOGPU.Lib.LongWord
import VirtIOGPU.Lib.Machine
import VirtIOGPU.Lib.Memory
import VirtIOGPU.Lib.Mutex
import VirtIOGPU.Lib.Packets
import VirtIOGPU.Lib.PorterDuff
import VirtIOGPU.Lib.RingWindow
import VirtIOGPU.Lib.Scatter
import VirtIOGPU.Lib.Tiling
import VirtIOGPU.Lib.Transfer
import VirtIOGPU.Lib.TwoRuns
import VirtIOGPU.Lib.Wire
import VirtIOGPU.Locking.Bridge
import VirtIOGPU.Locking.Commands
import VirtIOGPU.Locking.Discipline
import VirtIOGPU.Locking.Exclusion
import VirtIOGPU.Locking.Frames
import VirtIOGPU.Virgl.Decoding
import VirtIOGPU.Virgl.Emission
import VirtIOGPU.Virgl.Encoder
import VirtIOGPU.Virgl.Objects
import VirtIOGPU.Virgl.Overflow
import VirtIOGPU.Virgl.Upload
import VirtIOGPU.Virtqueue.Conservation
import VirtIOGPU.Virtqueue.Descriptors
import VirtIOGPU.Virtqueue.Device
import VirtIOGPU.Virtqueue.DeviceView
import VirtIOGPU.Virtqueue.Driver
import VirtIOGPU.Virtqueue.Hostile
import VirtIOGPU.Virtqueue.Layout
import VirtIOGPU.Virtqueue.Rings
import VirtIOGPU.Virtqueue.Runs
import VirtIOGPU.Virtqueue.Tables
import VirtIOGPU.Vsync.FlushTask
import VirtIOGPU.Vsync.Rendezvous
