import BumpinHost.Library.Transition
import BumpinHost.Library.ByteMemory
import BumpinHost.Library.BitFields
import BumpinHost.Gpu.RegisterState
import BumpinHost.Gpu.DrawList
import BumpinHost.Shader.Decode
import BumpinHost.Shader.Translate
import BumpinHost.Gpu.Machine
import BumpinHost.Gpu.Draw
import BumpinHost.Gpu.ScanBuffer
import BumpinHost.Gpu.Incremental
import BumpinHost.Gpu.PacketEncoding
import BumpinHost.Gpu.PacketRoundTrip
import BumpinHost.Gpu.Frame
import BumpinHost.Gpu.RingSystem
import BumpinHost.Gpu.RingInvariant
import BumpinHost.Gpu.RingProducer
import BumpinHost.Gpu.RingPump
import BumpinHost.Gpu.RingConsumption
import BumpinHost.Kernel.Objects
import BumpinHost.Kernel.Threads
import BumpinHost.Kernel.Wakeups
import BumpinHost.Kernel.Signals
import BumpinHost.Kernel.Handles
import BumpinHost.Kernel.LockDiscipline
import BumpinHost.Kernel.LockOrder
import BumpinHost.Renderer.Layouts
import BumpinHost.Shader.Semantics
import BumpinHost.Library.Simulation
import BumpinHost.Shader.Recognition
import BumpinHost.Shader.Preservation
import BumpinHost.Disc.Layout
import BumpinHost.Disc.Lookup
import BumpinHost.Gpu.ShaderCache
import BumpinHost.Kernel.SpinLocks
import BumpinHost.Kernel.Files
import BumpinHost.Disc.StreamHistory
import BumpinHost.Kernel.FileHandles
import BumpinHost.Library.Cursors
import BumpinHost.Kernel.Allocator
import BumpinHost.Kernel.FileCursors
import BumpinHost.Kernel.Apcs
import BumpinHost.Kernel.ApcOwners
import BumpinHost.Shader.FetchAddressing
import BumpinHost.Renderer.VertexMemory
import BumpinHost.Gpu.ReadPointer
import BumpinHost.Gpu.ReadPointerRuns
import BumpinHost.Renderer.PipelineHashes
import BumpinHost.Library.Mailbox
import BumpinHost.Renderer.FrameHandover
import BumpinHost.Kernel.FunctionTable
import BumpinHost.Tools.Xref
import BumpinHost.Tools.XrefWrites
import BumpinHost.Gpu.ScanSafety
import BumpinHost.Gpu.Registration
import BumpinHost.Renderer.RecordedDraws
import BumpinHost.Renderer.RectangleLists
import BumpinHost.Library.GrowingFold
import BumpinHost.Shader.ProgramEnd
import BumpinHost.Shader.PixelPreservation
import BumpinHost.Shader.SourceText
import BumpinHost.Library.Traced
import BumpinHost.Shader.Disassembly
import BumpinHost.Shader.TranslationTrace
import BumpinHost.Shader.ControlFlowScan
import BumpinHost.Library.FiniteLoops
import BumpinHost.Disc.SearchTermination
import BumpinHost.Disc.TreeNavigation
import BumpinHost.Kernel.ReadDelivery
import BumpinHost.Kernel.OwnedAllocations
import BumpinHost.Kernel.Timeouts
import BumpinHost.Kernel.AnsiStrings
import BumpinHost.Library.TracedLoops
import BumpinHost.Shader.ReadBounds
import BumpinHost.Disc.TableReads
import BumpinHost.Gpu.SwapPacket
import BumpinHost.Library.Nesting
import BumpinHost.Tools.XrefParser
import BumpinHost.Library.FirstPerKey
import BumpinHost.Tools.XrefSearch
import BumpinHost.Tools.XrefCache
import BumpinHost.Tools.XrefWalk
import BumpinHost.Library.CStrings
import BumpinHost.Library.CFormat
import BumpinHost.Kernel.Sprintf
import BumpinHost.Gpu.NestedBuffers
import BumpinHost.Gpu.MemoryFrame
import BumpinHost.Library.KeyedQueue
import BumpinHost.Kernel.Notifications
import BumpinHost.Library.Cells
import BumpinHost.Kernel.ThreadLocals
import BumpinHost.Kernel.ThreadBlocks
import BumpinHost.Library.DepthFirst
import BumpinHost.Tools.XrefIndirect
import BumpinHost.Library.Calendar
import BumpinHost.Kernel.TimeFields
import BumpinHost.Library.Lanes
import BumpinHost.Guest.Intrinsics
import BumpinHost.Guest.VectorPermutation
import BumpinHost.Guest.VectorArithmetic
import BumpinHost.Library.BinaryFloat
import BumpinHost.Guest.VectorConversions
import BumpinHost.Library.PackedFields
import BumpinHost.Shader.InstructionEncoding
import BumpinHost.Shader.Assembly
import BumpinHost.Library.Ranking
import BumpinHost.Renderer.Shutdown
import BumpinHost.Library.BoundedWait
import BumpinHost.Guest.FenceWaits
import BumpinHost.Guest.FloatControl
import BumpinHost.Gpu.MicrocodeHash
import BumpinHost.Kernel.MemoryImage
import BumpinHost.Library.OwnedLock
import BumpinHost.Kernel.Mutants
import BumpinHost.Kernel.CriticalSections
