import DSEmu.Library.Indexed
import DSEmu.Library.Automaton
import DSEmu.Library.Duplex
import DSEmu.Protocol.Message
import DSEmu.Session.Session
import DSEmu.Session.Controller
import DSEmu.Session.Inbox
import DSEmu.Session.Display
import DSEmu.Session.Trace
import DSEmu.Session.DisplayTrace
import DSEmu.Session.ControllerTrace
import DSEmu.Session.ExactlyOnce
import DSEmu.Session.Handshake
import DSEmu.Session.Barrier
import DSEmu.Session.PassedProof
import DSEmu.Session.InboxLaw
import DSEmu.Lockstep.System
import DSEmu.Lockstep.Logs
import DSEmu.Lockstep.Failures
import DSEmu.Lockstep.Health
import DSEmu.Lockstep.Conservation
import DSEmu.Lockstep.Agreement
import DSEmu.Library.Reads
import DSEmu.Protocol.Codec
import DSEmu.Protocol.RoundTrip
import DSEmu.Protocol.Grammar
import DSEmu.Session.Host
import DSEmu.Lockstep.Accepted
import DSEmu.Lockstep.Reconnect
import DSEmu.Emulator.EmulatorCore
import DSEmu.Emulator.Replica
import DSEmu.Emulator.Reconnect
import DSEmu.Emulator.WireCodec
import DSEmu.Session.Arithmetic
import DSEmu.Session.Waiting
import DSEmu.Lockstep.Termination
import DSEmu.Lockstep.Progress
import DSEmu.Emulator.Confluence
import DSEmu.Library.Framing
import DSEmu.Transport.Frame
import DSEmu.Transport.TCPSocketTransport
import DSEmu.Transport.BonjourTransport
import DSEmu.Transport.MessageStream
import DSEmu.Library.Monitor
import DSEmu.Library.FixedWidth
import DSEmu.Session.Callers
import DSEmu.Emulator.ReconnectLoop
import DSEmu.Session.RunStage
import DSEmu.Session.Cancel
import DSEmu.Emulator.Lifecycle
import DSEmu.Emulator.Background
import DSEmu.Emulator.Paused
import DSEmu.MelonDS.Savestate
import DSEmu.MelonDS.NDS
import DSEmu.Emulator.InputPhase
import DSEmu.Emulator.BatterySave
import DSEmu.Transport.SynchronousResult
import DSEmu.Transport.Discovery
import DSEmu.Session.LaunchArguments
import DSEmu.Emulator.RecentROMs
import DSEmu.Emulator.KeyInput
import DSEmu.Rendering.TouchMapping
import DSEmu.Emulator.ROMImport
import DSEmu.Library.Iteration
import DSEmu.MelonDS.SavestateReader
import DSEmu.MelonDS.SectionSearch
import DSEmu.MelonDS.LoadProgram
import DSEmu.MelonDS.Load
import DSEmu.MelonDS.FailedLoad
import DSEmu.Library.Words
import DSEmu.Library.ReloadCounter
import DSEmu.Library.RingBuffer
import DSEmu.MelonDS.FIFO
import DSEmu.MelonDS.IPC
import DSEmu.MelonDS.Mailboxes
import DSEmu.MelonDS.IPCMachine
import DSEmu.MelonDS.IPCInterrupts
import DSEmu.MelonDS.Interrupts
import DSEmu.MelonDS.Timers
import DSEmu.MelonDS.TimerBlock
import DSEmu.MelonDS.TimerRuns
import DSEmu.MelonDS.TimerReads
import DSEmu.MelonDS.SaveLoad
import DSEmu.Library.FramedLink
import DSEmu.Session.AfterFailure
import DSEmu.Lockstep.Framed
import DSEmu.Library.BitSet
import DSEmu.Library.MarkedCopies
import DSEmu.MelonDS.VRAM
import DSEmu.MelonDS.VRAMMapping
import DSEmu.MelonDS.VRAMAccess
import DSEmu.MelonDS.VRAMTracking
import DSEmu.MelonDS.VideoMemory
import DSEmu.MelonDS.VRAMMachine
import DSEmu.MelonDS.VRAMRuns
import DSEmu.Library.Feistel
import DSEmu.MelonDS.ROMList
import DSEmu.MelonDS.Key1
import DSEmu.Library.DigitRoot
import DSEmu.MelonDS.Sqrt
import DSEmu.MelonDS.Scheduler
import DSEmu.MelonDS.NextTarget
import DSEmu.MelonDS.MathUnits
