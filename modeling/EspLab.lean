import EspLab.Lib.Transition
import EspLab.Lib.Rtos
import EspLab.Lib.Fold
import EspLab.Lib.TestAndAdd
import EspLab.Lib.Reflection
import EspLab.Lib.Registers
import EspLab.BatchProcessing.Model
import EspLab.BatchProcessing.Invariants
import EspLab.BatchProcessing.Counter
import EspLab.BatchProcessing.Wakeups
import EspLab.BatchProcessing.Overflow
import EspLab.BatchProcessing.Batches
import EspLab.BatchProcessing.Sessions
import EspLab.BatchProcessing.Shutdown
import EspLab.TaskNotify.Model
import EspLab.TaskNotify.Shutdown
import EspLab.TaskNotify.Accounting
import EspLab.Console
import EspLab.LockExample.Model
import EspLab.LockExample.Guards
import EspLab.LockExample.Counters
import EspLab.LockExample.EntryFunc
import EspLab.LockExample.Joined
import EspLab.LockExample.Protection
import EspLab.LockExample.Rounds
import EspLab.LockExample.Progress
import EspLab.QueueExample.Model
import EspLab.QueueExample.Sequence
import EspLab.QueueExample.Shutdown
import EspLab.MatrixSum.Model
import EspLab.MatrixSum.Theorems
import EspLab.MatrixSum.Completion
import EspLab.Display.Game
import EspLab.Display.Ball
import EspLab.Display.Model
import EspLab.Display.Stream
import EspLab.Display.Ending
import EspLab.Display.FrameCount
import EspLab.Display.Screen
import EspLab.UdpAck.Server
import EspLab.UdpAck.Decision
import EspLab.UdpAck.Protocol
import EspLab.UdpAck.Acks
import EspLab.UdpAck.Starts
import EspLab.UdpAck.Window
import EspLab.UdpAck.Sessions
import EspLab.LedStrip.Strip
import EspLab.LedStrip.Spi
import EspLab.LedStrip.Rmt
import EspLab.LedStrip.Encoder
import EspLab.LedStrip.Construct
import EspLab.LedStrip.Memory
import EspLab.LedStrip.Backends
import EspLab.LedStrip.Hsv
import EspLab.LedStrip.Blink
import EspLab.LedStrip.Former
