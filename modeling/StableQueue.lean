import StableQueue.Action
import StableQueue.Clock
import StableQueue.Config
import StableQueue.Failure
import StableQueue.Foreign
import StableQueue.Handle
import StableQueue.Heap.Basic
import StableQueue.Heap.Entry
import StableQueue.Heap.Sift
import StableQueue.Log
import StableQueue.Memory
import StableQueue.Monitor
import StableQueue.Outline
import StableQueue.Pipeline
import StableQueue.Proofs.Heap.Conservation
import StableQueue.Proofs.Heap.Drain
import StableQueue.Proofs.Heap.HalfCircle
import StableQueue.Proofs.Heap.Live
import StableQueue.Proofs.Heap.Machine
import StableQueue.Proofs.Heap.Order
import StableQueue.Proofs.Heap.Relabelling
import StableQueue.Proofs.Ledger.Basic
import StableQueue.Proofs.Ledger.Conservation
import StableQueue.Proofs.Ledger.Fifo
import StableQueue.Proofs.Monitor.Callers
import StableQueue.Proofs.Monitor.Closing
import StableQueue.Proofs.Monitor.HandingOn
import StableQueue.Proofs.Monitor.Linearization
import StableQueue.Proofs.Monitor.Patience
import StableQueue.Proofs.Monitor.Receiving
import StableQueue.Proofs.Monitor.Run
import StableQueue.Proofs.Monitor.Telemetry
import StableQueue.Proofs.Monitor.Wakeups
import StableQueue.Proofs.Pipeline.Completion
import StableQueue.Proofs.Pipeline.Conversation
import StableQueue.Proofs.Pipeline.Orderly
import StableQueue.Proofs.Pipeline.Program
import StableQueue.Proofs.Pipeline.Progress
import StableQueue.Proofs.Pipeline.Run
import StableQueue.Proofs.Pipeline.Serving
import StableQueue.Proofs.Queue.Allocation
import StableQueue.Proofs.Queue.Contents
import StableQueue.Proofs.Queue.Draining
import StableQueue.Proofs.Queue.LogReplay
import StableQueue.Proofs.Queue.Objections
import StableQueue.Proofs.Queue.Refinement
import StableQueue.Proofs.Queue.Sound
import StableQueue.Proofs.Queue.Telemetry
import StableQueue.Proofs.Queue.Turn
import StableQueue.Proofs.Registry
import StableQueue.Proofs.Serial
import StableQueue.Proofs.Session.Accounting
import StableQueue.Proofs.Session.Answers
import StableQueue.Proofs.Session.Calls
import StableQueue.Proofs.Session.Creation
import StableQueue.Proofs.Session.Foreign
import StableQueue.Proofs.Session.Handles
import StableQueue.Proofs.Session.Holding
import StableQueue.Proofs.Session.Kept
import StableQueue.Proofs.Session.Refusals
import StableQueue.Proofs.Session.Unread
import StableQueue.Proofs.SlotPool.Bytes
import StableQueue.Proofs.SlotPool.Faults
import StableQueue.Proofs.SlotPool.FreeStack
import StableQueue.Proofs.SlotPool.Payloads
import StableQueue.Proofs.SlotPool.WellFormed
import StableQueue.Proofs.Text.Utf8
import StableQueue.Queue.Basic
import StableQueue.Queue.Contents
import StableQueue.Queue.Live
import StableQueue.Queue.Request
import StableQueue.Registry
import StableQueue.Serial
import StableQueue.Session.Basic
import StableQueue.Session.Errand
import StableQueue.Session.Step
import StableQueue.Session.Task
import StableQueue.Session.Time
import StableQueue.SlotPool
import StableQueue.Text.CodePoints
import StableQueue.Text.GraphemeExtend
import StableQueue.Text.Outline
import StableQueue.Text.Quoted
import StableQueue.Text.Unprintable
import StableQueue.Text.Utf8
