import StableQueue.Queue.Basic
import StableQueue.Text.Outline
import StableQueue.Text.Quoted

/-!
# What Each Value Looks Like

The outlines under which the values of this library are shown to programmers. Payloads are never
shown. A queue shows only its telemetry, which can be read without its lock.
-/

namespace StableQueue

open Text (Outline)

/-- A refusal is shown by the name of its cause and what is known about it. -/
def Refusal.outline : Refusal → Outline
  | oversized len max => .fields "SizeError" [("len", .number len), ("max", .number max)]
  | full => .atom "Full"
  | empty => .atom "Empty"
  | uninitialized => .atom "Uninitialized"
  | alreadyCreated => .atom "AlreadyCreated"
  | invalidConfig reason => .wrapped "InvalidConfig" (.atom (Text.quoted reason))
  | bufferTooSmall len capacity =>
    .fields "BufferTooSmall" [("len", .number len), ("capacity", .number capacity)]
  | closed => .atom "Closed"

/-- A configuration shows all its parameters. -/
def Config.outline (config : Config) : Outline :=
  .fields "QueueConfig" [
    ("name", .atom (Text.quoted config.name)),
    ("depth", .number config.depth),
    ("message_size", .number config.messageSize)]

/-- A heap entry shows all it consists of. -/
def Entry.outline (entry : Entry) : Outline :=
  .fields "HeapEntry" [
    ("priority", .integer entry.priority),
    ("sequence", .number entry.sequence.toNat),
    ("slot", .number entry.slot)]

/-- A heap shows its size and its root. -/
def Heap.outline (heap : Heap) : Outline :=
  .someFields "StableHeap" [
    ("len", .number heap.len),
    ("capacity", .number heap.capacity),
    ("root", .optional (heap.peekMax.map Entry.outline))]

/-- A slot pool shows its geometry, the number of free slots and, under the given name, where its
arena lies. -/
def SlotPool.outline (pool : SlotPool) (address : String) : Outline :=
  .fields "SlotStore" [
    ("slot_count", .number pool.slotCount),
    ("slot_size", .number pool.slotSize),
    ("free", .number pool.freeCount),
    ("arena", .atom address)]

/-- A queue shows its name, its geometry and its telemetry, or that it has not been created. -/
def Queue.outline : Queue → Outline
  | uncreated => .fields "MessageQueue" [("created", .truth false)]
  | queue@(created live) =>
    .fields "MessageQueue" [
      ("name", .atom (Text.quoted live.config.name)),
      ("id", .number live.id),
      ("capacity", .number queue.capacity),
      ("message_size", .number queue.messageSize),
      ("occupancy", .number queue.occupancy),
      ("high_water_mark", .number queue.highWaterMark),
      ("state", .atom queue.load.text),
      ("closed", .truth queue.isClosed)]

/-- A producer shows the queue it sends to. -/
def Producer.outline (queue : Queue) : Outline := .fields "Producer" [("queue", queue.outline)]

/-- A consumer shows the queue it receives from. -/
def Consumer.outline (queue : Queue) : Outline := .fields "Consumer" [("queue", queue.outline)]

end StableQueue
