import StableQueue.Proofs.Queue.Contents
import StableQueue.Queue.Live

/-!
# What One Pass Through the Lock Can Do

`Live.Turn` lists the ways in which a pass through the lock of a queue with consistent contents can
go: for each one what must hold before, how the pass ends, with every wake-up and every record it
owes, and the queue that is left behind. `Live.attempt_turn` says that the list is complete.

Everything else that is said about passes is said about turns, one case for each of them.

## Main results

* `Live.attempt_turn`: every pass is a turn.
* `Live.Turn.consistent`: the contents stay consistent, also when the pass is aborted.
-/

namespace StableQueue

/-- The payload of a sender fits into a message. -/
def Request.fits (config : Config) : Request → Bool
  | .send payload _ => payload.size ≤ config.messageSize
  | _ => true

namespace Live

/-- The queue with new contents, and its telemetry brought up to date. -/
def update (live : Live) (contents : Contents) : Live := { live with contents }.publish

/-- The queue after it has been closed. -/
def afterClose (live : Live) : Live :=
  { live with
    contents := { live.contents with closed := true }
    telemetry := { live.telemetry with closed := true } }

/-- The ways in which a pass can go. -/
inductive Turn (live : Live) (mayWait : Bool) : Request → Pass → Live → Prop
  /-- A payload larger than any message is refused. -/
  | oversized {payload : ByteArray} {priority : Int}
      (hsize : live.config.messageSize < payload.size) :
      Turn live mayWait (.send payload priority)
        (.refuse (.send payload priority) (.oversized payload.size live.config.messageSize)
          [.oversized live.config.name payload.size live.config.messageSize])
        live
  /-- A closed queue accepts no message. -/
  | sendClosed {payload : ByteArray} {priority : Int}
      (hsize : payload.size ≤ live.config.messageSize) (hclosed : live.contents.closed = true) :
      Turn live mayWait (.send payload priority)
        (.refuse (.send payload priority) .closed []) live
  /-- A sender waits for a slot. -/
  | sendWaits {payload : ByteArray} {priority : Int}
      (hsize : payload.size ≤ live.config.messageSize) (hopen : live.contents.closed = false)
      (hfull : live.contents.pool.freeCount = 0) (hwait : mayWait = true) :
      Turn live mayWait (.send payload priority) (.park .notFull) live
  /-- A sender waits no longer. -/
  | sendFull {payload : ByteArray} {priority : Int}
      (hsize : payload.size ≤ live.config.messageSize) (hopen : live.contents.closed = false)
      (hfull : live.contents.pool.freeCount = 0) (hwait : mayWait = false) :
      Turn live mayWait (.send payload priority) (.refuse (.send payload priority) .full []) live
  /-- A message is queued. -/
  | sent {payload : ByteArray} {priority : Int} {slot : Nat} {rest : List Nat}
      (hsize : payload.size ≤ live.config.messageSize) (hopen : live.contents.closed = false)
      (hfree : live.contents.pool.freeSlots = slot :: rest)
      (hordered : (live.contents.afterEnqueue slot payload priority).heap.IsOrdered) :
      Turn live mayWait (.send payload priority)
        (.leave { result := .ok .done } [.one .notEmpty]
          [.sent live.config.name live.contents.nextSequence priority payload.size
            (live.contents.afterEnqueue slot payload priority).occupancy])
        (live.update (live.contents.afterEnqueue slot payload priority))
  /-- A message has been queued that brings the heap out of order. -/
  | sendAborted {payload : ByteArray} {priority : Int} {slot : Nat} {rest : List Nat}
      (hsize : payload.size ≤ live.config.messageSize) (hopen : live.contents.closed = false)
      (hfree : live.contents.pool.freeSlots = slot :: rest)
      (hordered : ¬ (live.contents.afterEnqueue slot payload priority).heap.IsOrdered) :
      Turn live mayWait (.send payload priority)
        (.leave { result := .error (.faulted .heapOrder) } [] [])
        { live with contents := live.contents.afterEnqueue slot payload priority }
  /-- The message at the root is handed out. -/
  | received {request : Request} {root : Entry} (hrequest : request.awaits = some .notEmpty)
      (hroot : live.contents.heap.peekMax = some root)
      (hroom : request.hasRoom (live.contents.message root) = true)
      (hordered : (live.contents.afterDequeue root).heap.IsOrdered) :
      Turn live mayWait request
        (.leave (request.delivery (live.contents.message root)) [.one .notFull]
          [.received live.config.name (live.contents.afterDequeue root).occupancy])
        (live.update (live.contents.afterDequeue root))
  /-- The message at the root has been taken out, which brings the heap out of order. -/
  | receiveAborted {request : Request} {root : Entry}
      (hrequest : request.awaits = some .notEmpty)
      (hroot : live.contents.heap.peekMax = some root)
      (hroom : request.hasRoom (live.contents.message root) = true)
      (hordered : ¬ (live.contents.afterDequeue root).heap.IsOrdered) :
      Turn live mayWait request
        (.leave ⟨.error (.faulted .heapOrder), request.buffer⟩ [] [])
        { live with contents := live.contents.afterDequeue root }
  /-- The message at the root stays, and the wake-up goes to the next receiver. -/
  | tooSmall {buffer : ByteArray} {root : Entry}
      (hroot : live.contents.heap.peekMax = some root)
      (hroom : buffer.size < (live.contents.message root).payload.size) :
      Turn live mayWait (.receiveInto buffer)
        (.leave (.refused (.receiveInto buffer)
          (.bufferTooSmall (live.contents.message root).payload.size buffer.size))
          [.one .notEmpty] [])
        live
  /-- Nothing is left in a closed queue. -/
  | drained {request : Request} (hrequest : request.awaits = some .notEmpty)
      (hempty : live.contents.heap.len = 0) (hclosed : live.contents.closed = true) :
      Turn live mayWait request (.refuse request .closed []) live
  /-- A receiver waits for a message. -/
  | receiveWaits {request : Request} (hrequest : request.awaits = some .notEmpty)
      (hempty : live.contents.heap.len = 0) (hopen : live.contents.closed = false)
      (hwait : mayWait = true) :
      Turn live mayWait request (.park .notEmpty) live
  /-- A receiver waits no longer. -/
  | receiveEmpty {request : Request} (hrequest : request.awaits = some .notEmpty)
      (hempty : live.contents.heap.len = 0) (hopen : live.contents.closed = false)
      (hwait : mayWait = false) :
      Turn live mayWait request (.refuse request .empty []) live
  /-- The queue is closed. -/
  | closes (hopen : live.contents.closed = false) :
      Turn live mayWait .close
        (.leave { result := .ok .done } [.all .notEmpty, .all .notFull]
          [.closed live.config.name])
        live.afterClose
  /-- The queue has been closed before. -/
  | closedBefore (hclosed : live.contents.closed = true) :
      Turn live mayWait .close (.leave { result := .ok .done } [] []) live

end Live

/-! ### Taking a message out for a receiver -/

section Taking

variable {contents : Contents} {config : Config} {root : Entry} {buffer : ByteArray}

/-- A receiver without a buffer gets the message at the root. -/
theorem Exchange.runOn_takeMessage (h : contents.Consistent config)
    (hroot : contents.heap.peekMax = some root) :
    takeMessage.runOn ⟨contents, buffer⟩ =
      (if (contents.afterDequeue root).heap.IsOrdered
        then .ok (.message (contents.message root).header (contents.message root).payload)
        else .error (.faulted .heapOrder), ⟨contents.afterDequeue root, buffer⟩) := by
  have hslot := h.pool.lt_of_isInUse (h.isInUse (Heap.peekMax_mem_live hroot))
  have hdequeue := h.runOn_dequeueWith SlotPool.payload hroot (h.pool.payload_eq hslot)
  simp only [takeMessage, onContents, Action.runOn_bind, Action.runOn_onPart, hdequeue]
  by_cases hordered : (contents.afterDequeue root).heap.IsOrdered
  · simp [hordered, Contents.message]
  · simp [hordered]

/-- A receiver whose buffer is too small gets nothing, and the message stays. -/
theorem Exchange.runOn_takeInto_of_lt (h : contents.Consistent config)
    (hroot : contents.heap.peekMax = some root)
    (hroom : buffer.size < (contents.message root).payload.size) :
    takeInto.runOn ⟨contents, buffer⟩ =
      (.error (.refused (.bufferTooSmall (contents.message root).payload.size buffer.size)),
        ⟨contents, buffer⟩) := by
  have hslot := h.pool.lt_of_isInUse (h.isInUse (Heap.peekMax_mem_live hroot))
  simp only [Contents.message] at hroom ⊢
  simp [takeInto, hroot, h.pool.payload_eq hslot, Action.ofFault, hroom]

/-- A receiver whose buffer is large enough gets the message at the root. -/
theorem Exchange.runOn_takeInto (h : contents.Consistent config)
    (hroot : contents.heap.peekMax = some root)
    (hroom : (contents.message root).payload.size ≤ buffer.size) :
    takeInto.runOn ⟨contents, buffer⟩ =
      if (contents.afterDequeue root).heap.IsOrdered
      then (.ok (.filled (contents.message root).header), ⟨contents.afterDequeue root,
        (contents.message root).payload ++
          buffer.extract (contents.message root).payload.size buffer.size⟩)
      else (.error (.faulted .heapOrder), ⟨contents.afterDequeue root, buffer⟩) := by
  have hslot := h.pool.lt_of_isInUse (h.isInUse (Heap.peekMax_mem_live hroot))
  have hread := h.pool.readInto_eq hslot hroom
  have hdequeue := h.runOn_dequeueWith (fun pool slot => pool.readInto slot buffer) hroot hread
  have hnot : ¬ buffer.size < (contents.pool.bytes root.slot).size := Nat.not_lt.mpr hroom
  simp only [takeInto, onContents, Action.runOn_bind, Action.runOn_get, hroot,
    h.pool.payload_eq hslot, Action.ofFault, Action.runOn_pure, hnot, ↓reduceIte,
    Action.runOn_onPart, hdequeue]
  by_cases hordered : (contents.afterDequeue root).heap.IsOrdered
  · simp [hordered, Contents.message, Action.ofRefusal]
    rfl
  · simp [hordered]

end Taking

namespace Live

variable {live : Live}

/-- Every pass of a sender whose payload fits is a turn. -/
theorem turn_send (h : live.contents.Consistent live.config) {payload : ByteArray}
    (hsize : payload.size ≤ live.config.messageSize) (priority : Int) (mayWait : Bool) :
    live.Turn mayWait (.send payload priority) (live.send payload priority mayWait).1
      (live.send payload priority mayWait).2 := by
  rw [send]
  cases hclosed : live.contents.closed with
  | true => exact .sendClosed hsize hclosed
  | false =>
      cases hspace : live.contents.hasSpace with
      | true =>
          obtain ⟨slot, rest, hfree⟩ := h.exists_freeSlots hspace
          have henqueue := h.runOn_enqueue hfree hsize priority
          by_cases hordered :
              (live.contents.afterEnqueue slot payload priority).heap.IsOrdered
          · simp only [henqueue, hordered, ↓reduceIte]
            exact .sent hsize hclosed hfree hordered
          · simp only [henqueue, hordered, ↓reduceIte]
            exact .sendAborted hsize hclosed hfree hordered
      | false =>
          have hfull : live.contents.pool.freeCount = 0 := by
            simpa [Contents.hasSpace] using hspace
          cases mayWait with
          | true => exact .sendWaits hsize hclosed hfull rfl
          | false => exact .sendFull hsize hclosed hfull rfl

/-- A pass of a receiver who finds the queue empty is a turn. -/
theorem turn_receive_of_empty {request : Request} (hrequest : request.awaits = some .notEmpty)
    (hempty : live.contents.heap.len = 0) (take : Action Exchange Reply) (mayWait : Bool) :
    live.Turn mayWait request (live.receive request take mayWait).1
      (live.receive request take mayWait).2 := by
  have hnone : live.contents.heap.isEmpty = true := by simpa [Heap.isEmpty] using hempty
  rw [receive]
  rw [hnone]
  cases hclosed : live.contents.closed with
  | true => exact .drained hrequest hempty hclosed
  | false =>
      cases mayWait with
      | true => exact .receiveWaits hrequest hempty hclosed rfl
      | false => exact .receiveEmpty hrequest hempty hclosed rfl

/-- A pass of a receiver without a buffer who finds a message is a turn. -/
theorem turn_takeMessage (h : live.contents.Consistent live.config) {root : Entry}
    (hroot : live.contents.heap.peekMax = some root) (mayWait : Bool) :
    live.Turn mayWait .receive (live.receive .receive Exchange.takeMessage mayWait).1
      (live.receive .receive Exchange.takeMessage mayWait).2 := by
  have hsome : live.contents.heap.isEmpty = false := by
    simpa [Heap.isEmpty, Nat.pos_iff_ne_zero] using (Heap.peekMax_eq_some_iff.mp hroot).1
  rw [receive]
  rw [hsome, Exchange.runOn_takeMessage h hroot]
  by_cases hordered : (live.contents.afterDequeue root).heap.IsOrdered
  · simp only [hordered, ↓reduceIte]
    exact .received rfl hroot rfl hordered
  · simp only [hordered, ↓reduceIte]
    exact .receiveAborted rfl hroot rfl hordered

/-- A pass of a receiver with a buffer who finds a message is a turn. -/
theorem turn_takeInto (h : live.contents.Consistent live.config) {root : Entry}
    (hroot : live.contents.heap.peekMax = some root) (buffer : ByteArray) (mayWait : Bool) :
    live.Turn mayWait (.receiveInto buffer)
      (live.receive (.receiveInto buffer) Exchange.takeInto mayWait).1
      (live.receive (.receiveInto buffer) Exchange.takeInto mayWait).2 := by
  have hsome : live.contents.heap.isEmpty = false := by
    simpa [Heap.isEmpty, Nat.pos_iff_ne_zero] using (Heap.peekMax_eq_some_iff.mp hroot).1
  rw [receive]
  by_cases hroom : buffer.size < (live.contents.message root).payload.size
  · simp only [hsome, Request.buffer, Exchange.runOn_takeInto_of_lt h hroot hroom]
    exact .tooSmall hroot hroom
  · have hfits : (Request.receiveInto buffer).hasRoom (live.contents.message root) = true := by
      simpa [Request.hasRoom] using hroom
    simp only [hsome, Request.buffer, Exchange.runOn_takeInto h hroot (Nat.not_lt.mp hroom)]
    by_cases hordered : (live.contents.afterDequeue root).heap.IsOrdered
    · simp only [hordered, ↓reduceIte]
      exact .received rfl hroot hfits hordered
    · simp only [hordered, ↓reduceIte]
      exact .receiveAborted rfl hroot hfits hordered

/-- **Every pass is a turn.** On consistent contents, nothing else can happen. -/
theorem attempt_turn (h : live.contents.Consistent live.config) (request : Request)
    (mayWait : Bool) :
    live.Turn mayWait request (live.attempt request mayWait).1
      (live.attempt request mayWait).2 := by
  have hroot? : live.contents.heap.len = 0 ∨
      ∃ root, live.contents.heap.peekMax = some root := by
    rcases Nat.eq_zero_or_pos live.contents.heap.len with hempty | hpos
    · exact .inl hempty
    · exact .inr (Heap.exists_peekMax hpos)
  cases request with
  | send payload priority =>
      simp only [attempt]
      split
      · rename_i hsize
        exact .oversized hsize
      · rename_i hsize
        exact turn_send h (Nat.not_lt.mp hsize) priority mayWait
  | receive =>
      rw [attempt]
      rcases hroot? with hempty | ⟨root, hroot⟩
      · exact turn_receive_of_empty rfl hempty _ mayWait
      · exact turn_takeMessage h hroot mayWait
  | receiveInto buffer =>
      rw [attempt]
      rcases hroot? with hempty | ⟨root, hroot⟩
      · exact turn_receive_of_empty rfl hempty _ mayWait
      · exact turn_takeInto h hroot buffer mayWait
  | close =>
      simp only [attempt, close]
      split
      · rename_i hclosed
        exact .closedBefore hclosed
      · rename_i hopen
        exact .closes (Bool.eq_false_of_not_eq_true hopen)

/-! ### What a turn leaves alone -/

variable {mayWait : Bool} {request : Request} {pass : Pass} {live' : Live}

/-- A queue keeps its number and its configuration. -/
theorem Turn.config_eq (h : live.Turn mayWait request pass live') :
    live'.id = live.id ∧ live'.config = live.config := by
  cases h <;> exact ⟨rfl, rfl⟩

/-- **A turn stays consistent.** This holds of aborted passes too, since what is aborted is only
the check of the heap order. -/
theorem Turn.consistent (h : live.Turn mayWait request pass live')
    (hlive : live.contents.Consistent live.config) :
    live'.contents.Consistent live'.config := by
  cases h with
  | sent hsize _ hfree _ => exact hlive.afterEnqueue hfree hsize _
  | sendAborted hsize _ hfree _ => exact hlive.afterEnqueue hfree hsize _
  | received _ hroot _ _ => exact hlive.afterDequeue hroot
  | receiveAborted _ hroot _ _ => exact hlive.afterDequeue hroot
  | closes _ => exact hlive.close
  | _ => exact hlive

/-- Only who may wait parks, and leaves the queue as it was. -/
theorem Turn.eq_of_park {condition : Condition}
    (h : live.Turn mayWait request (.park condition) live') :
    live' = live ∧ mayWait = true := by
  cases h with
  | sendWaits _ _ _ hwait => exact ⟨rfl, hwait⟩
  | receiveWaits _ _ _ hwait => exact ⟨rfl, hwait⟩

end Live

end StableQueue
