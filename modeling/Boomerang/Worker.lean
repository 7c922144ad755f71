import Boomerang.Answer.Frame
import Boomerang.Counters
import Boomerang.Cursor.Summary
import Boomerang.Log
import Boomerang.Outbox

/-!
A worker serves one queue: it flushes its outbox, receives a burst, answers every frame in place
and puts the answers into the outbox. Packets that it lets go of are listed in the order in which
they return to the pool. Queue errors are counted, and logged when their number is a power of two.
-/

set_option autoImplicit false

namespace Boomerang

structure Worker.Setup where
  id : Nat
  numaNode : Nat
  queue : QueueId
  txQueue : Nat
  burstSize : Nat
  outboxSize : Nat
  dryRun : Bool
  tracePackets : Bool
  vxlanPort : UInt16
  mac : Mac

inductive Worker.Phase where
  | init | polling | processing | stopped
  deriving DecidableEq, Repr

structure Worker (σ : Type) where
  setup : Worker.Setup
  queue : σ
  outbox : Outbox
  counters : Counters
  phase : Worker.Phase
  errors : UInt64

structure Worker.Effects where
  released : List Packet
  log : List Log.Event

namespace Worker

variable {σ : Type} [PacketQueue σ]

def start (setup : Setup) (queue : σ) : Worker σ :=
  ⟨setup, queue, Outbox.ofCapacity setup.outboxSize, Counters.zero, .init, 0⟩

def pending (w : Worker σ) : Nat := w.outbox.size

def isPowerOfTwo (n : UInt64) : Bool := n != 0 && 1 <<< n.toNat.log2 == n.toNat

def errorEvent (worker : Nat) (direction error : String) (count : UInt64) : Log.Event :=
  ⟨.warn, "Queue I/O error",
    [("worker", toString worker), ("dir", direction), ("error", error),
      ("count", toString count.toNat)]⟩

def countError (w : Worker σ) (error : Option String) : Worker σ :=
  { w with errors := if error.isSome then w.errors + 1 else w.errors }

/-- The event of a queue error that is not counted yet. -/
def errorLog (w : Worker σ) (direction : String) : Option String → List Log.Event
  | none => []
  | some error =>
    if isPowerOfTwo (w.errors + 1) then [errorEvent w.setup.id direction error (w.errors + 1)]
    else []

def account (w : Worker σ) (f : Flush) : Worker σ :=
  { w with
    counters :=
      (w.counters.addSent f.sent f.sentBytes).addRefused f.refused.length }.countError f.error

def flush (w : Worker σ) : Worker σ × Effects :=
  let r := w.outbox.flush w.queue
  ({ w with outbox := r.2.1, queue := r.2.2 }.account r.1, ⟨r.1.refused, w.errorLog "tx" r.1.error⟩)

def traceEvent (setup : Setup) (message : String) : Log.Event :=
  ⟨.debug, message, [("worker", toString setup.id)]⟩

/-- The text of a summary; a frame under a fresh or parsed cursor always has one. -/
def summaryText (c : Cursor) : String := (c.summary?.map Summary.text).getD ""

/-- Answers one packet; a dry run forwards it as it came. -/
def answer (setup : Setup) (packet : Packet) : Verdict × Packet :=
  if setup.dryRun then (.forward, packet)
  else
    let r := reflect setup.mac setup.vxlanPort packet.slot
    (r.verdict, { packet with slot := r.cursor.slot })

def answerLog (setup : Setup) (packet : Packet) : List Log.Event :=
  if setup.dryRun || !setup.tracePackets then []
  else
    let r := reflect setup.mac setup.vxlanPort packet.slot
    [traceEvent setup ("rx " ++ summaryText (Cursor.ofSlot packet.slot)),
      traceEvent setup (if r.verdict = .forward then "tx " ++ summaryText r.cursor else "drop")]

structure Burst (σ : Type) where
  outbox : Outbox
  queue : σ
  flushed : Flush
  dropped : Nat
  released : List Packet
  log : List Log.Event

/-- Answers one packet of the burst, and buffers or drops it. -/
def Burst.step (setup : Setup) (b : Burst σ) (packet : Packet) : Burst σ :=
  let answered := answer setup packet
  let log := b.log ++ answerLog setup packet
  if answered.1 = .forward then
    let r := b.outbox.append answered.2 b.queue
    ⟨r.2.1, r.2.2, b.flushed.merge r.1, b.dropped, b.released ++ r.1.refused, log⟩
  else { b with dropped := b.dropped + 1, released := b.released ++ [answered.2], log }

def Burst.run (setup : Setup) (outbox : Outbox) (queue : σ) (packets : List Packet) : Burst σ :=
  packets.foldl (Burst.step setup) ⟨outbox, queue, Flush.none, 0, [], []⟩

def process (w : Worker σ) (packets : List Packet) : Worker σ × Effects :=
  let b := Burst.run w.setup w.outbox w.queue packets
  ({ w with
      phase := .processing, outbox := b.outbox, queue := b.queue,
      counters :=
        (w.counters.addReceived packets.length (Packet.bytes packets)).addDropped b.dropped
    }.account b.flushed,
    ⟨b.released, b.log ++ w.errorLog "tx" b.flushed.error⟩)

def receive (w : Worker σ) : Reception × Worker σ :=
  let r := PacketQueue.receive w.queue w.setup.burstSize
  let starved := PacketQueue.takeStarved r.2
  (r.1,
    { w with queue := starved.2, counters := w.counters.addStarved starved.1 }.countError r.1.error)

/-- One round of polling. The number is how many packets the queue reported as received: none if
the reception failed, even after a part of it. -/
def poll (w : Worker σ) : Nat × Worker σ × Effects :=
  let flushed := { w with phase := .polling }.flush
  let received := flushed.1.receive
  let packets := received.1.packets
  let count := if received.1.error.isSome then 0 else packets.length
  let log := flushed.2.log ++ flushed.1.errorLog "rx" received.1.error
  if packets.isEmpty then (count, received.2, ⟨flushed.2.released, log⟩)
  else
    let processed := received.2.process packets
    (count, processed.1, ⟨flushed.2.released ++ processed.2.released, log ++ processed.2.log⟩)

def shutdown (w : Worker σ) : Worker σ × Effects :=
  let flushed := w.flush
  ({ flushed.1 with phase := .stopped }, flushed.2)

def startedEvent (setup : Setup) : Log.Event :=
  ⟨.info, "Worker started",
    [("worker", toString setup.id), ("numa_node", toString setup.numaNode),
      ("device", deviceText setup.queue.device), ("rx_queue", toString setup.queue.queue),
      ("tx_queue", toString setup.txQueue)]⟩

def stoppedEvent (setup : Setup) : Log.Event :=
  ⟨.info, "Worker stopped", [("worker", toString setup.id)]⟩

def polls : Nat → Worker σ → Worker σ × Effects
  | 0, w => (w, ⟨[], []⟩)
  | n + 1, w =>
    let first := w.poll
    let rest := polls n first.2.1
    (rest.1, ⟨first.2.2.released ++ rest.2.released, first.2.2.log ++ rest.2.log⟩)

/-- Polls `rounds` times before the stop flag is seen, then shuts down. -/
def run (rounds : Nat) (w : Worker σ) : Worker σ × Effects :=
  let polled := polls rounds w
  let last := polled.1.shutdown
  (last.1, ⟨polled.2.released ++ last.2.released,
    startedEvent w.setup :: polled.2.log ++ last.2.log ++ [stoppedEvent w.setup]⟩)

omit [PacketQueue σ] in
@[simp] theorem outbox_account (w : Worker σ) (f : Flush) : (w.account f).outbox = w.outbox := rfl

@[simp] theorem pending_flush (w : Worker σ) : w.flush.1.pending = 0 := by
  simp [flush, pending, Outbox.size]

@[simp] theorem pending_shutdown (w : Worker σ) : w.shutdown.1.pending = 0 := w.pending_flush

end Worker

end Boomerang
