import Boomerang.Counters
import Boomerang.Log
import Boomerang.Text.Shortest

/-!
The statistics report: for each queue what was counted since the last report, then the totals of
the same differences, both also as rates over the time that has passed. A queue that appears between
two reports counts from zero.
-/

set_option autoImplicit false

namespace Boomerang

/-- Names of the devices, the counters as the last report saw them, and when that was, in
nanoseconds. -/
structure Stats where
  names : List String
  last : Register
  lastAt : Nat

namespace Stats

def start (names : List String) (moment : Nat) : Stats := ⟨names, [], moment⟩

def deltas (s : Stats) (now : Register) : List (QueueId × Counters) :=
  now.map fun (id, c) => (id, c.since ((s.last.get? id).getD Counters.zero))

/-- The seconds since the last report, at least the distance from one to the next number so that
they can be divided by. -/
def seconds (s : Stats) (moment : Nat) : Float :=
  let elapsed := moment - s.lastAt
  let whole := (UInt64.ofNat (elapsed / 1000000000)).toFloat
  let fraction := (UInt64.ofNat (elapsed % 1000000000)).toFloat / 1e9
  max (whole + fraction) 2.220446049250313e-16

def perSecond (count : UInt64) (seconds : Float) : String :=
  toString (count.toFloat / seconds).toUInt64.toNat

def megabits (bytes : UInt64) (seconds : Float) : String :=
  Text.float (bytes.toFloat * 8.0 / seconds / 1e6)

def queueEvent (names : List String) (seconds : Float) (id : QueueId) (delta : Counters) :
    Log.Event :=
  ⟨.info, "Queue stats",
    [("device", names.getD id.device "?"), ("queue", toString id.queue),
      ("rx_pps", perSecond delta.rxPackets seconds), ("tx_pps", perSecond delta.txPackets seconds),
      ("rx_mbps", megabits delta.rxBytes seconds), ("tx_mbps", megabits delta.txBytes seconds),
      ("dropped", toString delta.dropped.toNat), ("tx_errors", toString delta.txErrors.toNat),
      ("rx_nombuf", toString delta.rxStarved.toNat)]⟩

def totalEvent (seconds : Float) (total : Counters) : Log.Event :=
  ⟨.info, "Total stats",
    [("rx_pps", perSecond total.rxPackets seconds), ("tx_pps", perSecond total.txPackets seconds),
      ("dropped", toString total.dropped.toNat), ("tx_errors", toString total.txErrors.toNat),
      ("rx_nombuf", toString total.rxStarved.toNat)]⟩

/-- What the report remembers for the next one: every queue seen so far. -/
def remember (last now : Register) : Register :=
  now.foldl (fun last (id, c) => last.put id c) last

def report (s : Stats) (moment : Nat) (now : Register) : List Log.Event × Stats :=
  let seconds := s.seconds moment
  let deltas := s.deltas now
  (deltas.map (fun (id, delta) => queueEvent s.names seconds id delta) ++
      [totalEvent seconds (Counters.sum (deltas.map Prod.snd))],
    { s with last := remember s.last now, lastAt := moment })

end Stats

end Boomerang
