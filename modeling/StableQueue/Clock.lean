/-!
# Waiting and Deadlines

Time is counted in nanoseconds from some fixed moment, and never runs back. A caller says how
patient it is; together with the time of the call this fixes a `Deadline`, up to which the call
may park. A deadline later than the last instant the clock can show is the same as none.
-/

namespace StableQueue

namespace Clock

/-- The number of nanoseconds in a second. -/
def second : Nat := 1000000000

/-- The number of nanoseconds in a millisecond. -/
def millisecond : Nat := 1000000

/-- The last instant the clock can show: its seconds are a signed 64-bit number. -/
def lastInstant : Nat := 0x7fffffffffffffff * second + (second - 1)

/-- The longest timeout a caller can ask for: its seconds are an unsigned 64-bit number. -/
def longestTimeout : Nat := 0xffffffffffffffff * second + (second - 1)

end Clock

/-- How long a caller is willing to wait. -/
inductive Patience where
  /-- Not at all. -/
  | impatient
  /-- For as long as it takes. -/
  | unlimited
  /-- For at most so many nanoseconds. -/
  | limited (timeout : Nat)
  deriving DecidableEq, Repr

/-- Up to when a call may park. -/
inductive Deadline where
  /-- The call may never park. -/
  | immediate
  /-- The call may park for ever. -/
  | never
  /-- The call may park before this instant, and is woken when it comes. -/
  | instant (time : Nat)
  deriving DecidableEq, Repr

/-- The deadline of a call that is made at time `now`. -/
def Patience.deadline (now : Nat) : Patience → Deadline
  | impatient => .immediate
  | unlimited => .never
  | limited timeout =>
    if now + timeout ≤ Clock.lastInstant then .instant (now + timeout) else .never

namespace Deadline

/-- A call with this deadline may still park at time `now`. -/
def allows (now : Nat) : Deadline → Bool
  | immediate => false
  | never => true
  | instant time => now < time

/-- The instant at which a parked call wakes by itself. -/
def time? : Deadline → Option Nat
  | instant time => some time
  | _ => none

end Deadline

end StableQueue
