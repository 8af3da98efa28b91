/-
This file holds the ticker that paces everything with a rate. Its first tick is due
when it is made. From which moment on a tick is granted and when the next one is due
is up to the timer of the runtime. Nobody has to ask for a tick: one that was not
asked for stays due, and however late it is taken, no ticks pile up.

A timer that delays the ticks after a late one makes the next tick due one period
after the last deadline, or after the tick itself when that came late. The timer that
sessions run with does so, but looks at whole milliseconds only, and nothing that it
makes due is more than thirty years ahead. What throttles and replays do is defined
for every timer.

All times are nanoseconds since a common start.
-/

namespace PanelLink.Timing

/-- A millisecond. -/
def millisecond : Nat := 1000000

/-- The first whole millisecond that is not before a moment. -/
def wholeMillisecond (moment : Nat) : Nat :=
  moment + (millisecond - moment % millisecond) % millisecond

/-! ### Timers -/

/-- What a runtime decides about ticks. It is a class, so that everything that ticks carries it
along without naming it. -/
class Timer where
  /-- The moment from which on a tick with a deadline is granted. -/
  grantedFrom (deadline : Nat) : Nat
  /-- The deadline of the tick after one that is taken at a moment. -/
  nextDeadline (period deadline now : Nat) : Nat

namespace Timer

/-- How late a tick may be taken before it moves the ticks after it. -/
def tolerance : Nat := 5 * millisecond

/-- One period after a deadline, or after the tick itself if that came late. -/
def delayed (period deadline now : Nat) : Nat :=
  if now ≤ deadline + tolerance then deadline + period else now + period

/-- How far ahead a deadline of a session can lie: thirty years of 365 days. -/
def horizon : Nat := 30 * 365 * 24 * 60 * 60 * 1000 * millisecond

/-- The timer that sessions run with. In recorded sessions a tick came when the horizon was reached,
if its period was longer. -/
instance running : Timer where
  grantedFrom := wholeMillisecond
  nextDeadline period deadline now := min (delayed period deadline now) (now + horizon)

end Timer

/-! ### Tickers -/

/-- A ticker: the deadline of its next tick and the time between ticks. -/
structure Ticker where
  deadline : Nat
  period : Nat
  deriving DecidableEq, Repr

namespace Ticker

/-- A ticker made at a moment. -/
def start (period now : Nat) : Ticker :=
  ⟨now, period⟩

variable [Timer]

/-- The moment from which on the next tick is granted. -/
def grantedFrom (ticker : Ticker) : Nat :=
  Timer.grantedFrom ticker.deadline

/-- The ticker after a tick that is taken at a moment. -/
def afterTick (ticker : Ticker) (now : Nat) : Ticker :=
  { ticker with deadline := Timer.nextDeadline ticker.period ticker.deadline now }

/-- Asks for a tick; a ticker that does not grant it is unchanged. -/
def tick? (ticker : Ticker) (now : Nat) : Option Ticker :=
  if ticker.grantedFrom ≤ now then some (ticker.afterTick now) else none

end Ticker

end PanelLink.Timing
