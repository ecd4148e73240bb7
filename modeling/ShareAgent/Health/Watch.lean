import ShareAgent.Health.Reporter
import ShareAgent.Health.Stream
import ShareAgent.Machine.Timer

/-! # Watching the health of an agent

A watcher gets the status once in every interval, by a stream of his own: a timer with the interval
as its period ticks for it. Which timer that is, is left open. The clock moves only when everybody
waits. -/
namespace ShareAgent.Health

/-- A watch: its number among all watches, who watches, when its timer began, and its stream. -/
structure Watch where
  number : Nat
  watcher : Nat
  began : Nat
  stream : Stream Serving
  deriving DecidableEq, Repr

/-- A reporter and its timer, with the watches whose loops have not ended. The time is in
nanoseconds. -/
structure Ward where
  reporter : Reporter
  timer : Timer
  time : Nat
  begun : Nat
  watches : List Watch

namespace Watch

/-- The watcher is gone. -/
def isGone (w : Watch) : Bool := w.stream.channel.closed

/-- The watch with the ticks up to a time made; none if its loop has ended. -/
def update (reporter : Reporter) (timer : Timer) (time : Nat) (w : Watch) : Option Watch :=
  let due := timer.count reporter.interval w.began time
  let stream := w.stream.tickTimes reporter.status (due - w.stream.ticks)
  if stream.ended then none else some { w with stream := stream }

end Watch

namespace Ward

/-- A ward without watchers. -/
def openOn (timer : Timer) (reporter : Reporter) : Ward := ⟨reporter, timer, 0, 0, []⟩

/-- A ward on a machine in memory. -/
def open_ (reporter : Reporter) : Ward := openOn Machine.timer reporter

/-- The milliseconds that have passed. -/
def clock (w : Ward) : Nat := (⟨w.time⟩ : Span).milliseconds

/-- Makes the ticks up to a time. -/
def update (w : Ward) (time : Nat) : Ward :=
  { w with watches := w.watches.filterMap (Watch.update w.reporter w.timer time) }

/-- Lets a watcher go. -/
def drop (w : Ward) (watcher : Nat) : Ward :=
  { w with watches := w.watches.map fun watch =>
      if watch.watcher = watcher then { watch with stream := watch.stream.drop } else watch }

/-- Begins a watch in place of an earlier one of the same watcher. -/
def watch (w : Ward) (watcher : Nat) : Ward :=
  let w := w.drop watcher
  { w with
    begun := w.begun + 1
    watches := w.watches ++ [⟨w.begun, watcher, w.time, .fresh⟩] }

/-- The watch of a watcher who is there. -/
def watchOf? (w : Ward) (watcher : Nat) : Option Watch :=
  w.watches.find? fun watch => watch.watcher == watcher && ! watch.isGone

/-- Waits for a number of milliseconds. Ticks that are due at its very end come later. -/
def sleep (w : Ward) (milliseconds : Nat) : Ward :=
  let time := w.time + (Span.ofMilliseconds milliseconds).nanoseconds
  if milliseconds = 0 then w else { w.update (time - 1) with time := time }

/-- A watcher takes the update that waits for him. -/
def take (w : Ward) (watcher : Nat) : Option Serving × Ward :=
  ((w.watchOf? watcher).bind fun watch => watch.stream.receive.1,
    { w with watches := w.watches.map fun watch =>
        if watch.watcher = watcher && ! watch.isGone then
          { watch with stream := watch.stream.receive.2 }
        else watch })

/-- Waits until an update waits for a watcher, if he watches. -/
def await (w : Ward) (watcher : Nat) : Ward :=
  match w.watchOf? watcher with
  | none => w
  | some watch =>
    if watch.stream.channel.items.isEmpty then
      let time := max w.time (w.timer.time w.reporter.interval watch.began watch.stream.ticks)
      { w.update time with time := time }
    else w

/-- The next status that a watcher gets, if he watches; he waits for it. -/
def next (w : Ward) (watcher : Nat) : Option Serving × Ward := (w.await watcher).take watcher

end Ward
end ShareAgent.Health
