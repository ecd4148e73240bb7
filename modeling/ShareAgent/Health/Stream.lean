/-! # Streams of updates

A stream brings updates from a loop to a consumer, by way of a channel with room for one of them.
At each tick the loop offers an update and never waits: without room the update is lost, and if the
consumer is gone the loop ends. -/
namespace ShareAgent.Health

/-- A channel: how many items it has room for, those in it with the oldest first, and whether its
receiver is gone. -/
structure Channel (α : Type) where
  capacity : Nat
  items : List α
  closed : Bool
  deriving DecidableEq, Repr

/-- What becomes of an item that is offered. -/
inductive Offer
  | sent
  | full
  | closed
  deriving DecidableEq, Repr

namespace Channel

variable {α : Type}

/-- An empty channel. -/
def ofCapacity (capacity : Nat) : Channel α := ⟨capacity, [], false⟩

/-- The channel has no room. -/
def isFull (c : Channel α) : Bool := c.capacity ≤ c.items.length

/-- Puts an item in, if there is room and a receiver. -/
def offer (c : Channel α) (item : α) : Offer × Channel α :=
  if c.closed then (.closed, c)
  else if c.isFull then (.full, c)
  else (.sent, { c with items := c.items ++ [item] })

/-- Takes the oldest item out, if there is one. -/
def take (c : Channel α) : Option α × Channel α :=
  match c.items with
  | [] => (none, c)
  | item :: rest => (some item, { c with items := rest })

/-- The receiver goes, and with it what is in the channel. -/
def close (c : Channel α) : Channel α := { c with items := [], closed := true }

end Channel

/-- A stream: its channel, how many ticks its loop has made, and whether the loop has ended. -/
structure Stream (α : Type) where
  channel : Channel α
  ticks : Nat
  ended : Bool
  deriving DecidableEq, Repr

namespace Stream

variable {α : Type}

/-- A stream before its first tick. -/
def fresh : Stream α := ⟨.ofCapacity 1, 0, false⟩

/-- A tick of the loop, unless that has ended. -/
def tick (s : Stream α) (item : α) : Stream α :=
  if s.ended then s
  else match s.channel.offer item with
    | (.closed, channel) => ⟨channel, s.ticks + 1, true⟩
    | (_, channel) => ⟨channel, s.ticks + 1, false⟩

/-- Gives the consumer an update, if one waits for him. -/
def receive (s : Stream α) : Option α × Stream α :=
  (s.channel.take.1, { s with channel := s.channel.take.2 })

/-- The consumer goes. -/
def drop (s : Stream α) : Stream α := { s with channel := s.channel.close }

/-- A number of ticks that offer the same item. Those that find the channel full are only
counted. -/
def tickTimes (item : α) : Nat → Stream α → Stream α
  | 0, s => s
  | n + 1, s =>
    let s := s.tick item
    if s.ended then s
    else if s.channel.isFull then { s with ticks := s.ticks + n }
    else tickTimes item n s

end Stream
end ShareAgent.Health
