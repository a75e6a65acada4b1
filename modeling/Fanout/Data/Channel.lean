/-!
# Fanout — bounded channels

A channel queues up to `capacity` items. One of its ends may let go; what is
offered after that is refused for good. A channel of capacity 0 never takes an
item.

## Results

* `Channel.offer_eq_disconnected_iff` — what is refused for good.
* `Channel.length_offer_le` — the queue never exceeds the capacity.
* `Channel.receive_append_queue` — receiving takes items from the front.
-/

namespace Fanout

/-- The answer to an item that is offered. -/
inductive Offer where
  | delivered
  /-- No room; the item was not taken. -/
  | full
  /-- The receiving side is gone. -/
  | disconnected
  deriving DecidableEq

/-- A bounded queue and whether its receiving end is still held. -/
structure Channel (α : Type) where
  capacity : Nat
  queue : List α := []
  held : Bool := true

namespace Channel

variable {α : Type}

/-- Offer an item. That the receiving end is gone counts before that the queue is full. -/
def offer (channel : Channel α) (item : α) : Offer × Channel α :=
  if !channel.held then (.disconnected, channel)
  else if channel.queue.length < channel.capacity then
    (.delivered, { channel with queue := channel.queue ++ [item] })
  else (.full, channel)

/-- Take the item at the front of the queue. -/
def receive (channel : Channel α) : Option α × Channel α :=
  match channel.queue with
  | [] => (none, channel)
  | item :: rest => (some item, { channel with queue := rest })

/-- Take everything queued. -/
def drain (channel : Channel α) : List α × Channel α :=
  (channel.queue, { channel with queue := [] })

/-- Let go of the receiving end, losing what is queued. -/
def release (channel : Channel α) : Channel α := { channel with held := false, queue := [] }

/-! ## Laws -/

theorem offer_eq_disconnected_iff (channel : Channel α) (item : α) :
    (channel.offer item).1 = .disconnected ↔ channel.held = false := by
  unfold offer
  cases channel.held
  · simp
  · by_cases h : channel.queue.length < channel.capacity <;> simp [h]

theorem length_offer_le (channel : Channel α) (item : α)
    (h : channel.queue.length ≤ channel.capacity) :
    (channel.offer item).2.queue.length ≤ (channel.offer item).2.capacity := by
  unfold offer
  split
  · exact h
  · split
    · rename_i hroom
      simp only [List.length_append, List.length_singleton]
      omega
    · exact h

theorem receive_append_queue (channel : Channel α) :
    channel.receive.1.toList ++ channel.receive.2.queue = channel.queue := by
  unfold receive
  split
  · rename_i h
    simp [h]
  · rename_i h
    simp [h]

end Channel

end Fanout
