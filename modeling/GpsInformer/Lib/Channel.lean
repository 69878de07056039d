import Mathlib.Data.List.Basic

/-!
# FIFO channels

What has been delivered is the beginning of what has been sent; the rest is in flight, and
comes out in chunks of any size.
-/

namespace GpsInformer.Lib

structure Channel (α : Type*) where
  sent : List α := []
  delivered : List α := []
  inOrder : delivered <+: sent := by exact List.nil_prefix

namespace Channel

variable {α : Type*} (c : Channel α)

def inFlight : List α := c.sent.drop c.delivered.length

def send (data : List α) : Channel α where
  sent := c.sent ++ data
  delivered := c.delivered
  inOrder := c.inOrder.trans (List.prefix_append _ _)

/-- The next `size` elements, or as many as there are. -/
def chunk (size : Nat) : List α := c.inFlight.take size

theorem delivered_inFlight : c.delivered ++ c.inFlight = c.sent := by
  obtain ⟨rest, whole⟩ := c.inOrder
  unfold inFlight
  rw [← whole, List.drop_left]

def deliver (size : Nat) : Channel α where
  sent := c.sent
  delivered := c.delivered ++ c.chunk size
  inOrder := by
    refine ⟨c.inFlight.drop size, ?_⟩
    unfold chunk
    rw [List.append_assoc, List.take_append_drop]
    exact c.delivered_inFlight

theorem inOrder_chunk (size : Nat) : c.delivered ++ c.chunk size <+: c.sent :=
  (c.deliver size).inOrder

end Channel

end GpsInformer.Lib
