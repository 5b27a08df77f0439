import PointRelay.Failure

/-!
# Transports

A transport carries batches to one endpoint. Each of its operations is a step on the transport and
on the network that it shares with others, and answers with success or with a connection error.
-/

namespace PointRelay

/-- What an operation on a transport answers and leaves behind. -/
structure Effect (τ ω : Type) where
  answer : Except ConnectionError Unit
  transport : τ
  net : ω

/-- Transports of type `τ` over a network of type `ω`. -/
class Transport (τ : Type) (ω : outParam Type) where
  endpoint : τ → String
  /-- Carry a batch over. -/
  write : Batch → τ → ω → Effect τ ω
  /-- Ask for a database to be created. -/
  create : String → τ → ω → Effect τ ω
  close : τ → ω → Effect τ ω
  /-- The milliseconds after which a write started now is answered. -/
  latency : τ → Nat := fun _ => 0

end PointRelay
