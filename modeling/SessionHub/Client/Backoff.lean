import SessionHub.Settings

/-!
# Backoff

Delays in milliseconds between attempts to connect. Each delay is twice the one before,
up to a greatest delay.
-/

namespace SessionHub
namespace Client

/-- Delays that double. -/
structure Backoff where
  base : Nat
  greatest : Nat
  current : Nat
deriving DecidableEq, Repr

namespace Backoff

/-- The least delay. -/
def leastDelay : Nat := 1

/-- Delays from `base` up to `greatest`. No delay is below the least one, and the first
is not above the greatest. -/
def ofBounds (base greatest : Nat) : Backoff :=
  let top := max greatest leastDelay
  let start := min (max base leastDelay) top
  ⟨start, top, start⟩

/-- The configured delays. -/
def ofSettings (settings : ClientSettings) : Backoff :=
  ofBounds settings.reconnectBase.toNat settings.reconnectMax.toNat

/-- The delay to wait now, and the delays after it. -/
def next (backoff : Backoff) : Nat × Backoff :=
  (backoff.current, { backoff with current := min (backoff.current * 2) backoff.greatest })

/-- Start again with the first delay. -/
def reset (backoff : Backoff) : Backoff :=
  { backoff with current := backoff.base }

end Backoff
end Client
end SessionHub
