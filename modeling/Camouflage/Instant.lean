namespace Camouflage

def nanosPerSecond : Nat := 1000000000

structure Span where
  nanos : Nat
  deriving DecidableEq, Repr

namespace Span

def ofParts (seconds nanos : Nat) : Span := ⟨seconds * nanosPerSecond + nanos⟩

def ofSeconds (seconds : Nat) : Span := ofParts seconds 0

def seconds (span : Span) : Nat := span.nanos / nanosPerSecond

def fraction (span : Span) : Nat := span.nanos % nanosPerSecond

@[simp] theorem seconds_ofSeconds (n : Nat) : (ofSeconds n).seconds = n := by
  simp [ofSeconds, ofParts, seconds, nanosPerSecond]

end Span

def secondsBound : Int := 9223372036854775808

/-- Nanoseconds from the epoch. The whole seconds in them fit in 64 bits with a sign. -/
structure Instant where
  nanos : Int
  lower : -secondsBound * nanosPerSecond ≤ nanos
  upper : nanos < secondsBound * nanosPerSecond

namespace Instant

def ofParts? (seconds : Int) (nanos : Nat) : Option Instant :=
  let sum := seconds * nanosPerSecond + nanos
  if h : -secondsBound * nanosPerSecond ≤ sum ∧ sum < secondsBound * nanosPerSecond then
    some ⟨sum, h.1, h.2⟩
  else none

def isBeforeEpoch (instant : Instant) : Bool := instant.nanos < 0

def distance (instant : Instant) : Span := ⟨instant.nanos.natAbs⟩

/-- Points before the epoch count as the epoch. -/
def unixSeconds (instant : Instant) : Nat := instant.nanos.toNat / nanosPerSecond

theorem unixSeconds_lt (instant : Instant) : instant.unixSeconds < 9223372036854775808 := by
  have := instant.upper
  unfold unixSeconds
  unfold secondsBound nanosPerSecond at *
  omega

/-- A replay window has a whole number of seconds, and at least one. -/
def windowIndex (now : Instant) (window : Span) : UInt64 :=
  UInt64.ofNat (now.unixSeconds / max 1 window.seconds)

theorem toNat_windowIndex (now : Instant) (window : Span) :
    (now.windowIndex window).toNat = now.unixSeconds / max 1 window.seconds := by
  have h := Nat.lt_of_le_of_lt (Nat.div_le_self now.unixSeconds (max 1 window.seconds)) now.unixSeconds_lt
  unfold windowIndex
  rw [UInt64.toNat_ofNat', Nat.mod_eq_of_lt (by omega)]

end Instant

end Camouflage
