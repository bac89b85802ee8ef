import Camouflage.Instant
import Mathlib.Tactic.Lemma

namespace Camouflage

def Span.width (window : Span) : Nat := max 1 window.seconds * nanosPerSecond

lemma Span.width_pos (window : Span) : 0 < window.width :=
  Nat.mul_pos (Nat.le_max_left 1 window.seconds) (by decide)

namespace Instant

variable {now later : Instant} {window : Span} {seconds : Int} {nanos index : Nat}

lemma ofParts?_eq_some_iff :
    ofParts? seconds nanos = some now ↔ now.nanos = seconds * nanosPerSecond + nanos := by
  rw [ofParts?]
  constructor
  · intro h
    split at h
    · cases h
      rfl
    · cases h
  · intro h
    obtain ⟨_, lower, upper⟩ := now
    subst h
    exact dif_pos ⟨lower, upper⟩

lemma toNat_windowIndex_eq :
    (now.windowIndex window).toNat = now.nanos.toNat / window.width := by
  rw [toNat_windowIndex, unixSeconds, Nat.div_div_eq_div_mul, Span.width, Nat.mul_comm]

lemma windowIndex_of_neg (h : now.nanos < 0) : now.windowIndex window = 0 := by
  apply UInt64.toNat_inj.mp
  rw [toNat_windowIndex_eq, Int.toNat_of_nonpos (Int.le_of_lt h), Nat.zero_div]
  rfl

lemma toNat_windowIndex_eq_iff (hn : 0 ≤ now.nanos) : (now.windowIndex window).toNat = index ↔
    (index * window.width : Nat) ≤ now.nanos ∧ now.nanos < ((index + 1) * window.width : Nat) := by
  have hw := window.width_pos
  rw [toNat_windowIndex_eq, Nat.div_eq_iff hw, Nat.add_one_mul]
  omega

lemma windowIndex_mono (h : now.nanos ≤ later.nanos) :
    now.windowIndex window ≤ later.windowIndex window := by
  rw [UInt64.le_iff_toNat_le, toNat_windowIndex_eq, toNat_windowIndex_eq]
  exact Nat.div_le_div_right (Int.toNat_le_toNat h)

lemma windowIndex_lt (hn : 0 ≤ now.nanos) (h : now.nanos + window.width ≤ later.nanos) :
    now.windowIndex window < later.windowIndex window := by
  have hle : now.nanos.toNat + window.width ≤ later.nanos.toNat := by omega
  have hd := Nat.div_le_div_right (c := window.width) hle
  rw [Nat.add_div_right _ window.width_pos] at hd
  rw [UInt64.lt_iff_toNat_lt, toNat_windowIndex_eq, toNat_windowIndex_eq]
  exact hd

lemma windowIndex_ne (hn : 0 ≤ now.nanos) (hl : 0 ≤ later.nanos)
    (h : window.width ≤ (later.nanos - now.nanos).natAbs) :
    later.windowIndex window ≠ now.windowIndex window := by
  rcases Int.le_total now.nanos later.nanos with hle | hle
  · exact (UInt64.ne_of_lt (windowIndex_lt hn (by omega))).symm
  · exact UInt64.ne_of_lt (windowIndex_lt hl (by omega))

lemma toNat_windowIndex_le (h : later.nanos < now.nanos + window.width) :
    (later.windowIndex window).toNat ≤ (now.windowIndex window).toNat + 1 := by
  have hle : later.nanos.toNat ≤ now.nanos.toNat + window.width := by omega
  rw [toNat_windowIndex_eq, toNat_windowIndex_eq, ← Nat.add_div_right _ window.width_pos]
  exact Nat.div_le_div_right hle

/-- From the epoch on, the window with an index holds just the points from as many window lengths on and
before the next. Its index never falls, a whole window later it is another one, and less than that later
it has gone up by one at most. -/
theorem windows_divide_time (window : Span) :
    (∀ seconds nanos now,
      ofParts? seconds nanos = some now ↔ now.nanos = seconds * nanosPerSecond + nanos) ∧
    (∀ now : Instant, now.nanos < 0 → now.windowIndex window = 0) ∧
    (∀ now : Instant, 0 ≤ now.nanos → ∀ index : Nat, (now.windowIndex window).toNat = index ↔
      (index * window.width : Nat) ≤ now.nanos ∧ now.nanos < ((index + 1) * window.width : Nat)) ∧
    (∀ now later : Instant, now.nanos ≤ later.nanos →
      now.windowIndex window ≤ later.windowIndex window) ∧
    (∀ now later : Instant, 0 ≤ now.nanos → 0 ≤ later.nanos →
      window.width ≤ (later.nanos - now.nanos).natAbs →
      later.windowIndex window ≠ now.windowIndex window) ∧
    (∀ now later : Instant, (later.nanos - now.nanos).natAbs < window.width →
      (later.windowIndex window).toNat ≤ (now.windowIndex window).toNat + 1 ∧
      (now.windowIndex window).toNat ≤ (later.windowIndex window).toNat + 1) := by
  refine ⟨?_, ?_, ?_, ?_, ?_, ?_⟩
  · intro seconds nanos now
    exact ofParts?_eq_some_iff
  · intro now hn
    exact windowIndex_of_neg hn
  · intro now hn index
    exact toNat_windowIndex_eq_iff hn
  · intro now later hle
    exact windowIndex_mono hle
  · intro now later hn hl hd
    exact windowIndex_ne hn hl hd
  · intro now later hd
    exact ⟨toNat_windowIndex_le (by omega), toNat_windowIndex_le (by omega)⟩

/-- The nanosecond before the epoch, the last of the first window, and the first of the second, which is
given by a carry from the nanoseconds. Half a second does not count in a window of sixty and a half. -/
theorem carry_begins_second_window :
    let window := Span.ofParts 60 500000000
    ∃ before last next : Instant,
      ofParts? (-1) 999999999 = some before ∧ ofParts? 59 999999999 = some last ∧
      ofParts? 59 1000000000 = some next ∧ before.nanos < 0 ∧ 0 ≤ last.nanos ∧ 0 ≤ next.nanos ∧
      before.windowIndex window = 0 ∧ (last.windowIndex window).toNat = 0 ∧
      (next.windowIndex window).toNat = 1 ∧
      last.nanos ≤ next.nanos ∧ last.windowIndex window ≤ next.windowIndex window ∧
      window.width ≤ (next.nanos - (0 : Int)).natAbs ∧
      next.windowIndex window ≠ (⟨0, by decide, by decide⟩ : Instant).windowIndex window ∧
      (next.nanos - last.nanos).natAbs < window.width ∧
      (next.windowIndex window).toNat ≤ (last.windowIndex window).toNat + 1 := by
  intro window
  let before : Instant := ⟨-1, by decide, by decide⟩
  let last : Instant := ⟨59999999999, by decide, by decide⟩
  let next : Instant := ⟨60000000000, by decide, by decide⟩
  obtain ⟨hparts, hneg, hindex, hmono, hne, hnear⟩ := windows_divide_time window
  refine ⟨before, last, next, (hparts _ _ _).mpr rfl, (hparts _ _ _).mpr rfl, (hparts _ _ _).mpr rfl,
    by decide, by decide, by decide, hneg before (by decide), ?_, ?_, by decide,
    hmono last next (by decide), by decide, hne _ next (by decide) (by decide) (by decide), by decide,
    (hnear last next (by decide)).1⟩
  · exact (hindex last (by decide) 0).mpr (by decide)
  · exact (hindex next (by decide) 1).mpr (by decide)

end Instant

end Camouflage
