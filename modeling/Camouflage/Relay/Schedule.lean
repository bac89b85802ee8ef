import Camouflage.Relay

/-!
Running a relay until both directions wait. Every turn makes less of what is left to do: of bytes to
read, then of bytes to write, then of directions that run.
-/

namespace Camouflage.Relay

def Outbound.pending : Outbound → Nat
  | .writing left _ => left.length + 1
  | _ => 0

def Inbound.pending : Inbound → Nat
  | .writing left _ => left.length + 1
  | _ => 0

def Flow.liveCount (flow : Flow) : Nat :=
  (isLive .outbound flow).toNat + (isLive .inbound flow).toNat

/-- What is left to do, the most important part first. -/
def workload (relay : Relay) : Nat × Nat × Nat :=
  (relay.link.near.source.bytes.length + relay.link.far.source.bytes.length,
    relay.flow.outbound.pending + relay.flow.inbound.pending,
    relay.flow.liveCount)

def Less : Nat × Nat × Nat → Nat × Nat × Nat → Prop :=
  Prod.Lex (· < ·) (Prod.Lex (· < ·) (· < ·))

theorem less_wf : WellFounded Less :=
  (Prod.lex Nat.lt_wfRel (Prod.lex Nat.lt_wfRel Nat.lt_wfRel)).wf

variable {capacities : Capacities} {relay relay' : Relay} {direction : Direction}
  {error : Option IoError} {move : Move}

theorem less_of_read {a b c a' b' c' : Nat} (h : a' < a) : Less (a', b', c') (a, b, c) :=
  .left _ _ h

theorem less_of_write {a b c b' c' : Nat} (h : b' < b) : Less (a, b', c') (a, b, c) :=
  .right _ (.left _ _ h)

theorem less_of_stop {a b c b' c' : Nat} (hb : b' ≤ b) (hc : c' < c) :
    Less (a, b', c') (a, b, c) := by
  rcases Nat.lt_or_eq_of_le hb with hb | rfl
  · exact less_of_write hb
  · exact .right _ (.right _ hc)

@[simp] theorem flow_stop : (relay.stop direction error).flow = relay.flow.stop direction error := by
  simp only [stop]
  split <;> rfl

theorem near_source_stop :
    (relay.stop direction error).link.near.source = relay.link.near.source := by
  simp only [stop]
  split
  · simp [Link.release]
  · rfl

theorem far_source_stop :
    (relay.stop direction error).link.far.source = relay.link.far.source := by
  simp only [stop]
  split
  · simp [Link.release]
  · rfl

theorem workload_stop (h : isLive direction relay.flow = true) :
    Less (relay.stop direction error).workload relay.workload := by
  simp only [workload, near_source_stop, far_source_stop, flow_stop]
  cases direction with
  | outbound =>
    apply less_of_stop
    · simp [Flow.stop, Outbound.pending]
    · simp [Flow.stop, Flow.liveCount, isLive] at h ⊢
      simp [h]
  | inbound =>
    apply less_of_stop
    · simp [Flow.stop, Inbound.pending]
    · simp [Flow.stop, Flow.liveCount, isLive] at h ⊢
      simp [h]

theorem workload_proceedOutbound (h : proceedOutbound capacities relay = some relay') :
    Less relay'.workload relay.workload := by
  obtain ⟨link, flow⟩ := relay
  simp only [proceedOutbound] at h
  split at h
  · cases h
  · next ho =>
    have hl : isLive .outbound flow = true := by simp [isLive, ho]
    split at h
    · cases h
    · cases h
      exact workload_stop hl
    · cases h
      exact workload_stop hl
    · next hr =>
      cases h
      exact less_of_read (by
        have := Source.length_lt_of_read hr
        simp only
        omega)
  · next left size ho =>
    have hl : isLive .outbound flow = true := by simp [isLive, ho]
    split at h
    · cases h
    · cases h
      exact workload_stop hl
    · next rest sink hw =>
      split at h
      · cases h
        exact less_of_write (by simp [ho, Outbound.pending])
      · next hrest =>
        cases h
        refine less_of_write ?_
        by_cases hb : left = []
        · simp [hb, Sink.write] at hw
          exact absurd hw.1 hrest
        · have := Sink.length_lt_of_write hb hw
          simp only [ho, Outbound.pending]
          omega

theorem workload_proceedInbound (h : proceedInbound capacities relay = some relay') :
    Less relay'.workload relay.workload := by
  obtain ⟨link, flow⟩ := relay
  simp only [proceedInbound] at h
  split at h
  · cases h
  · next reader hi =>
    have hl : isLive .inbound flow = true := by simp [isLive, hi]
    split at h
    · cases h
    · cases h
      exact workload_stop hl
    · cases h
      exact workload_stop hl
    · next piece source hr =>
      have hlt := Source.length_lt_of_read hr
      split at h
      · cases h
        exact less_of_read (by simp only; omega)
      · cases h
        refine less_of_read ?_
        rw [near_source_stop, far_source_stop]
        simp only
        omega
      · split at h
        · cases h
          exact less_of_read (by simp only; omega)
        · cases h
          exact less_of_read (by simp only; omega)
  · next left size hi =>
    have hl : isLive .inbound flow = true := by simp [isLive, hi]
    split at h
    · cases h
    · cases h
      exact workload_stop hl
    · next rest sink hw =>
      split at h
      · cases h
        exact less_of_write (by simp [hi, Inbound.pending])
      · next hrest =>
        cases h
        refine less_of_write ?_
        by_cases hb : left = []
        · simp [hb, Sink.write] at hw
          exact absurd hw.1 hrest
        · have := Sink.length_lt_of_write hb hw
          simp only [hi, Inbound.pending]
          omega

theorem workload_step (h : step capacities relay move = some relay') :
    Less relay'.workload relay.workload := by
  unfold step at h
  split at h
  · split at h
    · next hc =>
      cases h
      exact workload_stop (Bool.and_eq_true_iff.mp hc).2
    · cases h
  · exact workload_proceedOutbound h
  · exact workload_proceedInbound h

theorem workload_next (h : next capacities relay = some relay') :
    Less relay'.workload relay.workload := by
  obtain ⟨move, _, hm⟩ := List.exists_of_findSome?_eq_some h
  exact workload_step hm

def settle (capacities : Capacities) (relay : Relay) : Relay :=
  match _h : next capacities relay with
  | none => relay
  | some relay => settle capacities relay
termination_by less_wf.wrap relay.workload
decreasing_by exact workload_next _h

def Waits (capacities : Capacities) (relay : Relay) : Prop :=
  ∀ move, step capacities relay move = none

theorem next_eq_none_iff : next capacities relay = none ↔ Waits capacities relay := by
  constructor
  · intro h move
    exact List.findSome?_eq_none_iff.mp h move (by
      cases move with
      | heed direction => cases direction <;> simp [moves]
      | proceed direction => cases direction <;> simp [moves])
  · intro h
    exact List.findSome?_eq_none_iff.mpr fun move _ => h move

theorem settle_waits (capacities : Capacities) (relay : Relay) :
    Waits capacities (settle capacities relay) := by
  fun_induction settle capacities relay with
  | case1 relay h => exact next_eq_none_iff.mp h
  | case2 relay relay' h ih => exact ih

end Camouflage.Relay
