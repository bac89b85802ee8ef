import Camouflage.Proofs.Relay.Turn
import Mathlib.Tactic.ByContra

namespace Camouflage

def Direction.other : Direction → Direction
  | .outbound => .inbound
  | .inbound => .outbound

namespace Relay

variable {capacities : Capacities} {link : Link} {relay relay' : Relay} {events : List Link.Event}
  {direction : Direction} {error : Option IoError}

def IsDown (relay : Relay) : Prop :=
  relay.isOver = true ∧ ∀ side, (relay.link.on side).tenure = .released

def BothLive (relay : Relay) : Prop := ∀ direction, isLive direction relay.flow = true

/-- The pipe is closed once a direction has ended, and the connections are held until both have. -/
structure Paired (relay : Relay) : Prop where
  open_iff : relay.flow.pipe.closed = false ↔ relay.BothLive
  held : relay.isOver = false → ∀ side, (relay.link.on side).tenure = .held
  released : relay.isOver = true → ∀ side, (relay.link.on side).tenure = .released

lemma bothLive_iff (direction : Direction) :
    relay.BothLive ↔ isLive direction relay.flow = true ∧ isLive direction.other relay.flow = true := by
  constructor
  · intro h
    exact ⟨h _, h _⟩
  · rintro ⟨h, h'⟩ third
    cases direction <;> cases third <;> first | exact h | exact h'

lemma isOver_iff (direction : Direction) :
    relay.isOver = true ↔
      isLive direction relay.flow = false ∧ isLive direction.other relay.flow = false := by
  cases direction <;> simp [isOver, Direction.other, and_comm]

lemma BothLive.not_isOver (h : relay.BothLive) : relay.isOver = false := by
  simp [isOver, h .outbound]

lemma paired_start (link : Link) : (start link).Paired where
  open_iff := by
    constructor
    · intro _ direction
      cases direction <;> rfl
    · intro _
      rfl
  held _ side := by cases side <;> rfl
  released h := by cases h

lemma Paired.stop (h : relay.Paired) (hl : isLive direction relay.flow = true)
    (error : Option IoError) : (relay.stop direction error).Paired := by
  have hover : relay.isOver = false := by cases direction <;> simp [isOver, hl]
  have hdead : isLive direction (relay.stop direction error).flow = false := by
    rw [flow_stop]
    cases direction <;> rfl
  refine ⟨⟨?_, ?_⟩, ?_, ?_⟩
  · intro hc
    rw [flow_stop] at hc
    cases direction <;> cases hc
  · intro hb
    rw [hb direction] at hdead
    cases hdead
  · intro ho
    simp only [Relay.stop] at ho ⊢
    split at ho
    · next hd => exact absurd (hd.symm.trans ho) (by decide)
    · next hd =>
      rw [if_neg hd]
      exact h.held hover
  · intro ho side
    simp only [Relay.stop] at ho ⊢
    split at ho
    · next hd =>
      rw [if_pos hd]
      have hs := h.held hover side
      cases side with
      | near => exact Connection.tenure_release hs
      | far => exact Connection.tenure_release hs
    · next hd => exact absurd ho hd

lemma Paired.of_same (h : relay.Paired) (hc : relay'.flow.pipe = relay.flow.pipe)
    (hl : ∀ direction, isLive direction relay'.flow = isLive direction relay.flow)
    (ht : ∀ side, (relay'.link.on side).tenure = (relay.link.on side).tenure) : relay'.Paired := by
  have ho : relay'.isOver = relay.isOver := by simp only [isOver, hl]
  refine ⟨?_, ?_, ?_⟩
  · rw [hc, h.open_iff]
    simp only [BothLive, hl]
  · intro hf side
    rw [ht, h.held (ho ▸ hf)]
  · intro hf side
    rw [ht, h.released (ho ▸ hf)]

lemma Paired.turn (h : relay.Paired) (ht : Turn capacities relay relay') : relay'.Paired := by
  cases ht with
  | heed _ hl => exact h.stop hl _
  | @outbound lane ht =>
    refine h.of_same rfl (fun direction => ?_) (fun side => by cases side <;> rfl)
    cases direction with
    | inbound => rfl
    | outbound =>
      obtain ⟨hl, hl'⟩ := ht.live
      rw [isLive_outbound_iff.mpr hl]
      exact isLive_outbound_iff.mpr hl'
  | @inbound lane ht =>
    refine h.of_same rfl (fun direction => ?_) (fun side => by cases side <;> rfl)
    cases direction with
    | outbound => rfl
    | inbound =>
      obtain ⟨hl, hl'⟩ := ht.live
      rw [isLive_inbound_iff.mpr hl]
      exact isLive_inbound_iff.mpr hl'
  | haltOutbound hh => exact h.stop (isLive_outbound_iff.mpr hh.live) _
  | @haltInbound source error hh =>
    have hs : (relay.withInbound { relay.inboundLane with source }).Paired :=
      h.of_same rfl (fun direction => by cases direction <;> rfl) (fun side => by cases side <;> rfl)
    exact hs.stop (isLive_inbound_iff.mpr hh.live) _

lemma Paired.notice (h : relay.Paired) (event : Link.Event) : (relay.notice event).Paired :=
  h.of_same rfl (fun _ => rfl) fun side => (Link.kept_apply event relay.link side).2

lemma paired_of_run (h : Run capacities relay events relay') (hp : relay.Paired) : relay'.Paired := by
  induction h with
  | start => exact hp
  | step move _ hs ih => exact ih.turn (turn_of_step hs)
  | notice event _ ih => exact ih.notice event

lemma Paired.isDown (h : relay.Paired) (ho : relay.isOver = true) : relay.IsDown :=
  ⟨ho, h.released ho⟩

lemma Paired.closed (h : relay.Paired) (hb : ¬ relay.BothLive) : relay.flow.pipe.closed = true :=
  Bool.of_not_eq_false fun hc => hb (h.open_iff.mp hc)

lemma Paired.heed (capacities : Capacities) (h : relay.Paired) (hb : ¬ relay.BothLive)
    (hl : isLive direction relay.flow = true) :
    ∃ relay', step capacities relay (.heed direction) = some relay' ∧ relay'.IsDown := by
  have hs := h.stop hl none
  refine ⟨relay.stop direction none, by simp [step, h.closed hb, hl], hs.isDown ?_⟩
  have hother : isLive direction.other relay.flow = false :=
    Bool.of_not_eq_true fun ho => hb ((bothLive_iff direction).mpr ⟨hl, ho⟩)
  rw [isOver_iff direction, flow_stop]
  cases direction with
  | outbound => exact ⟨rfl, hother⟩
  | inbound => exact ⟨rfl, hother⟩

lemma Paired.of_waits (h : relay.Paired) (hw : Waits capacities relay) :
    relay.BothLive ∨ relay.IsDown := by
  by_cases hb : relay.BothLive
  · exact Or.inl hb
  · refine Or.inr (h.isDown ((isOver_iff .outbound).mpr ?_))
    have hdead : ∀ direction, isLive direction relay.flow = false := by
      intro direction
      apply Bool.of_not_eq_true
      intro hl
      obtain ⟨relay', hs, _⟩ := h.heed capacities hb hl
      rw [hw] at hs
      cases hs
    exact ⟨hdead _, hdead _⟩

lemma isLive_of_turn (h : Turn capacities relay relay') (hl : isLive direction relay'.flow = true) :
    isLive direction relay.flow = true := by
  cases direction with
  | outbound =>
    rw [isLive_outbound_iff] at hl ⊢
    change relay'.outboundLane.doing ≠ .ended at hl
    rcases outboundLane_of_turn h with he | ht | he
    · rw [he] at hl
      exact hl
    · exact ht.live.1
    · rw [he] at hl
      exact absurd rfl hl
  | inbound =>
    rw [isLive_inbound_iff] at hl ⊢
    change relay'.inboundLane.doing ≠ .ended at hl
    rcases inboundLane_of_turn h with he | ht | he | ⟨source, error, _, he⟩
    · rw [he] at hl
      exact hl
    · exact ht.live.1
    · rw [he] at hl
      exact absurd rfl hl
    · rw [he] at hl
      exact absurd rfl hl

lemma bothLive_of_run (h : Run capacities relay events relay') (hb : relay'.BothLive) :
    relay.BothLive := by
  induction h with
  | start => exact hb
  | step move _ hs ih => exact ih fun direction => isLive_of_turn (turn_of_step hs) (hb direction)
  | notice event _ ih => exact ih hb

lemma step_of_isOver (h : relay.isOver = true) (move : Move) : step capacities relay move = none := by
  have hdead := (isOver_iff .outbound).mp h
  have ho : relay.flow.outbound = .ended := by
    by_contra hne
    rw [isLive_outbound_iff.mpr hne] at hdead
    cases hdead.1
  have hi : relay.flow.inbound = .ended := by
    by_contra hne
    rw [Direction.other, isLive_inbound_iff.mpr hne] at hdead
    cases hdead.2
  obtain ⟨link, flow⟩ := relay
  simp only at ho hi
  cases move with
  | heed direction => cases direction <;> simp [step, isLive, ho, hi]
  | proceed direction => cases direction <;> simp [step, proceedOutbound, proceedInbound, ho, hi]

def OnlyQueued (events : List Link.Event) (before after : Link) : Prop :=
  ∀ side, (after.on side).sink.taken = (before.on side).sink.taken ∧
    (after.on side).source.chunks =
      (before.on side).source.chunks ++ events.flatMap (Link.Event.arrived side)

lemma untouched_of_run (h : Run capacities relay events relay') (hd : relay.IsDown) :
    relay'.IsDown ∧ relay'.flow = relay.flow ∧ OnlyQueued events relay.link relay'.link := by
  induction h with
  | start => exact ⟨hd, rfl, fun side => ⟨rfl, by simp⟩⟩
  | step move _ hs ih =>
    rw [step_of_isOver ih.1.1] at hs
    cases hs
  | @notice events relay' event _ ih =>
    obtain ⟨⟨ho, hr⟩, hf, hq⟩ := ih
    refine ⟨⟨ho, fun side => ?_⟩, hf, fun side => ⟨?_, ?_⟩⟩
    · exact (Link.kept_apply event relay'.link side).2.trans (hr side)
    · rw [← (hq side).1]
      exact congrArg (fun pieces => pieces.reverse.flatten) (Link.kept_apply event relay'.link side).1
    · rw [List.flatMap_append, ← List.append_assoc, ← (hq side).2, List.flatMap_singleton]
      exact Link.chunks_apply event relay'.link side

lemma acc_step (capacities : Capacities) (relay : Relay) :
    Acc (fun after before => ∃ move, step capacities before move = some after) relay := by
  apply Subrelation.accessible (r := InvImage Less workload)
  · rintro after before ⟨move, hs⟩
    exact workload_step hs
  · exact InvImage.accessible _ (less_wf.apply _)

/-- Where a relay waits, both directions run or both are over and the connections let go. Once one has
ended, the other can heed it at once, turns alone bring the relay down, and it stays so. -/
theorem paired_teardown (h : Run capacities (start link) events relay) :
    (Waits capacities relay → relay.BothLive ∨ relay.IsDown) ∧
    (¬ relay.BothLive →
      (∀ direction, isLive direction relay.flow = true →
        ∃ relay', step capacities relay (.heed direction) = some relay' ∧ relay'.IsDown) ∧
      Acc (fun after before => ∃ move, step capacities before move = some after) relay ∧
      ∀ relay', Run capacities relay [] relay' → Waits capacities relay' → relay'.IsDown) ∧
    (relay.IsDown → ∀ later relay', Run capacities relay later relay' →
      relay'.IsDown ∧ relay'.flow = relay.flow ∧ OnlyQueued later relay.link relay'.link) := by
  have hp := paired_of_run h (paired_start link)
  refine ⟨hp.of_waits, fun hb => ⟨?_, acc_step capacities relay, ?_⟩, ?_⟩
  · intro direction hl
    exact hp.heed capacities hb hl
  · intro relay' hr hw
    rcases (paired_of_run hr hp).of_waits hw with hb' | hd
    · exact absurd (bothLive_of_run hr hb') hb
    · exact hd
  · intro hd later relay' hr
    exact untouched_of_run hr hd

theorem stalled_inbound_heeds : ∃ relay,
    Run {} (start {}) [.limit .near (some ⟨1, .stalls⟩), .arrive .far [[0x17, 3, 3, 0, 2, 1, 2]],
      .finish .near .closed] relay ∧
    relay.flow.inbound = .writing [2] 2 ∧ ¬ relay.BothLive ∧
    ∃ relay', step {} relay (.heed .inbound) = some relay' ∧ relay'.IsDown := by
  have hr : Run {} (start {}) _ _ := .notice (.arrive .far [[0x17, 3, 3, 0, 2, 1, 2]])
    (.notice (.limit .near (some ⟨1, .stalls⟩)) .start)
  have hr := (((hr.step (.proceed .inbound) rfl).step (.proceed .inbound) rfl).step
    (.proceed .inbound) rfl).notice (.finish .near .closed)
  obtain ⟨relay, hr, hi, ho⟩ : ∃ relay, Run {} (start {}) _ relay ∧
      relay.flow.inbound = .writing [2] 2 ∧ relay.flow.outbound = .ended :=
    ⟨_, hr.step (.proceed .outbound) rfl, rfl, rfl⟩
  have hb : ¬ relay.BothLive := fun h => isLive_outbound_iff.mp (h .outbound) ho
  have hl : isLive .inbound relay.flow = true := isLive_inbound_iff.mpr (by rw [hi]; nofun)
  exact ⟨relay, hr, hi, hb, ((paired_teardown hr).2.1 hb).1 .inbound hl⟩

end Relay

end Camouflage
