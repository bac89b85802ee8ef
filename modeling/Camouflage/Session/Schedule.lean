import Camouflage.Session

/-!
Running a session until everything in it waits. Every turn leads to a later phase, or leaves less to
read or write in the same one.
-/

namespace Camouflage.Session

def Phase.rank : Phase → Nat
  | .awaitingData => 7
  | .dialing _ _ => 6
  | .greeting _ _ _ => 5
  | .discarding _ _ _ => 4
  | .replying _ _ => 3
  | .forwarding _ => 2
  | .relaying _ => 1
  | .empty | .failed _ | .ended _ _ => 0

def phaseWork (session : Session) : Nat × Nat × Nat :=
  match session.phase with
  | .greeting _ _ left | .replying _ left | .forwarding left => (0, left.length, 0)
  | .discarding _ _ _ => (session.link.far.source.bytes.length, 0, 0)
  | .relaying flow => Relay.workload ⟨session.link, flow⟩
  | _ => (0, 0, 0)

def workload (session : Session) : Nat × Nat × Nat × Nat :=
  (session.phase.rank, session.phaseWork)

def Less : Nat × Nat × Nat × Nat → Nat × Nat × Nat × Nat → Prop :=
  Prod.Lex (· < ·) Relay.Less

theorem less_wf : WellFounded Less :=
  (Prod.lex Nat.lt_wfRel ⟨Relay.Less, Relay.less_wf⟩).wf

variable {context : Context} {session session' : Session} {stage : Stage} {error : IoError}
  {first left : Bytes}

theorem less_of_rank (h : session'.phase.rank < session.phase.rank) :
    Less session'.workload session.workload :=
  .left _ _ h

theorem less_of_over {phase : Phase} {n : Nat} (ho : session'.phase.rank = 0)
    (hp : session.phase = phase) (hn : phase.rank = n + 1) :
    Less session'.workload session.workload :=
  less_of_rank (by rw [ho, hp, hn]; omega)

theorem less_of_phaseWork (hr : session'.phase.rank = session.phase.rank)
    (hw : Relay.Less session'.phaseWork session.phaseWork) :
    Less session'.workload session.workload := by
  unfold workload
  rw [hr]
  exact .right _ hw

@[simp] theorem rank_fail : (session.fail stage error).phase.rank = 0 := rfl

theorem rank_greet_le : (session.greet context first).phase.rank ≤ 6 := by
  unfold greet
  split
  · simp
  · simp [Phase.rank]

theorem rank_reply_le : (session.reply first).phase.rank ≤ 3 := by
  unfold reply
  split
  · simp
  · simp [Phase.rank]

theorem less_of_write {again : Bytes → Phase} {done : Session → Session}
    (hp : ∀ left, (again left).rank = session.phase.rank)
    (hw : ∀ link, ∀ rest : Bytes, rest.length < left.length →
      Relay.Less { session with link, phase := again rest : Session }.phaseWork session.phaseWork)
    (hd : ∀ session : Session, (done session).phase.rank < (again []).rank)
    (h : session.write stage left again done = some session') :
    Less session'.workload session.workload := by
  simp only [write] at h
  split at h
  · cases h
  · cases h
    apply less_of_rank
    have := hd session
    rw [hp] at this
    rw [rank_fail]
    omega
  · next rest sink hs =>
    split at h
    · cases h
      apply less_of_rank
      rw [← hp []]
      exact hd _
    · next hrest =>
      cases h
      apply less_of_phaseWork (hp _)
      apply hw
      by_cases hl : left = []
      · simp [hl, Sink.write] at hs
        exact absurd hs.1 hrest
      · exact Sink.length_lt_of_write hl hs

theorem workload_proceed (h : session.proceed context = some session') :
    Less session'.workload session.workload := by
  unfold proceed at h
  split at h
  · next hp =>
    split at h
    · cases h
    · cases h
      exact less_of_over rfl hp rfl
    · cases h
      exact less_of_over rfl hp rfl
    · cases h
      exact less_of_rank (by rw [hp]; exact Nat.lt_of_le_of_lt rank_greet_le (by simp [Phase.rank]))
  · next hp =>
    split at h
    · cases h
    · cases h
      exact less_of_over rfl hp rfl
    · cases h
      exact less_of_rank (by rw [hp]; exact Nat.lt_succ_self 5)
  · next hp =>
    refine less_of_write (fun _ => by rw [hp]; rfl) (fun link rest hr => ?_) (fun _ => ?_) h
    · simp only [phaseWork, hp]
      exact Relay.less_of_write hr
    · simp [Phase.rank, report]
  · next hp =>
    split at h
    · cases h
    · cases h
      exact less_of_over rfl hp rfl
    · cases h
      exact less_of_over rfl hp rfl
    · next hr =>
      have hlt := Source.length_lt_of_read hr
      simp only at h
      split at h
      · cases h
        refine less_of_phaseWork (by rw [hp]; rfl) ?_
        simp only [phaseWork, hp]
        exact Relay.less_of_read hlt
      · cases h
        exact less_of_over rfl hp rfl
      · cases h
        unfold discard
        split
        · refine less_of_phaseWork (by rw [hp]; rfl) ?_
          simp only [phaseWork, hp, report]
          exact Relay.less_of_read hlt
        · refine less_of_rank ?_
          rw [hp]
          exact Nat.lt_of_le_of_lt rank_reply_le (by simp [Phase.rank])
  · next hp =>
    refine less_of_write (fun _ => by rw [hp]; rfl) (fun link rest hr => ?_) (fun _ => ?_) h
    · simp only [phaseWork, hp]
      exact Relay.less_of_write hr
    · simp [Phase.rank]
  · next hp =>
    refine less_of_write (fun _ => by rw [hp]; rfl) (fun link rest hr => ?_) (fun _ => ?_) h
    · simp only [phaseWork, hp]
      exact Relay.less_of_write hr
    · simp [Phase.rank, report]
  · cases h
  · cases h
  · cases h
  · cases h

theorem workload_step {move : Move} (h : step context move session = some session') :
    Less session'.workload session.workload := by
  unfold step at h
  split at h
  · exact workload_proceed h
  · split at h
    · next flow hp =>
      obtain ⟨relay, hr, rfl⟩ := Option.map_eq_some_iff.mp h
      simp only [relayed]
      split
      · exact less_of_rank (by simp [hp, report, Phase.rank])
      · refine less_of_phaseWork (by rw [hp]; rfl) ?_
        simp only [phaseWork, hp]
        exact Relay.workload_step hr
    · cases h

theorem workload_next (h : next context session = some session') :
    Less session'.workload session.workload := by
  obtain ⟨move, _, hm⟩ := List.exists_of_findSome?_eq_some h
  exact workload_step hm

def settle (context : Context) (session : Session) : Session :=
  match _h : next context session with
  | none => session
  | some session => settle context session
termination_by less_wf.wrap session.workload
decreasing_by exact workload_next _h

def Waits (context : Context) (session : Session) : Prop :=
  ∀ move, step context move session = none

theorem next_eq_none_iff : next context session = none ↔ Waits context session := by
  constructor
  · intro h move
    have ha := List.findSome?_eq_none_iff.mp h
    cases move with
    | proceed => exact ha .proceed (by simp [moves])
    | relay move => exact ha (.relay move) (by
        simp only [moves, List.mem_cons, List.mem_map]
        refine Or.inr ⟨move, ?_, rfl⟩
        cases move with
        | heed direction => cases direction <;> simp [Relay.moves]
        | proceed direction => cases direction <;> simp [Relay.moves])
  · intro h
    exact List.findSome?_eq_none_iff.mpr fun move _ => h move

theorem settle_waits (context : Context) (session : Session) :
    Waits context (settle context session) := by
  fun_induction settle context session with
  | case1 session h => exact next_eq_none_iff.mp h
  | case2 session session' h ih => exact ih

end Camouflage.Session
