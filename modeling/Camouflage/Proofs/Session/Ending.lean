import Camouflage.Proofs.Session.Inbound
import Camouflage.Proofs.Session.Outbound

/-! How a session comes to its end: by one last turn, behind which only the world goes on. -/

namespace Camouflage

lemma Link.isShut_apply (event : Event) (link : Link) (side : Side) :
    ((link.apply event).on side).isShut = (link.on side).isShut := by
  cases event with
  | arrive other chunks => cases other <;> cases side <;> rfl
  | finish other ending => cases other <;> cases side <;> rfl
  | limit other limit => cases other <;> cases side <;> rfl
  | refuseShut other error => cases other <;> cases side <;> rfl

namespace Session

variable {context : Context} {start session session' : Session} {happenings later : List Happening}
  {stage : Stage} {error : IoError}

def HasRelay (session : Session) : Prop :=
  match session.phase with
  | .relaying _ | .ended _ _ => True
  | _ => False

lemma HasRelay.rank (h : session.HasRelay) : session.phase.rank ≤ 1 := by
  simp only [HasRelay] at h
  split at h
  · next hp =>
    rw [hp]
    exact Nat.le_refl 1
  · next hp =>
    rw [hp]
    exact Nat.zero_le 1
  · exact h.elim

lemma one_lt_rank (hn : ¬ session.HasRelay) (hr : 0 < session.phase.rank) :
    1 < session.phase.rank := by
  simp only [HasRelay] at hn
  cases hp : session.phase with
  | relaying _ => simp [hp] at hn
  | empty => simp [hp, Phase.rank] at hr
  | failed _ => simp [hp, Phase.rank] at hr
  | ended _ _ => simp [hp, Phase.rank] at hr
  | _ => simp [Phase.rank]

lemma hasRelay_relayed (relay : Relay) (flow : Relay.Flow) :
    (session.relayed relay flow).HasRelay := by
  simp only [HasRelay]
  rcases phase_relayed session relay flow with ⟨_, hp⟩ | ⟨_, hp⟩
  · rw [hp]
    trivial
  · rw [hp]
    trivial

lemma HasRelay.turn (h : session.HasRelay) (ht : Turn context session session') :
    session'.HasRelay := by
  rcases ht.rank with hr | ⟨flow, relay, _, _, rfl⟩
  · have := h.rank
    omega
  · exact hasRelay_relayed relay flow

lemma hasRelay_of_run (hs : session.HasRelay) (h : Run context session later session') :
    session'.HasRelay := by
  induction h with
  | start => exact hs
  | step move _ ht ih => exact ih.turn (turn_of_step ht)
  | notice happening _ ih => cases happening <;> exact ih

def Holds (session : Session) : Prop :=
  match session.phase with
  | .awaitingData =>
    session.dials = 0 ∧ session.link.near.tenure = .held ∧ session.link.far.tenure = .awaited
  | .dialing _ _ =>
    session.dials = 1 ∧ session.link.near.tenure = .held ∧ session.link.far.tenure = .awaited
  | .greeting _ _ _ | .discarding _ _ _ | .replying _ _ | .forwarding _ =>
    session.dials = 1 ∧ session.link.near.tenure = .held ∧ session.link.far.tenure = .held
  | .relaying _ | .ended _ _ => session.dials = 1
  | .empty => session.dials = 0
  | .failed _ => session.dials ≤ 1

lemma dials_relayed (relay : Relay) (flow : Relay.Flow) :
    (session.relayed relay flow).dials = session.dials := by
  simp only [relayed]
  split <;> rfl

lemma Fault.dials (h : Fault context session stage error session') :
    session'.dials = session.dials := by
  cases h <;> rfl

lemma Holds.dials_le (h : session.Holds) : session.dials ≤ 1 := by
  simp only [Holds] at h
  split at h <;> omega

lemma Holds.turn (h : session.Holds) (ht : Turn context session session') : session'.Holds := by
  cases ht with
  | closeEmpty hp _ =>
    simp only [Holds, hp] at h
    exact h.1
  | dial hp _ _ =>
    simp only [Holds, hp] at h
    exact ⟨congrArg (· + 1) h.1, h.2⟩
  | connect hp _ =>
    simp only [Holds, hp] at h
    exact ⟨h.1, h.2.1, rfl⟩
  | write hs _ _ =>
    cases hs with
    | greeting hp | reply hp | first hp =>
      simp only [Holds, hp] at h
      exact h
  | relay hp _ =>
    simp only [Holds, hp] at h
    simp only [Holds, dials_relayed]
    rcases phase_relayed session _ _ with ⟨_, hp'⟩ | ⟨_, hp'⟩
    · rw [hp']
      exact h
    · rw [hp']
      exact h
  | establish hp _ =>
    simp only [Holds, hp] at h
    exact h.1
  | fail hf =>
    have hd := h.dials_le
    rw [← hf.dials] at hd
    exact hd
  | greet hp _ | read hp _ _ | discard hp _ _ _ | reply hp _ _ _ _ | forward hp _ =>
    simp only [Holds, hp] at h
    exact h

lemma Holds.notice (h : session.Holds) (happening : Happening) :
    (session.notice happening).Holds := by
  cases happening with
  | dialed result => exact h
  | link event =>
    have hn : (session.link.apply event).near.tenure = session.link.near.tenure :=
      (Link.kept_apply event session.link .near).2
    have hf : (session.link.apply event).far.tenure = session.link.far.tenure :=
      (Link.kept_apply event session.link .far).2
    simp only [Holds, Session.notice, hn, hf] at h ⊢
    exact h

lemma holds_of_run {tape : Tape} {dial : Option DialResult}
    (h : Run context (fresh tape dial) happenings session) : session.Holds := by
  induction h with
  | start => exact ⟨rfl, rfl, rfl⟩
  | step move _ hs ih => exact ih.turn (turn_of_step hs)
  | notice happening _ ih => exact ih.notice happening

structure Rests (happenings : List Happening) (session session' : Session) : Prop where
  phase : session'.phase = session.phase
  dials : session'.dials = session.dials
  log : session'.log = session.log
  taken : ∀ side, (session'.link.on side).sink.taken = (session.link.on side).sink.taken
  tenure : ∀ side, (session'.link.on side).tenure = (session.link.on side).tenure
  isShut : ∀ side, (session'.link.on side).isShut = (session.link.on side).isShut
  chunks : ∀ side, (session'.link.on side).source.chunks =
    (session.link.on side).source.chunks ++ happenings.flatMap (Happening.arrived side)

lemma Rests.notice (h : Rests happenings session session') (happening : Happening) :
    Rests (happenings ++ [happening]) session (session'.notice happening) where
  phase := by cases happening <;> exact h.phase
  dials := by cases happening <;> exact h.dials
  log := by cases happening <;> exact h.log
  taken side := (taken_notice session' happening side).trans (h.taken side)
  tenure side := by
    rw [← h.tenure side]
    cases happening with
    | link event => exact (Link.kept_apply event session'.link side).2
    | dialed result => rfl
  isShut side := by
    rw [← h.isShut side]
    cases happening with
    | link event => exact Link.isShut_apply event session'.link side
    | dialed result => rfl
  chunks side := by
    rw [chunks_notice, h.chunks side, List.flatMap_append, List.flatMap_singleton, List.append_assoc]

lemma rank_pos_of_turn (h : Turn context session session') : 0 < session.phase.rank := by
  rcases h.rank with hr | ⟨flow, relay, hp, _, _⟩
  · omega
  · rw [hp]
    exact Nat.one_pos

lemma rests_of_run (hr : session.phase.rank = 0) (h : Run context session later session') :
    Rests later session session' := by
  induction h with
  | start => exact ⟨rfl, rfl, rfl, fun _ => rfl, fun _ => rfl, fun _ => rfl, fun _ => by simp⟩
  | step move _ hs ih =>
    have hp := rank_pos_of_turn (turn_of_step hs)
    rw [ih.phase, hr] at hp
    exact absurd hp (Nat.lt_irrefl 0)
  | notice happening _ ih => exact ih.notice happening

lemma exists_last_turn (hs : 0 < start.phase.rank) (hr : session.phase.rank = 0)
    (h : Run context start happenings session) :
    ∃ earlier later before after, happenings = earlier ++ later ∧ Run context start earlier before ∧
      Turn context before after ∧ after.phase.rank = 0 ∧ Run context after later session := by
  induction h with
  | start => omega
  | @step happenings before after move hb ht _ =>
    exact ⟨happenings, [], before, after, (List.append_nil _).symm, hb, turn_of_step ht, hr, .start⟩
  | @notice happenings session happening _ ih =>
    have hr' : session.phase.rank = 0 := by cases happening <;> exact hr
    obtain ⟨earlier, later, before, after, rfl, hb, ht, ha, hl⟩ := ih hr'
    exact ⟨earlier, later ++ [happening], before, after, List.append_assoc _ _ _, hb, ht, ha,
      .notice happening hl⟩

lemma exists_fault (hs : 0 < start.phase.rank) (hp : session.phase = .failed ⟨stage, error⟩)
    (h : Run context start happenings session) :
    ∃ earlier later before after, happenings = earlier ++ later ∧ Run context start earlier before ∧
      Fault context before stage error after ∧ Run context (after.fail stage error) later session := by
  have hr : session.phase.rank = 0 := by
    rw [hp]
    rfl
  obtain ⟨earlier, later, before, after, he, hb, ht, ha, hl⟩ := exists_last_turn hs hr h
  have hphase := (rests_of_run ha hl).phase
  rw [hp] at hphase
  have hno : ¬ after.HasRelay := by
    rw [HasRelay, ← hphase]
    exact id
  cases ht with
  | fail hf =>
    cases hphase
    exact ⟨earlier, later, before, _, he, hb, hf, hl⟩
  | relay _ _ => exact absurd (hasRelay_relayed _ _) hno
  | write hs _ _ => cases hs <;> cases ha
  | _ => cases hphase

lemma exists_closeEmpty (hs : 0 < start.phase.rank) (hp : session.phase = .empty)
    (h : Run context start happenings session) :
    ∃ earlier later before, happenings = earlier ++ later ∧ Run context start earlier before ∧
      before.phase = .awaitingData ∧
      before.link.near.source.read context.setup.capacities.nearRead = .ended ∧
      Run context before.closeEmpty later session := by
  have hr : session.phase.rank = 0 := by
    rw [hp]
    rfl
  obtain ⟨earlier, later, before, after, he, hb, ht, ha, hl⟩ := exists_last_turn hs hr h
  have hphase := (rests_of_run ha hl).phase
  rw [hp] at hphase
  have hno : ¬ after.HasRelay := by
    rw [HasRelay, ← hphase]
    exact id
  cases ht with
  | closeEmpty hq hd => exact ⟨earlier, later, before, he, hb, hq, hd, hl⟩
  | relay _ _ => exact absurd (hasRelay_relayed _ _) hno
  | write hs _ _ => cases hs <;> cases ha
  | _ => cases hphase

end Session

end Camouflage
