import Camouflage.Proofs.Session.Ending

namespace Camouflage.Session

variable {context : Context} {tape : Tape} {dial : Option DialResult} {session session' : Session}
  {happenings : List Happening}

lemma phase_ne_of_turn (ht : Turn context session session') : session'.phase ≠ .awaitingData := by
  cases ht with
  | write hs _ _ =>
    intro hp
    cases hs <;> cases hp
  | @relay flow relay _ _ =>
    intro hp
    have hr : (session.relayed relay flow).HasRelay := hasRelay_relayed relay flow
    rw [HasRelay, hp] at hr
    exact hr
  | _ =>
    intro hp
    cases hp

lemma turn_of_awaiting (hp : session.phase = .awaitingData) (ht : Turn context session session') :
    session.link.near.source.read context.setup.capacities.nearRead = .ended ∧
      session' = session.closeEmpty ∨
    (∃ error, session.link.near.source.read context.setup.capacities.nearRead = .failed error) ∧
      session'.phase.rank = 0 ∨
    ∃ first source,
      session.link.near.source.read context.setup.capacities.nearRead = .got first source := by
  cases ht with
  | closeEmpty _ he => exact Or.inl ⟨he, rfl⟩
  | dial _ hr _ => exact Or.inr (Or.inr ⟨_, _, hr⟩)
  | write hs _ _ => cases hs <;> simp [hp] at *
  | fail hf =>
    cases hf with
    | await _ hr => exact Or.inr (Or.inl ⟨⟨_, hr⟩, rfl⟩)
    | compose _ hr _ => exact Or.inr (Or.inr ⟨_, _, hr⟩)
    | write hs _ => cases hs <;> simp [hp] at *
    | _ => simp [hp] at *
  | _ => simp [hp] at *

lemma nearRead_pos_of_run (h : Run context (fresh tape dial) happenings session)
    (hr : 0 < session.phase.rank) :
    session.phase = .awaitingData ∨ 0 < context.setup.capacities.nearRead := by
  induction h with
  | start => exact Or.inl rfl
  | step move _ hs ih =>
    have ht := turn_of_step hs
    rcases ih (rank_pos_of_turn ht) with hp | hpos
    · rcases turn_of_awaiting hp ht with ⟨_, rfl⟩ | ⟨_, hz⟩ | ⟨first, source, hg⟩
      · exact absurd hr (Nat.lt_irrefl 0)
      · omega
      · have hl := Source.length_le_of_read hg
        have hf := List.length_pos_iff.mpr (Source.ne_nil_of_read hg)
        exact Or.inr (Nat.lt_of_lt_of_le hf hl)
    · exact Or.inr hpos
  | notice happening _ ih => cases happening <;> exact ih hr

structure Awaits (happenings : List Happening) (session : Session) : Prop where
  chunks : session.link.near.source.chunks = happenings.flatMap (Happening.arrived .near)
  ending_mem : ∀ ending, session.link.near.source.ending = some ending →
    .link (.finish .near ending) ∈ happenings
  ending_ne : ∀ ending, .link (.finish .near ending) ∈ happenings →
    session.link.near.source.ending ≠ none
  shutError_mem : ∀ error, session.link.near.shutError = some error →
    .link (.refuseShut .near error) ∈ happenings

lemma ending_notice (happening : Happening) (session : Session) :
    (∃ ending, happening = .link (.finish .near ending) ∧
      (session.notice happening).link.near.source.ending = some ending) ∨
    (∀ ending, happening ≠ .link (.finish .near ending)) ∧
      (session.notice happening).link.near.source.ending = session.link.near.source.ending := by
  cases happening with
  | dialed result => exact Or.inr ⟨nofun, rfl⟩
  | link event =>
    rcases Link.ending_apply event session.link .near with ⟨ending, he, hs⟩ | ⟨hne, hs⟩
    · exact Or.inl ⟨ending, congrArg Happening.link he, hs⟩
    · exact Or.inr ⟨fun ending he => hne ending (Happening.link.inj he), hs⟩

lemma shutError_notice (happening : Happening) (session : Session) :
    (∃ error, happening = .link (.refuseShut .near error) ∧
      (session.notice happening).link.near.shutError = some error) ∨
    (session.notice happening).link.near.shutError = session.link.near.shutError := by
  cases happening with
  | dialed result => exact Or.inr rfl
  | link event =>
    cases event with
    | refuseShut side error =>
      cases side with
      | near => exact Or.inl ⟨error, rfl, rfl⟩
      | far => exact Or.inr rfl
    | arrive side _ => cases side <;> exact Or.inr rfl
    | limit side _ => cases side <;> exact Or.inr rfl
    | finish side _ => cases side <;> exact Or.inr rfl

lemma Awaits.notice (h : Awaits happenings session) (happening : Happening) :
    Awaits (happenings ++ [happening]) (session.notice happening) where
  chunks := by
    have hc := chunks_notice session happening .near
    simp only [Link.on] at hc
    rw [hc, h.chunks, List.flatMap_append, List.flatMap_singleton]
  ending_mem ending he := by
    rcases ending_notice happening session with ⟨last, rfl, hl⟩ | ⟨_, hk⟩
    · rw [hl, Option.some.injEq] at he
      rw [he]
      exact List.mem_append_right _ List.mem_cons_self
    · rw [hk] at he
      exact List.mem_append_left _ (h.ending_mem ending he)
  ending_ne ending hm := by
    rcases ending_notice happening session with ⟨last, _, hl⟩ | ⟨hne, hk⟩
    · rw [hl]
      exact Option.some_ne_none last
    · rw [hk]
      rcases List.mem_append.mp hm with hm | hm
      · exact h.ending_ne ending hm
      · exact absurd (List.mem_singleton.mp hm).symm (hne ending)
  shutError_mem error he := by
    rcases shutError_notice happening session with ⟨last, rfl, hl⟩ | hk
    · rw [hl, Option.some.injEq] at he
      rw [he]
      exact List.mem_append_right _ List.mem_cons_self
    · rw [hk] at he
      exact List.mem_append_left _ (h.shutError_mem error he)

lemma awaits_of_run (h : Run context (fresh tape dial) happenings session)
    (hp : session.phase = .awaitingData) : Awaits happenings session := by
  induction h with
  | start => exact ⟨rfl, nofun, nofun, nofun⟩
  | step move _ hs _ => exact absurd hp (phase_ne_of_turn (turn_of_step hs))
  | notice happening _ ih =>
    have hp' := ih (by cases happening <;> exact hp)
    exact hp'.notice happening

lemma silent_of_run (h : Run context (fresh tape dial) happenings session)
    (hn : (happenings.flatMap (Happening.arrived .near)).flatten = [])
    (hf : ∀ error, .link (.finish .near (.failed error)) ∉ happenings) :
    session.phase = .awaitingData ∨ session.phase = .empty := by
  induction h with
  | start => exact Or.inl rfl
  | step move h hs ih =>
    have ht := turn_of_step hs
    rcases ih hn hf with hp | hp
    · have ha := awaits_of_run h hp
      rcases turn_of_awaiting hp ht with ⟨_, rfl⟩ | ⟨⟨error, hr⟩, _⟩ | ⟨first, source, hr⟩
      · exact Or.inr rfl
      · have hm := ha.ending_mem _ (Source.failed_of_read hr).2
        exact absurd hm (hf error)
      · have hb := Source.bytes_of_read hr
        rw [Source.bytes, ha.chunks, hn] at hb
        exact absurd (List.append_eq_nil_iff.mp hb.symm).1 (Source.ne_nil_of_read hr)
    · have hr := rank_pos_of_turn ht
      rw [hp] at hr
      exact absurd hr (Nat.lt_irrefl 0)
  | @notice happenings _ happening _ ih =>
    rw [List.flatMap_append, List.flatten_append] at hn
    have hn' := (List.append_eq_nil_iff.mp hn).1
    have hf' : ∀ error, .link (.finish .near (.failed error)) ∉ happenings :=
      fun error hm => hf error (List.mem_append_left _ hm)
    have hp := ih hn' hf'
    cases happening <;> exact hp

lemma empty_of_run (h : Run context (fresh tape dial) happenings session)
    (hn : (happenings.flatMap (Happening.arrived .near)).flatten = [])
    (hc : .link (.finish .near .closed) ∈ happenings)
    (hf : ∀ error, .link (.finish .near (.failed error)) ∉ happenings) :
    session.phase = .empty ∨ session.phase = .awaitingData ∧
      ∃ session', step context .proceed session = some session' ∧ session'.phase = .empty := by
  rcases silent_of_run h hn hf with hp | hp
  · have ha := awaits_of_run h hp
    have hb : session.link.near.source.bytes = [] := by
      rw [Source.bytes, ha.chunks]
      exact hn
    have he : session.link.near.source.ending = some .closed := by
      cases hs : session.link.near.source.ending with
      | none => exact absurd hs (ha.ending_ne _ hc)
      | some ending =>
        cases ending with
        | closed => rfl
        | failed error => exact absurd (ha.ending_mem _ hs) (hf error)
    have hr : session.link.near.source.read context.setup.capacities.nearRead = .ended :=
      Source.read_of_closed hb he
    refine Or.inr ⟨hp, session.closeEmpty, ?_, rfl⟩
    simp only [step, proceed, hp, hr]
  · exact Or.inl hp

lemma shut_of_closeEmpty (ht : session.link.near.tenure = .held) :
    session.closeEmpty.link.near.tenure = .released ∧
      (session.closeEmpty.link.near.isShut = true ∨
        ∃ error, session.link.near.shutError = some error ∧
          .shutFailed error ∈ session.closeEmpty.log) := by
  refine ⟨Connection.tenure_release (Connection.tenure_shut.trans ht), ?_⟩
  have hs : session.closeEmpty.link.near.isShut = session.link.near.shut.1.isShut :=
    Connection.isShut_release
  cases he : session.link.near.shutError with
  | none =>
    left
    rw [hs, Connection.shut, he]
  | some error =>
    refine Or.inr ⟨error, rfl, ?_⟩
    simp [closeEmpty, Connection.shut, he]

end Camouflage.Session
