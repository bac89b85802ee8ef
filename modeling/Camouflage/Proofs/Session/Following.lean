import Camouflage.Proofs.Session.Turn

namespace Camouflage.Session

inductive Act
  | turn (move : Move)
  | notice (happening : Happening)

def Act.happening? : Act → Option Happening
  | .turn _ => none
  | .notice happening => some happening

def act (context : Context) (session : Session) : Act → Option Session
  | .turn move => step context move session
  | .notice happening => some (session.notice happening)

def follow (context : Context) : List Act → Session → Option Session
  | [], session => some session
  | next :: schedule, session => (act context session next).bind (follow context schedule)

variable {context : Context} {start session : Session} {happenings : List Happening}

lemma follow_append (schedule schedule' : List Act) (session : Session) :
    follow context (schedule ++ schedule') session =
      (follow context schedule session).bind (follow context schedule') := by
  induction schedule generalizing session with
  | nil => rfl
  | cons next schedule ih =>
    simp only [List.cons_append, follow, Option.bind_assoc]
    congr 1
    funext session
    exact ih session

lemma run_iff_exists_schedule : Run context start happenings session ↔
    ∃ schedule, follow context schedule start = some session ∧
      schedule.filterMap Act.happening? = happenings := by
  constructor
  · intro h
    induction h with
    | start => exact ⟨[], rfl, rfl⟩
    | step move _ hs ih =>
      obtain ⟨schedule, hf, rfl⟩ := ih
      refine ⟨schedule ++ [.turn move], ?_, ?_⟩
      · simp only [follow_append, hf, Option.bind_some, follow, act, hs]
      · simp [Act.happening?]
    | notice happening _ ih =>
      obtain ⟨schedule, hf, rfl⟩ := ih
      refine ⟨schedule ++ [.notice happening], ?_, ?_⟩
      · simp only [follow_append, hf, Option.bind_some, follow, act]
      · simp [Act.happening?]
  · rintro ⟨schedule, hf, rfl⟩
    induction schedule generalizing start with
    | nil =>
      cases hf
      exact .start
    | cons next schedule ih =>
      obtain ⟨middle, hm, hrest⟩ := Option.bind_eq_some_iff.mp hf
      cases next with
      | turn move => exact (Run.step move .start hm).trans (ih hrest)
      | notice happening =>
        cases hm
        exact (Run.notice happening .start).trans (ih hrest)

end Camouflage.Session
