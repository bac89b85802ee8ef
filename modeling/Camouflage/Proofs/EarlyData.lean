import Camouflage.EarlyData
import Mathlib.Tactic.Lemma

/-! Early data goes out once: every send is given what the sends before it left, whatever the socket answers, and
the answers that were used tell how the sending ends. -/

namespace Camouflage

lemma ErrorNumber.kind_ne_writeZero (number : ErrorNumber) : number.kind ≠ .writeZero := by
  have hall : ∀ entry ∈ table, entry.2.1 ≠ .writeZero := by decide
  rw [kind]
  split
  · next kind text hl =>
    obtain ⟨before, after, ht, -⟩ := List.lookup_eq_some_iff.mp hl
    exact hall (number, kind, text) (ht ▸ List.mem_append_right before List.mem_cons_self)
  · nofun

namespace IoError

/-- The connection is still being set up, or there is no room for more yet. -/
def AsksToWait (error : IoError) : Prop :=
  error.number? = some .inProgress ∨ error.kind = .wouldBlock

lemma isConnectInProgress_iff {error : IoError} :
    error.isConnectInProgress = true ↔ error.AsksToWait := by
  simp [isConnectInProgress, AsksToWait]

lemma not_asksToWait_writeZero : ¬ (ofKind .writeZero).AsksToWait := by
  rintro (hn | hk)
  · cases hn
  · cases hk

end IoError

namespace EarlyData

variable {data left : Bytes} {answer : Answer} {answers given : List Answer}
  {before after attempts : List Attempt} {result : Result} {error : IoError}

namespace Answer

def count : Answer → Nat
  | .took count => count
  | .failed _ => 0

def GoesOn : Answer → Prop
  | .took count => count ≠ 0
  | .failed error => error.AsksToWait

inductive Ends : Answer → IoError → Prop
  | nothing : Ends (.took 0) (.ofKind .writeZero)
  | failed {error : IoError} : ¬ error.AsksToWait → Ends (.failed error) error

lemma Ends.not_goesOn (h : answer.Ends error) : ¬ answer.GoesOn := by
  cases h with
  | nothing => exact fun hg => hg rfl
  | failed hw => exact hw

lemma Ends.count_eq (h : answer.Ends error) : answer.count = 0 := by
  cases h <;> rfl

lemma Ends.unique {found : IoError} (h : answer.Ends error) (h' : answer.Ends found) :
    error = found := by
  cases h with
  | nothing =>
    cases h'
    rfl
  | failed _ =>
    cases h'
    rfl

lemma goesOn_or_ends (answer : Answer) : answer.GoesOn ∨ ∃ error, answer.Ends error := by
  cases answer with
  | took count =>
    cases count with
    | zero => exact Or.inr ⟨_, .nothing⟩
    | succ count => exact Or.inl (Nat.succ_ne_zero count)
  | failed error =>
    by_cases hw : error.AsksToWait
    · exact Or.inl hw
    · exact Or.inr ⟨error, .failed hw⟩

end Answer

lemma send_nothing (answers : List Answer) : send [] answers = ([], .sent) := by
  cases answers <;> rfl

lemma send_of_goesOn (hd : data ≠ []) (h : answer.GoesOn) (answers : List Answer) :
    send data (answer :: answers) =
      (⟨data, answer.count⟩ :: (send (data.drop answer.count) answers).1,
        (send (data.drop answer.count) answers).2) := by
  cases answer with
  | took count =>
    cases count with
    | zero => exact absurd rfl h
    | succ count =>
      rw [send, if_neg hd]
      · rfl
      · exact h
  | failed error =>
    rw [send, if_neg hd, if_pos (IoError.isConnectInProgress_iff.mpr h)]
    rfl

lemma send_of_ends (hd : data ≠ []) (h : answer.Ends error) (answers : List Answer) :
    send data (answer :: answers) = ([⟨data, answer.count⟩], .failed error) := by
  cases h with
  | nothing =>
    rw [send, if_neg hd]
    rfl
  | failed hw =>
    rw [send, if_neg hd, if_neg (mt IoError.isConnectInProgress_iff.mp hw)]
    rfl

/-- The sends that come with these answers, each of all that the ones before it left, and what is left
behind them. -/
inductive Sends : Bytes → List Answer → List Attempt → Bytes → Prop
  | nil (data : Bytes) : Sends data [] [] data
  | cons {data left : Bytes} {answer : Answer} {given : List Answer} {attempts : List Attempt} :
      data ≠ [] → Sends (data.drop answer.count) given attempts left →
      Sends data (answer :: given) (⟨data, answer.count⟩ :: attempts) left

namespace Sends

lemma accepted_append_left (h : Sends data given attempts left) : accepted attempts ++ left = data := by
  induction h with
  | nil data => rfl
  | cons _ _ ih =>
    rw [accepted, List.flatMap_cons, List.append_assoc, ← accepted, ih, List.take_append_drop]

lemma count_eq (h : Sends data given attempts left) :
    attempts.map Attempt.count = given.map Answer.count := by
  induction h with
  | nil data => rfl
  | cons _ _ ih => rw [List.map_cons, List.map_cons, ih]

lemma exists_between (h : Sends data given (before ++ after) left) :
    ∃ between earlier later, given = earlier ++ later ∧ Sends data earlier before between ∧
      Sends between later after left := by
  induction before generalizing data given with
  | nil => exact ⟨data, [], given, rfl, .nil data, h⟩
  | cons attempt before ih =>
    cases h with
    | cons hd h =>
      obtain ⟨between, earlier, later, rfl, hb, ha⟩ := ih h
      exact ⟨between, _ :: earlier, later, rfl, .cons hd hb, ha⟩

lemma accepted_isPrefix (h : Sends data given attempts left) (hb : before <+: attempts) :
    accepted before <+: data := by
  obtain ⟨after, rfl⟩ := hb
  obtain ⟨between, _, _, _, hs, _⟩ := h.exists_between
  exact ⟨between, hs.accepted_append_left⟩

lemma offered_eq {attempt : Attempt} (h : Sends data given attempts left)
    (hb : before ++ [attempt] <+: attempts) :
    attempt.offered ≠ [] ∧ accepted before ++ attempt.offered = data := by
  obtain ⟨after, rfl⟩ := hb
  rw [List.append_assoc] at h
  obtain ⟨between, _, _, _, hs, hn⟩ := h.exists_between
  -- The next send is of all there is between the two parts.
  cases hn with
  | cons hd _ => exact ⟨hd, hs.accepted_append_left⟩

end Sends

inductive Outcome (answers : List Answer) : List Answer → Bytes → Result → Prop
  | sent {given : List Answer} : (∀ answer ∈ given, answer.GoesOn) → Outcome answers given [] .sent
  | failed {earlier : List Answer} {last : Answer} {error : IoError} {left : Bytes} :
      (∀ answer ∈ earlier, answer.GoesOn) → last.Ends error → left ≠ [] →
      Outcome answers (earlier ++ [last]) left (.failed error)
  | unfinished {left : Bytes} : (∀ answer ∈ answers, answer.GoesOn) → left ≠ [] →
      Outcome answers answers left (.unfinished left)

namespace Outcome

lemma cons (h : Outcome answers given left result) (ha : answer.GoesOn) :
    Outcome (answer :: answers) (answer :: given) left result := by
  cases h with
  | sent hg => exact .sent (List.forall_mem_cons.mpr ⟨ha, hg⟩)
  | failed hg he hl => exact .failed (List.forall_mem_cons.mpr ⟨ha, hg⟩) he hl
  | unfinished hg hl => exact .unfinished (List.forall_mem_cons.mpr ⟨ha, hg⟩) hl

lemma sent_iff (h : Outcome answers given left result) : result = .sent ↔ left = [] := by
  cases h with
  | sent _ => exact ⟨fun _ => rfl, fun _ => rfl⟩
  | failed _ _ hl => exact ⟨nofun, fun h => absurd h hl⟩
  | unfinished _ hl => exact ⟨nofun, fun h => absurd h hl⟩

lemma unfinished_iff (h : Outcome answers given left result) {rest : Bytes} :
    result = .unfinished rest ↔
      given = answers ∧ (∀ answer ∈ answers, answer.GoesOn) ∧ rest ≠ [] ∧ left = rest := by
  cases h with
  | sent _ => exact ⟨nofun, fun h => absurd h.2.2.2.symm h.2.2.1⟩
  | failed _ he _ =>
    refine ⟨nofun, ?_⟩
    rintro ⟨rfl, hg, -⟩
    exact absurd (hg _ List.mem_concat_self) he.not_goesOn
  | unfinished hg hl =>
    rw [Result.unfinished.injEq]
    exact ⟨fun h => ⟨rfl, hg, h ▸ hl, h⟩, fun h => h.2.2.2⟩

lemma exists_last (h : Outcome answers given left (.failed error)) : ∃ earlier last,
    given = earlier ++ [last] ∧ last.Ends error ∧ ∀ answer ∈ earlier, answer.GoesOn := by
  cases h with
  | failed hg he _ => exact ⟨_, _, rfl, he, hg⟩

lemma failed_of_mem (h : Outcome answers given left result) (hm : answer ∈ given)
    (he : answer.Ends error) : result = .failed error ∧
      ∃ earlier, given = earlier ++ [answer] ∧ ∀ other ∈ earlier, other.GoesOn := by
  cases h with
  | sent hg => exact absurd (hg answer hm) he.not_goesOn
  | unfinished hg _ => exact absurd (hg answer hm) he.not_goesOn
  | @failed earlier last found _ hg hf _ =>
    -- All but the last answer go on, so this one is the last.
    rcases List.mem_append.mp hm with hm | hm
    · exact absurd (hg answer hm) he.not_goesOn
    · obtain rfl := List.mem_singleton.mp hm
      rw [hf.unique he]
      exact ⟨rfl, earlier, rfl, hg⟩

lemma took_zero_mem_iff (h : Outcome answers given left result) : .took 0 ∈ given ↔
    result = .failed (.ofKind .writeZero) ∧ .failed (.ofKind .writeZero) ∉ given := by
  constructor
  · intro hm
    obtain ⟨hr, earlier, rfl, hg⟩ := h.failed_of_mem hm .nothing
    refine ⟨hr, ?_⟩
    intro hf
    rcases List.mem_append.mp hf with hf | hf
    · exact IoError.not_asksToWait_writeZero (hg _ hf)
    · cases List.mem_singleton.mp hf
  · rintro ⟨rfl, hn⟩
    obtain ⟨earlier, last, rfl, he, -⟩ := h.exists_last
    cases he with
    | nothing => exact List.mem_concat_self
    | failed _ => exact absurd List.mem_concat_self hn

lemma took_zero_mem_iff_kind (h : Outcome answers given left result)
    (hs : ∀ error, .failed error ∈ given → ∃ number, error = .system number) :
    .took 0 ∈ given ↔ ∃ error, result = .failed error ∧ error.kind = .writeZero := by
  constructor
  · intro hm
    exact ⟨_, (h.took_zero_mem_iff.mp hm).1, rfl⟩
  · rintro ⟨error, rfl, hk⟩
    obtain ⟨earlier, last, rfl, he, -⟩ := h.exists_last
    cases he with
    | nothing => exact List.mem_concat_self
    | failed _ =>
      obtain ⟨number, rfl⟩ := hs error List.mem_concat_self
      exact absurd hk (ErrorNumber.kind_ne_writeZero number)

lemma failed_iff (h : Outcome answers given left result) (hn : .took 0 ∉ given) :
    result = .failed error ↔ ∃ earlier, given = earlier ++ [.failed error] ∧ ¬ error.AsksToWait ∧
      ∀ other, .failed other ∈ earlier → other.AsksToWait := by
  constructor
  · rintro rfl
    obtain ⟨earlier, last, rfl, he, hg⟩ := h.exists_last
    cases he with
    | nothing => exact absurd List.mem_concat_self hn
    | failed hw => exact ⟨earlier, rfl, hw, fun other hm => hg _ hm⟩
  · rintro ⟨earlier, rfl, hw, -⟩
    exact (h.failed_of_mem List.mem_concat_self (.failed hw)).1

end Outcome

lemma exists_sends (data : Bytes) (answers : List Answer) : ∃ given left, given <+: answers ∧
    Sends data given (send data answers).1 left ∧ Outcome answers given left (send data answers).2 := by
  induction answers generalizing data with
  | nil =>
    by_cases hd : data = []
    · rw [hd]
      exact ⟨[], [], List.nil_prefix, .nil [], .sent nofun⟩
    · rw [send, if_neg hd]
      exact ⟨[], data, List.nil_prefix, .nil data, .unfinished nofun hd⟩
  | cons answer answers ih =>
    by_cases hd : data = []
    · rw [hd, send_nothing]
      exact ⟨[], [], List.nil_prefix, .nil [], .sent nofun⟩
    · rcases answer.goesOn_or_ends with hg | ⟨error, he⟩
      · obtain ⟨given, left, hp, hs, ho⟩ := ih (data.drop answer.count)
        rw [send_of_goesOn hd hg]
        exact ⟨answer :: given, left, List.cons_prefix_cons.mpr ⟨rfl, hp⟩, .cons hd hs, ho.cons hg⟩
      · have hl : data.drop answer.count = data := by rw [he.count_eq, List.drop_zero]
        rw [send_of_ends hd he]
        refine ⟨[] ++ [answer], data, ⟨answers, rfl⟩, .cons hd ?_, .failed nofun he hd⟩
        rw [hl]
        exact .nil data

lemma send_append (data : Bytes) (answers more : List Answer) :
    send data (answers ++ more) =
      match (send data answers).2 with
      | .unfinished left => ((send data answers).1 ++ (send left more).1, (send left more).2)
      | _ => send data answers := by
  induction answers generalizing data with
  | nil =>
    by_cases hd : data = []
    · rw [hd, send_nothing, send_nothing]
    · rw [send, if_neg hd]
      rfl
  | cons answer answers ih =>
    by_cases hd : data = []
    · rw [hd, send_nothing, send_nothing]
    · rcases answer.goesOn_or_ends with hg | ⟨error, he⟩
      · rw [List.cons_append, send_of_goesOn hd hg, send_of_goesOn hd hg, ih]
        rcases send (data.drop answer.count) answers with ⟨attempts, result⟩
        cases result <;> rfl
      · rw [List.cons_append, send_of_ends hd he, send_of_ends hd he]

lemma send_append_of_unfinished (h : (send data answers).2 = .unfinished left) (more : List Answer) :
    send data (answers ++ more) = ((send data answers).1 ++ (send left more).1, (send left more).2) := by
  rw [send_append, h]

lemma send_append_of_over (h : ∀ left, (send data answers).2 ≠ .unfinished left)
    (more : List Answer) : send data (answers ++ more) = send data answers := by
  rw [send_append]
  split
  · next hu => exact absurd hu (h _)
  · rfl

lemma ne_nil_of_unfinished (h : (send data answers).2 = .unfinished left) : left ≠ [] := by
  obtain ⟨_, _, _, _, ho⟩ := exists_sends data answers
  exact (ho.unfinished_iff.mp h).2.2.1

lemma result_append_of_goesOn (h : (send data answers).2 = .unfinished left) (hg : answer.GoesOn) :
    (send data (answers ++ [answer])).2 = (send (left.drop answer.count) []).2 := by
  rw [send_append_of_unfinished h, send_of_goesOn (ne_nil_of_unfinished h) hg]

lemma result_append_of_ends (h : (send data answers).2 = .unfinished left) (he : answer.Ends error) :
    (send data (answers ++ [answer])).2 = .failed error := by
  rw [send_append_of_unfinished h, send_of_ends (ne_nil_of_unfinished h) he]

lemma accepted_of_sent (h : (send data answers).2 = .sent) : accepted (send data answers).1 = data := by
  obtain ⟨_, left, _, hs, ho⟩ := exists_sends data answers
  obtain rfl := ho.sent_iff.mp h
  exact (List.append_nil _).symm.trans hs.accepted_append_left

lemma result_append_took (data : Bytes) (answers : List Answer) (left : Bytes) :
    (send data (answers ++ [.took data.length])).2 ≠ .unfinished left := by
  intro h
  by_cases hu : ∃ rest, (send data answers).2 = .unfinished rest
  · obtain ⟨rest, hu⟩ := hu
    have hr := ne_nil_of_unfinished hu
    obtain ⟨_, rest', _, hs, ho⟩ := exists_sends data answers
    obtain rfl := (ho.unfinished_iff.mp hu).2.2.2
    have hl := congrArg List.length hs.accepted_append_left
    rw [List.length_append] at hl
    have hpos := List.length_pos_iff.mpr hr
    have hg : (Answer.took data.length).GoesOn := fun hz => by omega
    have hd : rest'.drop data.length = [] := List.drop_of_length_le (by omega)
    rw [result_append_of_goesOn hu hg, Answer.count, hd] at h
    cases h
  · rw [send_append_of_over (fun rest hr => hu ⟨rest, hr⟩)] at h
    exact hu ⟨left, h⟩

/-- Every send is given just what was not taken before it, so at every moment what was taken is the start of
the data, and none of that is sent again. The sending succeeds once all was taken; it fails by itself once a
send takes nothing, and else with the first error of the socket that does not ask to wait. Until then it goes
on for as long as there are answers. -/
theorem sent_exactly_once (h : send data answers = (attempts, result)) :
    ∃ given, given <+: answers ∧ attempts.map Attempt.count = given.map Answer.count ∧
      (∀ before attempt, before ++ [attempt] <+: attempts →
        attempt.offered ≠ [] ∧ accepted before ++ attempt.offered = data) ∧
      (∀ before, before <+: attempts → accepted before <+: data) ∧
      (result = .sent ↔ accepted attempts = data) ∧
      (.took 0 ∈ given ↔
        result = .failed (.ofKind .writeZero) ∧ .failed (.ofKind .writeZero) ∉ given) ∧
      ((∀ error, .failed error ∈ given → ∃ number, error = .system number) →
        (.took 0 ∈ given ↔ ∃ error, result = .failed error ∧ error.kind = .writeZero)) ∧
      (.took 0 ∉ given → ∀ error, result = .failed error ↔
        ∃ earlier, given = earlier ++ [.failed error] ∧ ¬ error.AsksToWait ∧
          ∀ other, .failed other ∈ earlier → other.AsksToWait) ∧
      (∀ rest, result = .unfinished rest ↔ given = answers ∧
        (∀ answer ∈ answers, answer.GoesOn) ∧ rest ≠ [] ∧ accepted attempts ++ rest = data) := by
  obtain ⟨given, left, hp, hs, ho⟩ := exists_sends data answers
  rw [h] at hs ho
  have hd := hs.accepted_append_left
  refine ⟨given, hp, hs.count_eq, fun _ _ => hs.offered_eq, fun _ => hs.accepted_isPrefix, ?_,
    ho.took_zero_mem_iff, ho.took_zero_mem_iff_kind, fun hn _ => ho.failed_iff hn, ?_⟩
  · rw [ho.sent_iff, ← hd, List.self_eq_append_right]
  · intro rest
    rw [ho.unfinished_iff, ← hd, List.append_cancel_left_eq, @eq_comm _ left]

theorem rest_sent_after_waiting :
    (∃ attempts, send [1, 2, 3, 4, 5] [.failed (.system .inProgress), .took 2,
        .failed (.system .tryAgain), .took 3, .took 7] = (attempts, .sent) ∧
      attempts = [⟨[1, 2, 3, 4, 5], 0⟩, ⟨[1, 2, 3, 4, 5], 2⟩, ⟨[3, 4, 5], 0⟩, ⟨[3, 4, 5], 3⟩] ∧
      accepted (attempts.take 3) ++ [3, 4, 5] = [1, 2, 3, 4, 5] ∧
      accepted attempts = [1, 2, 3, 4, 5]) ∧
    ∃ attempts, send [1, 2, 3] [.took 1, .failed (.system .tryAgain),
        .failed (.system .connectionReset), .took 2] =
        (attempts, .failed (.system .connectionReset)) ∧
      accepted attempts ≠ [1, 2, 3] ∧ ¬ (IoError.system .connectionReset).AsksToWait := by
  constructor
  · have hs : send [1, 2, 3, 4, 5] [.failed (.system .inProgress), .took 2,
        .failed (.system .tryAgain), .took 3, .took 7] = (_, .sent) := rfl
    obtain ⟨given, -, -, ho, -, hsent, -⟩ := sent_exactly_once hs
    exact ⟨_, hs, rfl, (ho _ ⟨[3, 4, 5], 3⟩ (by decide)).2, hsent.mp rfl⟩
  · have hs : send [1, 2, 3] [.took 1, .failed (.system .tryAgain),
        .failed (.system .connectionReset), .took 2] =
        (_, .failed (.system .connectionReset)) := rfl
    obtain ⟨given, hp, -, -, -, hsent, -, -, hfailed, -⟩ := sent_exactly_once hs
    have hn : .took 0 ∉ given := fun hm => absurd (hp.subset hm) (by decide)
    obtain ⟨_, _, hw, _⟩ := (hfailed hn _).mp rfl
    exact ⟨_, hs, mt hsent.mpr nofun, hw⟩

end EarlyData

end Camouflage
