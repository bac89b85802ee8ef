import Camouflage.Proofs.Greeting.Reading
import Camouflage.Proofs.Token

/-! Every byte of the tape is drawn once. What the messages of a run hold stands on the tape one message
behind the other, and from the first that fails for want of bytes on, all of them fail. -/

namespace Camouflage.Greeting

variable {setup : Setup} {settings : Settings} {options : Options} {tape rest unused : Tape}
  {now : Instant} {steps : List Step}

def asked (now : Instant) : List Step → List (Instant × Step)
  | [] => []
  | .setClock now :: steps => asked now steps
  | step :: steps => (now, step) :: asked now steps

structure Entry where
  now : Instant
  step : Step
  message : Except IoError Bytes
  spent : Bytes

def Scatters (grease : Grease) (hello : ClientHello) : Prop :=
  hello.cipherSuites.head? = some grease.cipherSuite ∧
  .supportedGroups (grease.group :: ClientHello.chromeGroups) ∈ hello.extensions ∧
  .grease grease.firstExtension [] ∈ hello.extensions ∧
  .grease grease.lastExtension [0] ∈ hello.extensions

/-- The fields of the message are the next of the bytes that were not drawn before. A greeting that fails
takes those of its fields that are there in full, a reply that fails takes nothing. -/
inductive Entry.Accounts (setup : Setup) (unused : Tape) : Entry → Prop
  | greeting {now : Instant} {greeting : Bytes} {hello : ClientHello} {salt : Salt}
      {sessionId : Vector UInt8 32} {grease : Vector UInt8 4} {behind : Tape} :
      unused = salt.toList ++ sessionId.toList ++ grease.toList ++ behind →
      greeting = Record.frame .handshake .tls10
        (Greeting.hello setup (now.windowIndex setup.replayWindow) salt sessionId grease).encode →
      hello? greeting = some hello → Token.saltOf hello.random = salt → hello.sessionId = sessionId →
      (setup.browser = .chrome → Scatters (.ofBytes grease) hello) →
      Accounts setup unused
        ⟨now, .hello, .ok greeting, salt.toList ++ sessionId.toList ++ grease.toList⟩
  | reply {now : Instant} {reply : Bytes} {finished : Vector UInt8 40} {behind : Tape} :
      unused = finished.toList ++ behind →
      Record.split reply = ([Record.whole .changeCipherSpec .tls12 [1],
        Record.whole .handshake .tls12 finished.toList], []) →
      Accounts setup unused ⟨now, .reply, .ok reply, finished.toList⟩
  | greetingFails {now : Instant} {taken : Nat} : unused.length < 52 →
      taken = (if unused.length < 16 then 0 else if unused.length < 48 then 16 else 48) →
      Accounts setup unused ⟨now, .hello, .error .noRandomness, unused.take taken⟩
  | replyFails {now : Instant} : unused.length < 40 →
      Accounts setup unused ⟨now, .reply, .error .noRandomness, []⟩

namespace Entry.Accounts

variable {entry : Entry} {error : IoError}

lemma length_lt_of_error (h : entry.Accounts setup unused) (he : entry.message = .error error) :
    unused.length < entry.spent.length + 40 := by
  cases h with
  | greeting => cases he
  | reply => cases he
  | greetingFails hl ht =>
    simp only [List.length_take]
    split at ht
    · omega
    · split at ht <;> omega
  | replyFails hl => simpa using hl

lemma eq_error_of_length_lt (h : entry.Accounts setup unused) (hl : unused.length < 40) :
    entry.message = .error .noRandomness := by
  cases h with
  | greeting hu =>
    simp only [hu, List.length_append, Vector.length_toList] at hl
    omega
  | reply hu =>
    simp only [hu, List.length_append, Vector.length_toList] at hl
    omega
  | greetingFails => rfl
  | replyFails => rfl

end Entry.Accounts

/-- The entries account for the tape up to what is left, each for the bytes behind those of the others
before it. -/
structure Ledger (setup : Setup) (tape left : Tape) (entries : List Entry) : Prop where
  tape_eq : tape = entries.flatMap Entry.spent ++ left
  accounts : ∀ before entry after, entries = before ++ entry :: after →
    ∃ unused, tape = before.flatMap Entry.spent ++ unused ∧ entry.Accounts setup unused

lemma ledger_nil : Ledger setup tape tape [] := ⟨rfl, by simp⟩

namespace Ledger

variable {left : Tape} {entry later : Entry} {entries before after : List Entry} {error : IoError}

lemma cons (h : Ledger setup rest left entries) (ht : tape = entry.spent ++ rest)
    (ha : entry.Accounts setup tape) : Ledger setup tape left (entry :: entries) where
  tape_eq := by
    rw [List.flatMap_cons, List.append_assoc, ← h.tape_eq]
    exact ht
  accounts before other after he := by
    cases before with
    | nil =>
      cases he
      exact ⟨tape, rfl, ha⟩
    | cons first before =>
      cases he
      obtain ⟨unused, hu, ha⟩ := h.accounts before other after rfl
      refine ⟨unused, ?_, ha⟩
      rw [List.flatMap_cons, List.append_assoc, ← hu]
      exact ht

lemma fails_behind (h : Ledger setup tape left (before ++ entry :: after))
    (hf : entry.message = .error error) (hm : later ∈ after) :
    later.message = .error .noRandomness := by
  -- what a message that fails leaves is too short for any other, and what is left later is no longer
  obtain ⟨unused, hu, ha⟩ := h.accounts before entry after rfl
  obtain ⟨between, behind, rfl⟩ := List.append_of_mem hm
  obtain ⟨unused', hu', ha'⟩ := h.accounts (before ++ entry :: between) later behind (by simp)
  apply ha'.eq_error_of_length_lt
  have hl := ha.length_lt_of_error hf
  rw [hu', List.flatMap_append, List.append_assoc, List.flatMap_cons, List.append_assoc] at hu
  have hlength := congrArg List.length (List.append_cancel_left hu)
  rw [List.length_append, List.length_append] at hlength
  omega

end Ledger

lemma scatters_hello (hb : setup.browser = .chrome) (index : UInt64) (salt : Salt)
    (sessionId : Vector UInt8 32) (grease : Vector UInt8 4) :
    Scatters (.ofBytes grease) (hello setup index salt sessionId grease) := by
  let given := parameters setup index salt sessionId grease
  have hg : given.browser = .chrome := hb
  have hs : (hello setup index salt sessionId grease).cipherSuites = ClientHello.cipherSuitesOf given :=
    ClientHello.cipherSuites_build given
  have he : (hello setup index salt sessionId grease).extensions = ClientHello.extensionsOf given ++
      ClientHello.paddingFor (ClientHello.plain given).body.length :=
    ClientHello.extensions_build given
  have hm : ∀ extension ∈ ClientHello.extensionsOf given,
      extension ∈ (hello setup index salt sessionId grease).extensions := by
    intro extension hm
    rw [he]
    exact List.mem_append_left _ hm
  refine ⟨?_, hm _ ?_, hm _ ?_, hm _ ?_⟩
  · rw [hs, ClientHello.cipherSuitesOf, hg]
    rfl
  all_goals
    simp only [ClientHello.extensionsOf, hg]
    simp [given, parameters]

section

variable (hn : (Bytes.ofString setup.serverName).length ≤ ClientHello.maxServerName)

include hn

lemma accounts_compose (now : Instant) (tape : Tape) :
    ∃ spent, tape = spent ++ (compose setup now tape).2 ∧
      Entry.Accounts setup tape ⟨now, .hello, (compose setup now tape).1, spent⟩ := by
  simp only [compose]
  split
  · next hsalt =>
    have hl := Tape.draw?_eq_none_iff.mp hsalt
    refine ⟨tape.take 0, rfl, .greetingFails (by omega) ?_⟩
    rw [if_pos hl]
  · next salt tape' hsalt =>
    have ht := Tape.eq_append_of_draw? hsalt
    have hlength := congrArg List.length ht
    rw [List.length_append, Vector.length_toList] at hlength
    split
    · next hid =>
      have hl := Tape.draw?_eq_none_iff.mp hid
      have hs : tape.take 16 = salt.toList := by rw [ht, List.take_left' salt.length_toList]
      refine ⟨tape.take 16, hs ▸ ht, .greetingFails (by omega) ?_⟩
      rw [if_neg (by omega), if_pos (by omega)]
    · next sessionId tape'' hid =>
      have ht' := Tape.eq_append_of_draw? hid
      have hlength' := congrArg List.length ht'
      rw [List.length_append, Vector.length_toList] at hlength'
      split
      · next hgrease =>
        have hl := Tape.draw?_eq_none_iff.mp hgrease
        have hu : tape = salt.toList ++ sessionId.toList ++ tape'' := by
          rw [ht, ht', List.append_assoc]
        have hs : tape.take 48 = salt.toList ++ sessionId.toList := by
          rw [hu, List.take_left' (by simp)]
        refine ⟨tape.take 48, hs ▸ hu, .greetingFails (by omega) ?_⟩
        rw [if_neg (by omega), if_neg (by omega)]
      · next grease rest hgrease =>
        have ht'' := Tape.eq_append_of_draw? hgrease
        have hu : tape = salt.toList ++ sessionId.toList ++ grease.toList ++ rest := by
          rw [ht, ht', ht'']
          simp only [List.append_assoc]
        let index := now.windowIndex setup.replayWindow
        let given := parameters setup index salt sessionId grease
        have hrandom : (hello setup index salt sessionId grease).random = given.random :=
          ClientHello.random_build given
        refine ⟨_, hu, .greeting hu rfl (hello?_frame hn _ _ _ _) ?_ ?_ ?_⟩
        · exact (congrArg Token.saltOf hrandom).trans (Token.saltOf_randomField sha256 salt)
        · exact ClientHello.sessionId_build given
        · intro hb
          exact scatters_hello hb _ _ _ _

omit hn in
lemma split_reply (finished : Vector UInt8 40) :
    Record.split (Record.frame .changeCipherSpec .tls12 [1] ++
        Record.frame .handshake .tls12 finished.toList) =
      ([Record.whole .changeCipherSpec .tls12 [1], Record.whole .handshake .tls12 finished.toList],
        []) := by
  have hl : finished.toList.length ≤ Record.maxPayload := by
    rw [Vector.length_toList, Record.maxPayload]
    omega
  have hs := Record.split_frame_append .handshake .tls12 finished.toList []
  rw [Record.fragments_of_length_le hl, List.append_nil, Record.split_nil] at hs
  rw [Record.split_frame_append, Record.fragments_of_length_le (by decide), hs]
  rfl

omit hn in
lemma accounts_composeReply (now : Instant) (tape : Tape) :
    ∃ spent, tape = spent ++ (composeReply tape).2 ∧
      Entry.Accounts setup tape ⟨now, .reply, (composeReply tape).1, spent⟩ := by
  simp only [composeReply]
  split
  · next hd => exact ⟨[], rfl, .replyFails (Tape.draw?_eq_none_iff.mp hd)⟩
  · next finished rest hd =>
    have ht := Tape.eq_append_of_draw? hd
    exact ⟨finished.toList, ht, .reply ht (split_reply finished)⟩

lemma exists_ledger (now : Instant) (tape : Tape) (steps : List Step) : ∃ entries,
    (run setup ⟨now, tape⟩ steps).1 = entries.map Entry.message ∧
    asked now steps = entries.map (fun entry => (entry.now, entry.step)) ∧
    Ledger setup tape (run setup ⟨now, tape⟩ steps).2.tape entries := by
  induction steps generalizing now tape with
  | nil => exact ⟨[], rfl, rfl, ledger_nil⟩
  | cons step steps ih =>
    cases step with
    | setClock now => exact ih now tape
    | hello =>
      obtain ⟨spent, ht, ha⟩ := accounts_compose hn now tape
      obtain ⟨entries, hmessages, hasked, hl⟩ := ih now (compose setup now tape).2
      exact ⟨_ :: entries, congrArg _ hmessages, congrArg _ hasked, hl.cons ht ha⟩
    | reply =>
      obtain ⟨spent, ht, ha⟩ := accounts_composeReply now tape
      obtain ⟨entries, hmessages, hasked, hl⟩ := ih now (composeReply tape).2
      exact ⟨_ :: entries, congrArg _ hmessages, congrArg _ hasked, hl.cons ht ha⟩

end

/-- The tag is the start of the tape. Behind it stand the fields of the messages of a run in their order,
each of them once, and then what is left. Behind a message that fails, all fail. -/
theorem drawn_once (hm : Setup.make settings options tape = .ok (setup, rest)) (now : Instant)
    (steps : List Step) :
    tape = setup.tag.toList ++ rest ∧
    (∃ entries,
      (run setup ⟨now, rest⟩ steps).1 = entries.map Entry.message ∧
      asked now steps = entries.map (fun entry => (entry.now, entry.step)) ∧
      Ledger setup rest (run setup ⟨now, rest⟩ steps).2.tape entries) ∧
    (∀ before error after, (run setup ⟨now, rest⟩ steps).1 = before ++ .error error :: after →
      ∀ message ∈ after, message = .error .noRandomness) := by
  obtain ⟨entries, hmessages, hasked, hl⟩ :=
    exists_ledger (Setup.length_serverName_le hm) now rest steps
  have ht := Tape.eq_append_of_draw? (Setup.made_of_make hm).drawn
  refine ⟨ht, ⟨entries, hmessages, hasked, hl⟩, ?_⟩
  intro before error after hb message hmem
  rw [hmessages] at hb
  obtain ⟨first, others, rfl, -, ho⟩ := List.map_eq_append_iff.mp hb
  obtain ⟨failed, later, rfl, hf, rfl⟩ := List.map_eq_cons_iff.mp ho
  obtain ⟨entry, he, rfl⟩ := List.mem_map.mp hmem
  exact hl.fails_behind hf he

theorem reply_fails_behind_greeting :
    let epoch : Instant := ⟨0, by decide, by decide⟩
    let later : Instant := ⟨60000000000, by decide, by decide⟩
    let steps := [Step.hello, .reply, .setClock later, .hello, .reply]
    let tape := List.replicate 32 0 ++ (List.replicate 52 1 ++ (List.replicate 40 2 ++
      List.replicate 17 3))
    ∃ setup rest greeting reply entries,
      Setup.make ⟨"127.0.0.1", some 1984, some "proxy.example.com", 443, ""⟩
        { serverName := "example.com", key := "K", ticketTimeHint := 60 } tape = .ok (setup, rest) ∧
      setup.tag = .replicate 32 0 ∧
      (run setup ⟨epoch, rest⟩ steps).1 =
        [.ok greeting, .ok reply, .error .noRandomness, .error .noRandomness] ∧
      entries.map (fun entry : Entry => (entry.now, entry.step)) =
        [(epoch, .hello), (epoch, .reply), (later, .hello), (later, .reply)] ∧
      Ledger setup rest [3] entries := by
  intro epoch later steps tape
  let rest : Tape := List.replicate 52 1 ++ (List.replicate 40 2 ++ List.replicate 17 3)
  obtain ⟨setup, hm⟩ : ∃ setup,
      Setup.make ⟨"127.0.0.1", some 1984, some "proxy.example.com", 443, ""⟩
        { serverName := "example.com", key := "K", ticketTimeHint := 60 } tape = .ok (setup, rest) := by
    have hd : tape.draw? 32 = some (.replicate 32 0, rest) := Bytes.vector?_append (.replicate 32 0) rest
    have hn : ¬ ClientHello.maxServerName < (Bytes.ofString "example.com").length := by decide
    simp only [Setup.make, hd, hn]
    exact ⟨_, rfl⟩
  obtain ⟨greeting, hg⟩ : ∃ greeting,
      compose setup epoch rest = (.ok greeting, List.replicate 40 2 ++ List.replicate 17 3) :=
    ⟨_, compose_append epoch (.replicate 16 1) (.replicate 32 1) (.replicate 4 1) _⟩
  obtain ⟨reply, hr⟩ : ∃ reply,
      composeReply (List.replicate 40 2 ++ List.replicate 17 3) = (.ok reply, List.replicate 17 3) :=
    ⟨_, rfl⟩
  have hf : compose setup later (List.replicate 17 3) = (.error .noRandomness, [3]) := rfl
  have hrun : run setup ⟨epoch, rest⟩ steps =
      ([.ok greeting, .ok reply, .error .noRandomness, (composeReply [3]).1], ⟨later, [3]⟩) := by
    simp only [steps, run, act, hg, hr, hf]
    rfl
  obtain ⟨htag, ⟨entries, -, hasked, hl⟩, hfails⟩ := drawn_once hm epoch steps
  rw [hrun] at hfails hl
  have hlast : (composeReply [3]).1 = .error .noRandomness :=
    hfails [.ok greeting, .ok reply] .noRandomness [(composeReply [3]).1] rfl _ List.mem_cons_self
  refine ⟨setup, rest, greeting, reply, entries, hm, ?_, ?_, hasked.symm, hl⟩
  · exact Vector.toList_inj.mp (List.append_cancel_right htag).symm
  · rw [hrun, hlast]

end Camouflage.Greeting
