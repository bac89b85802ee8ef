import Camouflage.Proofs.Greeting.Reading
import Camouflage.Proofs.Token

/-! All greetings of one window carry the same ticket, whatever a run does between them. Two tickets of
one key that agree in a block exhibit two messages that the keyed digest takes for one. -/

namespace Camouflage.Greeting

open Token (block blockMessage sessionTicket)

variable {setup : Setup} {settings : Settings} {options : Options} {made drawn tape rest : Tape}
  {supplies : Supplies} {steps : List Step} {now : Instant} {greeting : Bytes}

inductive Greets (setup : Setup) : Supplies → List Step → Instant → Bytes → Prop
  | here {now : Instant} {tape rest : Tape} {greeting : Bytes} {steps : List Step}
      (h : compose setup now tape = (.ok greeting, rest)) :
      Greets setup ⟨now, tape⟩ (.hello :: steps) now greeting
  | after {supplies : Supplies} {step : Step} {steps : List Step} {now : Instant} {greeting : Bytes}
      (h : Greets setup (act setup supplies step).2 steps now greeting) :
      Greets setup supplies (step :: steps) now greeting

lemma Greets.mem_run (h : Greets setup supplies steps now greeting) :
    .ok greeting ∈ (run setup supplies steps).1 := by
  induction h with
  | here hc =>
    simp only [run, act, hc]
    exact List.mem_cons_self
  | after _ ih =>
    rw [run]
    exact List.mem_append_right _ ih

lemma Greets.exists_compose (h : Greets setup supplies steps now greeting) :
    ∃ tape rest, compose setup now tape = (.ok greeting, rest) := by
  induction h with
  | here hc => exact ⟨_, _, hc⟩
  | after _ ih => exact ih

lemma snd_act_hello {message : Except IoError Bytes} (h : compose setup now tape = (message, rest)) :
    (act setup ⟨now, tape⟩ .hello).2 = ⟨now, rest⟩ := by
  rw [act, h]

def tickets? (greeting : Bytes) : Option (List Bytes) :=
  (hello? greeting).map fun hello =>
    (hello.extensions.filter fun extension => extension.type = 0x0023).map Extension.encode

def ticketExtension (setup : Setup) (index : UInt64) : Bytes :=
  (Extension.sessionTicket (sessionTicket hmacSha256 setup.key setup.tag index).toList).encode

lemma filter_extensions_hello (index : UInt64) (salt : Salt) (sessionId : Vector UInt8 32)
    (grease : Vector UInt8 4) :
    (hello setup index salt sessionId grease).extensions.filter
        (fun extension => extension.type = 0x0023) =
      [.sessionTicket (sessionTicket hmacSha256 setup.key setup.tag index).toList] := by
  let given := parameters setup index salt sessionId grease
  have he : (hello setup index salt sessionId grease).extensions = ClientHello.extensionsOf given ++
      ClientHello.paddingFor (ClientHello.plain given).body.length :=
    ClientHello.extensions_build given
  have hf : (ClientHello.extensionsOf given).filter (fun extension => extension.type = 0x0023) =
      [.sessionTicket given.ticket.toList] :=
    ClientHello.filter_extensionsOf (Grease.isValue_firstExtension grease)
      (Grease.isValue_lastExtension grease)
  rw [he, List.filter_append, hf]
  rcases ClientHello.paddingFor_cases (ClientHello.plain given).body.length with hp | ⟨_, hp⟩
  · rw [hp]
    rfl
  · rw [hp]
    rfl

lemma tickets?_of_compose (hm : Setup.make settings options made = .ok (setup, drawn))
    (h : compose setup now tape = (.ok greeting, rest)) :
    tickets? greeting = some [ticketExtension setup (now.windowIndex setup.replayWindow)] := by
  obtain ⟨salt, sessionId, grease, hh⟩ := exists_hello hm h
  rw [tickets?, hh, Option.map_some, filter_extensions_hello, List.map_singleton, ticketExtension]

/-- Whatever a run does between two greetings of one window, their tickets are the same to the byte. A
ticket is six blocks of a keyed digest, over messages that tell the tag, the window and the block's
number apart. -/
theorem ticket_same_within_window (hm : Setup.make settings options made = .ok (setup, drawn))
    (supplies : Supplies) (steps : List Step) :
    (∀ now greeting, Greets setup supplies steps now greeting →
      .ok greeting ∈ (run setup supplies steps).1 ∧
      tickets? greeting = some [ticketExtension setup (now.windowIndex setup.replayWindow)]) ∧
    (∀ now later greeting other, Greets setup supplies steps now greeting →
      Greets setup supplies steps later other →
      now.windowIndex setup.replayWindow = later.windowIndex setup.replayWindow →
      ∃ ticket, tickets? greeting = some [ticket] ∧ tickets? other = some [ticket]) ∧
    (∀ (mac : Bytes → Bytes → Digest) (key : Key) (tag : Tag) (index : UInt64),
      ∀ counter < 6, block counter (sessionTicket mac key tag index) =
        (mac key.toList
          (tag.toList ++ Bytes.bigEndian 8 index.toNat ++ [UInt8.ofNat counter])).toList) ∧
    (∀ (tag tag' : Tag) (index index' : UInt64), ∀ counter < 6, ∀ counter' < 6,
      (tag, index, counter) ≠ (tag', index', counter') →
      blockMessage tag index counter ≠ blockMessage tag' index' counter') ∧
    (∀ (mac : Bytes → Bytes → Digest) (key : Key) (tag tag' : Tag) (index index' : UInt64),
      (tag, index) ≠ (tag', index') →
      ∀ counter < 6, block counter (sessionTicket mac key tag index) =
        block counter (sessionTicket mac key tag' index') →
      blockMessage tag index counter ≠ blockMessage tag' index' counter ∧
        mac key.toList (blockMessage tag index counter) =
          mac key.toList (blockMessage tag' index' counter)) := by
  have ht : ∀ now greeting, Greets setup supplies steps now greeting →
      tickets? greeting = some [ticketExtension setup (now.windowIndex setup.replayWindow)] := by
    intro now greeting hg
    obtain ⟨tape, rest, hc⟩ := hg.exists_compose
    exact tickets?_of_compose hm hc
  refine ⟨?_, ?_, ?_, ?_, ?_⟩
  · intro now greeting hg
    exact ⟨hg.mem_run, ht now greeting hg⟩
  · intro now later greeting other hg ho hsame
    refine ⟨_, ht now greeting hg, ?_⟩
    rw [hsame]
    exact ht later other ho
  · intro mac key tag index counter hc
    exact Token.block_sessionTicket hc
  · intro tag tag' index index' counter hc counter' hc' hd he
    obtain ⟨rfl, rfl, rfl⟩ := Token.blockMessage_inj hc hc' he
    exact hd rfl
  · intro mac key tag tag' index index' hd counter hc hb
    exact Token.collision_of_block hc hd hb

theorem ticket_same_after_detour :
    let start : Instant := ⟨60000000000, by decide, by decide⟩
    let earlier : Instant := ⟨59999999999, by decide, by decide⟩
    let later : Instant := ⟨119999999999, by decide, by decide⟩
    let tape := List.replicate 52 0 ++ (List.replicate 52 1 ++ (List.replicate 40 2 ++
      (List.replicate 52 3 ++ [])))
    let steps := [Step.hello, .setClock earlier, .hello, .setClock later, .reply, .hello, .hello]
    (∃ setup greeting between other ticket,
      Setup.make ⟨"127.0.0.1", some 1984, some "proxy.example.com", 443, ""⟩
        { serverName := "example.com", key := "K", ticketTimeHint := 60 } (List.replicate 32 0) =
          .ok (setup, []) ∧
      Greets setup ⟨start, tape⟩ steps start greeting ∧
      Greets setup ⟨start, tape⟩ steps earlier between ∧
      Greets setup ⟨start, tape⟩ steps later other ∧
      tickets? greeting = some [ticket] ∧ tickets? between ≠ some [ticket] ∧
      tickets? other = some [ticket]) ∧
    blockMessage (.replicate 32 0) 1 5 ≠ blockMessage (.replicate 32 0) 1 4 ∧
    (let mac : Bytes → Bytes → Digest := fun _ _ => .replicate 32 0
    blockMessage (.replicate 32 0) 1 5 ≠ blockMessage (.replicate 32 0) 0 5 ∧
      mac (List.replicate 32 0) (blockMessage (.replicate 32 0) 1 5) =
        mac (List.replicate 32 0) (blockMessage (.replicate 32 0) 0 5)) := by
  intro start earlier later tape steps
  obtain ⟨setup, hm, hw, hk, ht⟩ : ∃ setup,
      Setup.make ⟨"127.0.0.1", some 1984, some "proxy.example.com", 443, ""⟩
        { serverName := "example.com", key := "K", ticketTimeHint := 60 } (List.replicate 32 0) =
          .ok (setup, []) ∧
      setup.replayWindow = .ofSeconds 60 ∧ setup.key = Token.deriveKey sha256 "K" ∧
      setup.tag = .replicate 32 0 := ⟨_, rfl, rfl, rfl, rfl⟩
  have hs := ticket_same_within_window hm ⟨start, tape⟩ steps
  have hc : ∀ now byte left, ∃ greeting,
      compose setup now (List.replicate 52 byte ++ left) = (.ok greeting, left) :=
    fun now byte left => ⟨_, compose_append now (.replicate 16 byte) (.replicate 32 byte)
      (.replicate 4 byte) left⟩
  have hr : ∀ now left, (act setup ⟨now, List.replicate 40 2 ++ left⟩ .reply).2 = ⟨now, left⟩ := by
    intro now left
    simp [act, composeReply, Tape.draw?, Bytes.vector?]
  refine ⟨?_, ?_, ?_⟩
  · obtain ⟨greeting, hfirst⟩ := hc start 0 _
    obtain ⟨between, hsecond⟩ := hc earlier 1 _
    obtain ⟨other, hthird⟩ := hc later 3 _
    have hg : Greets setup ⟨start, tape⟩ steps start greeting := .here hfirst
    have hreturn : Greets setup ⟨later, List.replicate 40 2 ++ (List.replicate 52 3 ++ [])⟩
        [.reply, .hello, .hello] later other := by
      refine .after ?_
      rw [hr]
      exact .here hthird
    have hb : Greets setup ⟨start, tape⟩ steps earlier between := by
      refine .after ?_
      rw [snd_act_hello hfirst]
      exact .after (.here hsecond)
    have ho : Greets setup ⟨start, tape⟩ steps later other := by
      refine .after ?_
      rw [snd_act_hello hfirst]
      refine .after (.after ?_)
      rw [act, snd_act_hello hsecond]
      exact .after hreturn
    obtain ⟨ticket, ht₁, ht₂⟩ := hs.2.1 start later greeting other hg ho (by rw [hw]; decide)
    refine ⟨setup, greeting, between, other, ticket, hm, hg, hb, ho, ht₁, ?_, ht₂⟩
    rw [← ht₁, (hs.1 start greeting hg).2, (hs.1 earlier between hb).2, hw, ticketExtension,
      ticketExtension, hk, ht]
    decide +kernel
  · exact hs.2.2.2.1 _ _ _ _ 5 (by decide) 4 (by decide) (by decide)
  · exact hs.2.2.2.2 (fun _ _ => .replicate 32 0) (.replicate 32 0) _ _ 1 0 (by decide) 5 (by decide)
      (by decide +kernel)

end Camouflage.Greeting
