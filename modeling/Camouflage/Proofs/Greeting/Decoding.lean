import Camouflage.Greeting
import Camouflage.Proofs.ClientHello.Extensions
import Camouflage.Proofs.Record.Frame
import Camouflage.Proofs.Setup

namespace Camouflage.Greeting

variable {setup : Setup} {settings : Settings} {options : Options} {made drawn : Tape}

def parameters (setup : Setup) (index : UInt64) (salt : Salt) (sessionId : Vector UInt8 32)
    (grease : Vector UInt8 4) : ClientHello.Parameters where
  browser := setup.browser
  serverName := setup.serverName
  random := Token.randomField sha256 setup.key index salt
  sessionId := sessionId
  ticket := Token.sessionTicket hmacSha256 setup.key setup.tag index
  grease := .ofBytes grease

lemma compose_append (now : Instant) (salt : Salt) (sessionId : Vector UInt8 32)
    (grease : Vector UInt8 4) (rest : Tape) :
    compose setup now (salt.toList ++ (sessionId.toList ++ (grease.toList ++ rest))) =
      (.ok (Record.frame .handshake .tls10
        (hello setup (now.windowIndex setup.replayWindow) salt sessionId grease).encode), rest) := by
  simp only [compose, Tape.draw?, Bytes.vector?_append]

variable (index : UInt64) (salt : Salt) (sessionId : Vector UInt8 32) (grease : Vector UInt8 4)

lemma fits_hello (hn : (Bytes.ofString setup.serverName).length ≤ ClientHello.maxServerName) :
    (hello setup index salt sessionId grease).Fits := by
  have hn : (Bytes.ofString (parameters setup index salt sessionId grease).serverName).length ≤
      ClientHello.maxServerName := hn
  apply ClientHello.fits_build hn
  · exact Grease.isValue_firstExtension grease
  · exact Grease.isValue_lastExtension grease

lemma length_encode_hello_le
    (hn : (Bytes.ofString setup.serverName).length ≤ ClientHello.maxServerName) :
    (hello setup index salt sessionId grease).encode.length ≤ Record.maxPayload := by
  have hb : (hello setup index salt sessionId grease).body.length ≤ 658 :=
    ClientHello.length_body_build_le hn
  rw [ClientHello.encode, List.length_cons, Bytes.length_counted, Record.maxPayload]
  omega

lemma body_suffix_encode {hello : ClientHello} {before : List Extension} {extension : Extension}
    (h : hello.extensions = before ++ [extension]) : extension.body <:+ hello.encode := by
  have hblock : extension.body <:+ hello.extensions.flatMap Extension.encode := by
    rw [h, List.flatMap_append, List.flatMap_singleton]
    exact ((List.suffix_append _ _).trans (List.suffix_append _ _)).trans (List.suffix_append _ _)
  have hbody : extension.body <:+ hello.body :=
    (hblock.trans (List.suffix_append _ _)).trans (List.suffix_append _ _)
  exact (hbody.trans (List.suffix_append _ _)).trans (List.suffix_cons _ _)

/-- With the draws that succeed, the greeting of a setup is a single handshake record, and its payload
is the written form of a hello. -/
theorem compose_decodes (h : Setup.make settings options made = .ok (setup, drawn)) (now : Instant)
    (rest : Tape) :
    ∃ greeting record hello,
      compose setup now (salt.toList ++ (sessionId.toList ++ (grease.toList ++ rest))) =
        (.ok greeting, rest) ∧
      Record.split greeting = ([record], []) ∧
      record.header.contentType = 0x16 ∧ record.header.version = 0x0301 ∧
      record.header.length.toNat = (greeting.drop Record.headerLength).length ∧
      ClientHello.ofBytes? record.payload = some hello ∧
      hello.random = Token.randomField sha256 setup.key (now.windowIndex setup.replayWindow) salt ∧
      hello.sessionId = sessionId ∧
      hello.cipherSuites =
        (match setup.browser with
        | .chrome => (Grease.ofBytes grease).cipherSuite :: ClientHello.chromeCipherSuites
        | .firefox => ClientHello.firefoxCipherSuites) ∧
      (∃ padding,
        hello.extensions = ClientHello.extensionsOf
          (parameters setup (now.windowIndex setup.replayWindow) salt sessionId grease) ++ padding ∧
        hello.extensions.map Extension.type =
          ClientHello.typesOf setup.browser (Grease.ofBytes grease)
            (if setup.serverName = "" then [] else [0x0000]) ++ padding.map Extension.type ∧
        (padding = [] ∨ ∃ length, padding = [.padding length])) ∧
      (∀ name, .serverName name ∈ hello.extensions ↔
        setup.serverName ≠ "" ∧ name = Bytes.ofString setup.serverName) ∧
      (∀ ticket, .sessionTicket ticket ∈ hello.extensions ↔
        ticket = (Token.sessionTicket hmacSha256 setup.key setup.tag
          (now.windowIndex setup.replayWindow)).toList) ∧
      (∀ before length after, hello.extensions = before ++ .padding length :: after →
        after = [] ∧ List.replicate length 0 <:+ record.payload) := by
  have hn : (Bytes.ofString setup.serverName).length ≤ ClientHello.maxServerName := by
    have hm := Setup.made_of_make h
    rw [hm.eq]
    exact hm.length_serverName_le
  let index := now.windowIndex setup.replayWindow
  let made := parameters setup index salt sessionId grease
  let hello := hello setup index salt sessionId grease
  have hl : hello.encode.length ≤ Record.maxPayload :=
    length_encode_hello_le index salt sessionId grease hn
  have hlt : hello.encode.length < 65536 := Nat.lt_of_le_of_lt hl (by decide)
  have hf : Record.frame .handshake .tls10 hello.encode =
      Record.single .handshake .tls10 hello.encode := by
    rw [Record.frame, Record.fragments_of_length_le hl, List.flatMap_singleton]
  have hs : Record.split (Record.single .handshake .tls10 hello.encode) =
      ([Record.whole .handshake .tls10 hello.encode], []) := by
    have := Record.split_frame_append .handshake .tls10 hello.encode []
    rwa [hf, Record.fragments_of_length_le hl, List.append_nil, Record.split_nil] at this
  have he : hello.extensions =
      ClientHello.extensionsOf made ++ ClientHello.paddingFor (ClientHello.plain made).body.length :=
    ClientHello.extensions_build made
  have hp := ClientHello.paddingFor_cases (ClientHello.plain made).body.length
  refine ⟨Record.single .handshake .tls10 hello.encode, Record.whole .handshake .tls10 hello.encode,
    hello, ?_, hs, rfl, rfl, ?_, ?_, ?_, ?_, ?_, ⟨_, he, ?_, hp⟩, ?_, ?_, ?_⟩
  · rw [compose_append]
    exact congrArg (fun greeting => (Except.ok greeting, rest)) hf
  · rw [Record.toNat_length_whole _ _ hlt, List.length_drop, Record.length_single]
    omega
  · exact ClientHello.ofBytes?_encode (fits_hello index salt sessionId grease hn)
  · exact ClientHello.random_build made
  · exact ClientHello.sessionId_build made
  · exact ClientHello.cipherSuites_build made
  · rw [he, List.map_append, ClientHello.types_extensionsOf]
    rfl
  · intro name
    have hm : Extension.serverName name ∉
        ClientHello.paddingFor (ClientHello.plain made).body.length := by
      rcases hp with hp | ⟨_, hp⟩ <;> simp [hp]
    rw [he, List.mem_append, ClientHello.serverName_mem_extensionsOf]
    simp only [hm, or_false]
    rfl
  · intro ticket
    have hm : Extension.sessionTicket ticket ∉
        ClientHello.paddingFor (ClientHello.plain made).body.length := by
      rcases hp with hp | ⟨_, hp⟩ <;> simp [hp]
    rw [he, List.mem_append, ClientHello.sessionTicket_mem_extensionsOf]
    simp only [hm, or_false]
    rfl
  · intro before length after hb
    have ha : after = [] := ClientHello.eq_nil_of_padding (he.symm.trans hb)
    rw [ha] at hb
    exact ⟨ha, body_suffix_encode hb⟩

theorem two_byte_name_decodes : ∃ setup,
    Setup.make ⟨"127.0.0.1", some 1984, some "proxy.example.com", 443, ""⟩
      { serverName := "bü.ch", key := "K", ticketTimeHint := 60 } (List.replicate 32 0) =
        .ok (setup, []) ∧
    ∃ greeting record hello,
      compose setup ⟨0, by decide, by decide⟩ (List.replicate 52 0) = (.ok greeting, []) ∧
      Record.split greeting = ([record], []) ∧
      ClientHello.ofBytes? record.payload = some hello ∧
      .serverName [0x62, 0xc3, 0xbc, 0x2e, 0x63, 0x68] ∈ hello.extensions := by
  obtain ⟨setup, hm⟩ : ∃ setup,
      Setup.make ⟨"127.0.0.1", some 1984, some "proxy.example.com", 443, ""⟩
        { serverName := "bü.ch", key := "K", ticketTimeHint := 60 } (List.replicate 32 0) =
          .ok (setup, []) := ⟨_, rfl⟩
  have hname : setup.serverName = "bü.ch" := congrArg Setup.serverName (Setup.made_of_make hm).eq
  obtain ⟨greeting, record, hello, hg, hs, _, _, _, hd, _, _, _, _, hn, _⟩ :=
    compose_decodes (.replicate 16 0) (.replicate 32 0) (.replicate 4 0) hm ⟨0, by decide, by decide⟩ []
  refine ⟨setup, hm, greeting, record, hello, hg, hs, hd, (hn _).mpr ?_⟩
  rw [hname]
  exact ⟨by decide, by decide +kernel⟩

end Camouflage.Greeting
