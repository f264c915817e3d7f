import SsnConsole.MailDelivery
import SsnConsole.MultipartText

/-!
# Mails on their way

The mailer writes a message with its two alternatives under a random boundary, and
hands it to a mail server in one dialogue.  Whatever the server answers, nobody but
the address that asked is named as a recipient, and what is handed over is read as
the mail that was composed, with no field and no part besides its own.
-/

namespace SsnConsole.AuthService

open SsnConsole.GoStandard
open SsnConsole.MultipartText

section Message

/-- `multipart.Writer`, with the buffer that it writes to. -/
structure MultipartWriter where
  boundary : Bytes
  buffer : Bytes
  /-- Whether `lastpart` is set. -/
  started : Bool

/-- `multipart.NewWriter`, with the random bytes that it draws. -/
def MultipartWriter.new (random : Vector UInt8 30) : MultipartWriter where
  boundary := hexEncode random.toList
  buffer := []
  started := false

/-- Write to the buffer. -/
def MultipartWriter.print (mw : MultipartWriter) (text : Bytes) : MultipartWriter :=
  { mw with buffer := mw.buffer ++ text }

/-- `CreatePart`, with a content type as its only field. -/
def MultipartWriter.createPart (mw : MultipartWriter) (contentType : Bytes) : MultipartWriter :=
  let opening := if mw.started then bytesOf "\r\n--" else bytesOf "--"
  { mw with
    buffer :=
      mw.buffer ++ opening ++ mw.boundary ++ bytesOf "\r\n" ++ bytesOf "Content-Type: " ++
        contentType ++ bytesOf "\r\n" ++ bytesOf "\r\n"
    started := true }

/-- `Close`. -/
def MultipartWriter.close (mw : MultipartWriter) : MultipartWriter :=
  mw.print (bytesOf "\r\n--" ++ mw.boundary ++ bytesOf "--\r\n")

/-- `writePart`. -/
def MultipartWriter.writePart (mw : MultipartWriter) (contentType body : Bytes) :
    MultipartWriter :=
  (mw.createPart contentType).print body

/-- `buildMIME`, with the random bytes of the boundary. -/
def buildMIME (random : Vector UInt8 30) (msg : Message) : Bytes :=
  let mw := MultipartWriter.new random
  let mw := mw.print (bytesOf "From: " ++ msg.sender ++ bytesOf "\r\n")
  let mw := mw.print (bytesOf "To: " ++ msg.recipient ++ bytesOf "\r\n")
  let mw := mw.print (bytesOf "Subject: " ++ msg.subject ++ bytesOf "\r\n")
  let mw := mw.print (bytesOf "MIME-Version: 1.0\r\n")
  let mw :=
    mw.print
      (bytesOf "Content-Type: multipart/alternative; boundary=\"" ++ mw.boundary ++
        bytesOf "\"\r\n\r\n")
  let mw := mw.writePart (bytesOf "text/plain; charset=utf-8") msg.text
  let mw := mw.writePart (bytesOf "text/html; charset=utf-8") msg.html
  mw.close.buffer

end Message

section Dialogue

/-- `SMTPConfig`. -/
structure SMTPConfig where
  host : Bytes
  port : Nat
  user : Bytes
  pass : Bytes

/-- `smtpSubmissionsPort`. -/
def smtpSubmissionsPort : Nat := 465

/-- The calls of `smtpClient` and of the writer that `Data` returns. -/
inductive SmtpCommand
  | startTLS (serverName : Bytes)
  | auth (user pass host : Bytes)
  | mail (address : Bytes)
  | rcpt (address : Bytes)
  | data
  | write (body : Bytes)
  | closeData
  | quit
  | close
  deriving DecidableEq

/-- A mail server: whether it offers `STARTTLS`, and the error that answers a command after
others, if any. -/
structure SmtpServer where
  offersStartTLS : Bool
  answer : List SmtpCommand → SmtpCommand → Option String

/-- An error of a send: where it arose, and the error of the library, if that is known. -/
structure SendError where
  stage : String
  cause : Option String
  deriving DecidableEq

/-- A dialogue with a mail server: the commands so far, and the error that ended it, if any. -/
structure Dialogue where
  commands : List SmtpCommand
  failure : Option SendError
  deriving DecidableEq

namespace Dialogue

/-- The next command; an error ends the dialogue. -/
def ask (server : SmtpServer) (command : SmtpCommand) (stage : String) (dialogue : Dialogue) :
    Dialogue :=
  if dialogue.failure.isSome then
    dialogue
  else
    { commands := dialogue.commands ++ [command]
      failure :=
        (server.answer dialogue.commands command).map fun err => ⟨stage, some err⟩ }

/-- The body is written; an error closes the writer, too. -/
def write (server : SmtpServer) (body : Bytes) (dialogue : Dialogue) : Dialogue :=
  if dialogue.failure.isSome then
    dialogue
  else
    match server.answer dialogue.commands (.write body) with
    | none => { dialogue with commands := dialogue.commands ++ [.write body] }
    | some err =>
        { commands := dialogue.commands ++ [.write body] ++ [.closeData]
          failure := some ⟨"write body", some err⟩ }

/-- An error that is none of the server's. -/
def fail (stage : String) (dialogue : Dialogue) : Dialogue :=
  if dialogue.failure.isSome then
    dialogue
  else
    { dialogue with failure := some ⟨stage, none⟩ }

end Dialogue

variable [AuthLibraries]

/-- `envelopeAddress`. -/
def envelopeAddress (text : Bytes) : Option Bytes :=
  (AuthLibraries.parseAddress text).map MailAddress.address

/-- `sendVia`: the dialogue, which is closed in any case. -/
def sendVia (server : SmtpServer) (cfg : SMTPConfig) (msg : Message) (body : Bytes) : Dialogue :=
  let dialogue : Dialogue := ⟨[], none⟩
  let dialogue :=
    if cfg.port ≠ smtpSubmissionsPort ∧ server.offersStartTLS then
      dialogue.ask server (.startTLS cfg.host) "starttls"
    else
      dialogue
  let dialogue :=
    if cfg.user ≠ [] then
      dialogue.ask server (.auth cfg.user cfg.pass cfg.host) "auth"
    else
      dialogue
  let dialogue :=
    match envelopeAddress msg.sender with
    | none => dialogue.fail "parse from"
    | some fromAddr =>
        match envelopeAddress msg.recipient with
        | none => dialogue.fail "parse to"
        | some toAddr =>
            ((((((dialogue.ask server (.mail fromAddr) "mail from").ask server (.rcpt toAddr)
              "rcpt to").ask server .data "data").write server body).ask server .closeData
              "close data").ask server .quit "")
  { dialogue with commands := dialogue.commands ++ [.close] }

end Dialogue

section Intact

/-- The fields of a message. -/
def messageFields (boundary : Bytes) (msg : Message) : List Field :=
  [(bytesOf "From", msg.sender), (bytesOf "To", msg.recipient),
    (bytesOf "Subject", msg.subject), (bytesOf "MIME-Version", bytesOf "1.0"),
    (bytesOf "Content-Type",
      bytesOf "multipart/alternative; boundary=\"" ++ boundary ++ bytesOf "\"")]

/-- The two alternatives of a message. -/
def messageParts (msg : Message) : List Part :=
  [⟨[(bytesOf "Content-Type", bytesOf "text/plain; charset=utf-8")], msg.text⟩,
    ⟨[(bytesOf "Content-Type", bytesOf "text/html; charset=utf-8")], msg.html⟩]

/-- A message is a header and the parts that it should have. -/
theorem buildMIME_eq
    (random : Vector UInt8 30)
    (msg : Message) :
    ∃ body,
      buildMIME random msg =
          writeHeader (messageFields (hexEncode random.toList) msg) ++ body ∧
        13 :: 10 :: body = writeParts (hexEncode random.toList) (messageParts msg) := by
  have written :
      (bytesOf "From: " = bytesOf "From" ++ [58, 32] ∧ bytesOf "To: " = bytesOf "To" ++ [58, 32] ∧
        bytesOf "Subject: " = bytesOf "Subject" ++ [58, 32] ∧
          bytesOf "MIME-Version: 1.0\r\n" =
              bytesOf "MIME-Version" ++ [58, 32] ++ bytesOf "1.0" ++ [13, 10] ∧
            bytesOf "Content-Type: multipart/alternative; boundary=\"" =
                bytesOf "Content-Type" ++ [58, 32] ++
                  bytesOf "multipart/alternative; boundary=\"" ∧
              bytesOf "\"\r\n\r\n" = bytesOf "\"" ++ [13, 10] ++ [13, 10]) ∧
        bytesOf "\r\n" = [13, 10] ∧ bytesOf "--" = [45, 45] ∧
          bytesOf "\r\n--" = [13, 10, 45, 45] ∧ bytesOf "--\r\n" = [45, 45, 13, 10] ∧
            bytesOf "Content-Type: " = bytesOf "Content-Type" ++ [58, 32] := by
    decide +kernel
  obtain ⟨⟨sender, recipient, subject, version, contentType, closing⟩, newline, hyphens, delimited,
    last, typed⟩ := written
  refine ⟨(writeParts (hexEncode random.toList) (messageParts msg)).drop 2, ?_, ?_⟩
  · simp only [buildMIME, MultipartWriter.new, MultipartWriter.print, MultipartWriter.writePart,
      MultipartWriter.createPart, MultipartWriter.close, messageFields, messageParts, writeHeader,
      writeParts, writePart, delimiter, sender, recipient, subject, version,
      contentType, closing, hyphens, delimited, last, typed, newline]
    simp [writeField]
  · simp [writeParts, messageParts, delimiter]

/-- A boundary has no byte that is no hexadecimal digit. -/
private theorem not_mem_boundary
    {byte : UInt8}
    (other : ∀ value : Fin 16, hexDigit (UInt8.ofNat value) ≠ byte)
    (random : Vector UInt8 30) :
    byte ∉ hexEncode random.toList := by
  intro member
  obtain ⟨value, small, same⟩ := hexDigit_of_mem_hexEncode member
  have differs := other ⟨value.toNat, small⟩
  rw [UInt8.ofNat_toNat] at differs
  exact differs same.symm

/-- A boundary has 60 digits. -/
private theorem length_boundary
    (random : Vector UInt8 30) :
    (hexEncode random.toList).length = 60 := by
  have pairs : ∀ bytes : Bytes, (hexEncode bytes).length = 2 * bytes.length := by
    intro bytes
    induction bytes with
    | nil => rfl
    | cons byte rest inductionHypothesis =>
        have written :
            hexEncode (byte :: rest) =
              hexDigit (byte / 16) :: hexDigit (byte % 16) :: hexEncode rest := rfl
        simp only [written, List.length_cons, inductionHypothesis]
        omega
  rw [pairs, Vector.length_toList]

/-- Each field of a message fits into its line, if its values have no line breaks. -/
private theorem inLine_messageFields
    {msg : Message}
    (sender : Unbroken msg.sender)
    (recipient : Unbroken msg.recipient)
    (subject : Unbroken msg.subject)
    (random : Vector UInt8 30) :
    ∀ field ∈ messageFields (hexEncode random.toList) msg, InLine field := by
  have ⟨names, values⟩ :
      (∀ name ∈ ["From", "To", "Subject", "MIME-Version", "Content-Type"].map bytesOf,
        name ≠ [] ∧ 58 ∉ name ∧ 13 ∉ name ∧ 10 ∉ name) ∧
        ∀ value ∈ ["1.0", "multipart/alternative; boundary=\"", "\""].map bytesOf,
          13 ∉ value ∧ 10 ∉ value := by
    decide +kernel
  have boundary : Unbroken (hexEncode random.toList) :=
    ⟨not_mem_boundary (by decide) random, not_mem_boundary (by decide) random⟩
  have named :
      ∀ name ∈ ["From", "To", "Subject", "MIME-Version", "Content-Type"].map bytesOf,
        ∀ value, Unbroken value → InLine (name, value) := by
    intro name member value unbroken
    obtain ⟨nonempty, colon, broken⟩ := names name member
    exact ⟨nonempty, colon, broken, unbroken⟩
  have alternatives := values (bytesOf "multipart/alternative; boundary=\"") (by simp)
  have quoted := values (bytesOf "\"") (by simp)
  have contentType :
      Unbroken
        (bytesOf "multipart/alternative; boundary=\"" ++ hexEncode random.toList ++
          bytesOf "\"") := by
    constructor
    · simp [alternatives.1, boundary.1, quoted.1]
    · simp [alternatives.2, boundary.2, quoted.2]
  intro field member
  simp only [messageFields, List.mem_cons, List.not_mem_nil, or_false] at member
  rcases member with rfl | rfl | rfl | rfl | rfl
  · exact named _ (by simp) _ sender
  · exact named _ (by simp) _ recipient
  · exact named _ (by simp) _ subject
  · exact named _ (by simp) _ (values (bytesOf "1.0") (by simp))
  · exact named _ (by simp) _ contentType

/-- Each alternative of a message can be told from a delimiter, unless it has the boundary. -/
private theorem delimited_messageParts
    {msg : Message}
    {random : Vector UInt8 30}
    (text : ¬ hexEncode random.toList <:+: msg.text)
    (html : ¬ hexEncode random.toList <:+: msg.html) :
    ∀ part ∈ messageParts msg, Delimited (hexEncode random.toList) part := by
  have ⟨headers, name⟩ :
      (∀ contentType ∈ ["text/plain; charset=utf-8", "text/html; charset=utf-8"].map bytesOf,
        (writeHeader [(bytesOf "Content-Type", contentType)]).length + 2 ≤ 60 ∧
          13 ∉ contentType ∧ 10 ∉ contentType) ∧
        bytesOf "Content-Type" ≠ [] ∧ 58 ∉ bytesOf "Content-Type" ∧
          13 ∉ bytesOf "Content-Type" ∧ 10 ∉ bytesOf "Content-Type" := by
    decide +kernel
  have delimited :
      ∀ contentType ∈ ["text/plain; charset=utf-8", "text/html; charset=utf-8"].map bytesOf,
        ∀ body, ¬ hexEncode random.toList <:+: body →
          Delimited (hexEncode random.toList) ⟨[(bytesOf "Content-Type", contentType)], body⟩ := by
    intro contentType member body absent
    obtain ⟨short, unbroken⟩ := headers contentType member
    constructor
    · intro field inside
      obtain rfl := List.mem_singleton.mp inside
      exact ⟨name.1, name.2.1, name.2.2, unbroken⟩
    · apply not_delimiter_infix (not_mem_boundary (by decide) random) _ absent
      rw [length_boundary]
      exact short
  intro part member
  simp only [messageParts, List.mem_cons, List.not_mem_nil, or_false] at member
  rcases member with rfl | rfl
  · exact delimited _ (by simp) _ text
  · exact delimited _ (by simp) _ html

/-- A message is read as it was meant, with no field and no part besides its own. -/
theorem readMessage_buildMIME
    {msg : Message}
    {random : Vector UInt8 30}
    (sender : Unbroken msg.sender)
    (recipient : Unbroken msg.recipient)
    (subject : Unbroken msg.subject)
    (text : ¬ hexEncode random.toList <:+: msg.text)
    (html : ¬ hexEncode random.toList <:+: msg.html) :
    readMessage (buildMIME random msg) =
      some ⟨messageFields (hexEncode random.toList) msg, messageParts msg⟩ := by
  obtain ⟨body, built, written⟩ := buildMIME_eq random msg
  have header :=
    readHeader_writeHeader (inLine_messageFields sender recipient subject random) body
      (length_lt_writeHeader _ body)
  have ⟨others, quoted⟩ :
      (∀ name ∈ ["From", "To", "Subject", "MIME-Version"].map bytesOf,
        (bytesOf "Content-Type" == name) = false) ∧
        bytesOf "\"" = [34] := by
    decide +kernel
  have found :
      (messageFields (hexEncode random.toList) msg).lookup (bytesOf "Content-Type") =
        some (alternativeType ++ (hexEncode random.toList ++ bytesOf "\"")) := by
    have typed : (bytesOf "Content-Type" == bytesOf "Content-Type") = true := beq_self_eq_true _
    simp only [messageFields, List.lookup, others _ (by simp : bytesOf "From" ∈ _),
      others _ (by simp : bytesOf "To" ∈ _), others _ (by simp : bytesOf "Subject" ∈ _),
      others _ (by simp : bytesOf "MIME-Version" ∈ _), typed]
    simp [alternativeType]
  have boundary :
      boundaryOf (alternativeType ++ (hexEncode random.toList ++ bytesOf "\"")) =
        some (hexEncode random.toList) := by
    have digits :
        ∀ byte ∈ hexEncode random.toList, decide (byte ≠ 34) = true := by
      intro byte member
      apply decide_eq_true
      rintro rfl
      exact not_mem_boundary (by decide) random member
    rw [boundaryOf, if_pos (List.isPrefixOf_iff_prefix.mpr (List.prefix_append _ _)),
      List.drop_left, quoted, List.takeWhile_append_of_pos digits,
      List.takeWhile_cons_of_neg (by simp), List.append_nil]
  have parts :
      readParts (hexEncode random.toList) body = some (messageParts msg) :=
    readParts_writeParts (not_mem_boundary (by decide) random)
      (delimited_messageParts text html) written
  unfold readMessage
  rw [built, header, Option.bind_some, found, Option.bind_some, boundary, Option.bind_some, parts]
  rfl

end Intact

section Progress

/-- Whether a server accepts every command of a list, after those before it. -/
def SmtpServer.Accepts (server : SmtpServer) (commands : List SmtpCommand) : Prop :=
  ∀ before command after,
    commands = before ++ command :: after → server.answer before command = none

/-- One more command is accepted. -/
private theorem accepts_concat
    {server : SmtpServer}
    {commands : List SmtpCommand}
    {command : SmtpCommand} :
    server.Accepts (commands ++ [command]) ↔
      server.Accepts commands ∧ server.answer commands command = none := by
  constructor
  · intro accepts
    constructor
    · rintro before other after rfl
      exact accepts before other (after ++ [command]) (by simp)
    · exact accepts commands command [] rfl
  · rintro ⟨accepts, last⟩ before other after same
    rcases List.eq_nil_or_concat after with rfl | ⟨rest, final, rfl⟩
    · obtain ⟨rfl, rfl⟩ := List.append_inj' same rfl |>.imp id (fun tail => (List.cons.inj tail).1)
      exact last
    · have split : commands ++ [command] = (before ++ other :: rest) ++ [final] := by
        rw [same]
        simp
      obtain ⟨rfl, -⟩ := List.append_inj' split rfl
      exact accepts before other rest rfl

/-- How far a dialogue has come along its script: no command is out of line, and it goes on
exactly if the server accepted everything so far. -/
structure Dialogue.Progress (server : SmtpServer) (script done : List SmtpCommand)
    (dialogue : Dialogue) : Prop where
  inLine : dialogue.commands <+: script
  ahead : done <+: script
  complete : dialogue.failure = none → dialogue.commands = done
  accepted : dialogue.failure = none ↔ server.Accepts done

namespace Dialogue.Progress

variable {server : SmtpServer} {script done : List SmtpCommand} {dialogue : Dialogue}

/-- A new dialogue is at the beginning of its script. -/
theorem start : Dialogue.Progress server script [] ⟨[], none⟩ where
  inLine := List.nil_prefix
  ahead := List.nil_prefix
  complete _ := rfl
  accepted := by
    refine ⟨fun _ before command after same => ?_, fun _ => rfl⟩
    simp at same

/-- A dialogue that has ended does not go on. -/
theorem ended
    (progress : dialogue.Progress server script done)
    {command : SmtpCommand}
    {error : SendError}
    (failed : dialogue.failure = some error)
    (next : done ++ [command] <+: script) :
    dialogue.Progress server script (done ++ [command]) := by
  have refused := progress.accepted
  refine ⟨progress.inLine, next, ?_, ?_⟩
  · rw [failed]
    exact fun none => nomatch none
  · rw [failed] at refused ⊢
    rw [accepts_concat, ← refused]
    simp

/-- A dialogue stays on its script with the script's next command. -/
theorem ask
    (progress : dialogue.Progress server script done)
    (command : SmtpCommand)
    (stage : String)
    (next : done ++ [command] <+: script) :
    (dialogue.ask server command stage).Progress server script (done ++ [command]) := by
  cases failed : dialogue.failure with
  | some error =>
      have same : dialogue.ask server command stage = dialogue := by
        simp [Dialogue.ask, failed]
      rw [same]
      exact progress.ended failed next
  | none =>
      have here := progress.complete failed
      have accepted := progress.accepted.mp failed
      have asked :
          dialogue.ask server command stage =
            { commands := done ++ [command]
              failure := (server.answer done command).map fun err => ⟨stage, some err⟩ } := by
        simp [Dialogue.ask, failed, here]
      rw [asked]
      refine ⟨next, next, fun _ => rfl, ?_⟩
      rw [accepts_concat]
      simp [accepted]

/-- A dialogue stays on its script with a command that depends on the configuration. -/
theorem askIf
    (progress : dialogue.Progress server script done)
    (said : Prop)
    [Decidable said]
    (command : SmtpCommand)
    (stage : String)
    (next : (done ++ if said then [command] else []) <+: script) :
    (if said then dialogue.ask server command stage else dialogue).Progress server script
      (done ++ if said then [command] else []) := by
  by_cases holds : said
  · rw [if_pos holds] at next ⊢
    rw [if_pos holds]
    exact progress.ask command stage next
  · rw [if_neg holds, if_neg holds, List.append_nil]
    exact progress

/-- A dialogue stays on its script when the body is written and then closed. -/
theorem write
    (progress : dialogue.Progress server script done)
    (body : Bytes)
    (next : done ++ [.write body] ++ [.closeData] <+: script) :
    (dialogue.write server body).Progress server script (done ++ [.write body]) := by
  have written : done ++ [.write body] <+: script := (List.prefix_append _ _).trans next
  cases failed : dialogue.failure with
  | some error =>
      have same : dialogue.write server body = dialogue := by
        simp [Dialogue.write, failed]
      rw [same]
      exact progress.ended failed written
  | none =>
      have here := progress.complete failed
      have accepted := progress.accepted.mp failed
      cases answer : server.answer done (.write body) with
      | none =>
          have wrote :
              dialogue.write server body = ⟨done ++ [.write body], none⟩ := by
            simp [Dialogue.write, failed, here, answer]
          rw [wrote]
          refine ⟨written, written, fun _ => rfl, ?_⟩
          rw [accepts_concat]
          simp [accepted, answer]
      | some error =>
          have wrote :
              dialogue.write server body =
                ⟨done ++ [.write body] ++ [.closeData], some ⟨"write body", some error⟩⟩ := by
            simp [Dialogue.write, failed, here, answer]
          rw [wrote]
          refine ⟨next, written, ?_, ?_⟩
          · exact fun none => nomatch none
          · rw [accepts_concat]
            simp [answer]

end Dialogue.Progress

variable [AuthLibraries]

/-- What is said to a server before a mail is handed over. -/
def openingCommands (server : SmtpServer) (cfg : SMTPConfig) : List SmtpCommand :=
  (if cfg.port ≠ smtpSubmissionsPort ∧ server.offersStartTLS then [.startTLS cfg.host] else []) ++
    if cfg.user ≠ [] then [.auth cfg.user cfg.pass cfg.host] else []

/-- What is said to a server that accepts everything, but for the close. -/
def fullDialogue (server : SmtpServer) (cfg : SMTPConfig) (fromAddr toAddr body : Bytes) :
    List SmtpCommand :=
  openingCommands server cfg ++
    [.mail fromAddr, .rcpt toAddr, .data, .write body, .closeData, .quit]

/-- A send says the full dialogue as far as the server accepts it, closes the connection, and
fails exactly if the server refused a command. -/
theorem sendVia_dialogue
    (server : SmtpServer)
    (cfg : SMTPConfig)
    {msg : Message}
    (body : Bytes)
    {fromAddr toAddr : Bytes}
    (sender : envelopeAddress msg.sender = some fromAddr)
    (recipient : envelopeAddress msg.recipient = some toAddr) :
    ∃ said,
      (sendVia server cfg msg body).commands = said ++ [.close] ∧
        said <+: fullDialogue server cfg fromAddr toAddr body ∧
          ((sendVia server cfg msg body).failure = none →
            said = fullDialogue server cfg fromAddr toAddr body) ∧
            ((sendVia server cfg msg body).failure = none ↔
              server.Accepts (fullDialogue server cfg fromAddr toAddr body)) := by
  have new :
      Dialogue.Progress server (fullDialogue server cfg fromAddr toAddr body) [] ⟨[], none⟩ :=
    .start
  have secured :=
    new.askIf (cfg.port ≠ smtpSubmissionsPort ∧ server.offersStartTLS = true)
      (.startTLS cfg.host) "starttls" (by simp [fullDialogue, openingCommands])
  have authenticated :=
    secured.askIf (cfg.user ≠ []) (.auth cfg.user cfg.pass cfg.host) "auth"
      (by simp [fullDialogue, openingCommands])
  have senderNamed :=
    authenticated.ask (.mail fromAddr) "mail from" (by simp [fullDialogue, openingCommands])
  have recipientNamed :=
    senderNamed.ask (.rcpt toAddr) "rcpt to" (by simp [fullDialogue, openingCommands])
  have started := recipientNamed.ask .data "data" (by simp [fullDialogue, openingCommands])
  have written := started.write body (by simp [fullDialogue, openingCommands])
  have closed := written.ask .closeData "close data" (by simp [fullDialogue, openingCommands])
  have quit := closed.ask .quit "" (by simp [fullDialogue, openingCommands])
  simp only [List.nil_append, List.append_assoc, List.cons_append] at quit
  have whole := quit.accepted
  have complete := quit.complete
  have full :
      openingCommands server cfg ++
          [.mail fromAddr, .rcpt toAddr, .data, .write body, .closeData, .quit] =
        fullDialogue server cfg fromAddr toAddr body := rfl
  simp only [openingCommands, List.append_assoc] at full
  rw [full] at whole complete
  unfold sendVia
  rw [sender, recipient]
  exact ⟨_, rfl, quit.inLine, complete, whole⟩

end Progress

section Runs

variable [AuthLibraries] {deps : Deps} {start : Int}

omit [AuthLibraries] in
/-- The full dialogue names one recipient and writes one body. -/
private theorem mem_fullDialogue
    {server : SmtpServer}
    {cfg : SMTPConfig}
    {fromAddr toAddr body : Bytes} :
    (∀ address,
        .rcpt address ∈ fullDialogue server cfg fromAddr toAddr body → address = toAddr) ∧
      ∀ bytes, .write bytes ∈ fullDialogue server cfg fromAddr toAddr body → bytes = body := by
  have opening :
      ∀ command ∈ openingCommands server cfg,
        (∀ address, command ≠ .rcpt address) ∧ ∀ bytes, command ≠ .write bytes := by
    intro command member
    rcases List.mem_append.mp member with secured | authenticated
    · split at secured
      · obtain rfl := List.mem_singleton.mp secured
        simp
      · cases secured
    · split at authenticated
      · obtain rfl := List.mem_singleton.mp authenticated
        simp
      · cases authenticated
  constructor
  · intro address member
    rcases List.mem_append.mp member with early | named
    · exact absurd rfl ((opening _ early).1 address)
    · simpa using named
  · intro bytes member
    rcases List.mem_append.mp member with early | written
    · exact absurd rfl ((opening _ early).2 bytes)
    · simpa using written

/-- An address that was asked for is its own envelope. -/
private theorem envelopeAddress_of_requested
    {body email : Bytes}
    (requested : requestedEmail body = some email) :
    ∃ parsed,
      AuthLibraries.parseAddress email = some parsed ∧ parsed.address = email ∧
        envelopeAddress email = some email := by
  obtain ⟨-, valid⟩ := Option.filter_eq_some_iff.mp requested
  obtain ⟨parsed, found, bare⟩ := (Option.any_eq_true _ _).mp valid
  simp only [Bool.and_eq_true, beq_iff_eq] at bare
  refine ⟨parsed, found, bare.1, ?_⟩
  rw [envelopeAddress, found, Option.map_some, bare.1]

/-- The subjects of both flows have no line breaks. -/
private theorem unbroken_subject
    (route : Route) :
    Unbroken route.flow.subject := by
  have subjects :
      ∀ subject ∈
          ["Swiss Subnet Email Verification", "Swiss Subnet Account Recovery"].map bytesOf,
        13 ∉ subject ∧ 10 ∉ subject := by
    decide +kernel
  cases route with
  | emailVerification => exact subjects (bytesOf "Swiss Subnet Email Verification") (by simp)
  | accountRecovery => exact subjects (bytesOf "Swiss Subnet Account Recovery") (by simp)

/--
Where `SMTP_FROM` parses as an address and has no line break, a mail server is told
no recipient but the address that asked for the mail, whatever it answers, and what
it is given is read as one message from the service to this address, with the
subject of the flow and the two texts as its only parts.  The send succeeds exactly
if the server accepts the whole dialogue.
-/
theorem AuthRun.mailedMessages_intact
    (run : AuthRun deps start)
    (time : Nat)
    (within : time ≤ run.length)
    (addresses :
      ∀ text parsed,
        AuthLibraries.parseAddress text = some parsed → parsed.address = text → Unbroken text)
    (sender : Unbroken deps.smtpFrom)
    (fromAddr : Bytes)
    (envelope : envelopeAddress deps.smtpFrom = some fromAddr)
    (mail : Mail)
    (member : mail ∈ (run.state time).mailed)
    (random : Vector UInt8 30)
    (text : ¬ hexEncode random.toList <:+: mail.message.text)
    (html : ¬ hexEncode random.toList <:+: mail.message.html)
    (server : SmtpServer)
    (cfg : SMTPConfig)
    (dialogue : Dialogue)
    (sends : dialogue = sendVia server cfg mail.message (buildMIME random mail.message)) :
    (∃ earlier < time, run.Requested earlier mail.admission) ∧
      (∀ address, .rcpt address ∈ dialogue.commands → address = mail.admission.email) ∧
        (∀ bytes, .write bytes ∈ dialogue.commands →
          readMessage bytes =
            some
              ⟨messageFields (hexEncode random.toList)
                  ⟨deps.smtpFrom, mail.admission.email, mail.admission.route.flow.subject,
                    mail.message.html, mail.message.text⟩,
                messageParts mail.message⟩) ∧
          (dialogue.failure = none →
            dialogue.commands =
              fullDialogue server cfg fromAddr mail.admission.email
                  (buildMIME random mail.message) ++
                [.close]) ∧
            (dialogue.failure = none ↔
              server.Accepts
                (fullDialogue server cfg fromAddr mail.admission.email
                  (buildMIME random mail.message))) := by
  obtain ⟨earlier, before, index, now, event, requested, composed⟩ :=
    AuthRun.composed_of_mail within (.inr member)
  obtain ⟨jwt, answers⟩ := answers_of_composeMail composed
  obtain ⟨asked, askedBefore, header, body, -, -, valid⟩ := id requested
  obtain ⟨parsed, found, bare, recipient⟩ := envelopeAddress_of_requested valid
  have contents :
      (⟨deps.smtpFrom, mail.admission.email, mail.admission.route.flow.subject,
          mail.message.html, mail.message.text⟩ : Message) =
        mail.message := by
    rw [← answers.sender, ← answers.recipient, ← answers.subject]
  have read :
      readMessage (buildMIME random mail.message) =
        some
          ⟨messageFields (hexEncode random.toList) mail.message, messageParts mail.message⟩ := by
    apply readMessage_buildMIME _ _ _ text html
    · rw [answers.sender]
      exact sender
    · rw [answers.recipient]
      exact addresses _ parsed found bare
    · rw [answers.subject]
      exact unbroken_subject _
  rw [← answers.sender] at envelope
  have named : envelopeAddress mail.message.recipient = some mail.admission.email := by
    rw [answers.recipient]
    exact recipient
  obtain ⟨said, commands, inLine, complete, accepted⟩ :=
    sendVia_dialogue server cfg (buildMIME random mail.message) envelope named
  subst sends
  rw [contents]
  have among :
      ∀ command ∈ (sendVia server cfg mail.message (buildMIME random mail.message)).commands,
        command = .close ∨
          command ∈
            fullDialogue server cfg fromAddr mail.admission.email
              (buildMIME random mail.message) := by
    intro command inside
    rw [commands] at inside
    rcases List.mem_append.mp inside with spoken | closed
    · exact .inr (inLine.subset spoken)
    · exact .inl (List.mem_singleton.mp closed)
  refine ⟨⟨earlier, before, requested⟩, ?_, ?_, ?_, accepted⟩
  · intro address named
    rcases among _ named with impossible | spoken
    · cases impossible
    · exact mem_fullDialogue.1 address spoken
  · intro bytes written
    rcases among _ written with impossible | spoken
    · cases impossible
    · rw [mem_fullDialogue.2 bytes spoken]
      exact read
  · intro succeeds
    rw [commands, complete succeeds]

end Runs

namespace RecordedMail

/-- The libraries at the recorded request, with the sender's address. -/
@[reducible]
def postingLibraries : AuthLibraries where
  decodeEmailRequest := libraries.decodeEmailRequest
  parseAddress text :=
    if text = deps.smtpFrom then
      some ⟨bytesOf "Swiss Subnet", bytesOf "noreply@example.org"⟩
    else
      libraries.parseAddress text
  execute := libraries.execute
  serialize := libraries.serialize

attribute [local instance] postingLibraries

/-- The recorded run, with the sender's address. -/
def postingRun : AuthRun deps 0 :=
  .ofEvents events (.finish 0) (by decide +kernel)

/-- A mail server that wants a login and accepts one recipient. -/
def relay : SmtpServer where
  offersStartTLS := true
  answer _ command :=
    match command with
    | .rcpt address => if address = ada then none else some "550 no such user"
    | _ => none

/-- How the mail server is reached. -/
def relayConfig : SMTPConfig where
  host := bytesOf "smtp.example.org"
  port := 587
  user := bytesOf "console"
  pass := bytesOf "secret"

/-- The mail of the recorded run is handed over as it was meant. -/
theorem mailedMessages_intact_recorded :
    ∃ mail ∈ (postingRun.state 5).mailed, ∀ dialogue,
      dialogue =
          sendVia relay relayConfig mail.message
            (buildMIME (Vector.replicate 30 17) mail.message) →
        ∀ address, .rcpt address ∈ dialogue.commands → address = mail.admission.email := by
  have ⟨evaluated, unbroken, envelope⟩ :
      ((postingRun.state 5).mailed.any fun mail =>
        decide (mail.message.text.count 49 < 60) && decide (mail.message.html.count 49 < 60)) =
          true ∧
        (∀ text ∈ [ada, deps.smtpFrom], 13 ∉ text ∧ 10 ∉ text) ∧
          envelopeAddress deps.smtpFrom = some (bytesOf "noreply@example.org") := by
    decide +kernel
  obtain ⟨mail, member, few⟩ := List.any_eq_true.mp evaluated
  simp only [Bool.and_eq_true, decide_eq_true_eq] at few
  -- The boundary has the digit 1 more often than the texts have it.
  have absent :
      ∀ text : Bytes, text.count 49 < 60 →
        ¬ hexEncode (Vector.replicate 30 17).toList <:+: text := by
    intro text seldom occurs
    have ones : (hexEncode (Vector.replicate 30 17).toList).count 49 = 60 := by decide
    have often := occurs.sublist.count_le 49
    omega
  have addresses :
      ∀ text parsed,
        postingLibraries.parseAddress text = some parsed → parsed.address = text →
          Unbroken text := by
    intro text parsed found _
    have parse :
        postingLibraries.parseAddress text =
          if text = deps.smtpFrom then
            some ⟨bytesOf "Swiss Subnet", bytesOf "noreply@example.org"⟩
          else if text == ada then
            some ⟨[], ada⟩
          else
            none := rfl
    rw [parse] at found
    split at found
    · rename_i sender
      rw [sender]
      exact unbroken deps.smtpFrom (by simp)
    · split at found
      · rename_i asked
        rw [beq_iff_eq.mp asked]
        exact unbroken ada (by simp)
      · cases found
  refine ⟨mail, member, ?_⟩
  intro dialogue sends
  exact
    (postingRun.mailedMessages_intact 5 (Nat.le_refl 5) addresses
      (unbroken deps.smtpFrom (by simp)) (bytesOf "noreply@example.org") envelope mail member
      (Vector.replicate 30 17) (absent _ few.1) (absent _ few.2) relay relayConfig dialogue
      sends).2.1

end RecordedMail

end SsnConsole.AuthService
