import Mathlib
import PlayerCipher.Command.Run
import PlayerCipher.Proofs.Report.Lines

/-! Runs on a local script.
Three stages can fail: the file is read and resolved, the signature cipher is parsed, and its
stream URL is put together. A failure there ends the run with nothing but the error. The
failure of a signature to decipher does not end the run; it is one outcome of the report and
shows in the exit code. Each stage has one lemma for its results and one for its failures. -/

namespace PlayerCipher.Command

def Resolves (files : Files) (path : String) (choice : DriverChoice) (cipher : Cipher) : Prop :=
  ∃ bytes source, files path = .ok bytes ∧ String.fromUTF8? bytes = some source ∧
    Cipher.ofScript source (.ofText source) choice = .ok cipher

/-- The signature cipher of the arguments, as far as it can be read. -/
def streamed? (arguments : Arguments) : Option SignatureCipher :=
  arguments.signatureCipher.bind fun query => (SignatureCipher.parse query).toOption

/-- The signatures that are asked for, in the order of their outcomes. -/
def requested (arguments : Arguments) : List String :=
  arguments.signatures ++ ((streamed? arguments).map SignatureCipher.signature).toList

structure Reports (arguments : Arguments) (cipher : Cipher) (report : Report) : Prop where
  cipher_eq : report.cipher = cipher
  parses : (streamed? arguments).isSome = arguments.signatureCipher.isSome
  outcomes : report.outcomes = (requested arguments).map (Outcome.ofSignature cipher)
  streams : report.streamUrl.isSome = true ↔
    ∃ parsed ∈ streamed? arguments, ∃ output, cipher.decipher parsed.signature = .ok output

section Resolving

variable {files : Files} {path : String} {choice : DriverChoice}

theorem cipherOfFile_ok_iff {cipher : Cipher} :
    cipherOfFile files path choice = .ok cipher ↔ Resolves files path choice cipher := by
  unfold cipherOfFile readText Resolves
  cases files path with
  | error fault => simp
  | ok bytes =>
    cases valid : String.fromUTF8? bytes with
    | none => simp [valid]
    | some source =>
      simp only [Except.ok.injEq, exists_and_left, exists_eq_left', valid, Option.some.injEq]
      cases Cipher.ofScript source (.ofText source) choice <;> simp [Except.mapError]

end Resolving

section Streaming

variable {cipher : Cipher} {query : String}

theorem streamOutcome_ok {outcome : Outcome} {url : Option String}
    (streamed : streamOutcome cipher query = .ok (outcome, url)) :
    ∃ parsed, SignatureCipher.parse query = .ok parsed ∧
      outcome = Outcome.ofSignature cipher parsed.signature ∧
      (url.isSome = true ↔ ∃ output, cipher.decipher parsed.signature = .ok output) := by
  unfold streamOutcome at streamed
  cases parses : SignatureCipher.parse query with
  | error reason => simp [parses] at streamed
  | ok parsed =>
    simp only [parses] at streamed
    refine ⟨parsed, rfl, ?_⟩
    cases deciphers : cipher.decipher parsed.signature with
    | error reason =>
      simp only [deciphers, Except.ok.injEq, Prod.mk.injEq] at streamed
      obtain ⟨rfl, rfl⟩ := streamed
      simp
    | ok output =>
      simp only [deciphers] at streamed
      cases assembled : parsed.streamUrl output with
      | error reason => simp [assembled] at streamed
      | ok link =>
        simp only [assembled, Except.ok.injEq, Prod.mk.injEq] at streamed
        obtain ⟨rfl, rfl⟩ := streamed
        simp

end Streaming

theorem streamed?_eq_some_iff {arguments : Arguments} {parsed : SignatureCipher} :
    streamed? arguments = some parsed ↔
      ∃ query, arguments.signatureCipher = some query ∧
        SignatureCipher.parse query = .ok parsed := by
  unfold streamed?
  rw [Option.bind_eq_some_iff]
  refine exists_congr fun query => and_congr_right fun _ => ?_
  cases SignatureCipher.parse query <;> simp [Except.toOption]

theorem report_ok {arguments : Arguments} {cipher : Cipher} {found : Report}
    (reported : report arguments cipher = .ok found) : Reports arguments cipher found := by
  unfold report at reported
  cases given : arguments.signatureCipher with
  | none =>
    simp only [given, Except.ok.injEq] at reported
    subst reported
    have nothing : streamed? arguments = none := by simp [streamed?, given]
    exact ⟨rfl, by simp [nothing, given], by simp [requested, nothing], by simp [nothing]⟩
  | some query =>
    simp only [given] at reported
    cases streamed : streamOutcome cipher query with
    | error cause => simp [streamed] at reported
    | ok outcome =>
      simp only [streamed, Except.ok.injEq] at reported
      subst reported
      obtain ⟨parsed, parses, single, url⟩ := streamOutcome_ok streamed
      have read : streamed? arguments = some parsed :=
        streamed?_eq_some_iff.2 ⟨query, given, parses⟩
      exact ⟨rfl, by simp [read, given], by simp [requested, read, single],
        by simpa [read] using url⟩

section Run

variable {files : Files} {network : Network} {path : String} {arguments : Arguments}

theorem cipher_eq (script : arguments.script = some path) :
    cipher files network arguments = cipherOfFile files path arguments.choice := by
  simp only [cipher, script]

theorem resolve_ok (script : arguments.script = some path) {found : Report}
    (resolved : resolve files network arguments = .ok found) :
    ∃ cipher, Resolves files path arguments.choice cipher ∧ Reports arguments cipher found := by
  rw [resolve, cipher_eq script] at resolved
  cases read : cipherOfFile files path arguments.choice with
  | error cause => simp [read] at resolved
  | ok cipher =>
    simp only [read] at resolved
    exact ⟨cipher, cipherOfFile_ok_iff.1 read, report_ok resolved⟩

/-- The text of a run that reports: a line for every signature asked for, in order, and one for the
stream URL, behind those of the cipher. -/
theorem localRun_text {texts : List String} (parsed : Arguments.parse texts = .ok arguments)
    (script : arguments.script = some path) (written : arguments.json = false) (coloured : Bool)
    {found : Report} (resolved : resolve files network arguments = .ok found) :
    ∃ cipher, Resolves files path arguments.choice cipher ∧
      (run files network coloured texts).output =
        String.join (if arguments.verbosity = .quiet then [] else
          Report.cipherLines arguments.verbosity coloured cipher) ++
        Report.asLines ((requested arguments).map
            (fun signature =>
              (Outcome.ofSignature cipher signature).said arguments.verbosity coloured) ++
          (found.streamUrl.map (Report.streamUrlSaid arguments.verbosity coloured)).toList) := by
  obtain ⟨cipher, resolves, reports⟩ := resolve_ok script resolved
  refine ⟨cipher, resolves, ?_⟩
  have output : (run files network coloured texts).output =
      found.text arguments.verbosity coloured := by
    simp [run, parsed, execute, resolved, reportText, written]
  rw [output, Report.text_eq, Report.said, reports.cipher_eq, reports.outcomes, List.map_map]
  rfl

end Run

def swapNames : HelperNames :=
  ⟨"S", "R", "D", by decide, by decide, by decide, by decide, by decide, by decide⟩

end PlayerCipher.Command
