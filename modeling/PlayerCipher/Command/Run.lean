import PlayerCipher.Command.Arguments
import PlayerCipher.Decipherer

/-! A run of the command line.
A run resolves the cipher of a script file or of a video, deciphers what was asked for and
writes a report. It succeeds if every signature deciphers. A failure before the report leaves
the output empty; the failure of a single signature is part of the report. -/

namespace PlayerCipher.Command

open Text

inductive FileFault where
  | missing
  | denied
  | notDirectory
  | directory
  | longName
  | notUtf8
  | other (reason : String)
deriving DecidableEq, Repr

namespace FileFault

def message : FileFault → String
  | .missing => "No such file or directory (os error 2)"
  | .denied => "Permission denied (os error 13)"
  | .notDirectory => "Not a directory (os error 20)"
  | .directory => "Is a directory (os error 21)"
  | .longName => "File name too long (os error 36)"
  | .notUtf8 => "stream did not contain valid UTF-8"
  | .other reason => reason

end FileFault

abbrev Files := String → Except FileFault ByteArray

/-- What a run leaves behind. The lines of the tracing log are no part of `errors`. -/
structure Result where
  exitCode : Nat
  output : String
  errors : String
deriving DecidableEq, Repr

def programName : String := "rysig"

def programVersion : String := "0.1.0"

def readText (files : Files) (path : String) : Except Error String :=
  match files path with
  | .error fault => .error (.file fault.message)
  | .ok bytes =>
    match String.fromUTF8? bytes with
    | some text => .ok text
    | none => .error (.file FileFault.notUtf8.message)

def cipherOfFile (files : Files) (path : String) (choice : DriverChoice) : Except Error Cipher :=
  match readText files path with
  | .error e => .error e
  | .ok source => (Cipher.ofScript source (.ofText source) choice).mapError .ofResolve

def cipherOfVideo (network : Network) (settings : ClientSettings) (video : String)
    (choice : DriverChoice) : Except Error Cipher :=
  match settings.check with
  | .error e => .error e
  | .ok () =>
    let decipherer : Decipherer := ⟨network, settings.baseUrl, choice⟩
    (decipherer.videoCipher (.empty CipherStore.defaultCapacity) video).1.result

def cipher (files : Files) (network : Network) (arguments : Arguments) : Except Error Cipher :=
  match arguments.script, arguments.video with
  | some path, _ => cipherOfFile files path arguments.choice
  | none, some video => cipherOfVideo network arguments.settings video arguments.choice
  | none, none => .error (.noVideo "no --script or --video given")

/-- The outcome for a signature cipher, and its stream URL if it deciphers. -/
def streamOutcome (cipher : Cipher) (query : String) : Except Error (Outcome × Option String) :=
  match SignatureCipher.parse query with
  | .error e => .error e
  | .ok parsed =>
    let outcome := Outcome.ofSignature cipher parsed.signature
    match cipher.decipher parsed.signature with
    | .error _ => .ok (outcome, none)
    | .ok deciphered =>
      match parsed.streamUrl deciphered with
      | .error e => .error e
      | .ok url => .ok (outcome, some url)

def report (arguments : Arguments) (cipher : Cipher) : Except Error Report :=
  let outcomes := arguments.signatures.map (Outcome.ofSignature cipher)
  match arguments.signatureCipher with
  | none => .ok ⟨cipher, outcomes, none⟩
  | some query =>
    match streamOutcome cipher query with
    | .error e => .error e
    | .ok (outcome, url) => .ok ⟨cipher, outcomes ++ [outcome], url⟩

def resolve (files : Files) (network : Network) (arguments : Arguments) : Except Error Report :=
  match cipher files network arguments with
  | .error e => .error e
  | .ok cipher => report arguments cipher

def failureText (verbosity : Verbosity) (coloured : Bool) (e : Error) : String :=
  (if e.isLayoutChange ∧ verbosity ≠ .quiet then
    Style.warning.paint coloured "warning:" ++ " the player script layout may have changed\n"
  else "") ++
    Style.failure.paint coloured "error:" ++ " " ++ e.message ++ "\n"

def reportText (arguments : Arguments) (coloured : Bool) (report : Report) : String :=
  if arguments.json then report.json ++ "\n" else report.text arguments.verbosity coloured

def execute (files : Files) (network : Network) (coloured : Bool) (arguments : Arguments) :
    Result :=
  match resolve files network arguments with
  | .error e => ⟨1, "", failureText arguments.verbosity coloured e⟩
  | .ok report =>
    ⟨if report.succeeded then 0 else 1, reportText arguments coloured report, ""⟩

def usage : String :=
  "Usage: " ++ programName ++ " [OPTIONS] <--script <PATH>|--video <URL>>"

def help : String :=
  "\n".intercalate
    ["Resolves and applies the signature cipher of a player script", "", usage, "", "Options:",
      "      --script <PATH>             Player script file",
      "      --video <URL>               Video URL or ID whose player script is fetched",
      "      --driver <NAME>             Driver function name, located if not given",
      "  -s, --sig <SIG>                 Signature to decipher, may be repeated",
      "      --signature-cipher <QUERY>  Signature cipher to make a stream URL of",
      "      --json                      Print results as JSON",
      "      --timeout <DURATION>        Request timeout [default: 30s]",
      "      --client <NAME>             Browser identity [default: chrome]",
      "      --user-agent <USER_AGENT>   User agent of requests",
      "      --proxy <URL>               Proxy URL",
      "  -v, --verbose                   Verbose output",
      "  -q, --quiet                     Quiet output",
      "  -h, --help                      Print help",
      "  -V, --version                   Print version", ""]

def stopReason : Arguments.Stop → String
  | .missingSource => "either --script or --video is required"
  | .conflict => "arguments exclude each other or are given twice"
  | .unusableValue => "a value cannot be used"
  | .missingValue => "a value is required but missing"
  | .unknownArgument => "unexpected argument"
  | .surplusValue => "a value is given to a switch that takes none"
  | .help => "help"
  | .version => "version"

def stopped : Arguments.Stop → Result
  | .help => ⟨0, help, ""⟩
  | .version => ⟨0, programName ++ " " ++ programVersion ++ "\n", ""⟩
  | stop => ⟨2, "", "error: " ++ stopReason stop ++ "\n\n" ++ usage ++ "\n"⟩

def run (files : Files) (network : Network) (coloured : Bool) (texts : List String) : Result :=
  match Arguments.parse texts with
  | .error stop => stopped stop
  | .ok arguments => execute files network coloured arguments

end PlayerCipher.Command
