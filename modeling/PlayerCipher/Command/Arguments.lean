import PlayerCipher.ClientSettings
import PlayerCipher.Driver.Recording
import PlayerCipher.Report

/-! Arguments of the command line.
Arguments are read one after the other. A parameter without an attached value waits for the
next argument; its value is looked at when another known switch follows, or at the end. An
argument that begins with a hyphen is never a value, and there are no positional arguments.
What the switches rule out together is checked last. -/

namespace PlayerCipher

open Text

structure Arguments where
  script : Option String
  video : Option String
  driver : Option String
  signatures : List String
  signatureCipher : Option String
  json : Bool
  timeout : Duration
  browser : Browser
  userAgent : Option String
  proxy : Option String
  verbose : Bool
  quiet : Bool
deriving DecidableEq, Repr

namespace Arguments

def default : Arguments where
  script := none
  video := none
  driver := none
  signatures := []
  signatureCipher := none
  json := false
  timeout := ClientSettings.default.timeout
  browser := ClientSettings.default.browser
  userAgent := none
  proxy := none
  verbose := false
  quiet := false

/-- Driver to record: the given name without blanks around it, if any of it is left. -/
def choice (arguments : Arguments) : DriverChoice :=
  match arguments.driver.map fun name => trim name.toList with
  | none | some [] => .auto
  | some name => .named (String.ofList name)

def settings (arguments : Arguments) : ClientSettings :=
  { ClientSettings.default with
    timeout := arguments.timeout
    ownUserAgent := arguments.userAgent
    proxy := arguments.proxy
    browser := arguments.browser }

def verbosity (arguments : Arguments) : Verbosity :=
  if arguments.quiet then .quiet
  else if arguments.verbose then .verbose
  else .normal

/-- Least level of the lines in the tracing log. No run depends on it. -/
def logThreshold (arguments : Arguments) : String :=
  match arguments.verbosity with
  | .quiet => "error"
  | .normal => "info"
  | .verbose => "debug"

inductive Stop where
  | missingSource
  /-- Two that exclude each other, or one twice. -/
  | conflict
  | unusableValue
  /-- A value that is empty or lacks altogether. -/
  | missingValue
  | unknownArgument
  | surplusValue
  | help
  | version
deriving DecidableEq, Repr

inductive Flag where
  | json
  | verbose
  | quiet
  | help
  | version
deriving DecidableEq, Repr

inductive Parameter where
  | script
  | video
  | driver
  | signature
  | signatureCipher
  | timeout
  | browser
  | userAgent
  | proxy
deriving DecidableEq, Repr

inductive Switch where
  | flag (flag : Flag)
  | parameter (parameter : Parameter)
deriving DecidableEq, Repr

namespace Switch

def longNames : List (String × Switch) :=
  [("script", .parameter .script), ("video", .parameter .video), ("driver", .parameter .driver),
    ("sig", .parameter .signature), ("signature-cipher", .parameter .signatureCipher),
    ("json", .flag .json), ("timeout", .parameter .timeout), ("client", .parameter .browser),
    ("user-agent", .parameter .userAgent), ("proxy", .parameter .proxy),
    ("verbose", .flag .verbose), ("quiet", .flag .quiet), ("help", .flag .help),
    ("version", .flag .version)]

def letters : List (Char × Switch) :=
  [('s', .parameter .signature), ('v', .flag .verbose), ('q', .flag .quiet), ('h', .flag .help),
    ('V', .flag .version)]

def ofName? (name : List Char) : Option Switch :=
  longNames.lookup (String.ofList name)

def ofLetter? (letter : Char) : Option Switch :=
  letters.lookup letter

end Switch

structure Reading where
  arguments : Arguments
  /-- Switches that may not come again. -/
  given : List Switch
  pending : Option (Parameter × Option String)

namespace Reading

def start : Reading := ⟨.default, [], none⟩

def mark (reading : Reading) (switch : Switch) : Except Stop Reading :=
  if reading.given.contains switch then .error .conflict
  else .ok { reading with given := switch :: reading.given }

def withValue (arguments : Arguments) (parameter : Parameter) (value : String) :
    Except Stop Arguments :=
  match parameter with
  | .script =>
    if value.isEmpty then .error .missingValue else .ok { arguments with script := some value }
  | .video => .ok { arguments with video := some value }
  | .driver => .ok { arguments with driver := some value }
  | .signature => .ok { arguments with signatures := arguments.signatures ++ [value] }
  | .signatureCipher => .ok { arguments with signatureCipher := some value }
  | .timeout =>
    match Duration.parse? value with
    | some timeout => .ok { arguments with timeout }
    | none => .error .unusableValue
  | .browser =>
    match Browser.ofName? value with
    | some browser => .ok { arguments with browser }
    | none => .error .unusableValue
  | .userAgent => .ok { arguments with userAgent := some value }
  | .proxy => .ok { arguments with proxy := some value }

/-- Takes over a value. Only signatures may be given more than once. -/
def take (reading : Reading) (parameter : Parameter) (value : String) :
    Except Stop Reading := do
  let reading ←
    if parameter = .signature then pure reading else reading.mark (.parameter parameter)
  let arguments ← withValue reading.arguments parameter value
  return { reading with arguments }

def settle (reading : Reading) : Except Stop Reading :=
  match reading.pending with
  | none => .ok reading
  | some (_, none) => .error .missingValue
  | some (parameter, some value) => { reading with pending := none }.take parameter value

def raise (reading : Reading) (flag : Flag) : Except Stop Reading := do
  let reading ← reading.settle
  let reading ← reading.mark (.flag flag)
  let arguments := reading.arguments
  match flag with
  | .json => .ok { reading with arguments := { arguments with json := true } }
  | .verbose => .ok { reading with arguments := { arguments with verbose := true } }
  | .quiet => .ok { reading with arguments := { arguments with quiet := true } }
  | .help => .error .help
  | .version => .error .version

/-- Lets a parameter wait for its value, or takes the attached one over. -/
def assign (reading : Reading) (parameter : Parameter) (attached : Option String) :
    Except Stop Reading := do
  let reading ← reading.settle
  match attached with
  | some value => reading.take parameter value
  | none => return { reading with pending := some (parameter, none) }

/-- Reads `--NAME` or `--NAME=VALUE`, without the hyphens. -/
def readLong (reading : Reading) (cs : List Char) : Except Stop Reading :=
  let attached :=
    match cs.dropWhile (· != '=') with
    | [] => none
    | _ :: value => some (String.ofList value)
  match Switch.ofName? (cs.takeWhile (· != '=')) with
  | none => .error .unknownArgument
  | some (.parameter parameter) => reading.assign parameter attached
  | some (.flag flag) =>
    match attached with
    | some _ => .error .surplusValue
    | none => reading.raise flag

/-- Value attached to a letter; a sign of equality before it does not belong to it. -/
def attachedToLetter : List Char → Option String
  | [] => none
  | '=' :: value => some (String.ofList value)
  | value => some (String.ofList value)

/-- Reads the letters after one hyphen. What follows a parameter's letter is its value. -/
def readLetters (reading : Reading) : List Char → Except Stop Reading
  | [] => .ok reading
  | letter :: letters =>
    match Switch.ofLetter? letter with
    | none => .error .unknownArgument
    | some (.parameter parameter) => reading.assign parameter (attachedToLetter letters)
    | some (.flag flag) =>
      match reading.raise flag with
      | .error stop => .error stop
      | .ok reading => readLetters reading letters

def readValue (reading : Reading) (text : String) : Except Stop Reading :=
  match reading.pending with
  | some (parameter, none) => .ok { reading with pending := some (parameter, some text) }
  | _ => .error .unknownArgument

def readArgument (reading : Reading) (text : String) : Except Stop Reading :=
  match text.toList with
  | '-' :: '-' :: cs => reading.readLong cs
  | '-' :: c :: cs => reading.readLetters (c :: cs)
  | _ => reading.readValue text

/-- Reads all arguments. Nothing may follow `--`. -/
def readAll (reading : Reading) : List String → Except Stop Reading
  | [] => reading.settle
  | text :: texts =>
    if text = "--" then
      match texts with
      | [] => reading.settle
      | _ :: _ => .error .unknownArgument
    else
      match reading.readArgument text with
      | .error stop => .error stop
      | .ok reading => readAll reading texts

end Reading

/-- Exactly one source, and not quiet and verbose together. -/
def check (arguments : Arguments) : Except Stop Arguments :=
  if arguments.script.isSome && arguments.video.isSome then .error .conflict
  else if arguments.quiet && arguments.verbose then .error .conflict
  else if arguments.script.isNone && arguments.video.isNone then .error .missingSource
  else .ok arguments

def parse (texts : List String) : Except Stop Arguments :=
  match Reading.start.readAll texts with
  | .error stop => .error stop
  | .ok reading => reading.arguments.check

end Arguments

end PlayerCipher
