import PlayerCipher.Command.Run

/-! The program.
It reads the script file that its arguments name, runs, and writes what the run leaves. There
is no network to fetch from, so a video whose id is sound fails at its first request. -/

namespace PlayerCipher.Command

def faultOf : IO.Error → FileFault
  | .noFileOrDirectory .. => .missing
  | .permissionDenied .. => .denied
  | .inappropriateType _ 20 _ => .notDirectory
  | .inappropriateType .. => .directory
  | e => .other (toString e)

def readScript (texts : List String) : IO (Except FileFault ByteArray) := do
  match Arguments.parse texts with
  | .ok { script := some path, .. } =>
    try
      return .ok (← IO.FS.readBinFile path)
    catch e => return .error (faultOf e)
  | _ => return .error .missing

def program (texts : List String) : IO UInt32 := do
  let contents ← readScript texts
  let out ← IO.getStdout
  let coloured := (← IO.getEnv "NO_COLOR").isNone && (← out.isTty)
  let result := run (fun _ => contents) .unreachable coloured texts
  out.putStr result.output
  (← IO.getStderr).putStr result.errors
  return result.exitCode.toUInt32

end PlayerCipher.Command

def main (texts : List String) : IO UInt32 :=
  PlayerCipher.Command.program texts
