import Criteria.Command.Run

/-!
The program: it reads the environment and the document, and writes what the plan says.
-/

namespace Criteria.Command

def variableNames : List String :=
  ["RUST_LOG", "FILTEREXPR_LOG_LEVEL", "FILTEREXPR_LOG_FORMAT"]

def reason : IO.Error → String
  | .alreadyExists _ code details
  | .interrupted _ code details
  | .noFileOrDirectory _ code details
  | .invalidArgument _ code details
  | .permissionDenied _ code details
  | .resourceExhausted _ code details
  | .inappropriateType _ code details
  | .noSuchThing _ code details
  | .otherError code details
  | .resourceBusy code details
  | .resourceVanished code details
  | .unsupportedOperation code details
  | .hardwareFault code details
  | .unsatisfiedConstraints code details
  | .illegalOperation code details
  | .protocolError code details
  | .timeExpired code details => details ++ " (os error " ++ toString code ++ ")"
  | error => toString error

partial def readToEnd (stream : IO.FS.Stream) (bytes : ByteArray) : IO ByteArray := do
  let chunk ← stream.read 65536
  if chunk.isEmpty then return bytes else readToEnd stream (bytes ++ chunk)

def readText (stream : IO.FS.Stream) : IO (Except Failure String) := do
  match ← (readToEnd stream .empty).toBaseIO with
  | .ok bytes =>
      match String.fromUTF8? bytes with
      | some text => return .ok text
      | none => return .error (.cannotRead "stream did not contain valid UTF-8")
  | .error error => return .error (.cannotRead (reason error))

def readSource : Source → IO (Except Failure String)
  | .standardInput => do readText (← IO.getStdin)
  | .file path => do
      match ← (IO.FS.Handle.mk path .read).toBaseIO with
      | .ok file => readText (IO.FS.Stream.ofHandle file)
      | .error error => return .error (.cannotOpen path (reason error))

def finish (outcome : Outcome) : IO UInt32 := do
  IO.print outcome.output
  if let some complaint := outcome.complaint? then IO.eprintln complaint
  return outcome.exitCode.toUInt32

end Criteria.Command

def main (words : List String) : IO UInt32 := do
  let environment ← Criteria.Command.variableNames.mapM fun name =>
    return (name, ← IO.getEnv name)
  match Criteria.Command.plan words fun name => (environment.lookup name).join with
  | .finish outcome => Criteria.Command.finish outcome
  | .evaluate source outcome => do
      Criteria.Command.finish (outcome (← Criteria.Command.readSource source))
