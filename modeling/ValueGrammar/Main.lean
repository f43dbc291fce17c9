import ValueGrammar.Command

/-! The program: commands run on the disk, the standard streams and the
arguments of the process. -/
namespace ValueGrammar.Command

/-- The fault that the system reports by a number, which may be negated, and a
reason. -/
private def faultOfCode (code : UInt32) (reason : String) : FileFault :=
  let number := if code < 0x80000000 then code else 0 - code
  if number = 2 then .missing
  else if number = 20 then .notADirectory
  else if number = 21 then .isADirectory
  else if number = 36 then .nameTooLong
  else .other reason number.toNat

/-- The fault behind an error of the system. -/
private def faultOf : IO.Error → FileFault
  | .alreadyExists _ code reason | .interrupted _ code reason
  | .noFileOrDirectory _ code reason | .invalidArgument _ code reason
  | .permissionDenied _ code reason | .resourceExhausted _ code reason
  | .inappropriateType _ code reason | .noSuchThing _ code reason
  | .otherError code reason | .resourceBusy code reason | .resourceVanished code reason
  | .unsupportedOperation code reason | .hardwareFault code reason
  | .unsatisfiedConstraints code reason | .illegalOperation code reason
  | .protocolError code reason | .timeExpired code reason => faultOfCode code reason
  | .unexpectedEof => .other "unexpected end of file" 0
  | .userError reason => .other reason 0

/-- Text from bytes, which have to be UTF-8. -/
private def textOf (bytes : ByteArray) : Except FileFault String :=
  match String.fromUTF8? bytes with
  | some text => .ok text
  | none => .error .notText

/-- Does something with a file or a stream, and turns an error into its fault. -/
private def attempt {α : Type} (action : IO α) : IO (Except FileFault α) := do
  match ← action.toBaseIO with
  | .ok value => return .ok value
  | .error error => return .error (faultOf error)

/-- The bytes of a stream to its end, behind those that were read before. -/
private partial def readAll (stream : IO.FS.Stream) (bytes : ByteArray) : IO ByteArray := do
  let more ← stream.read 65536
  if more.isEmpty then return bytes else readAll stream (bytes ++ more)

/-- The stream of the process. -/
private def handleOf : Stream → BaseIO IO.FS.Stream
  | .output => IO.getStdout
  | .errors => IO.getStderr

/-- Prints, and waits until the text has left the process. -/
private def printOn (stream : Stream) (text : String) : IO (Except FileFault Unit) :=
  attempt do
    let handle ← handleOf stream
    handle.putStr text
    handle.flush

/-- Writes a file, and waits until the text has left the process. -/
private def writeWhole (path content : String) : IO Unit :=
  IO.FS.withFile path .write fun handle => do
    handle.putStr content
    handle.flush

/-- The disk and the standard streams. -/
def systemSurroundings : Surroundings IO where
  readInput := do
    let bytes ← attempt (do readAll (← IO.getStdin) .empty)
    return bytes.bind textOf
  readFile path := do
    let bytes ← attempt (IO.FS.readBinFile path)
    return bytes.bind textOf
  writeFile path content := attempt (writeWhole path content)
  print := printOn
  breakOff reason := do
    let _ ← printOn .errors (reason ++ "\n")

end ValueGrammar.Command

def main (arguments : List String) : IO UInt32 := do
  let outcome ← ValueGrammar.Command.run ValueGrammar.Command.systemSurroundings arguments
  return UInt32.ofNat outcome.status
