import Excerpt.CommandLine.Run

/-! The program: reads files and standard input, and prints. -/
namespace Excerpt.Program

/-- The code of an error of the system, if it has one, and what it says. Some calls report the
negation of the code. -/
def codeAndDetails : IO.Error → Option Nat × String
  | .alreadyExists _ code details | .interrupted _ code details
  | .noFileOrDirectory _ code details | .invalidArgument _ code details
  | .permissionDenied _ code details | .resourceExhausted _ code details
  | .inappropriateType _ code details | .noSuchThing _ code details
  | .otherError code details | .resourceBusy code details | .resourceVanished code details
  | .unsupportedOperation code details | .hardwareFault code details
  | .unsatisfiedConstraints code details | .illegalOperation code details
  | .protocolError code details | .timeExpired code details => ((min code (-code)).toNat, details)
  | .unexpectedEof => (none, "failed to fill whole buffer")
  | .userError details => (none, details)

/-- What the system calls an error; the calls that report negated codes have words of their own. -/
def systemText? : Nat → Option String
  | 1 => some "Operation not permitted"
  | 5 => some "Input/output error"
  | 6 => some "No such device or address"
  | 12 => some "Cannot allocate memory"
  | 13 => some "Permission denied"
  | 19 => some "No such device"
  | 23 => some "Too many open files in system"
  | 24 => some "Too many open files"
  | 40 => some "Too many levels of symbolic links"
  | 75 => some "Value too large for defined data type"
  | 110 => some "Connection timed out"
  | 116 => some "Stale file handle"
  | _ => none

def readFault (e : IO.Error) : ReadFault :=
  match codeAndDetails e with
  | (some 2, _) => .missing
  | (some 20, _) => .notDirectory
  | (some 21, _) => .isDirectory
  | (some 36, _) => .nameTooLong
  | (some code, details) =>
    .system ((systemText? code).getD details ++ " (os error " ++ toString code ++ ")")
  | (none, details) => .system details

/-- Reads a file. A path that is no text names no file. -/
def readFile (path : Bytes) : IO (Except ReadFault Bytes) := do
  if path.contains 0 then return .error .zeroOctet
  match Text.ofUtf8? path with
  | none => return .error .missing
  | some name =>
    try
      return .ok (← IO.FS.readBinFile name).toList
    catch e => return .error (readFault e)

def host : IO (CommandLine.Host IO) := do
  let isTerminal ← (← IO.getStdout).isTty
  return {
    workDir := Text.utf8 (toString (← IO.currentDir))
    read := readFile
    input := do return (← (← IO.getStdin).readBinToEnd).toList
    isTerminal
    isColored := isTerminal && (← IO.getEnv "NO_COLOR").isNone }

end Excerpt.Program

def main (args : List String) : IO UInt32 := do
  let outcome ← Excerpt.CommandLine.run (← Excerpt.Program.host) args
  IO.print outcome.output
  outcome.warnings.forM fun warning => IO.eprintln ("WARN " ++ warning)
  match outcome.errors with
  | [] => pure ()
  | e :: causes =>
    IO.eprintln ("Error: " ++ e)
    causes.forM fun cause => IO.eprintln ("  caused by: " ++ cause)
  return outcome.exit.toUInt32
