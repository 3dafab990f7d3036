import RequestFlow.Command.Arguments
import RequestFlow.Command.Program
import RequestFlow.Variable.Builtin
import Std.Time.DateTime.Timestamp

/-!
Contract: the program that is run from a command line.

Owns: looking at the files, the variables, the clock and the source of random
numbers, and printing the lines of a result.

Does not own: what the lines say (`Command.Program`).
-/

namespace RequestFlow.Main

/-- The number that bytes make, the first one being the highest. -/
def number (bytes : ByteArray) : Nat :=
  bytes.foldl (fun value byte => value * 256 + byte.toNat) 0

def randomNumber (size : Nat) : IO Nat :=
  return number (← IO.getRandomBytes size.toUSize)

/-- A moment and random numbers for the built-in variables. -/
def builtinSource : IO Builtin.Source := do
  let moment := (← Std.Time.Timestamp.now).toMillisecondsSinceUnixEpoch.toInt.toNat
  let letters ← (List.range Builtin.randomTextLength).mapM fun _ => randomNumber 8
  return {
    seconds := moment / 1000
    milliseconds := moment % 1000
    uuidBits := ← randomNumber 16
    int32 := Int.bmod (← randomNumber 4) 0x100000000
    uint32 := ← randomNumber 4
    uint64 := ← randomNumber 8
    letters := letters }

/-- Where the system keeps the variables that the program was started with. -/
def variablesPath : String := "/proc/self/environ"

/-- The bytes up to each zero byte. -/
def zeroEnded (bytes : List UInt8) : List (List UInt8) :=
  bytes.splitOn 0

def variableOf? (entry : List UInt8) : Option (String × String) := do
  Text.cutString '=' (← String.fromUTF8? ⟨entry.toArray⟩)

/-- The variables that are texts. -/
def ownVariables : IO (Dict String) := do
  let bytes ← try IO.FS.readBinFile variablesPath catch _ => pure ByteArray.empty
  return Dict.ofList ((zeroEnded bytes.toList).filterMap variableOf?)

def readError : IO.Error → ReadError
  | .noFileOrDirectory .. => .missing
  | .inappropriateType .. => .directory
  | error => .other (toString error)

def readFile (path : String) : IO (Except ReadError String) := do
  try
    match String.fromUTF8? (← IO.FS.readBinFile path) with
    | some text => return .ok text
    | none => return .error .notText
  catch error => return .error (readError error)

/-- Reads files and gives them by their paths. -/
def readFiles (paths : List String) : IO (String → Except ReadError String) := do
  let files ← paths.mapM fun path => return (path, ← readFile path)
  return fun path => (files.lookup path).getD (.error .missing)

/-- The system has no client for the network. -/
def makeClient : Network.ClientOptions → Except String Network.Client := fun _ =>
  .error "no client is available"

def printAll (lines : List String) : IO Unit := lines.forM IO.println

def reportAll (lines : List String) : IO Unit := lines.forM IO.eprintln

def runInvocation (invocation : Invocation) : IO UInt32 := do
  let surroundings : Surroundings :=
    ⟨← readFiles invocation.files, ← ownVariables, Builtin.scope (← builtinSource), makeClient⟩
  let some result := Program.run surroundings invocation
    | throw (.userError "the run never ends")
  printAll result.output
  reportAll result.errors
  return result.code.toNat.toUInt32

def runEnding : Ending → IO UInt32
  | .help => do
      printAll Arguments.helpLines
      return 0
  | .version => do
      printAll [Arguments.versionText]
      return 0
  | .refused error => do
      reportAll ["error: " ++ error.message, "", "For more information, try --help."]
      return 2

end RequestFlow.Main

def main (arguments : List String) : IO UInt32 :=
  match RequestFlow.Arguments.parse arguments with
  | .ok invocation => RequestFlow.Main.runInvocation invocation
  | .error ending => RequestFlow.Main.runEnding ending
