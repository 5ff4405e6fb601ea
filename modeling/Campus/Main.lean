import Campus.Http.Stream
import Campus.Journal.Line
import Campus.Launch
import Std.Time.DateTime.Timestamp

/-! # The program

Runs one service. Requests come in on the standard input and answers go out on the standard output, one behind the other; when the
input ends, so does the program. Log lines go to the standard error. No sibling is within reach of a stream.
-/
namespace Campus.Main

def helpText : String :=
  "Runs one service (students, courses or accounts) over HTTP\n\nUsage: campus --service <SERVICE> [OPTIONS]\n\nOptions:\n" ++
    String.join (CommandLine.choices.map fun c => s!"      --{c.name} <VALUE>  {c.about} [env: {c.envName}]\n") ++
    "  -h, --help\n  -V, --version\n"

def versionText : String := "campus 0.1.0\n"

def wallClock : IO Moment := do
  let t ← Std.Time.Timestamp.now
  return (Moment.ofEpoch? t.toNanosecondsSinceUnixEpoch.val.toNat).getD ⟨Moment.epoch, 0, 0, by decide, by decide⟩

def madeUpId : IO String := do
  let mut digits : List Char := []
  for place in [0:32] do
    let d ← if place = 12 then pure 4 else if place = 16 then IO.rand 8 11 else IO.rand 0 15
    digits := digits ++ (if place = 8 ∨ place = 12 ∨ place = 16 ∨ place = 20 then ['-'] else []) ++ [Nat.digitChar d]
  return String.ofList digits

def log (format : LogFormat) (notices : List Notice) : IO Unit := do
  let stderr ← IO.getStderr
  for n in notices do
    stderr.putStrLn (match format with
      | .json => n.jsonLine
      | .pretty => n.prettyLine)

/-- The lines of a head, up to the empty one; none at the end of the input. -/
partial def headLines (stdin : IO.FS.Stream) : IO (List String) := do
  let line ← stdin.getLine
  let text := String.ofList (Text.trimEnd line.toList)
  if text.isEmpty then return [] else return text :: (← headLines stdin)

/-- Some bytes of a body, or as many as there are. -/
partial def bodyBytes (stdin : IO.FS.Stream) (n : Nat) : IO (List UInt8) := do
  if n = 0 then return []
  let bytes ← stdin.read (USize.ofNat n)
  if bytes.isEmpty then return [] else return bytes.toList ++ (← bodyBytes stdin (n - bytes.size))

/-- Answers requests until the input ends. -/
partial def serve (format : LogFormat) (started : Nat) (s : Server) : IO Server := do
  let stdin ← IO.getStdin
  let stdout ← IO.getStdout
  match Http.Request.ofHead? (← headLines stdin) with
  | none => return s
  | some (request, length) =>
    let request := { request with body := ← bodyBytes stdin length }
    let now := (← IO.monoNanosNow) - started
    let id ← madeUpId
    let seen := s.node.desk.stage.journal.length
    let r := Node.answer .deserted now (← wallClock) id request s.node
    log format (Journal.notices (r.node.desk.stage.journal.drop seen))
    match r.answer with
    | some answer => stdout.putStr (answer.render (Node.answerId id request))
    | none => return s
    stdout.flush
    serve format started { s with node := r.node.sweep r.now, now }

end Campus.Main

open Campus in
def main (arguments : List String) : IO UInt32 := do
  let values ← CommandLine.choices.mapM fun c => do return (c.envName, ← IO.getEnv c.envName)
  let read := CommandLine.read (fun name => (values.lookup name).bind id) arguments
  let outcome := read.map fun settings => (settings, Launch.run settings)
  match outcome with
  | .error .help => IO.print Main.helpText
  | .error .version => IO.print Main.versionText
  | .error (.usage text) => IO.eprintln s!"error: {text}"
  | .ok (settings, launch) =>
    Main.log settings.logFormat launch.notices
    match launch.result with
    | .error message => IO.eprintln s!"Error: {message}"
    | .ok server =>
      let server ← Main.serve settings.logFormat (← IO.monoNanosNow) server
      Main.log settings.logFormat (Launch.interrupt server).1
  return UInt32.ofNat (Launch.exitCode (outcome.map (·.2)))
