import ObjectGrants.CommandLine.Program
import ObjectGrants.CommandLine.VariableFile
import ObjectGrants.Http.Session
import ObjectGrants.Http.Stream
import Std.Internal.UV.DNS
import Std.Internal.UV.TCP
import Std.Internal.UV.Timer
import Std.Time.DateTime.Timestamp

/-!
The command line in the world: arguments, variables, files, the clock, and plain HTTP.
Everything is decided elsewhere; here it is read and carried out.
-/

open Std.Internal

namespace ObjectGrants.Terminal

/-- The wording of a failure of the system with its number, which may come negated. -/
def numbered (code : UInt32) (details : String) : String :=
  let number := if code.toNat < UInt32.size / 2 then code.toNat else UInt32.size - code.toNat
  details.capitalize ++ " (os error " ++ toString number ++ ")"

/-- The wording of the failures that reading a file may meet with. -/
def reason : IO.Error → String
  | .noFileOrDirectory _ code details => numbered code details
  | .permissionDenied _ code details => numbered code details
  | .inappropriateType _ code details => numbered code details
  | error => toString error

/-- The content of a file. -/
def readFile (path : String) : IO (Except String (List UInt8)) := do
  try
    pure (.ok (← IO.FS.readBinFile path).data.toList)
  catch error => pure (.error (reason error))

/-- The file of variables in the current directory or the nearest one above it. -/
def variableFile : IO (Option String) := do
  let steps := LocalPath.steps (← IO.currentDir).toString
  let directories := (List.range (steps.length + 1)).reverse.map (steps.take ·)
  for directory in directories do
    let path := directory.foldr (fun step rest => "/" ++ String.ofList step ++ rest) "/.env"
    if let .ok bytes := ← readFile path then
      return Text.Utf8.decode? bytes
  pure none

/-- The variables that are set, those of the file included. -/
def environment : IO (List (String × String)) := do
  let file ← variableFile
  let names := Variable.all ++ (file.map CommandLine.VariableFile.words).getD []
  let given ← names.filterMapM fun name => do pure ((← IO.getEnv name).map (name, ·))
  match file with
  | some text => pure (CommandLine.VariableFile.extend given text)
  | none => pure given

/-- The present moment. -/
def presentMoment : IO Moment := do
  let time := (← Std.Time.Timestamp.now).val
  pure ⟨time.second.val, time.nano.val.toNat⟩

/-- The moment some milliseconds behind another one. -/
def laterMoment (moment : Moment) (time : Nat) : Moment :=
  let nanos := moment.nanos + 1000000 * time
  ⟨moment.seconds + nanos / 1000000000, nanos % 1000000000⟩

/-- The last time of a timer, in milliseconds: its seconds are counted in 63 bits. -/
def lastTimerTime : Nat := 1000 * (Int64.maxValue.toInt.toNat + 1) - 1

/-- The clock of a run that starts now. -/
def presentClock : IO Clock := do
  let start ← presentMoment
  pure { moment := laterMoment start
         lastTime := lastTimerTime - (← IO.monoMsNow) }

/-- A correlation identifier that nobody has used. -/
def freshCorrelation : IO CorrelationId := do
  let bytes ← IO.getRandomBytes 16
  let bits := bytes.data.foldl (fun bits byte => 256 * bits + byte.toNat) 0
  pure (.ofRandom (bits % Nat.pow 2 122))

/-- The world of this run. -/
def world (arguments : List String) : IO CommandLine.World := do
  let environment ← environment
  let files ← (CommandLine.filesRead environment arguments).mapM fun path => do
    pure (path, ← readFile path)
  pure { environment
         files := fun path => (files.lookup path).getD (.error "not read")
         clock := ← presentClock
         connectionId := ← freshCorrelation
         requestId := ← freshCorrelation }

/-- Waits for what the network promises. -/
def await {α : Type} (promised : IO (IO.Promise (Except IO.Error α))) : IO α := do
  match ← IO.wait (← promised).result? with
  | some (.ok value) => pure value
  | some (.error error) => throw error
  | none => throw (IO.userError "broken promise")

/-- All that comes through a connection until it ends or breaks off. -/
partial def receive (socket : UV.TCP.Socket) (received : Array UInt8) : IO (Array UInt8) := do
  try
    match ← await (socket.recv? 65536) with
    | some bytes => receive socket (received ++ bytes.data)
    | none => pure received
  catch _ => pure received

/-- Carries out an exchange. Only plain HTTP is spoken. -/
def exchange (request : Http.Request) : IO Http.Exchange := do
  if request.url.isSecure then return .failed
  let host := String.ofList (request.url.host.toList.filter fun c => c ≠ '[' && c ≠ ']')
  let number := UInt16.ofNat (request.url.portNumber.getD 80)
  let addresses ← await (UV.DNS.getAddrInfo host "" 0)
  let socket ← UV.TCP.Socket.new
  match addresses.toList with
  | [] => return .failed
  | .v4 address :: _ => await (socket.connect (.v4 ⟨address, number⟩))
  | .v6 address :: _ => await (socket.connect (.v6 ⟨address, number⟩))
  await (socket.send #[⟨request.bytes.toArray⟩])
  pure (.ofBytes (← receive socket #[]).toList)

/-- Carries out an exchange unless it takes too long. -/
def exchangeWithin (limitMs : Nat) (request : Http.Request) : IO Http.Exchange := do
  let answer ← IO.asTask (exchange request) .dedicated
  let alarm ← (← UV.Timer.mk (UInt64.ofNat limitMs) false).next
  let answered := answer.map fun
    | .ok exchange => exchange
    | .error _ => .failed
  IO.waitAny [answered, alarm.result?.map fun _ => .timedOut]

/-- Runs the program on the exchanges that are known, and carries out those that it lacks,
each at its time. -/
partial def carryOut (program : Timed Http.Session Empty CommandLine.Outcome)
    (limitMs begun : Nat) (known : List (Nat × Http.Exchange))
    : IO CommandLine.Outcome := do
  match Http.Session.advance program known with
  | .finished outcome _ => pure outcome
  | .asks time request =>
      IO.sleep (UInt32.ofNat (begun + time - (← IO.monoMsNow)))
      let sent ← IO.monoMsNow
      let exchange ← exchangeWithin limitMs request
      carryOut program limitMs begun (known ++ [((← IO.monoMsNow) - sent, exchange)])

/-- Runs the program on some arguments. -/
def run (arguments : List String) : IO CommandLine.Outcome := do
  let world ← world arguments
  let limitMs := match Configuration.ofLookup (world.environment.lookup ·) with
    | .ok configuration => 1000 * configuration.requestTimeoutSecs.toNat
    | .error _ => 0
  let program := CommandLine.run
    (fun configuration => Http.Session.authority .standard configuration.authorityUrl) .standard
    world arguments
  carryOut program limitMs (← IO.monoMsNow) []

end ObjectGrants.Terminal

/-- Runs the command line and exits with its status. -/
def main (arguments : List String) : IO UInt32 := do
  let outcome ← ObjectGrants.Terminal.run arguments
  IO.print outcome.output
  IO.eprint outcome.errors
  pure (UInt32.ofNat outcome.exitCode)
