import Rollup.Cluster.Http
import Rollup.CommandLine.Run
import Std.Async.DNS
import Std.Async.TCP

/-!
# The program

Gathers what a command needs, sends its question over a connection, prints the outcome
and writes the file that it leaves.
-/

namespace Rollup
namespace Main

open CommandLine

/-!
# Files
-/

def fileText? (path : String) : IO (Option String) := do
  match (<- (IO.FS.readFile path).toBaseIO) with
  | .ok text => return some text
  | .error (.noFileOrDirectory _ _ _) => return none
  | .error error => throw error

def directory (path : String) : String :=
  String.ofList ((path.toList.reverse.dropWhile (fun c => c != '/')).drop 1).reverse

def writeFile (path text : String) : IO Unit := do
  if !(directory path).isEmpty then
    IO.FS.createDirAll (directory path)
  IO.FS.writeFile path text

/-!
# Connections
-/

partial def receiveAll (socket : Std.Async.TCP.Socket.Client) (seen : ByteArray) :
    Std.Async.Async ByteArray := do
  match (<- socket.recv? 65536) with
  | some bytes => receiveAll socket (seen ++ bytes)
  | none => return seen

def socketAddress (address : Std.Net.IPAddr) (port : UInt16) : Std.Net.SocketAddress :=
  match address with
  | .v4 address => .v4 { addr := address, port := port }
  | .v6 address => .v6 { addr := address, port := port }

def hostName (host : String) : String :=
  String.ofList (host.toList.filter (fun c => c != '[' && c != ']'))

def exchange (message : Cluster.Message) : IO ByteArray := do
  let url := message.url
  let port := url.port.getD ((Cluster.defaultPort? url.scheme).getD 80)
  let addresses <-
    (Std.Async.DNS.getAddrInfo (hostName (url.host.getD "")) (toString port)).block
  match addresses[0]? with
  | none => throw (IO.userError "host not found")
  | some address =>
      let socket <- Std.Async.TCP.Socket.Client.mk
      (do
        socket.connect (socketAddress address (UInt16.ofNat port))
        socket.send message.wire.toUTF8
        receiveAll socket ByteArray.empty : Std.Async.Async ByteArray).block

partial def await? {alpha : Type} (task : Task alpha) (left : Nat) : IO (Option alpha) := do
  if (<- IO.hasFinished task) then
    return some task.get
  else if left = 0 then
    return none
  else
    let pause := min left 10
    IO.sleep (UInt32.ofNat pause)
    await? task (left - pause)

def call (question : Question) : IO (Except BackendError Json) := do
  let request := question.plan.request
  if question.cluster.url.scheme != "http" then
    return .error (.http s!"unsupported scheme '{question.cluster.url.scheme}'")
  let task <- (exchange (question.cluster.message request)).asTask
  match (<- await? task question.timeout) with
  | none => return .error (.timeout "no answer in time")
  | some (.error error) => return .error (.http (toString error))
  | some (.ok bytes) =>
      match Cluster.Reply.ofBytes? bytes.toList with
      | some reply => return Cluster.response request reply
      | none => return .error (.http "incomplete reply")

def retryDelay : UInt32 := 200

/-- Calls a cluster, again up to `retries` times while it may help. -/
def callAgain (question : Question) : Nat -> IO (Except BackendError Json)
  | 0 => call question
  | retries + 1 => do
      match (<- call question) with
      | .ok response => return .ok response
      | .error error =>
          if error.isRetryable then
            IO.sleep retryDelay
            callAgain question retries
          else
            return .error error

def conclude (question : Question) : IO Outcome := do
  match (<- callAgain question question.retries) with
  | .ok response => return question.conclude (Answer.read question.plan.request response)
  | .error error => return question.conclude (.error (.backend error))

/-!
# Commands
-/

def readsInput : Invocation -> Bool
  | .run _ (.explain sql _) => sql == "-"
  | .run _ (.query sql _ _) => sql == "-"
  | _ => false

def surroundings (invocation : Invocation) : IO Surroundings := do
  let home <- IO.getEnv "HOME"
  let known <-
    [urlVariable, "SQLAGG_USERNAME", "SQLAGG_PASSWORD"].mapM (fun name => do
      return (name, <- IO.getEnv name))
  let path :=
    match invocation with
    | .run given _ => configPath? home given
    | _ => none
  let text <- match path with
    | some path => fileText? path
    | none => pure none
  let input <- if readsInput invocation then (<- IO.getStdin).readToEnd else pure ""
  return {
    lookup := fun name => (known.lookup name).join
    file := fun asked => if some asked = path then text else none
    input := input
    home := home }

def runInvocation (invocation : Invocation) : IO Outcome := do
  match invocation.act (<- surroundings invocation) with
  | .finish outcome => return outcome
  | .ask question => conclude question

/-- Prints an outcome, writes its file, and gives the exit code. -/
def present (outcome : Outcome) : IO UInt32 := do
  match outcome.written with
  | some (path, text) => writeFile path text
  | none => pure ()
  (<- IO.getStdout).putStr outcome.output
  (<- IO.getStderr).putStr outcome.complaint
  return UInt32.ofNat outcome.code

end Main
end Rollup

open Rollup CommandLine in
def main (arguments : List String) : IO UInt32 := do
  match Invocation.parse? (<- IO.getEnv urlVariable) arguments with
  | none => Main.present .misused
  | some invocation =>
      match (<- (Main.runInvocation invocation).toBaseIO) with
      | .ok outcome => Main.present outcome
      | .error error => Main.present (.failed (toString error))
