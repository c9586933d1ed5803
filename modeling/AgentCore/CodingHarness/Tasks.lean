import AgentCore.Domain.Platform
import AgentCore.Foundation.Bytes
import AgentCore.Foundation.Run
import AgentCore.Server.Http

/-!
# Coding tasks

`tasks.rs` and the parts of `opencode_backend.rs` that it calls. A task is stored, its cancel token
is registered, and a thread runs it; `cancel_task` first sets the token and then writes the store.
The store is behind a mutex that a panic of its holder poisons, and every later `lock().unwrap()`
panics.
-/

namespace AgentCore.CodingHarness

open Foundation Domain Server

/-! ## Texts that are cut -/

def truncateStr (s : String) (max : Nat) : Option String :=
  if s.utf8ByteSize ≤ max then some s
  else
    (charsOfBytes (s.toList.take max) (String.utf8Len (s.toList.take max) - 3)).map fun kept =>
      String.ofList (kept ++ "...".toList)

structure TaskOutput where
  (summary commitSha changedFiles diffSummary testCommand testResult stdout stderr : String)
  exitCode : Int
  timedOut : Bool

structure Parsed where
  commitSha : String := ""
  changedFiles : String := ""
  diffSummary : String := ""
  testCommand : String := ""
  testResult : String := "not_reported"
  summary : String

def strField (event : Json) (key : String) : Option String := (event.get key).bind Json.asStr

def bashCommand (event : Json) : Option String :=
  if strField event "tool" = some "bash" then
    (((event.get "state").bind (·.get "input")).bind (·.get "command")).bind Json.asStr
  else none

def addPath (files path : String) : String := if files = "" then path else files ++ ", " ++ path

def cutField (text : Option String) (max : Nat) (p : Parsed) (set : String → Parsed) :
    Option Parsed :=
  match text with
  | some s => (truncateStr s max).map set
  | none => some p

def parseTyped (event : Json) (kind : String) (p : Parsed) : Option Parsed :=
  if kind ∈ ["completion", "result", "done"] then
    cutField (strField event "content") 200 p fun content => { p with summary := content }
  else if kind ∈ ["file_change", "edit", "write"] then
    some ((strField event "path").elim p fun path =>
      { p with changedFiles := addPath p.changedFiles path })
  else if kind = "diff" then
    cutField (strField event "diff") 500 p fun diff => { p with diffSummary := diff }
  else if kind ∈ ["test", "test_result"] then
    let p := (strField event "status").elim p fun status =>
      { p with testResult := "test: " ++ status }
    cutField (strField event "output") 200 p fun output => { p with testResult := output }
  else if kind ∈ ["bash", "tool_use"] then
    cutField (bashCommand event) 200 p fun command => { p with testCommand := command }
  else some p

def parseEvent (event : Json) (p : Parsed) : Option Parsed := do
  let p ← (strField event "type").elim (some p) fun kind => parseTyped event kind p
  if p.commitSha = "" then
    some ((strField event "commit_sha").elim p fun sha => { p with commitSha := sha })
  else some p

section Output

variable [Platform]

def parseLine (p : Parsed) (line : String) : Option Parsed :=
  if trim line = "" then some p
  else
    match fromStr (trim line) with
    | some event => parseEvent event p
    | none => some p

def parseOutput (stdout objective : String) : Option Parsed := do
  let cut ← truncateStr objective 80
  let p ← (lines stdout).foldlM parseLine { summary := "opencode: completed '" ++ cut ++ "'" }
  return { p with changedFiles := if p.changedFiles = "" then "unknown" else p.changedFiles }

/-- What the opencode process does with a task: no process, a cancellation, or an end. -/
inductive BackendOutcome
  | failed (reason : String)
  | cancelled
  | exited (exitCode : Int) (stdout stderr : String) (timedOut : Bool)
deriving DecidableEq

def runOpencode (objective : String) : BackendOutcome → Option (Except String TaskOutput)
  | .failed reason => some (.error reason)
  | .cancelled => some (.error "cancelled")
  | .exited exitCode stdout stderr timedOut =>
    if exitCode = 0 then
      (parseOutput stdout objective).map fun p =>
        .ok {
          summary := p.summary
          commitSha := p.commitSha
          changedFiles := p.changedFiles
          diffSummary := p.diffSummary
          testCommand := p.testCommand
          testResult := p.testResult
          stdout
          stderr
          exitCode
          timedOut }
    else
      (truncateStr ((lines stderr).getLastD stderr) 300).map fun cut =>
        .error ("opencode_exit_" ++ toString exitCode ++ ": " ++ cut)

def runFake (objective : String) : Option (Except String TaskOutput) :=
  (truncateStr objective 80).map fun cut =>
    .ok {
      summary := "fake: completed '" ++ cut ++ "'"
      commitSha := ""
      changedFiles := ""
      diffSummary := "fake: no real changes"
      testCommand := "cargo test"
      testResult := "not_reported"
      stdout := "fake: task completed\n"
      stderr := ""
      exitCode := 0
      timedOut := false }

end Output

/-! ## The store -/

inductive TaskStatus
  | queued
  | running
  | succeeded
  | failed (reason : String)
  | cancelled
deriving DecidableEq

def TaskStatus.text : TaskStatus → String
  | .queued => "queued"
  | .running => "running"
  | .succeeded => "succeeded"
  | .failed _ => "failed"
  | .cancelled => "cancelled"

def TaskStatus.terminal : TaskStatus → Bool
  | .queued => false
  | .running => false
  | .succeeded => true
  | .failed _ => true
  | .cancelled => true

inductive Backend
  | opencode
  | fake
deriving DecidableEq

def Backend.ofText : String → Option Backend
  | "opencode" => some .opencode
  | "fake" => some .fake
  | _ => none

inductive Phase
  | inserted
  | registered
  | checking
  | starting
  | executing
  | finishing (result : Except String TaskOutput)
  | ended

/-- A task of the store, with its cancel token (registered or not, and its flag), the thread that
runs it, and the number of `cancel_task` calls between their two halves. -/
structure Task where
  (objective acceptanceCriteria : String)
  backend : Backend
  status : TaskStatus := .queued
  output : Option TaskOutput := none
  phase : Phase := .inserted
  token : Bool := false
  flag : Bool := false
  cancelling : Nat := 0

structure TaskWorld where
  seq : Nat := 0
  tasks : Nat → Option Task := fun _ => none
  poisoned : Bool := false
  callPanicked : Bool := false

def TaskWorld.put (w : TaskWorld) (id : Nat) (t : Task) : TaskWorld :=
  { w with tasks := Function.update w.tasks id (some t) }

def Backend.text : Backend → String
  | .opencode => "opencode"
  | .fake => "fake"

/-- The answer of `get_status`, without the times; it panics on a poisoned store. -/
def TaskWorld.getStatus (w : TaskWorld) (id : Nat) : Option Json :=
  if w.poisoned then none
  else
    match w.tasks id with
    | none => some (.mkObj [("ok", .bool false), ("error_code", .str "task_not_found")])
    | some t =>
      let text := fun (field : TaskOutput → String) (default : String) =>
        .str ((t.output.map field).getD default)
      let reason := match t.status with
        | .failed reason => [("failure_reason", .str reason)]
        | _ => []
      some (.mkObj
        [("ok", .bool true), ("result", .mkObj
            ([("status", .str t.status.text), ("backend", .str t.backend.text),
              ("summary", text TaskOutput.summary ""), ("commit_sha", text TaskOutput.commitSha ""),
              ("changed_files", text TaskOutput.changedFiles ""),
              ("diff_summary", text TaskOutput.diffSummary ""),
              ("test_command", text TaskOutput.testCommand ""),
              ("test_result", text TaskOutput.testResult "not_reported"),
              ("exit_code", .num (.int ((t.output.map TaskOutput.exitCode).getD (-1)))),
              ("timed_out", .bool ((t.output.map TaskOutput.timedOut).getD false)),
              ("stdout_truncated", text TaskOutput.stdout ""),
              ("stderr_truncated", text TaskOutput.stderr "")] ++ reason))])

inductive ThreadStep
  | register
  | spawn
  | check
  | start
  | execute (outcome : BackendOutcome)
  | finish

inductive TaskEvent
  | submit (objective : String) (acceptance : Json) (backend : String)
  | thread (id : Nat) (step : ThreadStep)
  | cancelToken (id : Nat)
  | cancelStore (id : Nat)
  | getStatus (id : Nat)

def normalizeAcceptance : Json → String
  | .str s => s
  | .arr items => "\n".intercalate (items.filterMap Json.asStr)
  | _ => ""

section Steps

variable [Platform]

def TaskWorld.submit (w : TaskWorld) (objective : String) (acceptance : Json) (backend : String) :
    TaskWorld :=
  match Backend.ofText backend with
  | none => { w with seq := w.seq + 1 }
  | some b =>
    if w.poisoned then { w with seq := w.seq + 1, callPanicked := true }
    else
      let t : Task :=
        { objective
          acceptanceCriteria := normalizeAcceptance acceptance
          backend := b }
      { w.put w.seq t with seq := w.seq + 1 }

def Task.run (t : Task) (outcome : BackendOutcome) : Option (Except String TaskOutput) :=
  match t.backend with
  | .opencode => runOpencode t.objective outcome
  | .fake => runFake t.objective

/-- The last part of `execute_task`, under the lock: the new task, and whether it panicked, which
it does after the status is written. -/
def Task.finish (t : Task) (result : Except String TaskOutput) : Task × Bool :=
  match t.status with
  | .running =>
    match result with
    | .ok out =>
      match truncateStr out.stdout 100000, truncateStr out.stderr 100000 with
      | some stdout, some stderr =>
        ({ t with
            status := .succeeded
            output := some { out with stdout, stderr }
            phase := .ended }, false)
      | _, _ => ({ t with status := .succeeded, phase := .ended }, true)
    | .error e => ({ t with status := .failed e, phase := .ended }, false)
  | _ => ({ t with phase := .ended }, false)

def Task.advance (poisoned : Bool) (t : Task) : ThreadStep → Task × Bool
  | .register =>
    match t.phase with
    | .inserted => ({ t with phase := .registered, token := t.backend == .opencode }, false)
    | _ => (t, false)
  | .spawn =>
    match t.phase with
    | .registered => ({ t with phase := .checking }, false)
    | _ => (t, false)
  | .check =>
    match t.phase with
    | .checking =>
      ({ t with phase := if t.backend = .opencode ∧ t.flag then .ended else .starting }, false)
    | _ => (t, false)
  | .start =>
    match t.phase with
    | .starting =>
      if poisoned ∨ t.status ≠ .queued then ({ t with phase := .ended }, false)
      else ({ t with status := .running, phase := .executing }, false)
    | _ => (t, false)
  | .execute outcome =>
    match t.phase with
    | .executing =>
      if outcome = .cancelled ∧ ¬ t.flag then (t, false)
      else
        match t.run outcome with
        | some result => ({ t with phase := .finishing result, token := false }, false)
        | none => ({ t with phase := .ended }, false)
    | _ => (t, false)
  | .finish =>
    match t.phase with
    | .finishing result =>
      if poisoned then ({ t with phase := .ended }, false) else t.finish result
    | _ => (t, false)

def Task.cancelToken (t : Task) : Task :=
  { t with flag := t.flag || t.token, cancelling := t.cancelling + 1 }

def Task.cancelStore (t : Task) : Task :=
  { t with
    status := if t.status = .queued ∨ t.status = .running then .cancelled else t.status
    cancelling := t.cancelling - 1 }

def TaskWorld.step (w : TaskWorld) : TaskEvent → TaskWorld
  | .submit objective acceptance backend => w.submit objective acceptance backend
  | .thread id step =>
    match w.tasks id with
    | some t =>
      { w.put id (t.advance w.poisoned step).1 with
        poisoned := w.poisoned || (t.advance w.poisoned step).2 }
    | none => w
  | .cancelToken id =>
    match w.tasks id with
    | some t => w.put id t.cancelToken
    | none => w
  | .cancelStore id =>
    match w.tasks id with
    | some t =>
      if t.cancelling = 0 then w
      else if w.poisoned then
        { w.put id { t with cancelling := t.cancelling - 1 } with callPanicked := true }
      else w.put id t.cancelStore
    | none => if w.poisoned then { w with callPanicked := true } else w
  | .getStatus id => if (w.getStatus id).isNone then { w with callPanicked := true } else w

end Steps

end AgentCore.CodingHarness
