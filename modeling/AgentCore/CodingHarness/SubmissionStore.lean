import AgentCore.Domain.Platform
import AgentCore.Foundation.AtomicFile
import AgentCore.Foundation.Run

/-!
# The store of development submissions

`submission_store.rs`. The directory of a key is named by the SHA-256 of the key, which is taken as
injective, so every key has a directory of its own. In it are a lock, the marker `request.json`
and the response `result.json`; both files are written by `write_json_atomic`, and read back as
the values that were written.
-/

namespace AgentCore.CodingHarness

open Foundation Domain Function

inductive SubmissionExecution
  | completed (value : Json)
  | inProgress
  | outcomeUnknown
deriving DecidableEq

def outcomeUnknown : Json :=
  .mkObj
    [("protocol_version", .str "external-harness-v1"), ("ok", .bool false),
      ("outcome", .str "outcome_unknown"), ("error_code", .str "SUBMISSION_OUTCOME_UNKNOWN")]

def fingerprint [Platform] (request : Json) : String :=
  "sha256:" ++ Platform.sha256Hex request.toText

/-! ## A call that has the lock -/

/-- A response that is written: that of the handler, or that of an attempt that has ended
without one. -/
inductive Response
  | complete (value : Json)
  | abandoned

def Response.value : Response → Json
  | .complete value => value
  | .abandoned => outcomeUnknown

def Response.execution : Response → SubmissionExecution
  | .complete value => .completed value
  | .abandoned => .outcomeUnknown

inductive Purpose
  | claim
  | respond (response : Response)

inductive WriteStage
  | create
  | fill
  | rename
  | syncDir

inductive Pc
  | resultExists
  | compareResult
  | readResult
  | requestExists
  | compareRequest
  | write (purpose : Purpose) (stage : WriteStage)
  | handler

structure Owner where
  fingerprint : String
  pc : Pc

inductive Fact
  | claimed (fingerprint : String)
  | entered
  | returned (value : Json)
  | answered (fingerprint : String) (answer : SubmissionExecution)
deriving DecidableEq

structure KeyDir where
  request : AtomicFile String := {}
  result : AtomicFile Json := {}
  lock : Option Owner := none
  facts : List Fact := []

namespace KeyDir

def record (d : KeyDir) (fact : Fact) : KeyDir := { d with facts := d.facts ++ [fact] }

def answer (d : KeyDir) (fingerprint : String) (answer : SubmissionExecution) : KeyDir :=
  { d with lock := none }.record (.answered fingerprint answer)

def goto (d : KeyDir) (o : Owner) (pc : Pc) : KeyDir := { d with lock := some { o with pc } }

def syncDir (d : KeyDir) : KeyDir :=
  { d with request := d.request.syncDir, result := d.result.syncDir }

def write (d : KeyDir) (o : Owner) : Purpose → WriteStage → KeyDir
  | .claim, .create =>
    -- `create_new` refuses a temporary that a crash left
    if d.request.temp.isSome then d.answer o.fingerprint .outcomeUnknown
    else { d with request := d.request.create }.goto o (.write .claim .fill)
  | .claim, .fill =>
    { d with request := d.request.fill o.fingerprint }.goto o (.write .claim .rename)
  | .claim, .rename =>
    ({ d with request := d.request.rename }.record (.claimed o.fingerprint)).goto o
      (.write .claim .syncDir)
  | .claim, .syncDir => (d.syncDir.record .entered).goto o .handler
  | .respond r, .create =>
    if d.result.temp.isSome then d.answer o.fingerprint .outcomeUnknown
    else { d with result := d.result.create }.goto o (.write (.respond r) .fill)
  | .respond r, .fill =>
    { d with result := d.result.fill r.value }.goto o (.write (.respond r) .rename)
  | .respond r, .rename =>
    { d with result := d.result.rename }.goto o (.write (.respond r) .syncDir)
  | .respond r, .syncDir => d.syncDir.answer o.fingerprint r.execution

def proceed (d : KeyDir) (o : Owner) : KeyDir :=
  match o.pc with
  | .resultExists =>
    if d.result.file.isSome then d.goto o .compareResult else d.goto o .requestExists
  | .compareResult =>
    if d.request.file = some o.fingerprint then d.goto o .readResult
    else d.answer o.fingerprint .outcomeUnknown
  | .readResult =>
    match d.result.file with
    | some value => d.answer o.fingerprint (.completed value)
    | none => d.answer o.fingerprint .outcomeUnknown
  | .requestExists =>
    if d.request.file.isSome then d.goto o .compareRequest else d.goto o (.write .claim .create)
  | .compareRequest =>
    if d.request.file = some o.fingerprint then d.goto o (.write (.respond .abandoned) .create)
    else d.answer o.fingerprint .outcomeUnknown
  | .write purpose stage => d.write o purpose stage
  | .handler => d

/-- The next operation of the owner fails. `Path::exists` answers a failed look with `false`. -/
def fail (d : KeyDir) (o : Owner) : KeyDir :=
  match o.pc with
  | .resultExists => d.goto o .requestExists
  | .requestExists => d.goto o (.write .claim .create)
  | .handler => d
  | _ => d.answer o.fingerprint .outcomeUnknown

def returns (d : KeyDir) (o : Owner) (value : Json) : KeyDir :=
  match o.pc with
  | .handler => (d.record (.returned value)).goto o (.write (.respond (.complete value)) .create)
  | _ => d

end KeyDir

/-! ## All calls -/

abbrev SubmissionStore := String → KeyDir

inductive StoreEvent
  /-- `execute` reaches the lock and tries it. -/
  | call (key : String) (request : Json)
  /-- `execute` fails before it has tried the lock. -/
  | refuse (key : String) (request : Json)
  | proceed (key : String)
  | fail (key : String)
  | returns (key : String) (value : Json)
  /-- The handler panics, or the process of the owner ends: the lock is released. -/
  | leave (key : String)
  | powerLoss (request result : String → Loss)

section

variable [Platform]

def KeyDir.call (d : KeyDir) (request : Json) : KeyDir :=
  match d.lock with
  | none => { d with lock := some ⟨fingerprint request, .resultExists⟩ }
  | some _ => d.record (.answered (fingerprint request) .inProgress)

def KeyDir.refuse (d : KeyDir) (request : Json) : KeyDir :=
  d.record (.answered (fingerprint request) .outcomeUnknown)

def KeyDir.own (d : KeyDir) (act : KeyDir → Owner → KeyDir) : KeyDir :=
  match d.lock with
  | none => d
  | some o => act d o

def KeyDir.crash (request result : Loss) (d : KeyDir) : KeyDir :=
  { d with request := d.request.crash request, result := d.result.crash result, lock := none }

def SubmissionStore.step (s : SubmissionStore) : StoreEvent → SubmissionStore
  | .call key request => update s key ((s key).call request)
  | .refuse key request => update s key ((s key).refuse request)
  | .proceed key => update s key ((s key).own .proceed)
  | .fail key => update s key ((s key).own .fail)
  | .returns key value => update s key ((s key).own fun d o => d.returns o value)
  | .leave key => update s key { s key with lock := none }
  | .powerLoss request result => fun key => (s key).crash (request key) (result key)

end

/-! ## What is asked of a key -/

def claims (facts : List Fact) : List String :=
  facts.filterMap fun
    | .claimed fingerprint => some fingerprint
    | _ => none

/-- The handler is entered at most once, and every completed answer has its value or says that
the outcome is unknown, one value for all, to the fingerprint that was claimed first. -/
structure RunsOnce (facts : List Fact) : Prop where
  once : facts.count .entered ≤ 1
  same : ∀ fp v fp' v', .answered fp (.completed v) ∈ facts →
    .answered fp' (.completed v') ∈ facts → v = v'
  value : ∀ fp v, .answered fp (.completed v) ∈ facts →
    .returned v ∈ facts ∨ v = outcomeUnknown
  first : ∀ fp v, .answered fp (.completed v) ∈ facts → (claims facts).head? = some fp

def SeesFiles (s : SubmissionStore) : StoreEvent → Prop
  | .fail key =>
    match (s key).lock with
    | some ⟨_, .resultExists⟩ => (s key).result.file = none
    | some ⟨_, .requestExists⟩ => (s key).request.file = none
    | _ => True
  | _ => True

end AgentCore.CodingHarness
