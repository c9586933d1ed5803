import AgentCore.CodingHarness.Command
import AgentCore.Foundation.JsonSchema
import AgentCore.Foundation.Tx

/-!
# Timeouts of commands

`handle_exec`, `execute` and `run_command_sandboxed` start a child, poll for its end every fifty
milliseconds and, after the timeout, signal the process group whose number is the child's pid. Then
they wait for the child without a limit. Whether the wait ends depends on who is in that group.
-/

namespace AgentCore.CodingHarness

open Foundation

/-! ## The commands -/

variable {start group : Nat} {hasStdin : Bool}

def asU64 : Json → Option Nat
  | .num (.int z) => if 0 ≤ z then some z.toNat else none
  | _ => none

def DEFAULT_MAX_OUTPUT : Nat := 262144
def ABSOLUTE_MAX : Nat := 1048576

structure ExecRequest where
  shell : Bool
  program : String
  args : List String
  relativeCwd : String
  (timeoutSecs maxOutput : Nat)

def nonemptyStr (args : Json) (key : String) : Option String :=
  ((args.get key).bind Json.asStr).filter (· ≠ "")

def parseExec (args : Json) (shellPermitted : Bool) : Except String ExecRequest := do
  let shell := ((args.get "shell").bind Json.asBool).getD false
  require (¬ (shell ∧ ¬ shellPermitted)) "shell_not_permitted"
  let program ← okOr ((nonemptyStr args "command").or (nonemptyStr args "program")) "missing_command"
  return {
    shell
    program
    args := (((args.get "args").bind Json.asArray).getD []).filterMap Json.asStr
    relativeCwd := ((args.get "relative_cwd").bind Json.asStr).getD "."
    timeoutSecs := min (((args.get "timeout_seconds").bind asU64).getD 300) 3600
    maxOutput := min (((args.get "max_output_bytes").bind asU64).getD DEFAULT_MAX_OUTPUT)
      ABSOLUTE_MAX }

def handleExecCommand (host : Host) (r : ExecRequest) (cwd : HostPath) : Command :=
  let c : Command :=
    if r.shell then
      { program := "sh", args := ["-c", " ".intercalate (r.program :: r.args)] }
    else { program := r.program, args := r.args }
  let c := { c with currentDir := some cwd }
  let c := ["PATH", "HOME", "TMPDIR"].foldl (fun c key => c.withVar key (host.var key)) c
  (host.vars.filter fun kv => "LANG".toList.isPrefixOf kv.1.toList ||
    "LC_".toList.isPrefixOf kv.1.toList).foldl (fun c kv => c.withEnv kv.1 kv.2) c

structure ResolvedCommand where
  program : String
  args : List String
  network : NetworkPolicy
  timeoutMs : Nat

def executeCommand (host : Host) (backend : SandboxBackend) (envAllowlist : List String)
    (resolved : ResolvedCommand) (workspaceRoot sandboxHome : HostPath) : Except HcrError Command :=
  let c : Command :=
    { program := resolved.program, args := resolved.args, currentDir := some workspaceRoot }
  let c := envAllowlist.foldl (fun c name =>
    if name = "TMPDIR" then c.withEnv "TMPDIR" ((host.var "TMPDIR").getD host.tempDir)
    else if name = "HOME" then c.withEnv "HOME" sandboxHome.render
    else c.withVar name (host.var name)) c
  wrapWithSandbox host backend { c with processGroup := some 0 } ⟨workspaceRoot, resolved.network⟩

def sandboxedCommand (host : Host) (backend : SandboxBackend) (program : String)
    (args : List String) (workDir : HostPath) (extraEnv : List (String × String)) :
    Except HcrError Command :=
  let c : Command := { program := program, args := args, currentDir := some workDir }
  let c := c.withVar "PATH" (host.var "PATH")
  let c := c.withEnv "TMPDIR" ((host.var "TMPDIR").getD host.tempDir)
  let c := c.withEnv "HOME" (workDir.join ".sandbox-home").render
  let c := extraEnv.foldl (fun c kv => c.withEnv kv.1 kv.2) c
  wrapWithSandbox host backend { c with processGroup := some 0 } ⟨workDir, .deny⟩

inductive Call
  | handleExec (host : Host) (args : Json) (shellPermitted : Bool)
      (cwd : String → Except String HostPath) (isDir : HostPath → Bool)
  | execute (host : Host) (backend : SandboxBackend) (envAllowlist : List String)
      (resolved : Except String ResolvedCommand) (workspaceRoot sandboxHome : HostPath)
  | runCommandSandboxed (host : Host) (backend : SandboxBackend) (program : String)
      (args : List String) (workDir : HostPath) (timeoutMs : Nat) (stdinInput : List String)
      (extraEnv : List (String × String))

structure Prepared where
  command : Command
  timeoutMs : Nat
  hasStdin : Bool

variable {p : Prepared}

def Call.prepare : Call → Except String Prepared
  | .handleExec host args shellPermitted cwd isDir => do
    let r ← parseExec args shellPermitted
    let dir ← (cwd r.relativeCwd).mapError ("cwd_error: " ++ ·)
    require (isDir dir) "cwd_not_a_directory"
    return ⟨handleExecCommand host r dir, r.timeoutSecs * 1000, false⟩
  | .execute host backend envAllowlist resolved workspaceRoot sandboxHome => do
    let r ← resolved.mapError ("HCR command denied: " ++ ·)
    let c ← (executeCommand host backend envAllowlist r workspaceRoot sandboxHome).mapError
      ("HCR sandbox unavailable: " ++ ·.display)
    return ⟨c, r.timeoutMs, false⟩
  | .runCommandSandboxed host backend program args workDir timeoutMs stdinInput extraEnv => do
    require (backend ≠ .unavailable)
      "sandbox backend unavailable: execution denied (fail-closed)"
    let c ← (sandboxedCommand host backend program args workDir extraEnv).mapError
      ("sandbox init failed (fail-closed): " ++ ·.display)
    return ⟨c, timeoutMs, stdinInput ≠ []⟩

/-! ## The child -/

/-- A child as the harness can see it, in milliseconds from its start: when it ends by itself, whether
a SIGTERM ends it, and when it has taken all that is written to it or closed its end. -/
structure Child where
  pid : Nat
  exits : Option Nat
  endsOnTerm : Bool
  takesStdin : Option Nat

variable {child : Child}

def earlier : Option Nat → Option Nat → Option Nat
  | some a, some b => some (min a b)
  | some a, none => some a
  | none, b => b

/-- The group of a new child: its parent's, or the one its command sets, where zero is its own. -/
def spawnGroup (harnessGroup pid : Nat) (c : Command) : Nat :=
  match c.processGroup with
  | none => harnessGroup
  | some 0 => pid
  | some group => group

/-- The end of the child when `kill_process_tree` signals the group of its pid, SIGTERM first and
SIGKILL half a second later. -/
def endsAfterKill (group : Nat) (child : Child) (moment : Nat) : Option Nat :=
  if group = child.pid then
    earlier child.exits (some (if child.endsOnTerm then moment else moment + 500))
  else child.exits

def hasExited (exits : Option Nat) (now : Nat) : Bool := exits.any (· ≤ now)

def poll (exits : Option Nat) (deadline now : Nat) : Nat × Bool :=
  if hasExited exits now then (now, false)
  else if deadline ≤ now then (now, true)
  else poll exits deadline (now + 50)
termination_by deadline - now

inductive Outcome
  | refused (message : String)
  | finished (returned : Nat) (timedOut : Bool) (childEnded : Nat)
  | never
deriving DecidableEq

def waitChild (moment : Nat) (timedOut : Bool) : Option Nat → Outcome
  | some ended => .finished (max moment ended) timedOut ended
  | none => .never

def superviseFrom (start timeoutMs group : Nat) (child : Child) : Outcome :=
  match poll child.exits (start + timeoutMs) start with
  | (now, false) => waitChild now false child.exits
  | (now, true) => waitChild (now + 500) true (endsAfterKill group child now)

/-- The input is written before the clock starts, and before anything reads the output. -/
def stdinWritten (hasStdin : Bool) (child : Child) : Option Nat :=
  if hasStdin then earlier child.takesStdin child.exits else some 0

def supervise (p : Prepared) (group : Nat) (child : Child) : Outcome :=
  match stdinWritten p.hasStdin child with
  | none => .never
  | some start => superviseFrom start p.timeoutMs group child

structure Launch where
  call : Call
  harnessGroup : Nat
  child : Child
  spawned : Except String Unit
  fresh : child.pid ≠ harnessGroup

def Launch.run (l : Launch) : Outcome :=
  match l.call.prepare with
  | .error message => .refused message
  | .ok p =>
    match l.spawned with
    | .error message => .refused message
    | .ok () => supervise p (spawnGroup l.harnessGroup l.child.pid p.command) l.child

def Outcome.Enforced (limit : Nat) : Outcome → Prop
  | .refused _ => True
  | .finished returned timedOut childEnded => returned ≤ limit ∧ (timedOut → childEnded ≤ returned)
  | .never => False

/-! ## The group of the child -/

lemma processGroup_handleExecCommand (host : Host) (r : ExecRequest) (cwd : HostPath) :
    (handleExecCommand host r cwd).processGroup = none := by
  refine (Command.processGroup_foldl _ (fun c kv => ?_) _ _).trans ?_
  · exact Command.processGroup_withEnv c kv.1 kv.2
  refine (Command.processGroup_foldl _ (fun c key => ?_) _ _).trans ?_
  · exact Command.processGroup_withVar c key (host.var key)
  dsimp only
  split <;> rfl

lemma Call.processGroup_of_prepare {call : Call} (h : call.prepare = .ok p) :
    p.command.processGroup = none := by
  cases call with
  | handleExec host args shellPermitted cwd isDir =>
    simp only [Call.prepare, bind_eq_ok, return_eq_ok] at h
    obtain ⟨r, -, dir, -, -, -, rfl⟩ := h
    exact processGroup_handleExecCommand host r dir
  | execute host backend envAllowlist resolved workspaceRoot sandboxHome =>
    simp only [Call.prepare, bind_eq_ok, return_eq_ok, mapError_eq_ok] at h
    obtain ⟨r, -, c, hc, rfl⟩ := h
    exact processGroup_wrapWithSandbox hc
  | runCommandSandboxed host backend program args workDir timeoutMs stdinInput extraEnv =>
    simp only [Call.prepare, bind_eq_ok, return_eq_ok, mapError_eq_ok] at h
    obtain ⟨-, -, c, hc, rfl⟩ := h
    exact processGroup_wrapWithSandbox hc

/-! ## The time of a call -/

lemma poll_spec (exits : Option Nat) (deadline now : Nat) :
    ((poll exits deadline now).2 = false → ∃ e, exits = some e ∧ e ≤ (poll exits deadline now).1 ∧
      (poll exits deadline now).1 ≤ max now (e + 50)) ∧
    ((poll exits deadline now).2 = true → hasExited exits (poll exits deadline now).1 = false) := by
  induction now using poll.induct exits deadline with
  | case1 now hexited =>
    rw [poll, if_pos hexited]
    obtain ⟨e, he, hle⟩ : ∃ e, exits = some e ∧ e ≤ now := by
      simpa [hasExited, Option.any_eq_true] using hexited
    exact ⟨fun _ => ⟨e, he, hle, Nat.le_max_left _ _⟩, nofun⟩
  | case2 now hrunning hlate =>
    rw [poll, if_neg hrunning, if_pos hlate]
    exact ⟨nofun, fun _ => Bool.eq_false_of_not_eq_true hrunning⟩
  | case3 now hrunning hearly ih =>
    rw [poll, if_neg hrunning, if_neg hearly]
    refine ⟨fun h => ?_, ih.2⟩
    obtain ⟨e, he, hle, hbound⟩ := ih.1 h
    -- The child was running at this turn, so the next one is within a turn of its end.
    have hnow : now < e := by
      have hnot : ¬ e ≤ now := by simpa [hasExited, he] using hrunning
      omega
    exact ⟨e, he, hle, by omega⟩

/-- The call goes with the child: it is back within half a second of the end, and never if the child
does not end. -/
def Outcome.FollowsChild (o : Outcome) : Option Nat → Prop
  | none => o = .never
  | some e => ∃ returned timedOut, o = .finished returned timedOut e ∧ e ≤ returned ∧
      returned ≤ e + 500

lemma waitChild_follows (h : ∀ e, exits = some e → moment ≤ e + 500) :
    (waitChild moment timedOut exits).FollowsChild exits := by
  cases exits with
  | none => rfl
  | some e =>
    have := h e rfl
    exact ⟨max moment e, timedOut, rfl, Nat.le_max_right _ _, by omega⟩

lemma superviseFrom_spec (hgroup : group ≠ child.pid)
    (hstart : ∀ e, child.exits = some e → start ≤ e) :
    (superviseFrom start timeoutMs group child).FollowsChild child.exits := by
  obtain ⟨hleft, hlate⟩ := poll_spec child.exits (start + timeoutMs) start
  rcases hpoll : poll child.exits (start + timeoutMs) start with ⟨now, timedOut⟩
  rw [hpoll] at hleft hlate
  unfold superviseFrom
  rw [hpoll]
  cases timedOut with
  | false =>
    refine waitChild_follows fun e he => ?_
    obtain ⟨e', he', -, hbound⟩ := hleft rfl
    have hsame : e' = e := Option.some.inj (he'.symm.trans he)
    have := hstart e he
    dsimp only at hbound
    omega
  | true =>
    have hends : endsAfterKill group child now = child.exits := if_neg hgroup
    dsimp only
    rw [hends]
    refine waitChild_follows fun e he => ?_
    have hnow : ¬ e ≤ now := by simpa [hasExited, he] using hlate rfl
    omega

lemma stdinWritten_le (h : stdinWritten hasStdin child = some start)
    (he : child.exits = some e) : start ≤ e := by
  unfold stdinWritten at h
  rw [he] at h
  cases hasStdin with
  | false =>
    cases h
    exact Nat.zero_le e
  | true =>
    cases htakes : child.takesStdin with
    | none =>
      rw [htakes] at h
      cases h
      exact Nat.le_refl _
    | some taken =>
      rw [htakes] at h
      cases h
      exact Nat.min_le_right taken e

lemma exits_of_stdinWritten (h : stdinWritten hasStdin child = none) : child.exits = none := by
  unfold stdinWritten at h
  cases hasStdin with
  | false => cases h
  | true =>
    cases he : child.exits with
    | none => rfl
    | some e =>
      rw [he] at h
      cases htakes : child.takesStdin <;> rw [htakes] at h <;> cases h

lemma supervise_spec (hgroup : group ≠ child.pid) :
    (supervise p group child).FollowsChild child.exits := by
  unfold supervise
  cases hstdin : stdinWritten p.hasStdin child with
  | none =>
    rw [exits_of_stdinWritten hstdin]
    rfl
  | some start => exact superviseFrom_spec hgroup fun e he => stdinWritten_le hstdin he

lemma Launch.run_follows {l : Launch} (hp : l.call.prepare = .ok p) (hs : l.spawned = .ok ()) :
    l.run.FollowsChild l.child.exits := by
  have hgroup : spawnGroup l.harnessGroup l.child.pid p.command ≠ l.child.pid := by
    rw [spawnGroup, Call.processGroup_of_prepare hp]
    exact l.fresh.symm
  have hrun : l.run = supervise p (spawnGroup l.harnessGroup l.child.pid p.command) l.child := by
    unfold Launch.run
    rw [hp, hs]
  rw [hrun]
  exact supervise_spec hgroup

/-- The timeout with a fixed slack is kept over a set of calls exactly if their children end by
themselves within the timeout and a fixed slack. -/
theorem timeouts_enforced_iff (launches : Set Launch) :
    (∃ slack, ∀ l ∈ launches, ∀ p, l.call.prepare = .ok p →
      l.run.Enforced (p.timeoutMs + slack)) ↔
    ∃ slack, ∀ l ∈ launches, ∀ p, l.call.prepare = .ok p → l.spawned = .ok () →
      ∃ e, l.child.exits = some e ∧ e ≤ p.timeoutMs + slack := by
  constructor
  · rintro ⟨slack, h⟩
    refine ⟨slack, fun l hl p hp hs => ?_⟩
    have henforced := h l hl p hp
    have hrun := Launch.run_follows hp hs
    cases he : l.child.exits with
    | none =>
      have hnever : l.run = .never := by rwa [he] at hrun
      rw [hnever] at henforced
      exact absurd henforced id
    | some e =>
      rw [he] at hrun
      obtain ⟨returned, timedOut, hreturned, hle, -⟩ := hrun
      rw [hreturned] at henforced
      exact ⟨e, rfl, Nat.le_trans hle henforced.1⟩
  · rintro ⟨slack, h⟩
    refine ⟨slack + 500, fun l hl p hp => ?_⟩
    cases hs : l.spawned with
    | error message =>
      have hrefused : l.run = .refused message := by
        unfold Launch.run
        rw [hp, hs]
      rw [hrefused]
      exact .intro
    | ok u =>
      obtain ⟨e, he, hle⟩ := h l hl p hp hs
      have hrun := Launch.run_follows hp hs
      rw [he] at hrun
      obtain ⟨returned, timedOut, hreturned, hended, hlate⟩ := hrun
      have hlimit : returned ≤ p.timeoutMs + (slack + 500) :=
        calc returned ≤ e + 500 := hlate
          _ ≤ p.timeoutMs + slack + 500 := Nat.add_le_add_right hle 500
          _ = p.timeoutMs + (slack + 500) := Nat.add_assoc _ _ _
      rw [hreturned]
      exact ⟨hlimit, fun _ => hended⟩

/-! ### A program that does not end -/

def sampleHost : Host where
  pathExists _ := false
  vars := [("PATH", "/usr/bin")]
  tempDir := "/tmp"

def sampleWorkspace : HostPath := ⟨true, ["work"]⟩

def endlessChild : Child := ⟨4242, none, true, some 0⟩

def sampleLaunch (call : Call) : Launch := ⟨call, 100, endlessChild, .ok (), by decide⟩

/-- Each of the three functions, with a timeout of one second. -/
theorem endless_never_returns :
    (sampleLaunch (.handleExec sampleHost
        (.mkObj [("command", .str "sleep"), ("args", .arr [.str "infinity"]),
          ("timeout_seconds", .num (.int 1))]) false (fun _ => .ok sampleWorkspace)
        (fun _ => true))).run = .never ∧
      (sampleLaunch (.execute sampleHost .linuxBubblewrap ["PATH", "HOME"]
        (.ok ⟨"/usr/bin/sleep", ["infinity"], .deny, 1000⟩) sampleWorkspace
        (sampleWorkspace.join "home"))).run = .never ∧
      (sampleLaunch (.runCommandSandboxed sampleHost .linuxBubblewrap "/usr/bin/sleep" ["infinity"]
        sampleWorkspace 1000 [] [])).run = .never := by
  decide +kernel

end AgentCore.CodingHarness
