import AgentCore.Domain.Platform

/-!
# Commands of the coding harness

The commands that `handle_exec` (`workspace.rs`), `execute` (`hcr/executor.rs`) and
`run_command_sandboxed` (`hcr/gates/mod.rs`) start. The last two go through
`wrap_linux_bubblewrap` (`hcr/sandbox.rs`), which does not change the command it is given but builds
another one.
-/

namespace AgentCore.CodingHarness

open Foundation

structure HostPath where
  absolute : Bool
  parts : List String
deriving DecidableEq

namespace HostPath

def render (p : HostPath) : String :=
  (if p.absolute then "/" else "") ++ "/".intercalate p.parts

def join (p : HostPath) (name : String) : HostPath := { p with parts := p.parts ++ [name] }

def startsWith (p q : HostPath) : Bool := p.absolute == q.absolute && q.parts.isPrefixOf p.parts

end HostPath

def pathsOverlap (left right : HostPath) : Bool :=
  left == right || left.startsWith right || right.startsWith left

/-- `std::process::Command` after `env_clear`: `env` is the whole environment of the child. -/
structure Command where
  program : String
  args : List String := []
  currentDir : Option HostPath := none
  env : List (String × String) := []
  processGroup : Option Nat := none

namespace Command

def withArgs (c : Command) (args : List String) : Command := { c with args := c.args ++ args }

def withEnv (c : Command) (key value : String) : Command :=
  { c with env := (key, value) :: c.env.filter (·.1 ≠ key) }

def withVar (c : Command) (key : String) (value : Option String) : Command :=
  value.elim c (c.withEnv key)

@[simp] lemma processGroup_withArgs (c : Command) (args : List String) :
    (c.withArgs args).processGroup = c.processGroup := rfl

@[simp] lemma processGroup_withEnv (c : Command) (key value : String) :
    (c.withEnv key value).processGroup = c.processGroup := rfl

@[simp] lemma processGroup_withVar (c : Command) (key : String) (value : Option String) :
    (c.withVar key value).processGroup = c.processGroup := by
  cases value <;> rfl

lemma processGroup_foldl {α : Type} (f : Command → α → Command)
    (hf : ∀ c a, (f c a).processGroup = c.processGroup) (items : List α) (c : Command) :
    (items.foldl f c).processGroup = c.processGroup := by
  induction items generalizing c with
  | nil => rfl
  | cons a items ih =>
    rw [List.foldl_cons, ih]
    exact hf c a

end Command

/-! ## The sandbox -/

inductive NetworkPolicy
  | deny
  | loopbackOnly

inductive SandboxBackend
  | linuxBubblewrap
  | unavailable
deriving DecidableEq

inductive HcrError
  | sandboxUnavailable
  | internal (message : String)

def HcrError.display : HcrError → String
  | .sandboxUnavailable => "sandbox backend unavailable"
  | .internal message => "internal HCR error: " ++ message

structure Host where
  pathExists : String → Bool
  vars : List (String × String)
  tempDir : String

def Host.var (host : Host) (key : String) : Option String := host.vars.lookup key

structure SandboxConfig where
  workspaceRoot : HostPath
  networkPolicy : NetworkPolicy

def LINUX_PRIVATE_HOME : HostPath := ⟨true, ["run", "agent-core-hcr", "home"]⟩

def appendParentDirs (c : Command) (path : HostPath) : Command :=
  (path.parts.dropLast.inits.filter (· ≠ [])).foldl
    (fun c parts => c.withArgs ["--dir", (HostPath.mk path.absolute parts).render]) c

def toolchainDir (host : Host) (variableName suffix : String) : String :=
  (host.var variableName).getD (((host.var "HOME").map (· ++ suffix)).getD "")

def present (host : Host) (path : String) : Bool := path ≠ "" && host.pathExists path

def bindSystemPaths (host : Host) (c : Command) : Command :=
  ["/usr", "/lib", "/lib64", "/bin", "/sbin", "/etc"].foldl (fun c path =>
    if host.pathExists path then c.withArgs ["--ro-bind", path, path] else c) c

def bindCargo (host : Host) (hostCargo : String) (c : Command) : Command :=
  ["bin", "registry", "git", ".crates.toml", ".crates2.json"].foldl (fun c sub =>
    if host.pathExists (hostCargo ++ "/" ++ sub) then
      c.withArgs ["--ro-bind", hostCargo ++ "/" ++ sub, "/opt/cargo/" ++ sub]
    else c) c

def bubblewrapMounts (host : Host) (config : SandboxConfig) : Command :=
  let ws := config.workspaceRoot.render
  let hostRustup := toolchainDir host "RUSTUP_HOME" "/.rustup"
  let hostCargo := toolchainDir host "CARGO_HOME" "/.cargo"
  let c : Command := { program := "bwrap" }
  let c := bindSystemPaths host (c.withArgs ["--unshare-all", "--new-session"])
  let c := c.withArgs ["--proc", "/proc", "--dev", "/dev", "--tmpfs", "/tmp"]
  let c := (appendParentDirs c config.workspaceRoot).withArgs ["--bind", ws, ws]
  let c := c.withArgs ["--dir", "/run", "--dir", "/run/agent-core-hcr", "--tmpfs",
    LINUX_PRIVATE_HOME.render]
  let c := if present host hostRustup then c.withArgs ["--ro-bind", hostRustup, "/opt/rustup"] else c
  let c := c.withArgs ["--dir", "/opt", "--dir", "/opt/cargo"]
  let c := if present host hostCargo then bindCargo host hostCargo c else c
  match config.networkPolicy with
  | .deny => c.withArgs ["--unshare-net"]
  | .loopbackOnly => c

def bubblewrapEnv (host : Host) (env : List (String × String)) (c : Command) : Command :=
  let c := env.foldl (fun c kv => c.withEnv kv.1 kv.2) c
  let c := c.withEnv "HOME" LINUX_PRIVATE_HOME.render
  let c := if present host (toolchainDir host "RUSTUP_HOME" "/.rustup") then
      c.withEnv "RUSTUP_HOME" "/opt/rustup" else c
  if present host (toolchainDir host "CARGO_HOME" "/.cargo") then
    (c.withEnv "CARGO_HOME" "/opt/cargo").withEnv "PATH"
      ("/opt/cargo/bin:" ++ (host.var "PATH").getD "")
  else c

def wrapLinuxBubblewrap (host : Host) (cmd : Command) (config : SandboxConfig) :
    Except HcrError Command :=
  if !config.workspaceRoot.absolute then
    .error (.internal "sandbox workspace root must be absolute")
  else if pathsOverlap config.workspaceRoot LINUX_PRIVATE_HOME then
    .error (.internal "sandbox workspace overlaps private HOME")
  else
    let c := bubblewrapMounts host config
    let c := cmd.currentDir.elim c fun cwd => c.withArgs ["--chdir", cwd.render]
    .ok (bubblewrapEnv host cmd.env (c.withArgs (cmd.program :: cmd.args)))

def wrapWithSandbox (host : Host) (backend : SandboxBackend) (cmd : Command)
    (config : SandboxConfig) : Except HcrError Command :=
  match backend with
  | .linuxBubblewrap => wrapLinuxBubblewrap host cmd config
  | .unavailable => .error .sandboxUnavailable

/-! ### What is left of the process group -/

lemma processGroup_bindSystemPaths (host : Host) (c : Command) :
    (bindSystemPaths host c).processGroup = c.processGroup := by
  apply Command.processGroup_foldl
  intro c path
  split <;> rfl

lemma processGroup_bindCargo (host : Host) (hostCargo : String) (c : Command) :
    (bindCargo host hostCargo c).processGroup = c.processGroup := by
  apply Command.processGroup_foldl
  intro c sub
  split <;> rfl

lemma processGroup_appendParentDirs (c : Command) (path : HostPath) :
    (appendParentDirs c path).processGroup = c.processGroup := by
  apply Command.processGroup_foldl
  intro c parts
  rfl

lemma processGroup_bubblewrapMounts (host : Host) (config : SandboxConfig) :
    (bubblewrapMounts host config).processGroup = none := by
  unfold bubblewrapMounts
  dsimp only
  split <;> split <;> split <;>
    simp only [Command.processGroup_withArgs, processGroup_bindCargo, processGroup_appendParentDirs,
      processGroup_bindSystemPaths]

lemma processGroup_bubblewrapEnv (host : Host) (env : List (String × String)) (c : Command) :
    (bubblewrapEnv host env c).processGroup = c.processGroup := by
  have henv : (env.foldl (fun c kv => c.withEnv kv.1 kv.2) c).processGroup = c.processGroup := by
    apply Command.processGroup_foldl
    intro c kv
    rfl
  unfold bubblewrapEnv
  dsimp only
  split <;> split <;> simp only [Command.processGroup_withEnv, henv]

lemma processGroup_wrapWithSandbox (h : wrapWithSandbox host backend cmd config = .ok c) :
    c.processGroup = none := by
  cases backend with
  | unavailable => cases h
  | linuxBubblewrap =>
    simp only [wrapWithSandbox, wrapLinuxBubblewrap] at h
    split at h
    · cases h
    · split at h
      · cases h
      · cases h
        rw [processGroup_bubblewrapEnv, Command.processGroup_withArgs]
        cases cmd.currentDir with
        | none | some cwd => exact processGroup_bubblewrapMounts host config

end AgentCore.CodingHarness
