import Mathlib.Data.List.Basic
/-!
# Options — `ProcessOptions` and the quoting helper (Process.cpp)

The value object a process is launched from, and the classes of the core library it holds (`FilePath`, `system::User`),
which are not under src/ and are modelled from what Process.cpp and the spec read of them.  `escape` is the quoting that
`createSandboxArguments` applies to every argument and redirect path: single quotes around the text, each single quote
in it replaced by `'"'"'` (`escape_data`).
-/
namespace Launcher
namespace Process

/-- Modelled from the spec: `FilePath` (core library, not under src/), by the path it was built from.  Two paths are
equal (`operator==`) when their texts are, and `isEmpty` when the text is. -/
structure FilePath where
  path : String
  deriving DecidableEq, Repr

def FilePath.isEmpty (p : FilePath) : Bool := p.path.isEmpty

/-- Modelled from the spec: `system::User` (core library, not under src/), by the three things Process.cpp asks of it
(§6: `isAllUsers()`, `isEmpty()`, and the name). -/
structure User where
  isAllUsers : Bool
  isEmpty : Bool
  getUsername : String
  deriving DecidableEq, Repr

/-- `api::HostMountSource`: the host side of a mount. -/
structure HostMountSource where
  Path : String
  deriving DecidableEq, Repr

/-- `api::Mount`, the fields `createSandboxArguments` reads. -/
structure Mount where
  HostSourcePath : Option HostMountSource
  DestinationPath : String
  IsReadOnly : Bool
  deriving DecidableEq, Repr

/-- `ProcessOptions`. -/
structure ProcessOptions where
  Environment : List (String × String)
  Password : String
  Executable : String
  Arguments : List String
  WorkingDirectory : FilePath
  RunAsUser : User
  PamProfile : String
  StandardInput : String
  StandardOutputFile : FilePath
  StandardErrorFile : FilePath
  Mounts : List Mount
  IsShellCommand : Bool
  deriving DecidableEq, Repr

/-- What the process reads of its host besides its options: the configured `rsandbox` path
(`Options::getRSandboxPath`), `FilePath::getAbsolutePath` (which resolves against the working directory), and the
inherited `PATH`. -/
structure Host where
  RSandboxPath : FilePath
  getAbsolutePath : FilePath → String
  PATH : String

/-- `boost::regex_replace(arg, boost::regex(pattern), fmt)` for a one-character pattern and a format with no `$` or
backslash: every occurrence of the character replaced by the format's text. -/
def regexReplace (arg : String) (pattern : Char) (fmt : String) : String :=
  ⟨arg.data.flatMap (fun c => if c = pattern then fmt.data else [c])⟩

/-- `escape(const std::string&)`. -/
def escape (arg : String) : String :=
  "'" ++ regexReplace arg '\'' "'\"'\"'" ++ "'"

/-- The text `escape` puts between its outer quotes for one character. -/
def quoteChar (c : Char) : List Char :=
  if c = '\'' then ['\'', '"', '\'', '"', '\''] else [c]

theorem escape_data (arg : String) : (escape arg).data = '\'' :: arg.data.flatMap quoteChar ++ ['\''] := by
  simp only [escape, regexReplace, String.data_append, quoteChar]
  rfl

end Process
end Launcher
