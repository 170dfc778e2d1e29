import LauncherSdk.Options
/-!
# Json — the launch profile's text (Process.cpp, `createLaunchProfile`)

`createLaunchProfile` builds a `json::Object` and writes it with `Object::write`.  The JSON library is not under src/;
its writer is modelled from what the spec and the redaction in `logProcessSpawn` rely on: compact output, members in
insertion order, and string values with every `"` and `\` escaped (rapidjson's escape table, control characters
included).
-/
namespace Launcher
namespace Process

/-- Modelled from the spec: `json::Value` (json/Json.hpp, not under src/), the kinds of value the launch profile holds. -/
inductive Json where
  | str (s : String)
  | num (n : Int)
  | arr (xs : List Json)
  | obj (members : List (String × Json))
  deriving Repr

/-- An upper-case hexadecimal digit, as rapidjson writes `\u00XX`. -/
def hexDigit (n : Nat) : Char := if n < 10 then Char.ofNat (48 + n) else Char.ofNat (55 + n)

/-- Modelled from the spec: the JSON writer's escape of one character of a string value. -/
def escapeJsonChar (c : Char) : List Char :=
  if c = '"' then ['\\', '"']
  else if c = '\\' then ['\\', '\\']
  else if c.toNat < 32 then
    match c.toNat with
    | 8 => ['\\', 'b']
    | 9 => ['\\', 't']
    | 10 => ['\\', 'n']
    | 12 => ['\\', 'f']
    | 13 => ['\\', 'r']
    | n => ['\\', 'u', '0', '0', hexDigit (n / 16), hexDigit (n % 16)]
  else [c]

/-- Modelled from the spec: a string value as the writer emits it. -/
def writeString (s : String) : List Char := '"' :: s.data.flatMap escapeJsonChar ++ ['"']

mutual
/-- Modelled from the spec: `Value::write`, compact. -/
def Json.write : Json → List Char
  | .str s => writeString s
  | .num n => (toString n).data
  | .arr xs => '[' :: writeElements xs ++ [']']
  | .obj ms => '{' :: writeMembers ms ++ ['}']

def writeElements : List Json → List Char
  | [] => []
  | [x] => x.write
  | x :: xs => x.write ++ ',' :: writeElements xs

def writeMembers : List (String × Json) → List Char
  | [] => []
  | [(k, v)] => writeString k ++ ':' :: v.write
  | (k, v) :: ms => writeString k ++ ':' :: v.write ++ ',' :: writeMembers ms
end

/-- The user name `createLaunchProfile` writes into `context.username`. -/
def profileUsername (u : User) : String := if u.isAllUsers || u.isEmpty then "" else u.getUsername

/-- `createLaunchProfile`: the launch profile `rsandbox` reads on its standard input.  Each `obj[key] = value` of the
source adds a new key, so the members stand in the order they are set. -/
def createLaunchProfile (o : ProcessOptions) : String :=
  let contextObj : List (String × Json) :=
    [("username", .str (profileUsername o.RunAsUser)), ("project", .str ""), ("id", .str "")]
  let configObj : List (String × Json) :=
    [("args", .arr []), ("environment", .obj []), ("stdInput", .str o.StandardInput), ("stdStreamBehavior", .num 2),
     ("priority", .num 0), ("memoryLimitBytes", .num 0), ("stackLimitBytes", .num 0),
     ("userProcessesLimit", .num 0), ("cpuLimit", .num 0), ("niceLimit", .num 0), ("filesLimit", .num 0),
     ("cpuAffinity", .arr [])]
  let profileObj : List (String × Json) :=
    [("context", .obj contextObj), ("password", .str o.Password), ("executablePath", .str o.Executable),
     ("config", .obj configObj)]
  ⟨(Json.obj profileObj).write⟩

end Process
end Launcher
