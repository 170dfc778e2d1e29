import LauncherSdk.ShellLex
/-!
# ShellParse — simple commands, subshells and redirections (XCU §2.7, §2.9, §2.10)

The part of the `sh` grammar a launch command uses: a simple command (words and redirections), or one wrapped in a
subshell with redirections after it.  Anything else — another command, an unknown operator, a reserved word or an
assignment where the command name stands, a word the shell would expand — is outside the fragment and parses to
`none`, so a text that parses says exactly what is written here.  The reserved words include those whose use §2.4
leaves unspecified (`isReservedWord`).  `Command.fdTarget` is where each descriptor of the command ends up once its
redirections are applied in order (§2.7).
-/
namespace Launcher
namespace Shell

/-- The reserved words of §2.4 (the second and third are the braces). -/
def reservedWords : List String :=
  ["!", "\x7b", "\x7d", "case", "do", "done", "elif", "else", "esac", "fi", "for", "if", "in", "then", "until", "while"]

/-- The words §2.4 says some implementations recognise as reserved words, with unspecified results (the 2017 text
lists the first four; the 2024 text adds `namespace` and `time`). -/
def unspecifiedWords : List String := ["[[", "]]", "function", "select", "namespace", "time"]

/-- A name (XBD, Definitions): letters, digits and underscores of the portable character set, not starting with a
digit. -/
def isName (cs : List Char) : Bool :=
  !cs.isEmpty && cs.all (fun c => c.isAlphanum || c == '_') && !cs.head?.any Char.isDigit

/-- A word §2.4 reserves where a command name stands: a reserved word, a word some implementations reserve, or a
name followed by a colon (the last two with unspecified results). -/
def isReservedWord (s : String) : Bool :=
  reservedWords.contains s || unspecifiedWords.contains s ||
    match s.data.reverse with
    | ':' :: name => isName name.reverse
    | _ => false

example : isReservedWord "select" = true ∧ isReservedWord "]]" = true ∧ isReservedWord "run:" = true ∧
    isReservedWord "ls" = false ∧ isReservedWord "a:b" = false := by decide

/-- A word's text after quote removal (§2.6.7). -/
def wordText (ps : List Piece) : String := ⟨ps.map (·.c)⟩

/-- A word the shell would expand further: an unquoted `*`, `?` or `[` (§2.13) or a leading unquoted `~` (§2.6.1). -/
def expands (ps : List Piece) : Bool :=
  ps.any (fun p => !p.quoted && p.c ∈ ['*', '?', '[']) || ps.head?.any (fun p => !p.quoted && p.c == '~')

/-- A reserved word where a command name stands (§2.10.2 rule 1): none of its characters quoted. -/
def isReserved (ps : List Piece) : Bool := ps.all (!·.quoted) && isReservedWord (wordText ps)

/-- An assignment (§2.10.2 rule 7): an unquoted `=` after a name. -/
def isAssignment (ps : List Piece) : Bool :=
  match ps.span (fun p => !(p.c == '=' && !p.quoted)) with
  | (name, _ :: _) => name.all (!·.quoted) && isName (name.map (·.c))
  | _ => false

/-- A redirection (§2.7): `n>path`, `n>>path`, `n<path`, and `n>&m` or `n<&m`. -/
inductive Redirect where
  | toFile (fd : Nat) (path : String) (append : Bool)
  | fromFile (fd : Nat) (path : String)
  | dup (fd : Nat) (src : Nat)
  deriving DecidableEq, Repr

/-- A word of digits, as a descriptor. -/
def digitsValue (ps : List Piece) : Option Nat :=
  if !ps.isEmpty && ps.all (·.c.isDigit) then some (ps.foldl (fun n p => 10 * n + (p.c.toNat - 48)) 0) else none

/-- The redirection an operator makes, with its descriptor when none is written, applied to its word. -/
def redirect (o : List Char) (fd : Option Nat) (w : List Piece) : Option Redirect :=
  if expands w then none else
  match o with
  | ['>'] => some (.toFile (fd.getD 1) (wordText w) false)
  | ['>', '>'] => some (.toFile (fd.getD 1) (wordText w) true)
  | ['<'] => some (.fromFile (fd.getD 0) (wordText w))
  | ['>', '&'] => (digitsValue w).map (.dup (fd.getD 1))
  | ['<', '&'] => (digitsValue w).map (.dup (fd.getD 0))
  | _ => none

def isRedirectOp (o : List Char) : Bool := o ∈ [['>'], ['>', '>'], ['<'], ['>', '&'], ['<', '&']]

/-- The words and redirections of a simple command, up to the first token that is neither. -/
def parseElements : List Token → Option (List (List Piece) × List Redirect × List Token)
  | .word ps :: ts => (parseElements ts).map fun (ws, rs, rest) => (ps :: ws, rs, rest)
  | .ioNumber n :: .op o :: .word w :: ts => do
    let r ← redirect o (some n) w
    let (ws, rs, rest) ← parseElements ts
    pure (ws, r :: rs, rest)
  | .ioNumber _ :: _ => none
  | .op o :: .word w :: ts =>
    if isRedirectOp o then do
      let r ← redirect o none w
      let (ws, rs, rest) ← parseElements ts
      pure (ws, r :: rs, rest)
    else some ([], [], .op o :: .word w :: ts)
  | ts => some ([], [], ts)

structure SimpleCommand where
  words : List String
  redirects : List Redirect
  deriving DecidableEq, Repr

inductive Command where
  | simple (c : SimpleCommand)
  | subshell (c : SimpleCommand) (redirects : List Redirect)
  deriving DecidableEq, Repr

/-- A simple command of the fragment: a command name that is no reserved word and no assignment, and no word the
shell would expand. -/
def simpleCommand (ws : List (List Piece)) (rs : List Redirect) : Option SimpleCommand :=
  match ws with
  | [] => none
  | w :: _ => if isReserved w || isAssignment w || ws.any expands then none else some ⟨ws.map wordText, rs⟩

/-- A simple command and nothing after it. -/
def parseSimple (ts : List Token) : Option Command := do
  let (ws, rs, []) ← parseElements ts | none
  .simple <$> simpleCommand ws rs

/-- A program of the fragment: one simple command, or one in a subshell followed by redirections. -/
def parseProgram : List Token → Option Command
  | .op ['('] :: ts => do
    let (ws, rs, rest) ← parseElements ts
    let c ← simpleCommand ws rs
    match rest with
    | .op [')'] :: rest => do
      let ([], rs', []) ← parseElements rest | none
      pure (.subshell c rs')
    | _ => none
  | ts => parseSimple ts

/-! ## Where the descriptors go -/

/-- Where a descriptor of a command points. -/
inductive Target where
  | inherited (fd : Nat)
  | file (path : String) (append : Bool)
  | readFile (path : String)
  deriving DecidableEq, Repr

/-- One redirection, applied to the descriptors set up before it. -/
def Redirect.apply (env : Nat → Target) : Redirect → Nat → Target
  | .toFile fd p a => fun n => if n = fd then .file p a else env n
  | .fromFile fd p => fun n => if n = fd then .readFile p else env n
  | .dup fd src => fun n => if n = fd then env src else env n

/-- Where each descriptor of the command points: a subshell's redirections first, then the inner command's. -/
def Command.fdTarget : Command → Nat → Target
  | .simple c => c.redirects.foldl Redirect.apply .inherited
  | .subshell c rs => c.redirects.foldl Redirect.apply (rs.foldl Redirect.apply .inherited)

/-- The command's words. -/
def Command.words : Command → List String
  | .simple c => c.words
  | .subshell c _ => c.words

end Shell
end Launcher
