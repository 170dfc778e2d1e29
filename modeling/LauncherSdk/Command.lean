import LauncherSdk.Impl
import LauncherSdk.Quoting
import LauncherSdk.ShellParse
/-!
# Command — what `/bin/sh -c` makes of the launch command (Process.cpp, `createSandboxArguments`)

The command text reaches the shell through `execv` as a C string (`cString`).  For a command name that is a plain
word and not a word §2.4 reserves (`isReservedWord`: the reserved words, those some implementations reserve, and a
name followed by a colon), and arguments and paths without NUL, the shell reads it as exactly one simple command —
in a subshell exactly when `IsShellCommand` is set and a redirect is asked for — whose words are the executable and
the arguments, with standard output and standard error sent to the absolute paths of the redirect files
(`shellCommand_parse`).  No argument or path can add a word, an operator, an expansion or a command: every one of them
is a single quoted word (`feed_escape`).  A plain command name that is a reserved word is not a command name at all
(`reservedExecutable_parse`).
-/
namespace Launcher
namespace Process

open Shell

/-- `CStringList::setData` copies each string and ends it with a NUL; the program it reaches reads up to the first
NUL. -/
def cString (s : String) : List Char := s.data.takeWhile (· != '\x00')

/-- A plain shell word: not empty, and every character one the shell reads as itself. -/
def isPlainWord (s : String) : Bool := !s.data.isEmpty && s.data.all isPlainChar

/-- The tokens of the executable and its arguments. -/
def coreTokens (o : ProcessOptions) : List Token :=
  .word (unquoted o.Executable.data) :: o.Arguments.map fun a => .word (quotedPieces a.data)

/-- The tokens of a launch command. -/
def commandTokens (abs : FilePath → String) (o : ProcessOptions) : List Token :=
  (if o.IsShellCommand && (redirectStdout o || redirectStderr o) then .op ['('] :: coreTokens o ++ [.op [')']]
   else coreTokens o) ++
  (if redirectStdout o then [.op ['>'], .word (quotedPieces (abs o.StandardOutputFile).data)] else []) ++
  (if redirectToSame o then [.ioNumber 2, .op ['>', '&'], .word [⟨'1', false⟩]]
   else if redirectStderr o then [.ioNumber 2, .op ['>'], .word (quotedPieces (abs o.StandardErrorFile).data)]
   else [])

/-- The redirects the spec describes: standard output by `>` to the output file's absolute path when there is one,
standard error to the error file's (by `2>&1` when the two files are the same). -/
def specRedirects (abs : FilePath → String) (o : ProcessOptions) : List Redirect :=
  (if redirectStdout o then [.toFile 1 (abs o.StandardOutputFile) false] else []) ++
  (if redirectToSame o then [.dup 2 1] else if redirectStderr o then [.toFile 2 (abs o.StandardErrorFile) false]
   else [])

/-- The command the spec describes: the executable and its arguments as words, in a subshell when it is a shell
command with a redirect. -/
def specCommand (abs : FilePath → String) (o : ProcessOptions) : Command :=
  if o.IsShellCommand && (redirectStdout o || redirectStderr o) then
    .subshell ⟨o.Executable :: o.Arguments, []⟩ (specRedirects abs o)
  else .simple ⟨o.Executable :: o.Arguments, specRedirects abs o⟩

/-! ## The text, piece by piece -/

theorem foldl_escape_data : ∀ (args : List String) (cmd : String),
    (args.foldl (fun cmd arg => cmd ++ " " ++ escape arg) cmd).data =
      cmd.data ++ args.flatMap fun a => ' ' :: (escape a).data
  | [], cmd => by simp
  | a :: args, cmd => by rw [List.foldl_cons, foldl_escape_data args]; simp

theorem shellCommand_data (abs : FilePath → String) (o : ProcessOptions) :
    (shellCommand abs o).data =
      (if o.IsShellCommand && (redirectStdout o || redirectStderr o) then
        '(' :: (o.Executable.data ++ o.Arguments.flatMap fun a => ' ' :: (escape a).data) ++ [')']
       else o.Executable.data ++ o.Arguments.flatMap fun a => ' ' :: (escape a).data) ++
      (if redirectStdout o then ' ' :: '>' :: ' ' :: (escape (abs o.StandardOutputFile)).data else []) ++
      (if redirectToSame o then [' ', '2', '>', '&', '1']
       else if redirectStderr o then ' ' :: '2' :: '>' :: ' ' :: (escape (abs o.StandardErrorFile)).data else []) := by
  simp only [shellCommand]
  split_ifs <;> simp [foldl_escape_data]

/-! ## The tokens -/

theorem isPlainWord_cons {s : String} (h : isPlainWord s = true) :
    ∃ c cs, s.data = c :: cs ∧ ∀ d ∈ c :: cs, isPlainChar d = true := by
  simp only [isPlainWord, Bool.and_eq_true, Bool.not_eq_true', List.isEmpty_eq_false, List.all_eq_true] at h
  obtain ⟨hne, hall⟩ := h
  obtain ⟨c, cs, hcs⟩ := List.exists_cons_of_ne_nil hne
  exact ⟨c, cs, hcs, hcs ▸ hall⟩

/-- The executable and its arguments, read from a state where the executable starts a word. -/
theorem feed_core (o : ProcessOptions) (st : Lexer) (T : List Token)
    (h : st.feed o.Executable.data = held T (.word (unquoted o.Executable.data))) :
    ∃ T' ps,
      st.feed (o.Executable.data ++ o.Arguments.flatMap fun a => ' ' :: (escape a).data) = held T' (.word ps) ∧
      .word ps :: T' = (coreTokens o).reverse ++ T := by
  obtain ⟨T', t', h1, h2, h3⟩ := feed_arguments o.Arguments T (.word (unquoted o.Executable.data))
  obtain ⟨ps, rfl⟩ := h3 ⟨_, rfl⟩
  exact ⟨T', ps, by rw [feed_append, h, h1], by simp [h2, coreTokens]⟩

/-- The command itself, in its subshell or not. -/
theorem feed_head (o : ProcessOptions) (hE : isPlainWord o.Executable = true) :
    ∃ T t, (Lexer.idle []).feed (if o.IsShellCommand && (redirectStdout o || redirectStderr o) then
        '(' :: (o.Executable.data ++ o.Arguments.flatMap fun a => ' ' :: (escape a).data) ++ [')']
       else o.Executable.data ++ o.Arguments.flatMap fun a => ' ' :: (escape a).data) = held T t ∧
      t :: T = (if o.IsShellCommand && (redirectStdout o || redirectStderr o) then
        .op ['('] :: coreTokens o ++ [.op [')']] else coreTokens o).reverse := by
  obtain ⟨c, cs, hcs, hplain⟩ := isPlainWord_cons hE
  split
  · obtain ⟨T', ps, h1, h2⟩ := feed_core o (held [] (.op ['('])) [.op ['(']]
      (by rw [hcs]; exact feed_open_plainWord [] c cs hplain)
    refine ⟨.word ps :: T', .op [')'], ?_, by rw [h2]; simp⟩
    rw [feed_append, feed_cons (Lexer.idle []), show (Lexer.idle []).step '(' = held [] (.op ['(']) from rfl, h1]
    exact held_step_close T' ps
  · obtain ⟨T', ps, h1, h2⟩ := feed_core o (Lexer.idle []) [] (by rw [hcs]; exact feed_plainWord [] c cs hplain)
    exact ⟨T', .word ps, h1, by simpa using h2⟩

theorem feed_stdout (abs : FilePath → String) (o : ProcessOptions) (T : List Token) (t : Token) :
    ∃ T' t', (held T t).feed (if redirectStdout o then ' ' :: '>' :: ' ' :: (escape (abs o.StandardOutputFile)).data
      else []) = held T' t' ∧
      t' :: T' = (if redirectStdout o then [.op ['>'], .word (quotedPieces (abs o.StandardOutputFile).data)]
        else []).reverse ++ t :: T := by
  split
  · refine ⟨.op ['>'] :: t :: T, .word (quotedPieces (abs o.StandardOutputFile).data), ?_, rfl⟩
    rw [feed_cons, held_step_blank, show '>' :: ' ' :: (escape (abs o.StandardOutputFile)).data =
      ['>', ' '] ++ (escape (abs o.StandardOutputFile)).data from rfl, feed_append, idle_feed_output, feed_escape]
  · exact ⟨T, t, rfl, rfl⟩

theorem feed_stderr (abs : FilePath → String) (o : ProcessOptions) (T : List Token) (t : Token) :
    ∃ T' t', (held T t).feed (if redirectToSame o then [' ', '2', '>', '&', '1']
       else if redirectStderr o then ' ' :: '2' :: '>' :: ' ' :: (escape (abs o.StandardErrorFile)).data
       else []) = held T' t' ∧
      t' :: T' = (if redirectToSame o then [.ioNumber 2, .op ['>', '&'], .word [⟨'1', false⟩]]
        else if redirectStderr o then [.ioNumber 2, .op ['>'], .word (quotedPieces (abs o.StandardErrorFile).data)]
        else []).reverse ++ t :: T := by
  split
  · exact ⟨.op ['>', '&'] :: .ioNumber 2 :: t :: T, .word [⟨'1', false⟩],
      by rw [feed_cons, held_step_blank, idle_feed_dup], rfl⟩
  · split
    · refine ⟨.op ['>'] :: .ioNumber 2 :: t :: T, .word (quotedPieces (abs o.StandardErrorFile).data), ?_, rfl⟩
      rw [feed_cons, held_step_blank, show '2' :: '>' :: ' ' :: (escape (abs o.StandardErrorFile)).data =
        ['2', '>', ' '] ++ (escape (abs o.StandardErrorFile)).data from rfl, feed_append, idle_feed_error,
        feed_escape]
    · exact ⟨T, t, rfl, rfl⟩

/-- **The launch command's tokens**: for a plain command name, the executable, one word per argument, the subshell's
brackets and the redirections, and nothing else. -/
theorem lex_shellCommand (abs : FilePath → String) (o : ProcessOptions) (hE : isPlainWord o.Executable = true) :
    lex (shellCommand abs o).data = some (commandTokens abs o) := by
  obtain ⟨T₁, t₁, h₁, e₁⟩ := feed_head o hE
  obtain ⟨T₂, t₂, h₂, e₂⟩ := feed_stdout abs o T₁ t₁
  obtain ⟨T₃, t₃, h₃, e₃⟩ := feed_stderr abs o T₂ t₂
  rw [shellCommand_data, lex_of_feed (by rw [feed_append, feed_append, h₁, h₂, h₃]), e₃, e₂, e₁]
  simp [commandTokens]

/-! ## The parse -/

theorem parseElements_words : ∀ (ws : List (List Piece)) (ts : List Token),
    parseElements (ws.map .word ++ ts) = (parseElements ts).map fun (ws', rs, rest) => (ws ++ ws', rs, rest)
  | [], ts => by simp
  | w :: ws, ts => by simp [parseElements, parseElements_words ws ts, Option.map_map, Function.comp_def]

theorem expands_quotedPieces (cs : List Char) : expands (quotedPieces cs) = false := by
  cases cs <;> simp [expands, quotedPieces]

theorem wordText_quotedPieces (s : String) : wordText (quotedPieces s.data) = s := by
  cases s; simp [wordText, quotedPieces, Function.comp_def]

theorem wordText_unquoted (s : String) : wordText (unquoted s.data) = s := by
  cases s; simp [wordText, unquoted, Function.comp_def]

theorem parseElements_redirects (abs : FilePath → String) (o : ProcessOptions) :
    parseElements ((if redirectStdout o then [.op ['>'], .word (quotedPieces (abs o.StandardOutputFile).data)]
        else []) ++
      (if redirectToSame o then [.ioNumber 2, .op ['>', '&'], .word [⟨'1', false⟩]]
       else if redirectStderr o then [.ioNumber 2, .op ['>'], .word (quotedPieces (abs o.StandardErrorFile).data)]
       else [])) = some ([], specRedirects abs o, []) := by
  unfold specRedirects
  have h1 : expands [⟨'1', false⟩] = false := rfl
  split_ifs <;> simp [parseElements, redirect, isRedirectOp, expands_quotedPieces, wordText_quotedPieces, digitsValue,
    h1]

/-- A plain command name that is no word §2.4 reserves heads a simple command of the fragment. -/
theorem simpleCommand_core (o : ProcessOptions) (hE : isPlainWord o.Executable = true)
    (hR : isReservedWord o.Executable = false) (rs : List Redirect) :
    simpleCommand (unquoted o.Executable.data :: o.Arguments.map fun a => quotedPieces a.data) rs =
      some ⟨o.Executable :: o.Arguments, rs⟩ := by
  obtain ⟨c, cs, hcs, hplain⟩ := isPlainWord_cons hE
  have hnot : ∀ d ∈ c :: cs, d ≠ '=' ∧ d ≠ '*' ∧ d ≠ '?' ∧ d ≠ '[' ∧ d ≠ '~' := fun d hd => by
    simpa using not_mem_of_isPlainChar (l := ['=', '*', '?', '[', '~']) (hplain d hd) (by decide)
  have hres : isReserved (unquoted o.Executable.data) = false := by
    simp only [isReserved, wordText_unquoted]; simp [hR]
  have hasg : isAssignment (unquoted o.Executable.data) = false := by
    have : (unquoted o.Executable.data).dropWhile (fun p => !(p.c == '=' && !p.quoted)) = [] :=
      List.dropWhile_eq_nil_iff.2 fun p hp => by
        obtain ⟨d, hd, rfl⟩ := List.mem_map.1 hp
        simp [(hnot d (hcs ▸ hd)).1]
    unfold isAssignment; rw [List.span_eq_take_drop, this]
  have hexp : expands (unquoted o.Executable.data) = false := by
    simp only [expands, Bool.or_eq_false_iff, List.any_eq_false]
    refine ⟨fun p hp => ?_, ?_⟩
    · obtain ⟨d, hd, rfl⟩ := List.mem_map.1 hp
      obtain ⟨-, h1, h2, h3, -⟩ := hnot d (hcs ▸ hd)
      simp [h1, h2, h3]
    · simp [unquoted, hcs, (hnot c (List.mem_cons_self _ _)).2.2.2.2]
  have hargs : (o.Arguments.map fun a => quotedPieces a.data).any expands = false :=
    List.any_eq_false.2 fun p hp => by obtain ⟨a, -, rfl⟩ := List.mem_map.1 hp; simp [expands_quotedPieces]
  have hwords : (unquoted o.Executable.data :: o.Arguments.map fun a => quotedPieces a.data).map wordText =
      o.Executable :: o.Arguments := by
    simp [wordText_unquoted, Function.comp_def, wordText_quotedPieces]
  simp [simpleCommand, hres, hasg, hexp, hargs, hwords]

theorem coreTokens_eq (o : ProcessOptions) :
    coreTokens o = (unquoted o.Executable.data :: o.Arguments.map fun a => quotedPieces a.data).map .word := by
  simp [coreTokens, Function.comp_def]

theorem parseElements_close (ts : List Token) : parseElements (.op [')'] :: ts) = some ([], [], .op [')'] :: ts) := by
  rcases ts with _ | ⟨_ | _ | _, _⟩ <;> simp [parseElements, isRedirectOp]

theorem parseProgram_word (ps : List Piece) (ts : List Token) :
    parseProgram (.word ps :: ts) = parseSimple (.word ps :: ts) := rfl

/-- **The launch command's parse**: its tokens form the command the spec describes. -/
theorem parseProgram_commandTokens (abs : FilePath → String) (o : ProcessOptions)
    (hE : isPlainWord o.Executable = true) (hR : isReservedWord o.Executable = false) :
    parseProgram (commandTokens abs o) = some (specCommand abs o) := by
  have hrs := parseElements_redirects abs o
  unfold commandTokens specCommand
  rw [coreTokens_eq, List.append_assoc]
  generalize (if redirectStdout o then [.op ['>'], .word (quotedPieces (abs o.StandardOutputFile).data)] else []) ++
    (if redirectToSame o then [.ioNumber 2, .op ['>', '&'], .word [⟨'1', false⟩]]
     else if redirectStderr o then [.ioNumber 2, .op ['>'], .word (quotedPieces (abs o.StandardErrorFile).data)]
     else [] : List Token) = R at hrs ⊢
  split
  · simp only [List.cons_append, List.append_assoc, parseProgram, parseElements_words, List.singleton_append,
      parseElements_close, Option.map_some', List.append_nil, Option.bind_eq_bind, Option.some_bind,
      simpleCommand_core o hE hR, List.nil_append, hrs]
    rfl
  · rw [List.map_cons, List.cons_append, parseProgram_word, ← List.cons_append, ← List.map_cons, parseSimple,
      parseElements_words, hrs]
    simp [simpleCommand_core o hE hR]

/-! ## Through `execv`, and where the output goes -/

theorem nul_not_mem_escape {a : String} (h : '\x00' ∉ a.data) : '\x00' ∉ (escape a).data := by
  rw [escape_data]
  simp only [List.cons_append, List.mem_cons, List.mem_append, List.mem_flatMap, List.mem_singleton, not_or]
  refine ⟨by decide, ?_, by decide⟩
  rintro ⟨c, hc, hq⟩
  unfold quoteChar at hq
  split at hq
  · simp at hq
  · exact h (List.mem_singleton.1 hq ▸ hc)

theorem nul_not_mem_shellCommand (abs : FilePath → String) (o : ProcessOptions) (hE : isPlainWord o.Executable = true)
    (hA : ∀ a ∈ o.Arguments, '\x00' ∉ a.data) (hO : '\x00' ∉ (abs o.StandardOutputFile).data)
    (hEr : '\x00' ∉ (abs o.StandardErrorFile).data) : '\x00' ∉ (shellCommand abs o).data := by
  obtain ⟨c, cs, hcs, hplain⟩ := isPlainWord_cons hE
  have hx : '\x00' ∉ o.Executable.data := fun hm => by
    have := hplain _ (hcs ▸ hm); exact absurd this (by decide)
  have hargs : '\x00' ∉ o.Arguments.flatMap fun a => ' ' :: (escape a).data := by
    simp only [List.mem_flatMap, List.mem_cons, not_exists, not_and, not_or]
    exact fun a ha => ⟨by decide, nul_not_mem_escape (hA a ha)⟩
  have hO' := nul_not_mem_escape hO
  have hEr' := nul_not_mem_escape hEr
  rw [shellCommand_data]
  split_ifs <;> simp [hx, hargs, hO', hEr']

theorem cString_shellCommand (abs : FilePath → String) (o : ProcessOptions) (hE : isPlainWord o.Executable = true)
    (hA : ∀ a ∈ o.Arguments, '\x00' ∉ a.data) (hO : '\x00' ∉ (abs o.StandardOutputFile).data)
    (hEr : '\x00' ∉ (abs o.StandardErrorFile).data) : cString (shellCommand abs o) = (shellCommand abs o).data :=
  List.takeWhile_eq_self_iff.2 fun x hx => by
    have := nul_not_mem_shellCommand abs o hE hA hO hEr
    simpa using fun (e : x = '\x00') => this (e ▸ hx)

theorem specCommand_fdTarget (abs : FilePath → String) (o : ProcessOptions) :
    (specCommand abs o).fdTarget = (specRedirects abs o).foldl Redirect.apply .inherited := by
  unfold specCommand; split <;> rfl

theorem specRedirects_stdout (abs : FilePath → String) (o : ProcessOptions) :
    (specRedirects abs o).foldl Redirect.apply .inherited 1 =
      if o.StandardOutputFile.isEmpty then .inherited 1 else .file (abs o.StandardOutputFile) false := by
  unfold specRedirects redirectToSame redirectStdout redirectStderr
  cases o.StandardOutputFile.isEmpty <;> cases o.StandardErrorFile.isEmpty <;> simp [Redirect.apply]
  split <;> simp [Redirect.apply]

theorem specRedirects_stderr (abs : FilePath → String) (o : ProcessOptions) :
    (specRedirects abs o).foldl Redirect.apply .inherited 2 =
      if o.StandardErrorFile.isEmpty then .inherited 2 else .file (abs o.StandardErrorFile) false := by
  unfold specRedirects redirectToSame redirectStdout redirectStderr
  by_cases he : o.StandardOutputFile = o.StandardErrorFile
  · rw [he]; cases o.StandardErrorFile.isEmpty <;> simp [Redirect.apply]
  · have : (o.StandardOutputFile == o.StandardErrorFile) = false := by simpa using he
    cases o.StandardOutputFile.isEmpty <;> cases o.StandardErrorFile.isEmpty <;> simp [Redirect.apply, this]

/-- **The launch command is one command, and no argument or path adds to it** (Process.cpp, `escape`,
`createSandboxArguments`): for a command name that is a plain word and no word §2.4 reserves, and arguments and
redirect paths without NUL, `/bin/sh -c` reads the command text as exactly the command the spec describes — the executable and
then each argument as one word equal to it, in one subshell exactly when `IsShellCommand` is set and a redirect is
asked for — with standard output at the output file's absolute path when it is given and standard error at the error
file's when it is given. -/
theorem shellCommand_parse (abs : FilePath → String) (o : ProcessOptions) (hE : isPlainWord o.Executable = true)
    (hR : isReservedWord o.Executable = false) (hA : ∀ a ∈ o.Arguments, '\x00' ∉ a.data)
    (hO : '\x00' ∉ (abs o.StandardOutputFile).data) (hEr : '\x00' ∉ (abs o.StandardErrorFile).data) :
    (lex (cString (shellCommand abs o))).bind parseProgram = some (specCommand abs o) ∧
      (specCommand abs o).words = o.Executable :: o.Arguments ∧
      (specCommand abs o).fdTarget 1 =
        (if o.StandardOutputFile.isEmpty then .inherited 1 else .file (abs o.StandardOutputFile) false) ∧
      (specCommand abs o).fdTarget 2 =
        (if o.StandardErrorFile.isEmpty then .inherited 2 else .file (abs o.StandardErrorFile) false) := by
  refine ⟨?_, by unfold specCommand; split <;> rfl, ?_, ?_⟩
  · rw [cString_shellCommand abs o hE hA hO hEr, lex_shellCommand abs o hE, Option.some_bind,
      parseProgram_commandTokens abs o hE hR]
  · rw [specCommand_fdTarget, specRedirects_stdout]
  · rw [specCommand_fdTarget, specRedirects_stderr]

/-- `(ls -l it's '') > /tmp/out 2>&1`: a shell command, an argument with a quote, an empty one, both outputs in one
file. -/
theorem shellCommand_parse_ls :
    let o : ProcessOptions :=
      { Environment := [], Password := "", Executable := "ls", Arguments := ["-l", "it's", ""]
        WorkingDirectory := ⟨""⟩, RunAsUser := ⟨true, false, "*"⟩, PamProfile := "", StandardInput := ""
        StandardOutputFile := ⟨"/tmp/out"⟩, StandardErrorFile := ⟨"/tmp/out"⟩, Mounts := [], IsShellCommand := true }
    isPlainWord o.Executable = true ∧ isReservedWord o.Executable = false ∧
      (lex (cString (shellCommand FilePath.path o))).bind parseProgram = some (specCommand FilePath.path o) :=
  ⟨by decide, by decide, (shellCommand_parse FilePath.path _ (by decide) (by decide) (by decide) (by decide)
    (by decide)).1⟩

/-- `if`, a plain word, as the command name: the shell reads it as the reserved word, so the text is no simple
command. -/
theorem reservedExecutable_parse :
    let o : ProcessOptions :=
      { Environment := [], Password := "", Executable := "if", Arguments := []
        WorkingDirectory := ⟨""⟩, RunAsUser := ⟨true, false, "*"⟩, PamProfile := "", StandardInput := ""
        StandardOutputFile := ⟨""⟩, StandardErrorFile := ⟨""⟩, Mounts := [], IsShellCommand := false }
    isPlainWord o.Executable = true ∧ lex (cString (shellCommand FilePath.path o)) = some [.word (unquoted "if".data)] ∧
      isReserved (unquoted "if".data) = true ∧ (lex (cString (shellCommand FilePath.path o))).bind parseProgram = none :=
  by decide

end Process
end Launcher
