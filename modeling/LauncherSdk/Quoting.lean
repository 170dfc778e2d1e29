import LauncherSdk.Options
import LauncherSdk.ShellLex
/-!
# Quoting — what the shell reads of `escape`'s text

`escape a` opens a single-quoted string, and for each `'` of `a` closes it, writes the quote inside double quotes and
opens another: the lexer reads `a`, character for character, as quoted pieces of the word being read
(`feed_escape`), whatever `a` holds.  The other pieces of a launch command — a plain command name, a blank, `(`, `)`,
` > `, ` 2>&1`, ` 2> ` — each move the lexer from one `held` state to the next (`held_step_blank` and the lemmas
after it).
-/
namespace Launcher
namespace Shell

open Process (escape quoteChar escape_data)

/-- The lexer in plain mode with one token pending: a word (its pieces held last first) or an operator. -/
def held (T : List Token) : Token → Lexer
  | .word ps => ⟨.plain, some ps.reverse, none, T⟩
  | .op o => ⟨.plain, none, some o, T⟩
  | .ioNumber n => Lexer.idle (.ioNumber n :: T)

theorem held_delimit (T : List Token) (t : Token) : ((held T t).delimit none).toks = t :: T := by
  cases t <;> simp [held, Lexer.delimit, Lexer.idle, wordToken]

theorem append_blank_not_operator (o : List Char) : o ++ [' '] ∉ operators := by
  intro h
  have hl : (o ++ [' ']).getLast? = some ' ' := by simp
  have : ∀ x ∈ operators, x.getLast? ≠ some ' ' := by decide
  exact this _ h hl

/-- A blank ends the pending token. -/
theorem held_step_blank (T : List Token) (t : Token) : (held T t).step ' ' = Lexer.idle (t :: T) := by
  cases t with
  | word ps => simp [held, Lexer.step, Lexer.plainChar, Lexer.delimit, Lexer.fresh, isBlank, isOperatorStart,
      wordToken, Lexer.idle]
  | op o => simp [held, Lexer.step, Lexer.plainChar, append_blank_not_operator, Lexer.delimit, Lexer.fresh, isBlank,
      isOperatorStart, Lexer.idle]
  | ioNumber n => rfl

/-! ## Plain words and quoted text -/

theorem feed_plain : ∀ (cs : List Char) (T : List Token) (ps : List Piece), (∀ c ∈ cs, isPlainChar c = true) →
    (held T (.word ps)).feed cs = held T (.word (ps ++ unquoted cs))
  | [], T, ps, _ => by simp [unquoted]
  | c :: cs, T, ps, h => by
    have hc := h c (List.mem_cons_self _ _)
    have : (held T (.word ps)).step c = held T (.word (ps ++ [⟨c, false⟩])) := by
      simp [held, Lexer.step, Lexer.plainChar, fresh_plain _ hc, Lexer.addChar]
    rw [feed_cons, this, feed_plain cs T _ (fun d hd => h d (List.mem_cons_of_mem _ hd))]
    simp [unquoted]

/-- A plain command name read from no pending token is one unquoted word. -/
theorem feed_plainWord (T : List Token) (c : Char) (cs : List Char) (h : ∀ d ∈ c :: cs, isPlainChar d = true) :
    (Lexer.idle T).feed (c :: cs) = held T (.word (unquoted (c :: cs))) := by
  have : (Lexer.idle T).step c = held T (.word [⟨c, false⟩]) := by
    simp [Lexer.idle, held, Lexer.step, Lexer.plainChar, fresh_plain _ (h c (List.mem_cons_self _ _)),
      Lexer.addChar]
  rw [feed_cons, this, feed_plain cs T _ (fun d hd => h d (List.mem_cons_of_mem _ hd))]
  rfl

/-- After `(`, a plain command name ends the operator and starts the word. -/
theorem feed_open_plainWord (T : List Token) (c : Char) (cs : List Char) (h : ∀ d ∈ c :: cs, isPlainChar d = true) :
    (held T (.op ['('])).feed (c :: cs) = held (.op ['('] :: T) (.word (unquoted (c :: cs))) := by
  have hop : ['(', c] ∉ operators := by simp [operators]
  have : (held T (.op ['('])).step c = Lexer.step (Lexer.idle (.op ['('] :: T)) c := by
    simp [held, Lexer.step, Lexer.plainChar, hop, Lexer.delimit, Lexer.idle]
  rw [feed_cons, this, ← feed_cons, feed_plainWord _ c cs h]

theorem feed_single_quoteChar : ∀ (cs : List Char) (T : List Token) (ps : List Piece),
    (⟨.single, some ps, none, T⟩ : Lexer).feed (cs.flatMap quoteChar) =
      ⟨.single, some ((quotedPieces cs).reverse ++ ps), none, T⟩
  | [], _, _ => by simp [quotedPieces]
  | c :: cs, T, ps => by
    have : (⟨.single, some ps, none, T⟩ : Lexer).feed (quoteChar c) =
        ⟨.single, some (⟨c, true⟩ :: ps), none, T⟩ := by
      unfold quoteChar
      split
      · subst c; rfl
      · simp [Lexer.step, Lexer.addChar, *]
    rw [List.flatMap_cons, feed_append, this, feed_single_quoteChar cs]
    simp [quotedPieces]

/-- **`escape`'s text is one quoted word**: from no pending token, the lexer reads `escape a` as a word whose pieces
are the characters of `a`, each quoted. -/
theorem feed_escape (T : List Token) (a : String) :
    (Lexer.idle T).feed (escape a).data = held T (.word (quotedPieces a.data)) := by
  have h1 : (Lexer.idle T).step '\'' = ⟨.single, some [], none, T⟩ := rfl
  rw [escape_data, feed_append, feed_cons (Lexer.idle T), h1, feed_single_quoteChar]
  simp [held, Lexer.step]

/-- A blank and an escaped argument: the pending token is delimited and the argument is pending. -/
theorem feed_blank_escape (T : List Token) (t : Token) (a : String) :
    (held T t).feed (' ' :: (escape a).data) = held (t :: T) (.word (quotedPieces a.data)) := by
  rw [feed_cons, held_step_blank, feed_escape]

/-- The escaped arguments, each after a blank. -/
theorem feed_arguments : ∀ (args : List String) (T : List Token) (t : Token),
    ∃ T' t', (held T t).feed (args.flatMap fun a => ' ' :: (escape a).data) = held T' t' ∧
      t' :: T' = (args.map fun a => Token.word (quotedPieces a.data)).reverse ++ t :: T ∧
      ((∃ ps, t = .word ps) → ∃ ps, t' = .word ps)
  | [], T, t => ⟨T, t, rfl, rfl, id⟩
  | a :: args, T, t => by
    obtain ⟨T', t', h1, h2, h3⟩ := feed_arguments args (t :: T) (.word (quotedPieces a.data))
    exact ⟨T', t', by rw [List.flatMap_cons, feed_append, feed_blank_escape, h1], by simp [h2],
      fun _ => h3 ⟨_, rfl⟩⟩

/-- `)` ends the pending word. -/
theorem held_step_close (T : List Token) (ps : List Piece) :
    (held T (.word ps)).step ')' = held (.word ps :: T) (.op [')']) := by
  simp [held, Lexer.step, Lexer.plainChar, Lexer.delimit, Lexer.fresh, isOperatorStart, wordToken]

theorem held_mode (T : List Token) (t : Token) : (held T t).mode = .plain := by cases t <;> rfl

/-- The tokens of a text the lexer leaves with one token pending. -/
theorem lex_of_feed {cs : List Char} {T : List Token} {t : Token} (h : (Lexer.idle []).feed cs = held T t) :
    lex cs = some (t :: T).reverse := by
  simp only [lex, h, held_mode, true_or, if_true, held_delimit]

/-! ## Redirections -/

theorem idle_feed_output (X : List Token) : (Lexer.idle X).feed ['>', ' '] = Lexer.idle (.op ['>'] :: X) := rfl

theorem idle_feed_dup (X : List Token) :
    (Lexer.idle X).feed ['2', '>', '&', '1'] =
      held (.op ['>', '&'] :: .ioNumber 2 :: X) (.word [⟨'1', false⟩]) := rfl

theorem idle_feed_error (X : List Token) :
    (Lexer.idle X).feed ['2', '>', ' '] = Lexer.idle (.op ['>'] :: .ioNumber 2 :: X) := rfl

end Shell
end Launcher
