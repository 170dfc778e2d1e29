import Mathlib.Data.List.Basic
/-!
# ShellLex — POSIX `sh` token recognition (XCU §2.2, §2.3)

What `/bin/sh -c` does with its command text before it parses it: quoting (backslash, single and double quotes) and
token recognition (operators, blanks, newlines, comments, IO_NUMBER).  A character is read in one step of a
`Lexer`, so a text is read by a `foldl` and a concatenation by two (`feed_append`).  Expansions are left out: an
unquoted or double-quoted `$` or backquote sends the lexer to `unsupported`, and nothing is read past it, so any text
the lexer accepts has none.
-/
namespace Launcher
namespace Shell

/-- A character of a word after quote removal, and whether quoting made it literal. -/
structure Piece where
  c : Char
  quoted : Bool
  deriving DecidableEq, Repr

inductive Token where
  | word (ps : List Piece)
  | ioNumber (n : Nat)
  | op (s : List Char)
  deriving DecidableEq, Repr

/-- Where the lexer is in the quoting rules. -/
inductive Mode where
  | plain
  | backslash
  | single
  | double
  | doubleBackslash
  | comment
  | unsupported
  deriving DecidableEq, Repr

/-- The lexer: its mode, the word or the operator being read (never both), and the tokens delimited so far.  The word's
pieces and the tokens are held last first. -/
structure Lexer where
  mode : Mode
  word : Option (List Piece)
  oper : Option (List Char)
  toks : List Token
  deriving DecidableEq, Repr

/-- The operators of §2.10.1, the newline apart: `& | ; < > ( ) && || ;; << >> <& >& <> <<- >|`. -/
def operators : List (List Char) :=
  [['&'], ['|'], [';'], ['<'], ['>'], ['('], [')'], ['&', '&'], ['|', '|'], [';', ';'], ['<', '<'], ['>', '>'],
   ['<', '&'], ['>', '&'], ['<', '>'], ['<', '<', '-'], ['>', '|']]

/-- The characters that start an operator. -/
def isOperatorStart (c : Char) : Bool := c ∈ ['&', '|', ';', '<', '>', '(', ')']

def isBlank (c : Char) : Bool := c ∈ [' ', '\t']

/-- IO_NUMBER (§2.10.1 rule 2 of token recognition): a word of unquoted digits delimited by `<` or `>`. -/
def wordToken (ps : List Piece) (next : Option Char) : Token :=
  if (next == some '<' || next == some '>') && !ps.isEmpty && ps.all (fun p => !p.quoted && p.c.isDigit) then
    .ioNumber (ps.foldl (fun n p => 10 * n + (p.c.toNat - 48)) 0)
  else .word ps

/-- The token being read ends (rules 1, 3, 6, 7, 8); `next` is the character that ends it. -/
def Lexer.delimit (st : Lexer) (next : Option Char) : Lexer :=
  match st.oper, st.word with
  | some o, _ => { st with oper := none, toks := .op o :: st.toks }
  | none, some ps => { st with word := none, toks := wordToken ps.reverse next :: st.toks }
  | none, none => st

/-- The word being read, with one more character. -/
def Lexer.addChar (st : Lexer) (c : Char) (quoted : Bool) : Lexer :=
  { st with word := some (⟨c, quoted⟩ :: st.word.getD []) }

/-- An unquoted character when no operator is being read (rules 4 to 11). -/
def Lexer.fresh (st : Lexer) (c : Char) : Lexer :=
  if c = '\\' then { st with mode := .backslash }
  else if c = '\'' then { st with mode := .single, word := some (st.word.getD []) }
  else if c = '"' then { st with mode := .double, word := some (st.word.getD []) }
  else if c = '$' ∨ c = '`' then { st with mode := .unsupported }
  else if c = '\n' then let st' := st.delimit (some c); { st' with toks := .op ['\n'] :: st'.toks }
  else if isOperatorStart c then { st.delimit (some c) with oper := some [c] }
  else if isBlank c then st.delimit (some c)
  else if c = '#' ∧ st.word = none then { st with mode := .comment }
  else st.addChar c false

/-- An unquoted character: it extends the operator being read when it can (rule 2), else ends it (rule 3). -/
def Lexer.plainChar (st : Lexer) (c : Char) : Lexer :=
  match st.oper with
  | some o => if o ++ [c] ∈ operators then { st with oper := some (o ++ [c]) } else (st.delimit (some c)).fresh c
  | none => st.fresh c

/-- One character of the text. -/
def Lexer.step (st : Lexer) (c : Char) : Lexer :=
  match st.mode with
  | .plain => st.plainChar c
  | .backslash => if c = '\n' then { st with mode := .plain } else { st.addChar c true with mode := .plain }
  | .single => if c = '\'' then { st with mode := .plain } else st.addChar c true
  | .double =>
    if c = '"' then { st with mode := .plain }
    else if c = '\\' then { st with mode := .doubleBackslash }
    else if c = '$' ∨ c = '`' then { st with mode := .unsupported }
    else st.addChar c true
  | .doubleBackslash =>
    if c = '$' ∨ c = '`' ∨ c = '"' ∨ c = '\\' then { st.addChar c true with mode := .double }
    else if c = '\n' then { st with mode := .double }
    else { (st.addChar '\\' true).addChar c true with mode := .double }
  | .comment => if c = '\n' then ({ st with mode := .plain }).fresh c else st
  | .unsupported => st

def Lexer.idle (T : List Token) : Lexer := ⟨.plain, none, none, T⟩

def Lexer.feed (st : Lexer) (cs : List Char) : Lexer := cs.foldl Lexer.step st

/-- The tokens of a text: none when it ends inside quotes or after a backslash, or holds an expansion. -/
def lex (cs : List Char) : Option (List Token) :=
  let st := (Lexer.idle []).feed cs
  if st.mode = .plain ∨ st.mode = .comment then some (st.delimit none).toks.reverse else none

@[simp] theorem feed_nil (st : Lexer) : st.feed [] = st := rfl

@[simp] theorem feed_cons (st : Lexer) (c : Char) (cs : List Char) : st.feed (c :: cs) = (st.step c).feed cs := rfl

theorem feed_append (st : Lexer) (a b : List Char) : st.feed (a ++ b) = (st.feed a).feed b := List.foldl_append _ _ _ _

/-! ## Words of plain characters, and quoted text -/

/-- The characters POSIX says must or may need quoting to stand for themselves (§2.2). -/
def shellSpecial : List Char :=
  ['|', '&', ';', '<', '>', '(', ')', '$', '`', '\\', '"', '\'', '*', '?', '[', '#', '~', '=', '%']

/-- A character the shell reads as itself wherever it stands in a word: not one of `shellSpecial`, no white space
(blanks and newlines among it), no NUL. -/
def isPlainChar (c : Char) : Bool := !c.isWhitespace && c != '\x00' && !shellSpecial.contains c

/-- The pieces of a text read as it is. -/
def unquoted (cs : List Char) : List Piece := cs.map (⟨·, false⟩)

/-- The pieces of a text read inside quotes. -/
def quotedPieces (cs : List Char) : List Piece := cs.map (⟨·, true⟩)

theorem ne_of_isPlainChar {c d : Char} (h : isPlainChar c = true) (hd : isPlainChar d = false) : c ≠ d := by
  rintro rfl; rw [h] at hd; cases hd

theorem not_mem_of_isPlainChar {c : Char} {l : List Char} (h : isPlainChar c = true)
    (hl : ∀ d ∈ l, isPlainChar d = false) : c ∉ l := fun hm => by rw [hl c hm] at h; cases h

/-- An unquoted plain character, with no operator being read, adds itself to the word. -/
theorem fresh_plain (st : Lexer) {c : Char} (h : isPlainChar c = true) : st.fresh c = st.addChar c false := by
  have hop : isOperatorStart c = false := decide_eq_false (not_mem_of_isPlainChar h (by decide))
  have hbl : isBlank c = false := decide_eq_false (not_mem_of_isPlainChar h (by decide))
  simp only [Lexer.fresh, ne_of_isPlainChar h (d := '\\') rfl, ne_of_isPlainChar h (d := '\'') rfl,
    ne_of_isPlainChar h (d := '"') rfl, ne_of_isPlainChar h (d := '$') rfl, ne_of_isPlainChar h (d := '`') rfl,
    ne_of_isPlainChar h (d := '\n') rfl, ne_of_isPlainChar h (d := '#') rfl, hop, hbl, or_self, false_and,
    if_false, Bool.false_eq_true]

end Shell
end Launcher
