import LauncherSdk.Impl
/-!
# Redact — the launch profile as `logProcessSpawn` logs it (Process.cpp)

`logProcessSpawn` looks for `"password":"` in the launch profile, then for the quote that ends the value, and logs the
profile with the value replaced by `<redacted>`.  Its outer loop sets `startPos2` to the first quote at or after
`startPos2`, which is the quote it found on the pass before: the loop never gets past the first quote of the value
(`redactLoop_eq`).  It stops there at once when that quote follows an odd number of backslashes, an escaped quote
inside the value, and otherwise runs forever (`strippedStdin_eq_none`), which is what every non-empty password with no
quote that does not end in a backslash gives (`strippedStdin_plainPassword`).
-/
namespace Launcher
namespace Process

/-- `std::string::find(pat, pos)`: the first position at or after `pos` where `pat` starts, or `npos`. -/
def find (s pat : List Char) (pos : Nat) : Option Nat :=
  (List.range' pos (s.length - pos)).find? fun i => pat.isPrefixOf (s.drop i)

/-- `std::string::npos` stored in an `int`. -/
def npos : Int := -1

/-- `StandardInput.find(c, pos)` with `pos` and the result held in `int`s: a negative `pos` is `npos` as a `size_t`,
from which nothing is found. -/
def findChar (s : List Char) (c : Char) (pos : Int) : Int :=
  if pos < 0 then npos else
  match find s [c] pos.toNat with
  | some j => j
  | none => npos

/-- The inner loop: `lastSlashPos` steps back from `pos` over backslashes while it stays above `v`; `n` bounds the
steps. -/
def skipBackslashes (s : List Char) (v : Int) : Nat → Int → Int
  | 0, pos => pos
  | n + 1, pos => if v < pos ∧ s[pos.toNat]? = some '\\' then skipBackslashes s v n (pos - 1) else pos

/-- `lastSlashPos` after the inner loop, for the quote at `startPos2`: from `startPos2 - 1` the loop can take no more
than `startPos2 - 1 - v` steps. -/
def lastSlashPos (s : List Char) (v startPos2 : Int) : Int :=
  skipBackslashes s v (startPos2 - 1 - v).toNat (startPos2 - 1)

/-- The outer loop of `logProcessSpawn`, where `v = startPos1 + beforeLen` is the start of the value: `startPos2` and
`wasEmpty` when it breaks, or `none` when `fuel` passes are not enough. -/
def redactLoop (s : List Char) (v : Int) : Nat → Int → Option (Int × Bool)
  | 0, _ => none
  | fuel + 1, startPos2 =>
    let startPos2 := findChar s '"' startPos2
    if startPos2 = v then some (startPos2, true)
    else if (startPos2 - lastSlashPos s v startPos2) % 2 = 0 then some (startPos2, false)
    else redactLoop s v fuel startPos2

/-- The key `logProcessSpawn` looks for, `R"("password":")"`. -/
def passwordKey : List Char := "\"password\":\"".data

def beforeLen : Nat := 12

/-- `strippedStdin`, the launch profile as `logProcessSpawn` logs it, or `none` when its loop does not break within
`fuel` passes. -/
def strippedStdin (fuel : Nat) (StandardInput : String) : Option String :=
  let s := StandardInput.data
  match find s passwordKey 0 with
  | none => some ""
  | some startPos1 =>
    let v : Int := startPos1 + beforeLen
    (redactLoop s v fuel v).map fun (startPos2, wasEmpty) =>
      if wasEmpty then StandardInput
      else ⟨s.take (startPos1 + beforeLen)⟩ ++ "<redacted>" ++ ⟨s.drop startPos2.toNat⟩

/-- `logProcessSpawn`: the debug message, or `none` when it does not return within `fuel` passes of its loop. -/
def logProcessSpawn (fuel : Nat) (i : Impl) : Option String :=
  (strippedStdin fuel i.StandardInput).map
    ("Launching rsandbox. \nArgs " ++ " ".intercalate i.Arguments ++ "\nLaunch Profile: " ++ ·)

/-! ## The loop stops at the first quote of the value, or never -/

theorem find_self {s : List Char} {c : Char} {j : Nat} (h : s[j]? = some c) : find s [c] j = some j := by
  obtain ⟨hj, rfl⟩ := List.getElem?_eq_some_iff.1 h
  obtain ⟨n, hn⟩ : ∃ n, s.length - j = n + 1 := ⟨s.length - j - 1, by omega⟩
  rw [find, hn, List.range'_succ, List.find?_cons_of_pos]
  rw [List.drop_eq_getElem_cons hj]
  simp [List.isPrefixOf]

theorem find_isPrefixOf {s pat : List Char} {pos j : Nat} (h : find s pat pos = some j) :
    pat.isPrefixOf (s.drop j) = true := by
  unfold find at h; exact List.find?_some (p := fun i => pat.isPrefixOf (s.drop i)) h

theorem isPrefixOf_singleton_drop {s : List Char} {c : Char} {i : Nat} :
    [c].isPrefixOf (s.drop i) = true ↔ s[i]? = some c := by
  rw [← List.head?_drop]
  cases s.drop i with
  | nil => simp [List.isPrefixOf]
  | cons d t =>
    simp only [List.isPrefixOf, List.head?_cons, Option.some.injEq, Bool.and_true, beq_iff_eq]
    exact eq_comm

/-- `find` finds the first match at or after `pos`. -/
theorem find_eq_some {s pat : List Char} {pos j : Nat} (hj : j < s.length) (hP : pat.isPrefixOf (s.drop j) = true)
    (hpos : pos ≤ j) (hbefore : ∀ i, pos ≤ i → i < j → pat.isPrefixOf (s.drop i) = false) :
    find s pat pos = some j := by
  obtain ⟨d, rfl⟩ := Nat.exists_eq_add_of_le hpos
  obtain ⟨n, hn⟩ : ∃ n, s.length - pos = n + 1 := ⟨s.length - pos - 1, by omega⟩
  induction d generalizing pos n with
  | zero => rw [find, hn, List.range'_succ, List.find?_cons_of_pos (a := pos) _ hP]; rfl
  | succ d ih =>
    have hn' : s.length - (pos + 1) = n := by omega
    have := @ih (pos + 1) (by omega) (by rwa [show pos + 1 + d = pos + (d + 1) by omega]) (by omega)
      (fun i h1 h2 => hbefore i (by omega) (by omega)) (n - 1) (by omega)
    rw [find, hn, List.range'_succ, List.find?_cons_of_neg _ (by simp [hbefore pos le_rfl (by omega)]), ← hn',
      ← find, this, show pos + 1 + d = pos + (d + 1) by omega]

/-- Looking again from the quote found finds the same quote. -/
theorem findChar_findChar (s : List Char) (c : Char) (pos : Int) :
    findChar s c (findChar s c pos) = findChar s c pos := by
  by_cases hp : pos < 0
  · simp [findChar, hp, npos]
  · cases hj : find s [c] pos.toNat with
    | none => simp [findChar, hp, hj, npos]
    | some j =>
      simp [findChar, hp, hj, Int.not_lt.2 (Int.ofNat_nonneg j),
        find_self (isPrefixOf_singleton_drop.1 (find_isPrefixOf hj))]

/-- **The loop never gets past the first quote of the value**: whatever `fuel`, it breaks at the first quote at or
after where it starts, or not at all. -/
theorem redactLoop_eq (s : List Char) (v pos : Int) (fuel : Nat) :
    redactLoop s v (fuel + 1) pos =
      if findChar s '"' pos = v then some (findChar s '"' pos, true)
      else if (findChar s '"' pos - lastSlashPos s v (findChar s '"' pos)) % 2 = 0 then
        some (findChar s '"' pos, false)
      else none := by
  induction fuel generalizing pos with
  | zero => simp only [redactLoop]
  | succ fuel ih =>
    rw [redactLoop, ih, findChar_findChar]
    split_ifs <;> rfl

theorem skipBackslashes_of_not_backslash (s : List Char) (v pos : Int) (n : Nat) (h : s[pos.toNat]? ≠ some '\\') :
    skipBackslashes s v n pos = pos := by
  cases n <;> simp [skipBackslashes, h]

/-- A quote that does not follow a backslash leaves the loop going forever. -/
theorem strippedStdin_eq_none (fuel : Nat) (t : String) (startPos1 : Nat)
    (h1 : find t.data passwordKey 0 = some startPos1)
    (hne : findChar t.data '"' (startPos1 + beforeLen) ≠ startPos1 + beforeLen)
    (hb : t.data[(findChar t.data '"' (startPos1 + beforeLen) - 1).toNat]? ≠ some '\\') :
    strippedStdin fuel t = none := by
  cases fuel with
  | zero => simp [strippedStdin, h1, redactLoop]
  | succ fuel =>
    have hodd : (findChar t.data '"' (startPos1 + beforeLen) -
        lastSlashPos t.data (startPos1 + beforeLen) (findChar t.data '"' (startPos1 + beforeLen))) % 2 ≠ 0 := by
      rw [lastSlashPos, skipBackslashes_of_not_backslash _ _ _ _ hb]; omega
    simp only [strippedStdin, h1, redactLoop_eq, hne, hodd, if_false, Option.map_none']

/-! ## Where the password is in the launch profile -/

theorem isPrefixOf_append_of_length_le : ∀ {pat a : List Char} (b : List Char), pat.length ≤ a.length →
    pat.isPrefixOf (a ++ b) = pat.isPrefixOf a
  | [], _, _, _ => by simp [List.isPrefixOf]
  | _ :: _, [], _, h => by simp at h
  | p :: pat, x :: a, b, h => by
    simp only [List.cons_append, List.isPrefixOf, List.append_eq,
      isPrefixOf_append_of_length_le b (Nat.le_of_succ_le_succ h)]

theorem isPrefixOf_drop_append {pat a : List Char} (b : List Char) {i : Nat} (h : i + pat.length ≤ a.length) :
    pat.isPrefixOf ((a ++ b).drop i) = pat.isPrefixOf (a.drop i) := by
  rw [List.drop_append_of_le_length (by omega), isPrefixOf_append_of_length_le b (by simp; omega)]

/-- The launch profile up to `"password":`: the context object and the comma after it. -/
def contextText (u : String) : List Char :=
  '\x7b' :: writeString "context" ++ ':' ::
    (Json.obj [("username", .str u), ("project", .str ""), ("id", .str "")]).write ++ [',']

/-- The launch profile: the context, the key, the password as the writer escapes it and its closing quote, then a
comma and the rest. -/
theorem createLaunchProfile_data (o : ProcessOptions) : ∃ rest, (createLaunchProfile o).data =
    contextText (profileUsername o.RunAsUser) ++ passwordKey ++
      (o.Password.data.flatMap escapeJsonChar ++ '"' :: ',' :: rest) := by
  rw [show passwordKey = writeString "password" ++ [':', '"'] from rfl]
  simp only [createLaunchProfile, Json.write, writeMembers, contextText, writeString, List.append_assoc,
    List.cons_append, List.nil_append, List.singleton_append]
  exact ⟨_, rfl⟩

/-- For a user written as `""`, the key is found right after the context object. -/
theorem find_passwordKey (rest : List Char) : find (contextText "" ++ passwordKey ++ rest) passwordKey 0 = some 48 := by
  have hl : (contextText "" ++ passwordKey).length = 60 := by decide
  have hb : ∀ i < 48, passwordKey.isPrefixOf ((contextText "" ++ passwordKey).drop i) = false := by decide
  have hk : passwordKey.length = 12 := rfl
  refine find_eq_some (by simp only [List.length_append] at hl ⊢; omega) ?_ (Nat.zero_le _) fun i _ hi => ?_
  · rw [isPrefixOf_drop_append _ (by omega)]; decide
  · rw [isPrefixOf_drop_append _ (by omega)]; exact hb i hi

theorem hexDigit_ne : ∀ k < 16, hexDigit k ≠ '"' ∧ hexDigit k ≠ '\\' := by decide

theorem escapeJsonChar_ne_nil (c : Char) : escapeJsonChar c ≠ [] := by
  unfold escapeJsonChar; split_ifs <;> try split
  all_goals simp

/-- The writer puts a `"` only in `\"`. -/
theorem eq_of_quote_mem_escapeJsonChar {c : Char} (h : '"' ∈ escapeJsonChar c) : c = '"' := by
  unfold escapeJsonChar at h
  split_ifs at h with h1 h2 h3
  · exact h1
  · simp at h
  · have h16 : c.toNat / 16 < 16 := by omega
    split at h <;>
      simp [(hexDigit_ne _ h16).1.symm, (hexDigit_ne _ (Nat.mod_lt _ (by omega : 16 > 0))).1.symm] at h
  · simpa [eq_comm] using h

/-- The writer's text for a character ends in a backslash only for a backslash. -/
theorem eq_of_getLast_escapeJsonChar {c : Char} (h : (escapeJsonChar c).getLast? = some '\\') : c = '\\' := by
  unfold escapeJsonChar at h
  split_ifs at h with h1 h2 h3
  · simp at h
  · exact h2
  · split at h <;> simp [(hexDigit_ne _ (Nat.mod_lt _ (by omega : 16 > 0))).2] at h
  · simpa using h

/-- The closing quote of a value with no `"` is the first quote after the value's start. -/
theorem findChar_closingQuote (pre e rest : List Char) (he : '"' ∉ e) :
    findChar (pre ++ (e ++ '"' :: rest)) '"' pre.length = (pre.length + e.length : Nat) := by
  have hq : (pre ++ (e ++ '"' :: rest))[pre.length + e.length]? = some '"' := by
    rw [List.getElem?_append_right (by omega), List.getElem?_append_right (by omega)]; simp
  have hf : find (pre ++ (e ++ '"' :: rest)) ['"'] pre.length = some (pre.length + e.length) := by
    refine find_eq_some ?_ (isPrefixOf_singleton_drop.2 hq) (by omega) fun i h1 h2 => ?_
    · simp only [List.length_append, List.length_cons]; omega
    · cases hd : [('"' : Char)].isPrefixOf ((pre ++ (e ++ '"' :: rest)).drop i)
      · rfl
      · have := isPrefixOf_singleton_drop.1 hd
        rw [List.getElem?_append_right (by omega), List.getElem?_append_left (by omega)] at this
        exact absurd (List.mem_iff_getElem?.2 ⟨_, this⟩) he
  simp [findChar, hf, Int.not_lt.2 (Int.ofNat_nonneg _)]

/-- For a user written into the launch profile as `""`, a non-empty password with no `"` that does not end in a
backslash leaves `logProcessSpawn`'s loop running forever. -/
theorem strippedStdin_plainPassword (o : ProcessOptions) (hu : profileUsername o.RunAsUser = "")
    (hne : o.Password.data ≠ []) (hq : '"' ∉ o.Password.data) (hb : o.Password.data.getLast? ≠ some '\\')
    (fuel : Nat) : strippedStdin fuel (createLaunchProfile o) = none := by
  obtain ⟨rest, hr⟩ := createLaunchProfile_data o
  rw [hu] at hr
  have hl : (contextText "" ++ passwordKey).length = 60 := by decide
  have he : '"' ∉ o.Password.data.flatMap escapeJsonChar := fun h => by
    obtain ⟨c, hc, hm⟩ := List.mem_flatMap.1 h
    exact hq (eq_of_quote_mem_escapeJsonChar hm ▸ hc)
  have hj := findChar_closingQuote (contextText "" ++ passwordKey) _ (',' :: rest) he
  rw [hl, ← hr] at hj
  have hpos : (o.Password.data.flatMap escapeJsonChar).length ≠ 0 := by
    obtain ⟨c, cs, hcs⟩ := List.exists_cons_of_ne_nil hne
    simp [hcs, escapeJsonChar_ne_nil]
  refine strippedStdin_eq_none fuel _ 48 (by rw [hr]; exact find_passwordKey _) ?_ ?_
  · rw [show ((48 : Nat) : Int) + (beforeLen : Nat) = ((60 : Nat) : Int) from rfl, hj]; omega
  · obtain ⟨cs, c, hcs⟩ := (List.eq_nil_or_concat o.Password.data).resolve_left hne
    have hlast : (o.Password.data.flatMap escapeJsonChar).getLast? = (escapeJsonChar c).getLast? := by
      rw [hcs, List.concat_eq_append, List.flatMap_append, List.getLast?_append_of_ne_nil _ (by
        simpa using escapeJsonChar_ne_nil c)]
      simp
    rw [show ((48 : Nat) : Int) + (beforeLen : Nat) = ((60 : Nat) : Int) from rfl, hj, hr,
      show (((60 + (o.Password.data.flatMap escapeJsonChar).length : Nat) : Int) - 1).toNat =
        (contextText "" ++ passwordKey).length + ((o.Password.data.flatMap escapeJsonChar).length - 1) by
          rw [hl]; omega,
      List.getElem?_append_right (by omega), Nat.add_sub_cancel_left, List.getElem?_append_left (by omega),
      ← List.getLast?_eq_getElem?, hlast]
    exact fun h => hb (by rw [hcs, eq_of_getLast_escapeJsonChar h]; simp)

/-- An empty password is logged as it is: the loop breaks on its first pass. -/
theorem strippedStdin_emptyPassword (o : ProcessOptions) (hu : profileUsername o.RunAsUser = "")
    (he : o.Password = "") (fuel : Nat) :
    strippedStdin (fuel + 1) (createLaunchProfile o) = some (createLaunchProfile o) := by
  obtain ⟨rest, hr⟩ := createLaunchProfile_data o
  rw [hu, he] at hr
  have hl : (contextText "" ++ passwordKey).length = 60 := by decide
  have hk : find (createLaunchProfile o).data passwordKey 0 = some 48 := by rw [hr]; exact find_passwordKey _
  have hj : findChar (createLaunchProfile o).data '"' 60 = 60 := by
    have := findChar_closingQuote (contextText "" ++ passwordKey) [] (',' :: rest) (List.not_mem_nil _)
    rw [hl] at this; rw [hr]; exact this
  simp only [strippedStdin, hk, redactLoop_eq]
  rw [show ((48 : Nat) : Int) + (beforeLen : Nat) = 60 from rfl, hj]
  rfl

theorem isEmpty_cons (c : Char) (cs : List Char) : String.isEmpty ⟨c :: cs⟩ = false := by
  simp only [String.isEmpty, String.endPos, String.utf8ByteSize, String.utf8ByteSize.go, beq_eq_false_iff_ne, ne_eq,
    String.Pos.ext_iff]
  have := Char.utf8Size_pos c
  simp; omega

theorem createLaunchProfile_isEmpty (o : ProcessOptions) : (createLaunchProfile o).isEmpty = false := by
  obtain ⟨rest, hr⟩ := createLaunchProfile_data o
  rcases h : createLaunchProfile o with ⟨d⟩
  rw [h] at hr
  simp only [contextText, List.cons_append] at hr
  rw [show (⟨d⟩ : String) = ⟨_ :: _⟩ from congrArg String.mk hr]
  exact isEmpty_cons _ _

/-- `ls` run as the all-users wildcard with nothing else set: the options of the fixed runs below and in `Run`. -/
def lsOptions : ProcessOptions where
  Environment := []
  Password := ""
  Executable := "ls"
  Arguments := []
  WorkingDirectory := ⟨""⟩
  RunAsUser := ⟨true, false, "*"⟩
  PamProfile := ""
  StandardInput := ""
  StandardOutputFile := ⟨""⟩
  StandardErrorFile := ⟨""⟩
  Mounts := []
  IsShellCommand := false

/-- With the password `abc`, the launch of `ls` by any host never gets past its first line. -/
theorem logProcessSpawn_abc (h : Host) (fuel : Nat) :
    logProcessSpawn fuel (Impl.new h { lsOptions with Password := "abc" }) = none := by
  simp only [logProcessSpawn, Impl.new]
  rw [strippedStdin_plainPassword] <;> first | rfl | decide

end Process
end Launcher
