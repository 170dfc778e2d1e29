import Mathlib.Data.List.Sort
import Mathlib.Data.String.Basic
/-!
# OpenFds — `getOpenFds` and what `/proc/<pid>/fd` lists (Process.cpp)

`getOpenFds` lists the child's descriptors by scanning `/proc/<pid>/fd` with `scandir`: it drops `.` and `..`, sorts
the names with `strcmp`, and reads each with `strtoul`, keeping the low 32 bits in a `uint32_t`.  The kernel names
each entry of that directory by the decimal digits of an open descriptor, and `strtoul` reads those digits back
(`strtoul_toString`): whatever order the directory is read in, the scan is the open descriptors below `2^32`, each
once (`getOpenFds_perm`), in the `strcmp` order of their names (`getOpenFds_procFd`).
-/
namespace Launcher
namespace Process

/-- `ULONG_MAX` on LP64. -/
def ULONG_MAX : Nat := 2 ^ 64 - 1

/-- `isspace` in the C locale. -/
def isspace (c : Char) : Bool :=
  c = ' ' || c = '\t' || c = '\n' || c = '\x0b' || c = '\x0c' || c = '\r'

/-- The value of a run of decimal digits. -/
def decimalValue (ds : List Char) : Nat := ds.foldl (fun v c => 10 * v + (c.toNat - '0'.toNat)) 0

/-- The optional sign `strtoul` reads: whether it is `-`, and what follows it. -/
def readSign : List Char → Bool × List Char
  | '-' :: r => (true, r)
  | '+' :: r => (false, r)
  | r => (false, r)

/-- `strtoul(s, nullptr, 10)`: blanks skipped, an optional sign, then the longest run of digits; a value past
`ULONG_MAX` gives `ULONG_MAX`, and a `-` negates the value modulo `2^64`. -/
def strtoul (s : String) : Nat :=
  let (neg, cs) := readSign (s.data.dropWhile isspace)
  let v := decimalValue (cs.takeWhile Char.isDigit)
  if ULONG_MAX < v then ULONG_MAX else if neg then (2 ^ 64 - v) % 2 ^ 64 else v

/-- The filter `getOpenFds` hands `scandir`: every entry but `.` and `..`. -/
def scandirFilter (name : String) : Bool := !(name == "." || name == "..")

/-- `getOpenFds(in_pid, out_fds)` on what `scandir` returned: the names in the directory, or the errno it failed with.
The names kept are sorted with `strcmp` and each is read by `strtoul` into a `uint32_t`. -/
def getOpenFds : Except Nat (List String) → Except Nat (List Nat)
  | .error e => .error e
  | .ok names =>
    .ok (((names.filter scandirFilter).mergeSort fun a b => decide (a ≤ b)).map fun n => strtoul n % 2 ^ 32)

/-- What `/proc/<pid>/fd` holds for a process whose open descriptors are `fds`: `.`, `..`, and one entry per
descriptor named by its decimal digits. -/
def procFdNames (fds : List Nat) : List String := "." :: ".." :: fds.map toString

/-! ## Decimal digits read back -/

theorem digitChar_isDigit : ∀ d < 10, (Nat.digitChar d).isDigit = true ∧ (Nat.digitChar d).toNat - '0'.toNat = d := by
  decide

theorem toDigitsCore_zero (n : Nat) (ds : List Char) : Nat.toDigitsCore 10 0 n ds = ds := rfl

theorem toDigitsCore_succ (fuel n : Nat) (ds : List Char) : Nat.toDigitsCore 10 (fuel + 1) n ds =
    if n / 10 = 0 then Nat.digitChar (n % 10) :: ds else Nat.toDigitsCore 10 fuel (n / 10) (Nat.digitChar (n % 10) :: ds) :=
  rfl

/-- Every character of a rendering is a digit, and reading the rendering back from `0` continues with its value. -/
theorem toDigitsCore_decimal (fuel : Nat) : ∀ (n : Nat) (ds : List Char), n < fuel →
    (∀ c ∈ Nat.toDigitsCore 10 fuel n ds, c.isDigit = true ∨ c ∈ ds) ∧
    (Nat.toDigitsCore 10 fuel n ds).foldl (fun v c => 10 * v + (c.toNat - '0'.toNat)) 0 =
      ds.foldl (fun v c => 10 * v + (c.toNat - '0'.toNat)) n := by
  induction fuel with
  | zero => intro n ds h; omega
  | succ fuel ih =>
    intro n ds h
    obtain ⟨hdig, hval⟩ := digitChar_isDigit (n % 10) (Nat.mod_lt _ (by decide))
    rw [toDigitsCore_succ]
    split
    · rename_i h0
      refine ⟨fun c hc => ?_, ?_⟩
      · rcases List.mem_cons.1 hc with rfl | hc
        · exact .inl hdig
        · exact .inr hc
      · simp only [List.foldl_cons, hval]
        congr 1; omega
    · rename_i h0
      obtain ⟨ih1, ih2⟩ := ih (n / 10) (Nat.digitChar (n % 10) :: ds) (by omega)
      refine ⟨fun c hc => ?_, ?_⟩
      · rcases ih1 c hc with hc | hc
        · exact .inl hc
        · rcases List.mem_cons.1 hc with rfl | hc
          · exact .inl hdig
          · exact .inr hc
      · rw [ih2, List.foldl_cons, hval]
        congr 1; omega

theorem toString_data (n : Nat) : (toString n).data = Nat.toDigits 10 n := rfl

theorem toString_isDigit (n : Nat) : ∀ c ∈ (toString n).data, c.isDigit = true := fun c hc => by
  rw [toString_data] at hc
  rcases (toDigitsCore_decimal (n + 1) n [] (by omega)).1 c hc with h | h
  · exact h
  · cases h

theorem decimalValue_toString (n : Nat) : decimalValue (toString n).data = n := by
  rw [toString_data]
  exact (toDigitsCore_decimal (n + 1) n [] (by omega)).2

theorem toDigitsCore_ne_nil : ∀ (fuel n : Nat) (ds : List Char), 0 < fuel ∨ ds ≠ [] →
    Nat.toDigitsCore 10 fuel n ds ≠ []
  | 0, _, ds, h => by simpa [toDigitsCore_zero] using h
  | fuel + 1, n, ds, _ => by
    rw [toDigitsCore_succ]
    split
    · exact List.cons_ne_nil _ _
    · exact toDigitsCore_ne_nil fuel _ _ (.inr (List.cons_ne_nil _ _))

theorem blank_of_isDigit {c : Char} (h : c.isDigit = true) : isspace c = false ∧ c ≠ '-' ∧ c ≠ '+' := by
  simp only [isspace, Bool.or_eq_false_iff, decide_eq_false_iff_not, ne_eq]
  repeat' constructor
  all_goals rintro rfl; exact absurd h (by decide)

/-- **`strtoul` reads a rendering back.** -/
theorem strtoul_toString {n : Nat} (h : n ≤ ULONG_MAX) : strtoul (toString n) = n := by
  have hd := toString_isDigit n
  obtain ⟨c, cs, hcs⟩ := List.exists_cons_of_ne_nil (toDigitsCore_ne_nil (n + 1) n [] (.inl (by omega)))
  replace hcs : (toString n).data = c :: cs := hcs
  obtain ⟨hsp, hm, hp⟩ := blank_of_isDigit (hd c (by simp [hcs]))
  have hsign : readSign (c :: cs) = (false, c :: cs) := by
    unfold readSign; split <;> simp_all
  have htake : (toString n).data.takeWhile Char.isDigit = (toString n).data := List.takeWhile_eq_self_iff.2 hd
  unfold strtoul
  rw [hcs, List.dropWhile_cons_of_neg (by simp [hsp]), hsign, ← hcs]
  simp only [htake, decimalValue_toString, if_neg (not_lt.2 h), if_false, Bool.false_eq_true]

/-! ## The scan of `/proc/<pid>/fd` -/

/-- The name of a descriptor is kept by the filter: it is made of digits, so it is neither `.` nor `..`. -/
theorem scandirFilter_toString (n : Nat) : scandirFilter (toString n) = true := by
  have hd := toString_isDigit n
  simp only [scandirFilter, Bool.not_eq_true', Bool.or_eq_false_iff, beq_eq_false_iff_ne, ne_eq]
  constructor <;> intro he <;> exact absurd (hd '.' (by simp [he])) (by decide)

theorem procFdNames_filter (fds : List Nat) : (procFdNames fds).filter scandirFilter = fds.map toString := by
  rw [procFdNames, List.filter_cons_of_neg (by decide), List.filter_cons_of_neg (by decide)]
  exact List.filter_eq_self.2 fun _ h => by obtain ⟨n, -, rfl⟩ := List.mem_map.1 h; exact scandirFilter_toString n

/-- The names the scan keeps, sorted, are the descriptors' names in some order. -/
theorem sortedNames_perm {fds : List Nat} {names : List String} (h : names.Perm (procFdNames fds)) :
    ((names.filter scandirFilter).mergeSort fun a b => decide (a ≤ b)).Perm (fds.map toString) :=
  (List.mergeSort_perm _ _).trans (procFdNames_filter fds ▸ h.filter scandirFilter)

theorem strtoul_name {d : Nat} (hd : d < 2 ^ 32) : strtoul (toString d) % 2 ^ 32 = d := by
  rw [strtoul_toString (by unfold ULONG_MAX; omega), Nat.mod_eq_of_lt hd]

/-- Whatever order `/proc/<pid>/fd` lists its entries in, when every open descriptor is below `2^32` the scan
succeeds with each of them once. -/
theorem getOpenFds_perm {fds : List Nat} (hfds : ∀ fd ∈ fds, fd < 2 ^ 32) {names : List String}
    (h : names.Perm (procFdNames fds)) : ∃ scan, getOpenFds (.ok names) = .ok scan ∧ scan.Perm fds := by
  refine ⟨_, rfl, ((sortedNames_perm h).map _).trans ?_⟩
  rw [List.map_map]
  exact .of_eq ((List.map_congr_left fun fd hfd => strtoul_name (hfds fd hfd)).trans (List.map_id' _))

/-- **The scan reads back the open descriptors, in the order of their names.**  Whatever order `/proc/<pid>/fd` lists
its entries in, when every open descriptor is below `2^32` the scan succeeds with each of them once, in the `strcmp`
order of their decimal names. -/
theorem getOpenFds_procFd {fds : List Nat} (hfds : ∀ fd ∈ fds, fd < 2 ^ 32) {names : List String}
    (h : names.Perm (procFdNames fds)) :
    ∃ scan, getOpenFds (.ok names) = .ok scan ∧ scan.Perm fds ∧ (scan.map toString).Sorted (· ≤ ·) := by
  obtain ⟨scan, hscan, hperm⟩ := getOpenFds_perm hfds h
  refine ⟨scan, hscan, hperm, ?_⟩
  simp only [getOpenFds, Except.ok.injEq] at hscan
  subst hscan
  rw [List.map_map]
  have hid : ∀ n ∈ (names.filter scandirFilter).mergeSort (fun a b => decide (a ≤ b)),
      (toString ∘ fun n => strtoul n % 2 ^ 32) n = n := fun n hn => by
    obtain ⟨d, hd, rfl⟩ := List.mem_map.1 ((sortedNames_perm h).mem_iff.1 hn)
    simp only [Function.comp, strtoul_name (hfds d hd)]
  rw [List.map_congr_left hid, List.map_id']
  exact List.sorted_mergeSort' _

theorem getOpenFds_procFd_ten :
    (∀ fd ∈ [2, 10, 0], fd < 2 ^ 32) ∧ ["10", ".", "0", "..", "2"].Perm (procFdNames [2, 10, 0]) ∧
      ∃ scan, getOpenFds (.ok ["10", ".", "0", "..", "2"]) = .ok scan ∧ scan.Perm [2, 10, 0] ∧
        (scan.map toString).Sorted (· ≤ ·) :=
  ⟨by decide, by decide, getOpenFds_procFd (by decide) (by decide)⟩

end Process
end Launcher
