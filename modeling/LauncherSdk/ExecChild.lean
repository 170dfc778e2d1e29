import LauncherSdk.CloseParentFds
import LauncherSdk.Command
import LauncherSdk.OpenFds
import Mathlib.Data.List.Dedup
/-!
# ExecChild — the forked child from `fork` to `exec` (Process.cpp)

`execChild` runs in the child `fork` made: `setpgid`, `clearSignalMask`, the four `close` calls of the ends the child
does not use, the three `dup2` calls onto `STDIN_FILENO`, `STDOUT_FILENO` and `STDERR_FILENO` (`setup`), then
`closeParentFds` against the parent's `sendFileDescriptors` (`Exchange`), the `close` of the control pipe, and
`execv`/`execve` of `RSandbox`.  The child's descriptors are `Child`, as `closeParentFds` sees them, with the open file
each refers to (`Image`).

`pipe()` takes the lowest free descriptors, so the ends `createPipes` opens come in order (`createPipes_ordered`) and no
`dup2` overwrites an end still needed, even when the parent's standard streams are closed.  The setup only removes
descriptors from `startFd` on (`setup_fds`), so the parent's scan of `/proc/<pid>/fd`, made at any point of it, covers
what the child still holds when it reads the control pipe (`setup_take`).  When every call succeeds, on every schedule
on which the child finishes it execs `rsandbox` holding exactly its three standard streams, on the other ends of the
pipes the parent kept (`run_wiresStdio`); when the scan fails, the sweep leaves every inherited descriptor from the
narrowed limit on (`execChild_scanFails`).  When `fork` fails with `EAGAIN` and the unset `pid` holds `0`, the calling
process runs `execChild` itself and never leaves `closeParentFds` (`run_forkFails_spins`).  What the parent sends is
the form `sendFileDescriptors_sent` gives it, whatever its calls return (`execChild_ends`).
-/
namespace Launcher
namespace Process

open Posix

/-- `s_threadSafeExitError`: the status of a child that fails before `exec`. -/
def s_threadSafeExitError : Nat := 153

/-- `STDIN_FILENO`, `STDOUT_FILENO` and `STDERR_FILENO`. -/
def STDIN_FILENO : Nat := 0
def STDOUT_FILENO : Nat := 1
def STDERR_FILENO : Nat := 2

/-- The forked child before it execs: its descriptors and `errno` as `closeParentFds` sees them, and the open file each
descriptor refers to, named by the parent's descriptor for that file at `fork`. -/
structure Image where
  child : Child
  file : Nat → Int

/-- The child as `fork` makes it: the parent's descriptors, each referring to its own file, and `errno` as the parent's
thread left it. -/
def Image.ofFork (fds : List Int) (errno : Nat) : Image :=
  ⟨⟨(fds.filterMap Int.toNat').dedup, List.nodup_dedup _, errno⟩, Int.ofNat⟩

/-- `::close(fd)`, its result ignored, as `closeFd` has it: an open descriptor is freed, and a descriptor that is not
open fails with `EBADF`. -/
def Image.close (img : Image) (fd : Int) : Image :=
  { img with child := match fd.toNat' with
    | some d => closeFd img.child d
    | none => { img.child with errno := EBADF } }

/-- What a `dup2` from the open descriptor `d` to `newfd` leaves: `newfd`, closed first if open, refers to `d`'s file;
nothing changes when the two are the same. -/
def Image.redirect (img : Image) (d newfd : Nat) : Image :=
  if d = newfd then img
  else ⟨⟨newfd :: img.child.fds.erase newfd,
      List.nodup_cons.2 ⟨img.child.fds_nodup.not_mem_erase, img.child.fds_nodup.erase _⟩, img.child.errno⟩,
    fun x => if x = newfd then img.file d else img.file x⟩

/-- `::dup2(oldfd, newfd)`, with `r` the errno it fails with besides `EBADF` for an `oldfd` that is not open. -/
def Image.dup2 (img : Image) (r : Option Nat) (oldfd : Int) (newfd : Nat) : Except Nat Image :=
  match oldfd.toNat' with
  | some d =>
    if d ∈ img.child.fds then
      match r with
      | some e => .error e
      | none => .ok (img.redirect d newfd)
    else .error EBADF
  | none => .error EBADF

/-- Each open descriptor with its file. -/
def Image.table (img : Image) : List (Nat × Int) := img.child.fds.map fun d => (d, img.file d)

/-- What the child's own calls return: the errno `setpgid` fails with, the error number `pthread_sigmask` returns in
`clearSignalMask`, the errno the `n`-th `dup2` fails with besides `EBADF`, and the errno of an `execv(e)` that
returns. -/
structure ChildOutcomes where
  setpgid : Option Nat
  sigmask : Option Nat
  dup2 : Nat → Option Nat
  exec : Option Nat

/-- How the child ends: `::exit`, which runs the `atexit` handlers and flushes the streams it inherited, `::_exit`, which
does neither, or its image replaced by `execv` or `execve`, with the path, the argument vector and the environment as
C strings, and the descriptors it holds, each with its file. -/
inductive ChildEnd where
  | exit (status : Nat)
  | _exit (status : Nat)
  | execv (path : List Char) (argv : Option (List (List Char))) (table : List (Nat × Int))
  | execve (path : List Char) (argv envp : Option (List (List Char))) (table : List (Nat × Int))
  deriving DecidableEq, Repr

/-- `CStringList(v).getData()`: each string as the C string its copy holds, or `nullptr` for an empty vector. -/
def CStringList.getData (v : List String) : Option (List (List Char)) :=
  if v.isEmpty then none else some (v.map cString)

/-- `::execv(RSandbox.c_str(), in_arguments.getData())` when `in_environment.isEmpty()`, else
`::execve(RSandbox.c_str(), in_arguments.getData(), in_environment.getData())`, from a child holding `table`. -/
def execRSandbox (i : Impl) (table : List (Nat × Int)) : ChildEnd :=
  if i.Environment.isEmpty then .execv (cString i.RSandbox) (CStringList.getData i.Arguments) table
  else .execve (cString i.RSandbox) (CStringList.getData i.Arguments) (CStringList.getData i.Environment) table

/-- The calls `execChild` makes before `closeParentFds`; the `n`-th `dup2` is numbered for its outcome. -/
inductive SetupCall where
  | setpgid
  | clearSignalMask
  | close (fd : Int)
  | dup2 (n : Nat) (oldfd : Int) (newfd : Nat)
  deriving DecidableEq, Repr

/-- One call of the setup: `::exit(s_threadSafeExitError)` when `setpgid` or `clearSignalMask` fails,
`::_exit(s_threadSafeExitError)` when a `dup2` does. -/
def SetupCall.run (o : ChildOutcomes) (img : Image) : SetupCall → Except ChildEnd Image
  | .setpgid => if o.setpgid.isSome then .error (.exit s_threadSafeExitError) else .ok img
  | .clearSignalMask => if o.sigmask.isSome then .error (.exit s_threadSafeExitError) else .ok img
  | .close fd => .ok (img.close fd)
  | .dup2 n oldfd newfd =>
    match img.dup2 (o.dup2 n) oldfd newfd with
    | .error _ => .error (._exit s_threadSafeExitError)
    | .ok img => .ok img

/-- The setup of `execChild`, in order. -/
def setupCalls (fds : FileDescriptors) : List SetupCall :=
  [.setpgid, .clearSignalMask, .close fds.Input.2, .close fds.Output.1, .close fds.Error.1, .close fds.CloseFd.2,
    .dup2 0 fds.Input.1 STDIN_FILENO, .dup2 1 fds.Output.2 STDOUT_FILENO, .dup2 2 fds.Error.2 STDERR_FILENO]

/-- A run of setup calls. -/
def setup (o : ChildOutcomes) (img : Image) (calls : List SetupCall) : Except ChildEnd Image :=
  calls.foldlM (SetupCall.run o) img

/-- The parent as the other holder of the control pipe's write end: it writes what `sendFileDescriptors` sends, then
closes it. -/
def parentWriter (k : Outcomes) : Writer := .sending ((sendFileDescriptors k).2.map word)

/-- `execChild(fds, maxFd, CStringList(Arguments), CStringList(Environment))` in the process `img`, with `w` the other
holder of the control pipe's write end, the two stepping in the order `sched`: how the process ends, or `none` while it
is still in `closeParentFds` (or the schedule names a party that cannot step). -/
def execChild (w : Writer) (o : ChildOutcomes) (i : Impl) (fds : FileDescriptors) (maxFd : Nat) (img : Image)
    (sched : List Party) : Option ChildEnd :=
  match setup o img (setupCalls fds) with
  | .error e => some e
  | .ok img =>
    ((⟨w, [], img.child, .reading false⟩ : Exchange).run fds.CloseFd.1.toNat maxFd sched).bind fun t =>
      if t.phase = .returned then
        some (match o.exec with
          | some _ => ._exit s_threadSafeExitError
          | none => execRSandbox i ({ img with child := t.child }.close fds.CloseFd.1).table)
      else none

/-! ## One call at a time -/

theorem init_eq (k : Outcomes) (c : Child) : Exchange.init k c = ⟨parentWriter k, [], c, .reading false⟩ := rfl

@[simp] theorem ok_bind {ε α β : Type} (a : α) (f : α → Except ε β) : (Except.ok a >>= f) = f a := rfl

theorem mem_ofFork (fds : List Int) (errno d : Nat) : d ∈ (Image.ofFork fds errno).child.fds ↔ (d : Int) ∈ fds := by
  simp [Image.ofFork, List.mem_dedup, Int.mem_toNat']

@[simp] theorem ofFork_file (fds : List Int) (errno : Nat) : (Image.ofFork fds errno).file = Int.ofNat := rfl
@[simp] theorem close_file (img : Image) (fd : Int) : (img.close fd).file = img.file := rfl

theorem mem_close (img : Image) (fd : Int) (d : Nat) :
    d ∈ (img.close fd).child.fds ↔ d ∈ img.child.fds ∧ (d : Int) ≠ fd := by
  cases fd with
  | ofNat n => simp only [Image.close, Int.toNat', closeFd_mem, Int.ofNat_eq_coe, ne_eq, Int.ofNat_inj]
  | negSucc n => exact ⟨fun h => ⟨h, by rw [Int.negSucc_eq]; omega⟩, And.left⟩

theorem mem_redirect (img : Image) {d : Nat} (hd : d ∈ img.child.fds) (newfd x : Nat) :
    x ∈ (img.redirect d newfd).child.fds ↔ x = newfd ∨ x ∈ img.child.fds := by
  unfold Image.redirect
  split
  · subst_vars; exact ⟨.inr, fun h => h.elim (· ▸ hd) id⟩
  · simp only [List.mem_cons]
    by_cases hx : x = newfd
    · simp [hx]
    · simp [hx, img.child.fds_nodup.mem_erase_iff]

theorem redirect_file (img : Image) (d newfd x : Nat) :
    (img.redirect d newfd).file x = if x = newfd then img.file d else img.file x := by
  unfold Image.redirect
  split
  · subst_vars; split <;> subst_vars <;> rfl
  · rfl

theorem dup2_of_mem (img : Image) {d : Nat} (hd : d ∈ img.child.fds) (newfd : Nat) :
    img.dup2 none d newfd = .ok (img.redirect d newfd) := by
  simp [Image.dup2, Int.toNat', hd]

theorem mem_table (img : Image) (d : Nat) (f : Int) : (d, f) ∈ img.table ↔ d ∈ img.child.fds ∧ f = img.file d := by
  simp only [Image.table, List.mem_map, Prod.mk.injEq]
  exact ⟨fun ⟨_, h, e, e'⟩ => e ▸ ⟨h, e'.symm⟩, fun ⟨h, e⟩ => ⟨d, h, rfl, e.symm⟩⟩

theorem close_errno (img : Image) {d : Nat} (hd : d ∈ img.child.fds) :
    (img.close d).child.errno = img.child.errno := by
  simp [Image.close, Int.toNat', closeFd, hd]

@[simp] theorem redirect_errno (img : Image) (d newfd : Nat) : (img.redirect d newfd).child.errno = img.child.errno := by
  unfold Image.redirect; split <;> rfl

/-- Closing distinct open descriptors leaves `errno` as it was. -/
theorem foldl_close_errno : ∀ (xs : List Int) (img : Image), xs.Nodup →
    (∀ x ∈ xs, ∃ n : Nat, x = n ∧ n ∈ img.child.fds) → (xs.foldl Image.close img).child.errno = img.child.errno
  | [], _, _, _ => rfl
  | x :: xs, img, hnd, hx => by
    obtain ⟨n, rfl, hn⟩ := hx x (List.mem_cons_self _ _)
    rw [List.foldl_cons, foldl_close_errno xs _ (List.nodup_cons.1 hnd).2 fun y hy => ?_, close_errno img hn]
    obtain ⟨m, rfl, hm⟩ := hx y (List.mem_cons_of_mem _ hy)
    exact ⟨m, rfl, (mem_close _ _ _).2 ⟨hm, fun e => (List.nodup_cons.1 hnd).1 (e ▸ hy)⟩⟩

/-- A call of the setup adds no descriptor from `startFd` on: it closes one, or points a standard stream elsewhere. -/
theorem SetupCall.run_fds {o : ChildOutcomes} {img img' : Image} {c : SetupCall}
    (hc : ∀ n oldfd newfd, c = .dup2 n oldfd newfd → newfd < startFd) (h : c.run o img = .ok img') (d : Nat)
    (hd : startFd ≤ d) (h' : d ∈ img'.child.fds) : d ∈ img.child.fds := by
  cases c with
  | setpgid | clearSignalMask => simp only [SetupCall.run] at h; split at h <;> cases h; exact h'
  | close fd => cases h; exact ((mem_close img fd d).1 h').1
  | dup2 n oldfd newfd =>
    have hn := hc n oldfd newfd rfl
    simp only [SetupCall.run] at h
    split at h
    · cases h
    · rename_i img'' hdup
      cases h
      unfold Image.dup2 at hdup
      split at hdup
      · rename_i d' _
        split at hdup
        · rename_i hmem
          split at hdup
          · cases hdup
          · cases hdup
            rcases (mem_redirect img hmem newfd d).1 h' with rfl | h''
            · omega
            · exact h''
        · cases hdup
      · cases hdup

/-- **The setup only removes descriptors from `startFd` on**, whatever its calls return. -/
theorem setup_fds {o : ChildOutcomes} :
    ∀ (calls : List SetupCall), (∀ c ∈ calls, ∀ n oldfd newfd, c = .dup2 n oldfd newfd → newfd < startFd) →
      ∀ {img img' : Image}, setup o img calls = .ok img' →
        ∀ d, startFd ≤ d → d ∈ img'.child.fds → d ∈ img.child.fds
  | [], _, img, img', h => by cases h; exact fun _ _ => id
  | c :: cs, hc, img, img', h => by
    simp only [setup, List.foldlM_cons] at h
    cases hr : c.run o img with
    | error e => rw [hr] at h; cases h
    | ok img'' =>
      rw [hr] at h
      exact fun d hd h' => SetupCall.run_fds (hc c (List.mem_cons_self _ _)) hr d hd
        (setup_fds cs (fun c' h'' => hc c' (List.mem_cons_of_mem _ h'')) h d hd h')

theorem setupCalls_dup2 (fds : FileDescriptors) :
    ∀ c ∈ setupCalls fds, ∀ n oldfd newfd, c = .dup2 n oldfd newfd → newfd < startFd := by
  intro c hc n oldfd newfd e
  subst e
  simp [setupCalls] at hc
  rcases hc with ⟨-, -, rfl⟩ | ⟨-, -, rfl⟩ | ⟨-, -, rfl⟩ <;> decide

theorem setup_append (o : ChildOutcomes) (img : Image) (a b : List SetupCall) :
    setup o img (a ++ b) = setup o img a >>= fun img => setup o img b :=
  List.foldlM_append _ _ _ _

/-- **What the parent's scan can see**: at any point of the setup, the child holds every descriptor from `startFd` on
that it holds at the end of it, and none from `startFd` on that it did not hold at `fork`. -/
theorem setup_take {oc : ChildOutcomes} {img img' imgj : Image} {fds : FileDescriptors} (j : Nat)
    (h : setup oc img (setupCalls fds) = .ok img') (hj : setup oc img ((setupCalls fds).take j) = .ok imgj) :
    (∀ d, startFd ≤ d → d ∈ img'.child.fds → d ∈ imgj.child.fds) ∧
      ∀ d, startFd ≤ d → d ∈ imgj.child.fds → d ∈ img.child.fds := by
  have hall := setupCalls_dup2 fds
  rw [← List.take_append_drop j (setupCalls fds), setup_append, hj, ok_bind] at h
  exact ⟨setup_fds _ (fun c hc => hall c (List.mem_of_mem_drop hc)) h,
    setup_fds _ (fun c hc => hall c (List.mem_of_mem_take hc)) hj⟩

/-! ## The setup when every call succeeds -/

section Setup

variable {oc : ChildOutcomes} (hs : oc.setpgid = none) (hm : oc.sigmask = none) (hd : ∀ n, oc.dup2 n = none)
include hs hm hd

/-- **The setup when every call succeeds**, on a child holding the three ends it keeps (`i`, `o`, `e`, none of them among
the four it closes, `o` not `0` and `e` neither `0` nor `1`): it closes the four, and points `STDIN_FILENO`,
`STDOUT_FILENO` and `STDERR_FILENO` at the files of `i`, `o` and `e`. -/
theorem setup_ok (img : Image) (fds : FileDescriptors) {i o e : Nat} (hi : fds.Input.1 = i) (ho : fds.Output.2 = o)
    (he : fds.Error.2 = e) (hmem : i ∈ img.child.fds ∧ o ∈ img.child.fds ∧ e ∈ img.child.fds)
    (hclosed : ∀ x ∈ [fds.Input.2, fds.Output.1, fds.Error.1, fds.CloseFd.2], x ≠ i ∧ x ≠ o ∧ x ≠ e)
    (ho0 : o ≠ 0) (he0 : e ≠ 0 ∧ e ≠ 1) (hnd : [fds.Input.2, fds.Output.1, fds.Error.1, fds.CloseFd.2].Nodup)
    (hopen : ∀ x ∈ [fds.Input.2, fds.Output.1, fds.Error.1, fds.CloseFd.2], ∃ n : Nat, x = n ∧ n ∈ img.child.fds) :
    ∃ img', setup oc img (setupCalls fds) = .ok img' ∧ img'.child.errno = img.child.errno ∧ ∀ d,
      (d ∈ img'.child.fds ↔ d < startFd ∨
        d ∈ img.child.fds ∧ ∀ x ∈ [fds.Input.2, fds.Output.1, fds.Error.1, fds.CloseFd.2], (d : Int) ≠ x) ∧
      img'.file d = if d = 0 then img.file i else if d = 1 then img.file o else if d = 2 then img.file e else img.file d := by
  let img4 := (((img.close fds.Input.2).close fds.Output.1).close fds.Error.1).close fds.CloseFd.2
  have h4 : ∀ d, d ∈ img4.child.fds ↔
      d ∈ img.child.fds ∧ ∀ x ∈ [fds.Input.2, fds.Output.1, fds.Error.1, fds.CloseFd.2], (d : Int) ≠ x := by
    intro d
    simp only [img4, mem_close, List.mem_cons, List.mem_singleton, forall_eq_or_imp, forall_eq, List.not_mem_nil,
      false_imp_iff, implies_true, and_true, and_assoc]
  have hi4 : i ∈ img4.child.fds := (h4 i).2 ⟨hmem.1, fun x hx => ((hclosed x hx).1).symm⟩
  have ho5 : o ∈ (img4.redirect i 0).child.fds :=
    (mem_redirect img4 hi4 0 o).2 (.inr ((h4 o).2 ⟨hmem.2.1, fun x hx => ((hclosed x hx).2.1).symm⟩))
  have he6 : e ∈ ((img4.redirect i 0).redirect o 1).child.fds :=
    (mem_redirect _ ho5 1 e).2 (.inr ((mem_redirect img4 hi4 0 e).2
      (.inr ((h4 e).2 ⟨hmem.2.2, fun x hx => ((hclosed x hx).2.2).symm⟩))))
  refine ⟨(((img4.redirect i 0).redirect o 1).redirect e 2), ?_,
    by simpa only [redirect_errno] using foldl_close_errno _ img hnd hopen, fun d => ⟨?_, ?_⟩⟩
  · simp only [setup, setupCalls, List.foldlM_cons, List.foldlM_nil, SetupCall.run, hs, hm, hd, hi, ho, he,
      Option.isSome_none, Bool.false_eq_true, if_false, ok_bind, STDIN_FILENO, STDOUT_FILENO, STDERR_FILENO,
      dup2_of_mem _ hi4, dup2_of_mem _ ho5, dup2_of_mem _ he6]
    rfl
  · rw [mem_redirect _ he6, mem_redirect _ ho5, mem_redirect _ hi4, h4, ← or_assoc, ← or_assoc]
    exact or_congr_left (by unfold startFd; constructor <;> intro h <;> omega)
  · simp only [redirect_file, close_file, img4]
    split_ifs <;> first | rfl | omega

/-- The setup on the table `fork` hands over after `createPipes`: the ends come in order, so the calls succeed and
`STDIN_FILENO`, `STDOUT_FILENO` and `STDERR_FILENO` refer to the input pipe's read end and the output and error pipes'
write ends. -/
theorem setup_ofFork {k : Outcomes} {p q : Proc} {fds : FileDescriptors} (hc : createPipes k p = (.ok fds, q))
    (errno : Nat) :
    ∃ img', setup oc (Image.ofFork q.fds errno) (setupCalls fds) = .ok img' ∧ img'.child.errno = errno ∧ ∀ d,
      (d ∈ img'.child.fds ↔ d < startFd ∨
        (d : Int) ∈ q.fds ∧ ∀ x ∈ [fds.Input.2, fds.Output.1, fds.Error.1, fds.CloseFd.2], (d : Int) ≠ x) ∧
      img'.file d = if d = 0 then fds.Input.1 else if d = 1 then fds.Output.2 else if d = 2 then fds.Error.2 else d := by
  obtain ⟨rfl, -, -⟩ := createPipes_table hc
  have hord := createPipes_ordered hc
  have hclosed : ∀ x ∈ [fds.Input.2, fds.Output.1, fds.Error.1, fds.CloseFd.2],
      x ≠ (fds.Input.1.toNat : Int) ∧ x ≠ (fds.Output.2.toNat : Int) ∧ x ≠ (fds.Error.2.toNat : Int) := by
    simp only [List.mem_cons, List.not_mem_nil, or_false, forall_eq_or_imp, forall_eq]; omega
  have ho0 : fds.Output.2.toNat ≠ 0 := by omega
  have he0 : fds.Error.2.toNat ≠ 0 ∧ fds.Error.2.toNat ≠ 1 := by omega
  have hnd : [fds.Input.2, fds.Output.1, fds.Error.1, fds.CloseFd.2].Nodup := by
    simp only [List.nodup_cons, List.mem_cons, List.not_mem_nil, List.nodup_nil, or_false, not_false_eq_true,
      and_true]
    omega
  have hmem : ∀ x ∈ fds.ends, x.toNat ∈ (Image.ofFork (fds.ends ++ p.fds) errno).child.fds := fun x hx => by
    rw [mem_ofFork, Int.toNat_of_nonneg (by
      simp only [FileDescriptors.ends, List.mem_cons, List.not_mem_nil, or_false] at hx; omega)]
    exact List.mem_append_left _ hx
  have hopen : ∀ x ∈ [fds.Input.2, fds.Output.1, fds.Error.1, fds.CloseFd.2],
      ∃ n : Nat, x = n ∧ n ∈ (Image.ofFork (fds.ends ++ p.fds) errno).child.fds := fun x hx => by
    simp only [List.mem_cons, List.not_mem_nil, or_false] at hx
    refine ⟨x.toNat, (Int.toNat_of_nonneg (by omega)).symm, hmem x ?_⟩
    rcases hx with rfl | rfl | rfl | rfl <;> simp [FileDescriptors.ends]
  have hi : fds.Input.1 = (fds.Input.1.toNat : Int) := (Int.toNat_of_nonneg (by omega)).symm
  have ho : fds.Output.2 = (fds.Output.2.toNat : Int) := (Int.toNat_of_nonneg (by omega)).symm
  have he : fds.Error.2 = (fds.Error.2.toNat : Int) := (Int.toNat_of_nonneg (by omega)).symm
  obtain ⟨img', h', herr, hd'⟩ := setup_ok hs hm hd _ fds hi ho he
    ⟨hmem _ (by simp [FileDescriptors.ends]), hmem _ (by simp [FileDescriptors.ends]),
      hmem _ (by simp [FileDescriptors.ends])⟩ hclosed ho0 he0 hnd hopen
  refine ⟨img', h', herr, fun d => ⟨by rw [(hd' d).1, mem_ofFork], ?_⟩⟩
  rw [(hd' d).2, ofFork_file, Int.ofNat_eq_coe, Int.ofNat_eq_coe, Int.ofNat_eq_coe, Int.ofNat_eq_coe, ← hi, ← ho, ← he]

end Setup

/-! ## From the setup to `exec` -/

/-- **From the setup on, whatever the parent sends**: with the setup leaving `img'`, the parent's stream descriptors
below `2^31` then `-1` or not (the form `sendFileDescriptors_sent` gives every outcome), and `exec` succeeding, the
child finishes on some schedule, and on every schedule on which it finishes it execs `rsandbox` holding what
`closeParentFds` and the `close` of its pipe left of `img'`. -/
theorem execChild_ends (k : Outcomes) {oc : ChildOutcomes} (hx : oc.exec = none) (i : Impl) (fds : FileDescriptors)
    (maxFd : Nat) {img img' : Image} (h : setup oc img (setupCalls fds) = .ok img') (sent : List Nat) (ended : Bool)
    (hv : (sendFileDescriptors k).2 = sent.map (↑) ++ if ended then [-1] else []) (hs : ∀ fd ∈ sent, fd < 2 ^ 31)
    (he : ended = true ∨ img'.child.errno ≠ EINTR ∧ img'.child.errno ≠ EAGAIN) :
    (∃ sched e, execChild (parentWriter k) oc i fds maxFd img sched = some e) ∧
    ∀ sched e, execChild (parentWriter k) oc i fds maxFd img sched = some e → ∃ table, e = execRSandbox i table ∧ ∀ d f,
      (d, f) ∈ table ↔ ((d ∈ img'.child.fds ∧ ¬(d ∈ sent ∧ startFd ≤ d ∧ d < maxFd ∧ d ≠ fds.CloseFd.1.toNat) ∧
        ¬((!ended || sent.isEmpty) ∧ startFd ≤ d ∧ d < sweepBound maxFd ∧ d ≠ fds.CloseFd.1.toNat)) ∧
          (d : Int) ≠ fds.CloseFd.1) ∧ f = img'.file d := by
  obtain ⟨⟨sched, t, ht, hr⟩, hall⟩ := init_run_returns k sent ended hv hs img'.child he fds.CloseFd.1.toNat maxFd
  rw [init_eq] at ht hall
  refine ⟨⟨sched, _, by simp only [execChild, h, ht, Option.some_bind, hr, if_true]; rfl⟩, fun sched e he' => ?_⟩
  simp only [execChild, h] at he'
  obtain ⟨t, ht, he'⟩ := Option.bind_eq_some.1 he'
  split at he'
  · rename_i hr
    cases he'
    simp only [hx]
    refine ⟨_, rfl, fun d f => ?_⟩
    rw [mem_table, mem_close, close_file, hall sched t ht hr d]
  · cases he'

/-! ## The launch, both sides -/

/-- **The child's standard streams are the parent's pipes.**  When `getrlimit`, the four `pipe()` calls, `fork` and the
child's own calls succeed, the parent's scan of `/proc/<pid>/fd`, taken at any point of the child's setup, and each
write of `sendFileDescriptors` succeed, and the descriptors open at `fork` are below `2^31` and the hard limit:
`run()` returns `Success()` in the parent, which keeps the input pipe's write end and the output and error pipes' read
ends; the child finishes on some schedule, and on every schedule on which it finishes it execs `rsandbox` holding
exactly `STDIN_FILENO`, `STDOUT_FILENO` and `STDERR_FILENO`, on the other ends of those three pipes. -/
theorem run_wiresStdio (k : Outcomes) (oc : ChildOutcomes) (i : Impl) (p : Proc) {lim : Nat × Nat}
    {fds : FileDescriptors} {q : Proc} {c : Forked} (hl : k.getrlimit = .ok lim) (hc : createPipes k p = (.ok fds, q))
    (hf : k.fork = .ok c) (hoc : oc.setpgid = none ∧ oc.sigmask = none ∧ (∀ n, oc.dup2 n = none) ∧ oc.exec = none)
    (hq : ∀ fd ∈ q.fds, fd < 2 ^ 31 ∧ fd < lim.2) (errno j : Nat) {img : Image}
    (hj : setup oc (Image.ofFork q.fds errno) ((setupCalls fds).take j) = .ok img) {names : List String}
    (hn : names.Perm (procFdNames img.child.fds)) (hk : k.openFds = getOpenFds (.ok names))
    (hw : ∀ n, k.fdWrite n = none) (he : k.endWrite = none) :
    (launch k i p).1 = .returned .success ∧ (launch k i p).2.1.StdInFd = fds.Input.2 ∧
      (launch k i p).2.1.StdOutFd = fds.Output.1 ∧ (launch k i p).2.1.StdErrFd = fds.Error.1 ∧
      (∃ sched e, execChild (parentWriter k) oc i fds lim.2 (Image.ofFork q.fds errno) sched = some e) ∧
      ∀ sched e, execChild (parentWriter k) oc i fds lim.2 (Image.ofFork q.fds errno) sched = some e →
        ∃ table, e = execRSandbox i table ∧ ∀ d f, (d, f) ∈ table ↔ d = STDIN_FILENO ∧ f = fds.Input.1 ∨
          d = STDOUT_FILENO ∧ f = fds.Output.2 ∨ d = STDERR_FILENO ∧ f = fds.Error.2 := by
  obtain ⟨hs, hm, hd, hx⟩ := hoc
  obtain ⟨hqp, hnd, -⟩ := createPipes_table hc
  have hord := createPipes_ordered hc
  obtain ⟨img1, h1, -, hspec⟩ := setup_ofFork hs hm hd hc errno
  obtain ⟨hcov, hfork⟩ := setup_take j h1 hj
  -- what the scan can list: the standard streams and descriptors open at `fork`
  have hbound : ∀ d ∈ img.child.fds, d < 2 ^ 31 := fun d hd' => by
    by_cases h3 : d < startFd
    · unfold startFd at h3; omega
    · have := (hq _ ((mem_ofFork _ _ _).1 (hfork d (by omega) hd'))).1; omega
  obtain ⟨scan, hscan, hperm⟩ := getOpenFds_perm (fun d hd' => by have := hbound d hd'; omega) hn
  -- the control pipe receives the whole scan, then `-1`
  obtain ⟨sent, ended, hv, -, hend, hsent⟩ := sendFileDescriptors_sent k
  rw [hk.trans hscan] at hend hsent
  obtain rfl : scan = sent := (hsent hw).symm
  obtain rfl : ended = true := hend.2 ⟨he, rfl⟩
  obtain ⟨hex, hall⟩ := execChild_ends k hx i fds lim.2 h1 scan true hv
    (fun d hd' => hbound d (hperm.mem_iff.1 hd')) (.inl rfl)
  have hlaunch := @launch_parent k i p lim fds c.pid (q.fork c.pid c.status) hl (hqp ▸ hc) hnd
    (by simp [forkCall, hf, hqp]) (by have := c.pid_pos; omega)
  refine ⟨by rw [hlaunch, sendFileDescriptors_ok k (hk.trans hscan) hw he], by rw [hlaunch], by rw [hlaunch],
    by rw [hlaunch], hex, fun sched e he' => ?_⟩
  obtain ⟨table, rfl, htab⟩ := hall sched e he'
  refine ⟨table, rfl, fun d f => ?_⟩
  -- the control pipe's read end, which the scan lists, is above the standard streams
  have hC : (fds.CloseFd.1.toNat : Int) = fds.CloseFd.1 := Int.toNat_of_nonneg (by omega)
  have hCmem : fds.CloseFd.1.toNat ∈ scan := hperm.mem_iff.2 (hcov _ (by unfold startFd; omega)
    ((hspec _).1.2 (.inr ⟨by rw [hC, hqp]; simp [FileDescriptors.ends], by
      simp only [List.mem_cons, List.not_mem_nil, or_false, forall_eq_or_imp, forall_eq, hC]; omega⟩)))
  have hfin : ((d ∈ img1.child.fds ∧ ¬(d ∈ scan ∧ startFd ≤ d ∧ d < lim.2 ∧ d ≠ fds.CloseFd.1.toNat) ∧
      ¬((!true || scan.isEmpty) ∧ startFd ≤ d ∧ d < sweepBound lim.2 ∧ d ≠ fds.CloseFd.1.toNat)) ∧
        (d : Int) ≠ fds.CloseFd.1) ↔ d < startFd := by
    have hne : scan.isEmpty = false := List.isEmpty_eq_false_iff_exists_mem.2 ⟨_, hCmem⟩
    simp only [hne, Bool.not_true, Bool.or_false, Bool.false_eq_true, false_and, not_false_eq_true, and_true]
    constructor
    · rintro ⟨⟨hd1, hA⟩, hdC⟩
      by_contra h3
      have h3 : startFd ≤ d := by omega
      have := (hq _ (((hspec d).1.1 hd1).resolve_left (by omega)).1).2
      exact hA ⟨hperm.mem_iff.2 (hcov d h3 hd1), h3, by omega, by omega⟩
    · intro h3
      exact ⟨⟨(hspec d).1.2 (.inl h3), fun h => by omega⟩, by unfold startFd at h3; omega⟩
  rw [htab d f, hfin, (hspec d).2]
  unfold startFd STDIN_FILENO STDOUT_FILENO STDERR_FILENO
  by_cases h3 : 3 ≤ d
  · exact iff_of_false (fun h => by omega) (by omega)
  · rcases (by omega : d = 0 ∨ d = 1 ∨ d = 2) with rfl | rfl | rfl <;> simp

theorem run_wiresStdio_ls :
    let k := { Outcomes.allSucceed ⟨4242, by decide, 0⟩ [] "" [] [] with
      openFds := getOpenFds (.ok (procFdNames [10, 9, 8, 7, 6, 5, 4, 3, 0, 1, 2])) }
    let oc : ChildOutcomes := ⟨none, none, fun _ => none, none⟩
    let i := Impl.new ⟨⟨"/usr/lib/rstudio-server/bin/rsandbox"⟩, (·.path), "/usr/bin"⟩ lsOptions
    let fds : FileDescriptors := ⟨(3, 4), (5, 6), (7, 8), (9, 10)⟩
    let img := Image.ofFork [10, 9, 8, 7, 6, 5, 4, 3, 0, 1, 2] 0
    (launch k i ⟨[0, 1, 2], [], []⟩).1 = .returned .success ∧ (launch k i ⟨[0, 1, 2], [], []⟩).2.1.StdInFd = 4 ∧
      (launch k i ⟨[0, 1, 2], [], []⟩).2.1.StdOutFd = 5 ∧ (launch k i ⟨[0, 1, 2], [], []⟩).2.1.StdErrFd = 7 ∧
      (∃ sched e, execChild (parentWriter k) oc i fds 4096 img sched = some e) ∧
      ∀ sched e, execChild (parentWriter k) oc i fds 4096 img sched = some e →
        ∃ table, e = execRSandbox i table ∧ ∀ d f, (d, f) ∈ table ↔ d = STDIN_FILENO ∧ f = 3 ∨
          d = STDOUT_FILENO ∧ f = 6 ∨ d = STDERR_FILENO ∧ f = 8 :=
  by
  intro k oc i fds img
  exact @run_wiresStdio k oc i ⟨[0, 1, 2], [], []⟩ (1024, 4096) fds ⟨[10, 9, 8, 7, 6, 5, 4, 3, 0, 1, 2], [], []⟩
    ⟨4242, by decide, 0⟩ rfl (by rfl) rfl ⟨rfl, rfl, fun _ => rfl, rfl⟩ (by decide) 0 0 img rfl _ (List.Perm.refl _)
    (by rfl) (fun _ => rfl) rfl

/-- **When the scan fails, what the sweep leaves reaches `rsandbox`.**  When the child's calls succeed, the parent's scan
of `/proc/<pid>/fd` fails and its write of `-1` succeeds: the child finishes on some schedule, and on every schedule on
which it finishes it execs `rsandbox` holding its three standard streams on the pipes, and every descriptor it held at
`fork` from `startFd` on that is not below the limit narrowed to 32 bits, other than the ends it closed. -/
theorem execChild_scanFails (k : Outcomes) (oc : ChildOutcomes) (i : Impl) (p : Proc) {fds : FileDescriptors}
    {q : Proc} (hc : createPipes k p = (.ok fds, q))
    (hoc : oc.setpgid = none ∧ oc.sigmask = none ∧ (∀ n, oc.dup2 n = none) ∧ oc.exec = none) (errno maxFd : Nat)
    {e : Nat} (hk : k.openFds = .error e) (he : k.endWrite = none) :
    (∃ sched x, execChild (parentWriter k) oc i fds maxFd (Image.ofFork q.fds errno) sched = some x) ∧
      ∀ sched x, execChild (parentWriter k) oc i fds maxFd (Image.ofFork q.fds errno) sched = some x →
        ∃ table, x = execRSandbox i table ∧ ∀ d f, (d, f) ∈ table ↔
          (d = STDIN_FILENO ∧ f = fds.Input.1 ∨ d = STDOUT_FILENO ∧ f = fds.Output.2 ∨
            d = STDERR_FILENO ∧ f = fds.Error.2) ∨
          startFd ≤ d ∧ sweepBound maxFd ≤ d ∧ (d : Int) ∈ q.fds ∧
            (d : Int) ∉ [fds.Input.2, fds.Output.1, fds.Error.1, fds.CloseFd.1, fds.CloseFd.2] ∧ f = d := by
  obtain ⟨hs, hm, hd, hx⟩ := hoc
  have hord := createPipes_ordered hc
  obtain ⟨img1, h1, -, hspec⟩ := setup_ofFork hs hm hd hc errno
  -- a failed scan sends nothing but `-1`
  obtain ⟨sent, ended, hv, hp, hend, -⟩ := sendFileDescriptors_sent k
  rw [hk] at hp hend
  obtain rfl : sent = [] := List.prefix_nil.1 hp
  obtain rfl : ended = true := hend.2 ⟨he, rfl⟩
  obtain ⟨hex, hall⟩ := execChild_ends k hx i fds maxFd h1 [] true hv (by simp) (.inl rfl)
  refine ⟨hex, fun sched x hx' => ?_⟩
  obtain ⟨table, rfl, htab⟩ := hall sched x hx'
  refine ⟨table, rfl, fun d f => ?_⟩
  have hC : (fds.CloseFd.1.toNat : Int) = fds.CloseFd.1 := Int.toNat_of_nonneg (by omega)
  rw [htab d f, (hspec d).2]
  simp only [List.not_mem_nil, false_and, not_false_eq_true, Bool.not_true, List.isEmpty_nil, Bool.or_true, true_and,
    List.mem_cons, not_or, STDIN_FILENO, STDOUT_FILENO, STDERR_FILENO]
  by_cases h3 : d < startFd
  · have hd1 := (hspec d).1.2 (.inl h3)
    unfold startFd at h3
    rcases (by omega : d = 0 ∨ d = 1 ∨ d = 2) with rfl | rfl | rfl <;> simp [hd1, startFd] <;> omega
  · rw [(hspec d).1]
    unfold startFd at h3 ⊢
    have hC1 : d ≠ fds.CloseFd.1.toNat ↔ (d : Int) ≠ fds.CloseFd.1 := by omega
    have h012 : d ≠ 0 ∧ d ≠ 1 ∧ d ≠ 2 ∧ 3 ≤ d := by omega
    rcases Nat.lt_or_ge d (sweepBound maxFd) with hsB | hsB
    · simp [h3, hsB, Nat.not_le.2 hsB, hC1, h012]
    · simp [h3, hsB, hC1, h012, and_assoc, and_left_comm]

theorem execChild_scanFails_infinity :
    let k := { Outcomes.allSucceed ⟨4242, by decide, 0⟩ [] "" [] [] with openFds := .error EMFILE }
    let oc : ChildOutcomes := ⟨none, none, fun _ => none, none⟩
    let i := Impl.new ⟨⟨"/usr/lib/rstudio-server/bin/rsandbox"⟩, (·.path), "/usr/bin"⟩ lsOptions
    let fds : FileDescriptors := ⟨(3, 4), (5, 6), (7, 8), (9, 10)⟩
    let q : Proc := ⟨[10, 9, 8, 7, 6, 5, 4, 3, 0, 1, 2, 2000], [], []⟩
    (∃ sched x, execChild (parentWriter k) oc i fds RLIM_INFINITY (Image.ofFork q.fds 0) sched = some x) ∧
      ∀ sched x, execChild (parentWriter k) oc i fds RLIM_INFINITY (Image.ofFork q.fds 0) sched = some x →
        ∃ table, x = execRSandbox i table ∧ ∀ d f, (d, f) ∈ table ↔
          (d = STDIN_FILENO ∧ f = 3 ∨ d = STDOUT_FILENO ∧ f = 6 ∨ d = STDERR_FILENO ∧ f = 8) ∨
          startFd ≤ d ∧ sweepBound RLIM_INFINITY ≤ d ∧ (d : Int) ∈ q.fds ∧ (d : Int) ∉ [4, 5, 7, 9, 10] ∧ f = d := by
  intro k oc i fds q
  exact @execChild_scanFails k oc i ⟨[0, 1, 2, 2000], [], []⟩ fds q (by rfl) ⟨rfl, rfl, fun _ => rfl, rfl⟩ 0
    RLIM_INFINITY EMFILE rfl rfl

/-- **When `fork` fails with `EAGAIN` and `pid` holds `0`, `run()` never returns.**  `posixCall` leaves `pid` as it was
and `errno` at `EAGAIN`, and with `pid` at `0` the calling process runs `execChild` itself.  With its own calls
succeeding it points its standard streams at the pipes and closes the control pipe's write end, which no other process
holds; `closeParentFds` then reads end of file with the `EAGAIN` `fork` left, and retries for good: on no schedule does it
finish. -/
theorem run_forkFails_spins (k : Outcomes) (oc : ChildOutcomes) (i : Impl) (p : Proc) {lim : Nat × Nat}
    {fds : FileDescriptors} {q : Proc} (hl : k.getrlimit = .ok lim) (hc : createPipes k p = (.ok fds, q))
    (hf : k.fork = .error EAGAIN) (h0 : k.pidUnset = 0)
    (hoc : oc.setpgid = none ∧ oc.sigmask = none ∧ ∀ n, oc.dup2 n = none) :
    (launch k i p).1 = .execChild lim.2 ∧
      ∀ sched, execChild .closed oc i fds lim.2 (Image.ofFork q.fds EAGAIN) sched = none := by
  obtain ⟨hs, hm, hd⟩ := hoc
  obtain ⟨img1, h1, herr, -⟩ := setup_ofFork hs hm hd hc EAGAIN
  refine ⟨by simp [launch, hl, hc, forkCall, hf, h0], fun sched => ?_⟩
  have hspin : ∀ t, (⟨.closed, [], img1.child, .reading false⟩ : Exchange).run fds.CloseFd.1.toNat lim.2 sched =
      some t → t = ⟨.closed, [], img1.child, .reading false⟩ := fun t ht =>
    run_invariant (fun t => t = ⟨.closed, [], img1.child, .reading false⟩)
      (fun h' hs' => by subst hs'; simp [Exchange.parentStep] at h')
      (fun h' hs' => by
        subst hs'
        rw [childStep_spin rfl rfl rfl (.inr herr)] at h'
        exact (Option.some.inj h').symm) sched ht rfl
  simp only [execChild, h1]
  cases ht : (⟨.closed, [], img1.child, .reading false⟩ : Exchange).run fds.CloseFd.1.toNat lim.2 sched with
  | none => rfl
  | some t => rw [hspin t ht]; rfl

theorem run_forkFails_spins_eagain :
    let k := { Outcomes.allSucceed ⟨4242, by decide, 0⟩ [] "" [] [] with fork := .error EAGAIN }
    let oc : ChildOutcomes := ⟨none, none, fun _ => none, none⟩
    let i := Impl.new ⟨⟨"/usr/lib/rstudio-server/bin/rsandbox"⟩, (·.path), "/usr/bin"⟩ lsOptions
    let fds : FileDescriptors := ⟨(3, 4), (5, 6), (7, 8), (9, 10)⟩
    (launch k i ⟨[0, 1, 2], [], []⟩).1 = .execChild 4096 ∧
      ∀ sched, execChild .closed oc i fds 4096 (Image.ofFork [10, 9, 8, 7, 6, 5, 4, 3, 0, 1, 2] EAGAIN) sched = none := by
  intro k oc i fds
  exact @run_forkFails_spins k oc i ⟨[0, 1, 2], [], []⟩ (1024, 4096) fds ⟨[10, 9, 8, 7, 6, 5, 4, 3, 0, 1, 2], [], []⟩
    rfl (by rfl) rfl rfl ⟨rfl, rfl, fun _ => rfl⟩

end Process
end Launcher
