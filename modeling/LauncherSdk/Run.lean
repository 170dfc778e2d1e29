import LauncherSdk.Redact
import LauncherSdk.Posix
/-!
# Run — `AbstractChildProcess::run` and `SyncChildProcess::run`, the parent's side (Process.cpp)

The calls the parent makes to launch a child and collect what it writes, each with the outcome the kernel gives it
(`Outcomes`): `getFilesLimit`, `createPipes`, `fork`, `sendFileDescriptors`, `writeToPipe`, `readFromPipe`,
`waitpid`, and `terminate`'s `kill`.  `createPipes` closes what it opened when a later `pipe()` fails
(`createPipes_spec`), but nothing else on the path is released: `run` never stores the child's pid, so `Pid` stays
`-1`, `terminate` signals nothing and `waitpid(-1)` reaps whichever child ends first (`exitCodes_swapped`); the read
ends of the output and error pipes stay open whatever happens (`launch_parent`, `collect_fds`); and
`SyncChildProcess::run` returns `Success()` whenever `waitpid` succeeds, whatever the stdin write and the reads returned
(`collect_error`).  The control pipe receives the scan up to the first write that fails, then `-1` when every write
succeeded (`sendFileDescriptors_sent`).
-/
namespace Launcher
namespace Process

open Posix

/-- `Error`: `Success()`, or a system error with the errno it carries (`createErrorFromBoostError(io_error)` carries
`EIO`). -/
inductive Error where
  | success
  | systemError (code : Nat)
  deriving DecidableEq, Repr

/-- `if (error)`. -/
def Error.isError : Error → Bool
  | .success => false
  | .systemError _ => true

/-- What the reads of a pipe return, in order: data, then end of file (`none`) or a failure with its errno. -/
structure Reads where
  chunks : List String
  last : Option Nat
  deriving DecidableEq, Repr

/-- A child `fork()` created, as the parent sees it: its pid, which is positive, and the wait status it ends with. -/
structure Forked where
  pid : Nat
  pid_pos : 0 < pid
  status : Nat

/-- What each system call of the launch path returns, an input of the model; a failed call reports its errno (spec,
§7).  The calls go through `posixCall` of PosixSystem.hpp (not under src/), which retries a call while it fails with
`EINTR` and writes its result only when it succeeds: each outcome is that of the last try, and `pidUnset` is what `pid`
holds when `fork` fails.  `pipe n`
and `fdWrite n` are the errors of the `n`-th `pipe()` and of the `n`-th descriptor written to the control pipe,
`endWrite` that of the write of `-1`, and `waitpid` an error the wait fails with besides the kernel's `ECHILD`. -/
structure Outcomes where
  getrlimit : Except Nat (Nat × Nat)
  pipe : Nat → Option Nat
  fork : Except Nat Forked
  pidUnset : Int
  openFds : Except Nat (List Nat)
  fdWrite : Nat → Option Nat
  endWrite : Option Nat
  stdinWrite : Except Nat Nat
  stdout : Reads
  stderr : Reads
  waitpid : Option Nat
  kill : Option Nat

/-- `FileDescriptors`: the read and the write end of each of the four pipes. -/
structure FileDescriptors where
  Input : Int × Int
  Output : Int × Int
  Error : Int × Int
  CloseFd : Int × Int
  deriving DecidableEq, Repr

/-- `closePipe(int*)`: the read end, then the write end. -/
def closePipe (p : Proc) (fds : Int × Int) : Proc := (p.close fds.1).close fds.2

/-- The `n`-th `pipe()` of `createPipes`. -/
def pipeCall (k : Outcomes) (n : Nat) (p : Proc) : Except Nat ((Int × Int) × Proc) :=
  match k.pipe n with
  | some e => .error e
  | none => .ok p.pipe

/-- `createPipes`: four `pipe()` calls; when one fails, the pipes opened before it are closed. -/
def createPipes (k : Outcomes) (p : Proc) : Except Nat FileDescriptors × Proc :=
  match pipeCall k 0 p with
  | .error e => (.error e, p)
  | .ok (input, p) =>
  match pipeCall k 1 p with
  | .error e => (.error e, closePipe p input)
  | .ok (output, p) =>
  match pipeCall k 2 p with
  | .error e => (.error e, closePipe (closePipe p input) output)
  | .ok (error, p) =>
  match pipeCall k 3 p with
  | .error e => (.error e, closePipe (closePipe (closePipe p input) output) error)
  | .ok (closeFd, p) => (.ok ⟨input, output, error, closeFd⟩, p)

/-- The loop of `sendFileDescriptors` from its `n`-th write: each descriptor written as a 4-byte value until a write
fails; the error, and the values the pipe received. -/
def writeFds (k : Outcomes) (n : Nat) : List Nat → Error × List Int
  | [] => (.success, [])
  | fd :: fds =>
    match k.fdWrite n with
    | some e => (.systemError e, [])
    | none => let r := writeFds k (n + 1) fds; (r.1, fd :: r.2)

/-- The write of `-1` that ends the stream, with `error` as it stands before it: `if (lastWriteError) return error;`. -/
def streamEnd (k : Outcomes) (error : Error) (sent : List Int) : Error × List Int :=
  match k.endWrite with
  | some _ => (error, sent)
  | none => (.success, sent ++ [-1])

/-- `sendFileDescriptors`: what it returns, and the values the control pipe received.  A failed scan is only logged. -/
def sendFileDescriptors (k : Outcomes) : Error × List Int :=
  match k.openFds with
  | .error e => streamEnd k (.systemError e) []
  | .ok fds =>
    match writeFds k 0 fds with
    | (.success, sent) => streamEnd k .success sent
    | r => r

/-- How `AbstractChildProcess::run` ends in the calling process: it returns, or the process runs `execChild` (when
`pid` is `0`), which execs `rsandbox` or exits and never returns. -/
inductive RunExit where
  | returned (error : Error)
  | execChild (maxFd : Nat)
  deriving DecidableEq, Repr

/-- `posixCall<pid_t>(::fork, ERROR_LOCATION, &pid)` in the calling process: what `pid` holds after it, and the
process. -/
def forkCall (k : Outcomes) (p : Proc) : Int × Proc :=
  match k.fork with
  | .ok c => (c.pid, p.fork c.pid c.status)
  | .error _ => (k.pidUnset, p)

/-- `AbstractChildProcess::run` after `logProcessSpawn`.  The error of `fork` is overwritten by that of
`sendFileDescriptors`. -/
def launch (k : Outcomes) (i : Impl) (p : Proc) : RunExit × Impl × Proc :=
  match k.getrlimit with
  | .error e => (.returned (.systemError e), i, p)
  | .ok (_, hardLimit) =>
    match createPipes k p with
    | (.error e, p) => (.returned (.systemError e), i, p)
    | (.ok fds, p) =>
      let (pid, p) := forkCall k p
      if pid = 0 then (.execChild hardLimit, i, p)
      else
        let p := (((p.close fds.Input.1).close fds.Output.2).close fds.Error.2).close fds.CloseFd.1
        let i := { i with StdInFd := fds.Input.2, StdOutFd := fds.Output.1, StdErrFd := fds.Error.1 }
        (.returned (sendFileDescriptors k).1, i, p.close fds.CloseFd.2)

/-- `AbstractChildProcess::run`, or `none` when `logProcessSpawn` does not return within `fuel` passes. -/
def AbstractChildProcess.run (fuel : Nat) (k : Outcomes) (i : Impl) (p : Proc) : Option (RunExit × Impl × Proc) :=
  (logProcessSpawn fuel i).map fun _ => launch k i p

/-- `AbstractChildProcess::terminate`, with the outcome of its `kill`. -/
def AbstractChildProcess.terminate (kill : Option Nat) (i : Impl) (p : Proc) : Error × Proc :=
  if i.Pid = -1 then (.systemError ESRCH, p)
  else
    let p := p.kill (-i.Pid) SIGTERM
    match kill with
    | none => (.success, p)
    | some e => (if e = EPERM ∨ e = ESRCH then .success else .systemError e, p)

/-- `writeToPipe(in_fd, in_data, in_eof)`, with the outcome of its `write`, the bytes written. -/
def writeToPipe (w : Except Nat Nat) (fd : Int) (data : String) (eof : Bool) (p : Proc) : Error × Proc :=
  match w with
  | .error e => (.systemError e, p)
  | .ok bytesWritten =>
    let p := if eof then p.close fd else p
    (if bytesWritten ≠ data.utf8ByteSize then .systemError EIO else .success, p)

/-- `readFromPipe(in_fd, out_data)`: every chunk read is appended to `out_data`; end of file and `EAGAIN` are
`Success()`. -/
def readFromPipe (r : Reads) (out : String) : Error × String :=
  let out := r.chunks.foldl (· ++ ·) out
  match r.last with
  | none => (.success, out)
  | some e => (if e = EAGAIN then .success else .systemError e, out)

/-- `ProcessResult`. -/
structure ProcessResult where
  StdOut : String
  StdError : String
  ExitCode : Int
  deriving DecidableEq, Repr

/-- `WIFEXITED(status) ? WEXITSTATUS(status) : status`, in Linux's encoding of a wait status. -/
def exitCode (status : Nat) : Int := if status % 128 = 0 then ((status / 256 % 256 : Nat) : Int) else status

/-- The first block of `SyncChildProcess::run` after `run()`: the launch profile written to the child's stdin and the
pipe closed after it, and `terminate()` when the write fails. -/
def writeStdin (k : Outcomes) (i : Impl) (p : Proc) : Error × Proc :=
  if i.StandardInput.isEmpty then (.success, p)
  else
    let (error, p) := writeToPipe k.stdinWrite i.StdInFd i.StandardInput true p
    if error.isError then (error, (AbstractChildProcess.terminate k.kill i p).2) else (error, p)

/-- `posixCall<pid_t>(std::bind(::waitpid, Pid, &status, 0))`. -/
def waitCall (k : Outcomes) (i : Impl) (p : Proc) : Except Nat (Nat × Nat) × Proc :=
  match k.waitpid with
  | some e => (.error e, p)
  | none => p.waitpid i.Pid

/-- `SyncChildProcess::run` once `AbstractChildProcess::run` returned `Success()`: the stdin write, the two reads and
the wait.  `error` decides which of the reads run, and nothing but the wait decides what is returned. -/
def collect (k : Outcomes) (i : Impl) (out : ProcessResult) (p : Proc) : Error × ProcessResult × Proc :=
  let (error, p) := writeStdin k i p
  let (error, out) : Error × ProcessResult :=
    if error.isError then (error, out)
    else let (e, s) := readFromPipe k.stdout out.StdOut; (e, { out with StdOut := s })
  let (_, out) : Error × ProcessResult :=
    if error.isError then (error, out)
    else let (e, s) := readFromPipe k.stderr out.StdError; (e, { out with StdError := s })
  match waitCall k i p with
  | (.error e, p) => (if e = ECHILD then .success else .systemError e, { out with ExitCode := -1 }, p)
  | (.ok (_, status), p) => (.success, { out with ExitCode := exitCode status }, p)

/-- `SyncChildProcess::run`, or `none` when `logProcessSpawn` does not return within `fuel` passes. -/
def SyncChildProcess.run (fuel : Nat) (k : Outcomes) (i : Impl) (out : ProcessResult) (p : Proc) :
    Option (RunExit × ProcessResult × Impl × Proc) :=
  (AbstractChildProcess.run fuel k i p).map fun (r, i, p) =>
    match r with
    | .returned .success => let (e, out, p) := collect k i out p; (.returned e, out, i, p)
    | r => (r, out, i, p)

/-! ## What each call does to the process -/

/-- The eight descriptors of the four pipes, the latest opened first. -/
def FileDescriptors.ends (f : FileDescriptors) : List Int :=
  [f.CloseFd.2, f.CloseFd.1, f.Error.2, f.Error.1, f.Output.2, f.Output.1, f.Input.2, f.Input.1]

theorem closePipe_fds (p : Proc) (fds : Int × Int) : (closePipe p fds).fds = (p.fds.erase fds.1).erase fds.2 := rfl
@[simp] theorem closePipe_children (p : Proc) (fds : Int × Int) : (closePipe p fds).children = p.children := rfl
@[simp] theorem closePipe_kills (p : Proc) (fds : Int × Int) : (closePipe p fds).kills = p.kills := rfl

/-- **`createPipes` leaves the process as it was when a `pipe()` fails**, and otherwise opens eight new
descriptors. -/
theorem createPipes_spec (k : Outcomes) (p : Proc) :
    (∃ e, createPipes k p = (.error e, p) ∧ ∃ n < 4, k.pipe n = some e) ∨
    ((∀ n < 4, k.pipe n = none) ∧ ∃ fds, createPipes k p = (.ok fds, { p with fds := fds.ends ++ p.fds }) ∧
      fds.ends.Nodup ∧ ∀ x ∈ fds.ends, x ∉ p.fds) := by
  have f0 := p.pipe_fresh
  have f1 := p.pipe.2.pipe_fresh
  have f2 := p.pipe.2.pipe.2.pipe_fresh
  have f3 := p.pipe.2.pipe.2.pipe.2.pipe_fresh
  simp only [Proc.pipe_fds, List.mem_cons, not_or] at f0 f1 f2 f3
  unfold createPipes pipeCall
  rcases h0 : k.pipe 0 with _ | e
  · rcases h1 : k.pipe 1 with _ | e
    · rcases h2 : k.pipe 2 with _ | e
      · rcases h3 : k.pipe 3 with _ | e
        · refine .inr ⟨fun n hn => ?_,
            ⟨p.pipe.1, p.pipe.2.pipe.1, p.pipe.2.pipe.2.pipe.1, p.pipe.2.pipe.2.pipe.2.pipe.1⟩, rfl,
            by simp [FileDescriptors.ends, *], by simp [FileDescriptors.ends, *]⟩
          match n, hn with
          | 0, _ => exact h0
          | 1, _ => exact h1
          | 2, _ => exact h2
          | 3, _ => exact h3
        · exact .inl ⟨e, by simp [Proc.ext_iff, closePipe_fds, List.erase_cons, *], 3, by omega, h3⟩
      · exact .inl ⟨e, by simp [Proc.ext_iff, closePipe_fds, List.erase_cons, *], 2, by omega, h2⟩
    · exact .inl ⟨e, by simp [Proc.ext_iff, closePipe_fds, List.erase_cons, *], 1, by omega, h1⟩
  · exact .inl ⟨e, rfl, 0, by omega, h0⟩

/-- The ends `createPipes` returns when it succeeds: four `pipe()` calls in turn. -/
theorem createPipes_ok {k : Outcomes} {p q : Proc} {fds : FileDescriptors} (h : createPipes k p = (.ok fds, q)) :
    fds = ⟨p.pipe.1, p.pipe.2.pipe.1, p.pipe.2.pipe.2.pipe.1, p.pipe.2.pipe.2.pipe.2.pipe.1⟩ ∧
      q = p.pipe.2.pipe.2.pipe.2.pipe.2 := by
  rcases createPipes_spec k p with ⟨e, he, -⟩ | ⟨hp, -⟩
  · rw [he] at h; cases h
  · simp only [createPipes, pipeCall, hp 0 (by omega), hp 1 (by omega), hp 2 (by omega), hp 3 (by omega),
      Prod.mk.injEq, Except.ok.injEq] at h
    exact ⟨h.1.symm, h.2.symm⟩

/-- The table `createPipes` leaves when it succeeds: the eight new ends, fresh and distinct, then the old ones. -/
theorem createPipes_table {k : Outcomes} {p q : Proc} {fds : FileDescriptors} (h : createPipes k p = (.ok fds, q)) :
    q = { p with fds := fds.ends ++ p.fds } ∧ fds.ends.Nodup ∧ ∀ x ∈ fds.ends, x ∉ p.fds := by
  rcases createPipes_spec k p with ⟨e, he, -⟩ | ⟨-, fds', he, hn, hf⟩ <;> rw [he] at h
  · cases h
  · cases h; exact ⟨rfl, hn, hf⟩

/-- **`createPipes` numbers the eight ends in order**: `pipe()` takes the lowest free descriptors, so each end is above
the one before it, and the last is below the length of the table before plus eight. -/
theorem createPipes_ordered {k : Outcomes} {p q : Proc} {fds : FileDescriptors} (h : createPipes k p = (.ok fds, q)) :
    0 ≤ fds.Input.1 ∧ fds.Input.1 < fds.Input.2 ∧ fds.Input.2 < fds.Output.1 ∧ fds.Output.1 < fds.Output.2 ∧
      fds.Output.2 < fds.Error.1 ∧ fds.Error.1 < fds.Error.2 ∧ fds.Error.2 < fds.CloseFd.1 ∧
      fds.CloseFd.1 < fds.CloseFd.2 ∧ fds.CloseFd.2 < p.fds.length + 8 := by
  obtain ⟨rfl, -⟩ := createPipes_ok h
  have := p.pipe_nonneg
  have := p.pipe_lt
  have := p.pipe_lt_next
  have := p.pipe.2.pipe_lt
  have := p.pipe.2.pipe_lt_next
  have := p.pipe.2.pipe.2.pipe_lt
  have := p.pipe.2.pipe.2.pipe_lt_next
  have := p.pipe.2.pipe.2.pipe.2.pipe_lt
  have := p.pipe.2.pipe.2.pipe.2.pipe_le_length
  simp only [Proc.pipe_length] at this
  dsimp only
  omega

@[simp] theorem forkCall_fds (k : Outcomes) (p : Proc) : (forkCall k p).2.fds = p.fds := by
  unfold forkCall; split <;> rfl

/-- The parent's path of `run`: the child's ends and both ends of the control pipe closed, the three others kept in
the instance, and `sendFileDescriptors`' error returned. -/
theorem launch_parent (k : Outcomes) (i : Impl) (p : Proc) {lim : Nat × Nat} {fds : FileDescriptors} {pid : Int}
    {q : Proc} (hl : k.getrlimit = .ok lim) (hc : createPipes k p = (.ok fds, { p with fds := fds.ends ++ p.fds }))
    (hn : fds.ends.Nodup) (hf : forkCall k { p with fds := fds.ends ++ p.fds } = (pid, q)) (hpid : pid ≠ 0) :
    launch k i p = (.returned (sendFileDescriptors k).1,
      { i with StdInFd := fds.Input.2, StdOutFd := fds.Output.1, StdErrFd := fds.Error.1 },
      { q with fds := fds.Error.1 :: fds.Output.1 :: fds.Input.2 :: p.fds }) := by
  have hq : q.fds = fds.ends ++ p.fds := by
    have := forkCall_fds k { p with fds := fds.ends ++ p.fds }; rwa [hf] at this
  simp only [FileDescriptors.ends, List.nodup_cons, List.mem_cons, List.mem_singleton, not_or] at hn
  simp only [launch, hl, hc, hf, hpid, if_false, Prod.mk.injEq, true_and]
  ext1 <;> simp [hq, FileDescriptors.ends, List.erase_cons, hn]

@[simp] theorem writeToPipe_children (w : Except Nat Nat) (fd : Int) (data : String) (eof : Bool) (p : Proc) :
    (writeToPipe w fd data eof p).2.children = p.children := by
  cases w <;> cases eof <;> rfl

@[simp] theorem terminate_children (kill : Option Nat) (i : Impl) (p : Proc) :
    (AbstractChildProcess.terminate kill i p).2.children = p.children := by
  unfold AbstractChildProcess.terminate; split_ifs; rfl; cases kill <;> rfl

/-- With `Pid` at `-1`, `terminate` fails with `ESRCH` and signals nothing. -/
theorem terminate_unset (kill : Option Nat) (i : Impl) (p : Proc) (h : i.Pid = -1) :
    AbstractChildProcess.terminate kill i p = (.systemError ESRCH, p) := by
  simp [AbstractChildProcess.terminate, h]

theorem writeStdin_children (k : Outcomes) (i : Impl) (p : Proc) : (writeStdin k i p).2.children = p.children := by
  rcases hw : writeToPipe k.stdinWrite i.StdInFd i.StandardInput true p with ⟨error, q⟩
  have : q.children = p.children := by rw [← writeToPipe_children k.stdinWrite i.StdInFd i.StandardInput true p, hw]
  unfold writeStdin; rw [hw]
  by_cases he : error.isError <;> split_ifs <;> simp [he, this]

@[simp] theorem terminate_fds (kill : Option Nat) (i : Impl) (p : Proc) :
    (AbstractChildProcess.terminate kill i p).2.fds = p.fds := by
  unfold AbstractChildProcess.terminate; split_ifs; rfl; cases kill <;> rfl

/-- The stdin pipe is closed exactly when there is input and its write succeeded, in full or not. -/
theorem writeStdin_fds (k : Outcomes) (i : Impl) (p : Proc) : (writeStdin k i p).2.fds =
    if !i.StandardInput.isEmpty && k.stdinWrite.toBool then p.fds.erase i.StdInFd else p.fds := by
  unfold writeStdin
  by_cases he : i.StandardInput.isEmpty
  · simp [he]
  · cases k.stdinWrite with
    | error e => simp [he, writeToPipe, Error.isError, Except.toBool]
    | ok n => simp [he, writeToPipe, Except.toBool]; split_ifs <;> simp [Error.isError]

theorem waitpid_error {p : Proc} {pid : Int} {e : Nat} (h : (p.waitpid pid).1 = .error e) : e = ECHILD := by
  unfold Proc.waitpid at h; split at h <;> cases h; rfl

/-- What `SyncChildProcess::run` makes of the wait's outcome: `ECHILD` is `Success()`. -/
def waitError (k : Outcomes) : Error :=
  match k.waitpid with
  | some e => if e = ECHILD then .success else .systemError e
  | none => .success

/-- **Only the wait decides what `SyncChildProcess::run` returns** once `run()` succeeded: whether the stdin write and
the reads failed or not, it returns `Success()` unless `waitpid` fails with an errno other than `ECHILD`. -/
theorem collect_error (k : Outcomes) (i : Impl) (out : ProcessResult) (p : Proc) :
    (collect k i out p).1 = waitError k := by
  unfold collect waitCall waitError
  cases k.waitpid with
  | some e => rfl
  | none =>
    dsimp only
    split
    · rename_i e q h; simp [waitpid_error (congrArg Prod.fst h)]
    · rfl

theorem waitCall_fds (k : Outcomes) (i : Impl) (p : Proc) : (waitCall k i p).2.fds = p.fds := by
  unfold waitCall Proc.waitpid; repeat' split
  all_goals rfl

/-- The wait sees only the children. -/
theorem waitCall_children_congr (k : Outcomes) (i : Impl) {p q : Proc} (h : p.children = q.children) :
    (waitCall k i p).1 = (waitCall k i q).1 ∧ (waitCall k i p).2.children = (waitCall k i q).2.children := by
  unfold waitCall Proc.waitpid; rw [h]; repeat' split
  all_goals simp_all

/-- What `SyncChildProcess::run` leaves open is what the stdin block left open. -/
theorem collect_fds (k : Outcomes) (i : Impl) (out : ProcessResult) (p : Proc) :
    (collect k i out p).2.2.fds = (writeStdin k i p).2.fds := by
  unfold collect
  rcases hw : waitCall k i (writeStdin k i p).2 with ⟨_ | ⟨_, _⟩, q⟩ <;>
    simp only [← waitCall_fds k i (writeStdin k i p).2, hw]

/-- The exit code and the children after `SyncChildProcess::run` are those of the wait, as if it ran first. -/
theorem collect_wait (k : Outcomes) (i : Impl) (out : ProcessResult) (p : Proc) :
    (collect k i out p).2.1.ExitCode = (match (waitCall k i p).1 with | .error _ => -1 | .ok (_, s) => exitCode s) ∧
    (collect k i out p).2.2.children = (waitCall k i p).2.children := by
  obtain ⟨h1, h2⟩ := waitCall_children_congr k i (writeStdin_children k i p)
  unfold collect
  rcases hw : waitCall k i (writeStdin k i p).2 with ⟨_ | ⟨_, _⟩, q⟩ <;> rw [hw] at h1 h2 <;> simp only [hw] <;>
    simp [← h1, ← h2]

theorem foldl_append_join : ∀ (l : List String) (s : String), l.foldl (· ++ ·) s = s ++ String.join l
  | [], s => (String.append_empty s).symm
  | a :: l, s => by
    show l.foldl _ (s ++ a) = s ++ l.foldl _ ("" ++ a)
    rw [String.empty_append, foldl_append_join l, foldl_append_join l a, String.append_assoc]

/-- A read loop that ends at end of file appends all it read and returns `Success()`. -/
theorem readFromPipe_eof {r : Reads} (h : r.last = none) (out : String) :
    readFromPipe r out = (.success, out ++ String.join r.chunks) := by
  simp [readFromPipe, h, foldl_append_join]

theorem writeStdin_ok (k : Outcomes) (i : Impl) (p : Proc) (h : k.stdinWrite = .ok i.StandardInput.utf8ByteSize) :
    (writeStdin k i p).1 = .success := by
  unfold writeStdin; split
  · rfl
  · simp [writeToPipe, h, Error.isError]

/-- When the `write` succeeds and both reads end at end of file, the result holds all the reads returned. -/
theorem collect_reads (k : Outcomes) (i : Impl) (out : ProcessResult) (p : Proc)
    (h : k.stdinWrite = .ok i.StandardInput.utf8ByteSize) (ho : k.stdout.last = none) (he : k.stderr.last = none) :
    (collect k i out p).2.1.StdOut = out.StdOut ++ String.join k.stdout.chunks ∧
    (collect k i out p).2.1.StdError = out.StdError ++ String.join k.stderr.chunks := by
  have hw := writeStdin_ok k i p h
  unfold collect
  rcases hs : writeStdin k i p with ⟨error, q⟩
  rw [hs] at hw; subst hw
  simp only [Error.isError, readFromPipe_eof ho, readFromPipe_eof he]
  split <;> exact ⟨rfl, rfl⟩

/-- With every write succeeding, the pipe receives every descriptor it is given. -/
theorem writeFds_ok (k : Outcomes) (hw : ∀ n, k.fdWrite n = none) :
    ∀ (n : Nat) (fds : List Nat), writeFds k n fds = (.success, fds.map (↑))
  | _, [] => rfl
  | n, fd :: fds => by simp [writeFds, hw, writeFds_ok k hw (n + 1) fds]

/-- When the scan and every write succeed, the control pipe receives the scan, then `-1`. -/
theorem sendFileDescriptors_ok (k : Outcomes) {scan : List Nat} (hk : k.openFds = .ok scan)
    (hw : ∀ n, k.fdWrite n = none) (he : k.endWrite = none) :
    sendFileDescriptors k = (.success, scan.map (↑) ++ [-1]) := by
  simp [sendFileDescriptors, hk, writeFds_ok k hw, streamEnd, he]

/-- The loop writes a prefix of its descriptors, all of them exactly when no write failed. -/
theorem writeFds_sent (k : Outcomes) : ∀ (n : Nat) (fds : List Nat), ∃ sent : List Nat,
    (writeFds k n fds).2 = sent.map (↑) ∧ sent <+: fds ∧ ((writeFds k n fds).1 = .success ↔ sent = fds)
  | _, [] => ⟨[], rfl, ⟨[], rfl⟩, by simp [writeFds]⟩
  | n, fd :: fds => by
    unfold writeFds
    cases k.fdWrite n with
    | some e => exact ⟨[], rfl, ⟨_, rfl⟩, by simp⟩
    | none =>
      obtain ⟨sent, h2, ⟨t, ht⟩, h1⟩ := writeFds_sent k (n + 1) fds
      exact ⟨fd :: sent, by simp [h2], ⟨t, by rw [← ht]; rfl⟩, by simpa using h1⟩

/-- **What the control pipe receives**, whatever the calls return: the scanned descriptors up to the first write that
fails (none when the scan failed), then `-1` exactly when all of them went out and the write of `-1` succeeded; with no
write failing, all of them. -/
theorem sendFileDescriptors_sent (k : Outcomes) : ∃ (sent : List Nat) (ended : Bool),
    (sendFileDescriptors k).2 = sent.map (↑) ++ (if ended then [-1] else []) ∧ sent <+: k.openFds.toOption.getD [] ∧
      (ended = true ↔ k.endWrite = none ∧ sent = k.openFds.toOption.getD []) ∧
      ((∀ n, k.fdWrite n = none) → sent = k.openFds.toOption.getD []) := by
  unfold sendFileDescriptors streamEnd
  rcases k.openFds with e | scan
  · refine ⟨[], k.endWrite.isNone, by cases k.endWrite <;> rfl, ⟨_, rfl⟩, ?_, fun _ => rfl⟩
    show _ ↔ _ ∧ [] = []
    cases k.endWrite <;> simp
  · rw [show (Except.ok scan : Except Nat (List Nat)).toOption.getD [] = scan from rfl]
    obtain ⟨sent, h2, hp, h1⟩ := writeFds_sent k 0 scan
    have hall : (∀ n, k.fdWrite n = none) → sent = scan := fun hw => h1.1 (by rw [writeFds_ok k hw])
    rcases hw : writeFds k 0 scan with ⟨_ | e, sent'⟩ <;> rw [hw] at h1 h2 <;> dsimp only at h1 h2 <;> subst h2
    · obtain rfl := h1.1 rfl
      refine ⟨sent, k.endWrite.isNone, ?_, hp, ?_, hall⟩ <;> cases k.endWrite <;> simp [hw]
    · exact ⟨sent, false, by simp [hw], hp, by simpa using fun _ => h1, hall⟩

/-- With an empty password and a user written as `""`, `run` logs and goes on. -/
theorem run_emptyPassword (h : Host) (o : ProcessOptions) (hu : profileUsername o.RunAsUser = "")
    (he : o.Password = "") (fuel : Nat) (k : Outcomes) (p : Proc) :
    AbstractChildProcess.run (fuel + 1) k (Impl.new h o) p = some (launch k (Impl.new h o) p) := by
  simp [AbstractChildProcess.run, logProcessSpawn, Impl.new, strippedStdin_emptyPassword o hu he]

/-! ## Whole runs -/

/-- Every call of the launch path succeeding: `fork` creates `c`, the scan finds `scan`, `input` is written in full, and
each read returns its chunks and then end of file. -/
def Outcomes.allSucceed (c : Forked) (scan : List Nat) (input : String) (stdout stderr : List String) : Outcomes where
  getrlimit := .ok (1024, 4096)
  pipe _ := none
  fork := .ok c
  pidUnset := 0
  openFds := .ok scan
  fdWrite _ := none
  endWrite := none
  stdinWrite := .ok input.utf8ByteSize
  stdout := ⟨stdout, none⟩
  stderr := ⟨stderr, none⟩
  waitpid := none
  kill := none

/-- **A plain password stops every launch**: for a user the launch profile writes as `""` (the wildcard or the empty
user), a non-empty password with no `"` that does not end in a backslash keeps `logProcessSpawn`'s loop running, so
neither `AbstractChildProcess::run` nor `SyncChildProcess::run` returns, however long it runs and whatever its system
calls would return. -/
theorem run_plainPassword (h : Host) (o : ProcessOptions) (hu : profileUsername o.RunAsUser = "")
    (hne : o.Password.data ≠ []) (hq : '"' ∉ o.Password.data) (hb : o.Password.data.getLast? ≠ some '\\')
    (fuel : Nat) (k : Outcomes) (p : Proc) (out : ProcessResult) :
    AbstractChildProcess.run fuel k (Impl.new h o) p = none ∧
      SyncChildProcess.run fuel k (Impl.new h o) out p = none := by
  have hs := strippedStdin_plainPassword o hu hne hq hb fuel
  have hr : AbstractChildProcess.run fuel k (Impl.new h o) p = none := by
    simp [AbstractChildProcess.run, logProcessSpawn, Impl.new, hs]
  exact ⟨hr, by simp [SyncChildProcess.run, hr]⟩

theorem run_plainPassword_secret :
    profileUsername lsOptions.RunAsUser = "" ∧ "s3cret".data ≠ [] ∧ '"' ∉ "s3cret".data ∧
      "s3cret".data.getLast? ≠ some '\\' ∧
      AbstractChildProcess.run 1000 (Outcomes.allSucceed ⟨4242, by decide, 0⟩ [0, 1, 2] "" [] [])
        (Impl.new ⟨⟨"/usr/lib/rstudio-server/bin/rsandbox"⟩, FilePath.path, "/usr/bin"⟩
          { lsOptions with Password := "s3cret" }) ⟨[0, 1, 2], [], []⟩ = none ∧
      SyncChildProcess.run 1000 (Outcomes.allSucceed ⟨4242, by decide, 0⟩ [0, 1, 2] "" [] [])
        (Impl.new ⟨⟨"/usr/lib/rstudio-server/bin/rsandbox"⟩, FilePath.path, "/usr/bin"⟩
          { lsOptions with Password := "s3cret" }) ⟨"", "", 0⟩ ⟨[0, 1, 2], [], []⟩ = none :=
  ⟨by decide, by decide, by decide, by decide,
    run_plainPassword _ { lsOptions with Password := "s3cret" } (by decide) (by decide) (by decide) (by decide) 1000 _ _
      _⟩

/-- **`run` when `fork` succeeds**: eight new descriptors, three of them left open and stored in the instance, the child
added to the process's children, and `sendFileDescriptors`' error returned. -/
theorem launch_forked (k : Outcomes) (i : Impl) (p : Proc) {lim : Nat × Nat} {c : Forked}
    (hl : k.getrlimit = .ok lim) (hp : ∀ n < 4, k.pipe n = none) (hf : k.fork = .ok c) :
    ∃ fds : FileDescriptors, fds.ends.Nodup ∧ (∀ x ∈ fds.ends, x ∉ p.fds) ∧
      launch k i p = (.returned (sendFileDescriptors k).1,
        { i with StdInFd := fds.Input.2, StdOutFd := fds.Output.1, StdErrFd := fds.Error.1 },
        ⟨fds.Error.1 :: fds.Output.1 :: fds.Input.2 :: p.fds, p.children ++ [(c.pid, c.status)], p.kills⟩) := by
  rcases createPipes_spec k p with ⟨e, -, n, hn, he⟩ | ⟨-, fds, hc, hnd, hfr⟩
  · rw [hp n hn] at he; cases he
  · refine ⟨fds, hnd, hfr, ?_⟩
    rw [@launch_parent k i p lim fds c.pid ⟨fds.ends ++ p.fds, p.children ++ [(c.pid, c.status)], p.kills⟩ hl hc hnd
      (by simp [forkCall, hf, Proc.fork]) (by have := c.pid_pos; omega)]

/-- Everything succeeding but the write of `-1`, `run()` returns `Success()`; everything succeeding but the read of
the output, `SyncChildProcess::run` returns `Success()`. -/
theorem syncRun_lostErrors (h : Host) (p : Proc) (out : ProcessResult) :
    let k := Outcomes.allSucceed ⟨4242, by decide, 0⟩ [0, 1, 2] (createLaunchProfile lsOptions) ["x"] []
    (AbstractChildProcess.run 1 { k with endWrite := some EPIPE } (Impl.new h lsOptions) p).map (·.1) =
      some (.returned .success) ∧
    (SyncChildProcess.run 1 { k with stdout := ⟨[], some EIO⟩ } (Impl.new h lsOptions) out p).map (·.1) =
      some (.returned .success) := by
  intro k
  obtain ⟨_, -, -, h1⟩ :=
    launch_forked { k with endWrite := some EPIPE } (Impl.new h lsOptions) p rfl (fun _ _ => rfl) rfl
  obtain ⟨_, -, -, h2⟩ :=
    launch_forked { k with stdout := ⟨[], some EIO⟩ } (Impl.new h lsOptions) p rfl (fun _ _ => rfl) rfl
  constructor
  · rw [run_emptyPassword h lsOptions rfl rfl 0, h1]; rfl
  · simp only [SyncChildProcess.run, run_emptyPassword h lsOptions rfl rfl 0, h2, Option.map_some']
    rw [show (sendFileDescriptors { k with stdout := ⟨[], some EIO⟩ }).1 = .success from rfl]
    simp only [collect_error]; rfl

/-- **The read ends of the output and error pipes stay open**: in every run where `fork` succeeded, whatever else
failed, they are open when `SyncChildProcess::run` returns, and they were not before. -/
theorem syncRun_readEnds (fuel : Nat) (k : Outcomes) (i : Impl) (out : ProcessResult) (p : Proc) {lim : Nat × Nat}
    {c : Forked} (hl : k.getrlimit = .ok lim) (hp : ∀ n < 4, k.pipe n = none) (hf : k.fork = .ok c) :
    ∀ r ∈ SyncChildProcess.run fuel k i out p, r.2.2.1.StdOutFd ∈ r.2.2.2.fds ∧ r.2.2.1.StdErrFd ∈ r.2.2.2.fds ∧
      r.2.2.1.StdOutFd ∉ p.fds ∧ r.2.2.1.StdErrFd ∉ p.fds := by
  obtain ⟨fds, hnd, hfr, hL⟩ := launch_forked k i p hl hp hf
  simp only [FileDescriptors.ends, List.nodup_cons, List.mem_cons, List.mem_singleton, not_or] at hnd hfr
  simp only [SyncChildProcess.run, AbstractChildProcess.run, Option.map_map, Option.mem_def, Option.map_eq_some',
    Function.comp, hL]
  rintro r ⟨_, -, rfl⟩
  rcases (sendFileDescriptors k).1 with _ | e
  · refine ⟨?_, ?_, hfr _ (by simp), hfr _ (by simp)⟩ <;> rw [collect_fds, writeStdin_fds] <;> split_ifs <;>
      simp [List.erase_cons, hnd]
  · exact ⟨by simp, by simp, hfr _ (by simp), hfr _ (by simp)⟩

theorem syncRun_readEnds_ls :
    let k := Outcomes.allSucceed ⟨4242, by decide, 0⟩ [0, 1, 2] "" [] []
    k.getrlimit = .ok (1024, 4096) ∧ (∀ n < 4, k.pipe n = none) ∧ k.fork = .ok ⟨4242, by decide, 0⟩ ∧
      ∀ r ∈ SyncChildProcess.run 1 k (Impl.new ⟨⟨"/usr/lib/rstudio-server/bin/rsandbox"⟩, (·.path), "/usr/bin"⟩
        lsOptions) ⟨"", "", 0⟩ ⟨[2, 1, 0], [], []⟩,
        r.2.2.1.StdOutFd ∈ r.2.2.2.fds ∧ r.2.2.1.StdErrFd ∈ r.2.2.2.fds ∧
          r.2.2.1.StdOutFd ∉ [2, 1, 0] ∧ r.2.2.1.StdErrFd ∉ [2, 1, 0] :=
  ⟨rfl, fun _ _ => rfl, rfl, syncRun_readEnds 1 _ _ _ _ rfl (fun _ _ => rfl) rfl⟩

/-- Every call succeeding, `SyncChildProcess::run` returns `Success()` with the read ends of the output and error
pipes still open, and reaps the process's first child, which is not the one it forked when there was another. -/
theorem syncRun_leaksReadEnds (h : Host) (p : Proc) (out : ProcessResult) :
    let k := Outcomes.allSucceed ⟨4242, by decide, 0⟩ [0, 1, 2] (createLaunchProfile lsOptions) ["x"] []
    ∃ r, SyncChildProcess.run 1 k (Impl.new h lsOptions) out p = some r ∧ r.1 = .returned .success ∧
      r.2.2.2.fds = r.2.2.1.StdErrFd :: r.2.2.1.StdOutFd :: p.fds ∧ r.2.2.1.StdErrFd ∉ p.fds ∧
      r.2.2.1.StdOutFd ∉ p.fds ∧ r.2.2.2.children = (p.children ++ [(4242, 0)]).tail := by
  intro k
  obtain ⟨fds, hnd, hfr, hL⟩ := launch_forked k (Impl.new h lsOptions) p rfl (fun _ _ => rfl) rfl
  simp only [FileDescriptors.ends, List.nodup_cons, List.mem_cons, List.mem_singleton, not_or] at hnd hfr
  simp only [SyncChildProcess.run, run_emptyPassword h lsOptions rfl rfl 0, hL, Option.map_some']
  rw [show (sendFileDescriptors k).1 = .success from rfl]
  refine ⟨_, rfl, by simp only [collect_error]; rfl, ?_, (hfr _ (by simp)), (hfr _ (by simp)), ?_⟩
  · rw [collect_fds, writeStdin_fds]
    simp [Impl.new, createLaunchProfile_isEmpty, k, Outcomes.allSucceed, Except.toBool, List.erase_cons, hnd]
  · rw [(collect_wait _ _ _ _).2]
    exact Proc.waitpid_unset_children _

/-- Two launches of `ls` in one process, the second forked before the first waits: each gets the exit code of the
other's child (the first `1`, its own child's being `0`), and after its run `Pid` is `-1` and `terminate()` signals
nothing. -/
theorem exitCodes_swapped (h : Host) (t : List Int) (out : ProcessResult) :
    let i := Impl.new h lsOptions
    let kA := Outcomes.allSucceed ⟨100, by decide, 0⟩ [0, 1, 2] (createLaunchProfile lsOptions) [] []
    let kB := Outcomes.allSucceed ⟨200, by decide, 256⟩ [0, 1, 2] (createLaunchProfile lsOptions) [] []
    ∃ iA iB pA pB, AbstractChildProcess.run 1 kB i ⟨t, [], []⟩ = some (.returned .success, iB, pB) ∧
      AbstractChildProcess.run 1 kA i pB = some (.returned .success, iA, pA) ∧
      (collect kA iA out pA).2.1.ExitCode = exitCode 256 ∧
      (collect kB iB out (collect kA iA out pA).2.2).2.1.ExitCode = exitCode 0 ∧
      iA.Pid = -1 ∧ AbstractChildProcess.terminate none iA pA = (.systemError ESRCH, pA) := by
  intro i kA kB
  obtain ⟨fB, -, -, hB⟩ := launch_forked kB i ⟨t, [], []⟩ rfl (fun _ _ => rfl) rfl
  obtain ⟨fA, -, -, hA⟩ :=
    launch_forked kA i ⟨fB.Error.1 :: fB.Output.1 :: fB.Input.2 :: t, [] ++ [(200, 256)], []⟩ rfl (fun _ _ => rfl) rfl
  refine ⟨_, _, _, _, by rw [run_emptyPassword h lsOptions rfl rfl 0, hB]; rfl,
    by rw [run_emptyPassword h lsOptions rfl rfl 0, hA]; rfl, ?_, ?_, rfl, terminate_unset _ _ _ rfl⟩
  · rw [(collect_wait _ _ _ _).1]; rfl
  · rw [(collect_wait _ _ _ _).1, (waitCall_children_congr _ _ (collect_wait _ _ _ _).2).1]; rfl

end Process
end Launcher
