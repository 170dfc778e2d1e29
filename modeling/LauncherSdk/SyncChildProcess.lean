import LauncherSdk.Run
/-!
# SyncChildProcess — `SyncChildProcess::run` and its child over the three pipes (Process.cpp)

Once `AbstractChildProcess::run` returned, the parent writes the launch profile to the child's standard input and
closes it, reads the child's standard output to end of file, then its standard error, then waits for it.  The child is
any program that reads its standard input to end of file, makes `write`s of any sizes to its standard output and error
in any order, and exits.  Each pipe holds at most `C` bytes, and the two processes step in any order (`Session.run`).

On every schedule the parent collects exactly what the child wrote, in order (`run_collected`), which is what
`collect`, the same code run on the outcomes of its calls, returns (`run_refines_collect`).  But it reads the
standard error only once the standard output has ended, that is once the child has exited: a child that writes more
than `C` bytes to its standard error blocks on the full pipe while the parent waits on the empty one, and the parent
never returns (`run_stderrFull`).  When the write to the standard input fails, `writeToPipe` returns before it closes
the pipe and `terminate()` signals nothing (`Pid` is `-1`), so the child waits for the end of its input while the
parent waits for the child (`run_stdinFails`).  A child that writes at most `C` bytes to its standard error is always
served: no run gets stuck before the parent returns, and none is longer than a bound (`run_live`).
-/
namespace Launcher
namespace Process

open Posix

/-- The two pipes the child writes. -/
inductive Output where
  | stdout
  | stderr
  deriving DecidableEq, Repr

/-- A pipe: the bytes in it, oldest first, and whether some process still holds its write end. -/
structure Pipe (α : Type) where
  data : List α
  writerOpen : Bool
  deriving DecidableEq, Repr

theorem Pipe.eq_empty {α : Type} {p : Pipe α} {b : Bool} (hd : p.data = []) (hw : p.writerOpen = b) : p = ⟨[], b⟩ := by
  cases p; cases hd; cases hw; rfl

/-- The child: any program that reads its standard input to end of file, makes these `write`s, each to an output, and
exits with this wait status. -/
structure Program where
  writes : List (Output × List Char)
  status : Nat
  deriving DecidableEq, Repr

/-- The bytes a list of `write`s sends to one output, in order. -/
def bytesTo (o : Output) : List (Output × List Char) → List Char
  | [] => []
  | (o', d) :: ws => (if o' = o then d else []) ++ bytesTo o ws

/-- Where the parent is in `SyncChildProcess::run` after `AbstractChildProcess::run` returned: in the `write` of the
launch profile with the bytes it has still to put in the pipe, in `readFromPipe` of an output, in `waitpid`, or
returned. -/
inductive ParentPc where
  | writing (rest : List UInt8)
  | reading (o : Output)
  | waiting
  | returned
  deriving DecidableEq, Repr

/-- Where the child is: reading its standard input to end of file, making the `write`s it has left (each with the bytes
still to go), exited, or killed by `SIGTERM`. -/
inductive ChildPc where
  | readingStdin
  | writing (writes : List (Output × List Char))
  | exited
  | killed
  deriving DecidableEq, Repr

/-- The parent with the result it builds, the child, the standard input's pipe, and the pipe of each output. -/
structure Session where
  parent : ParentPc
  result : ProcessResult
  child : ChildPc
  stdin : Pipe UInt8
  outs : Output → Pipe Char

/-- What the result holds of an output. -/
def ProcessResult.get (r : ProcessResult) : Output → String
  | .stdout => r.StdOut
  | .stderr => r.StdError

/-- `out_data.append(buffer, bytesRead)` on the string of an output. -/
def ProcessResult.append (r : ProcessResult) : Output → List Char → ProcessResult
  | .stdout, d => { r with StdOut := r.StdOut ++ ⟨d⟩ }
  | .stderr, d => { r with StdError := r.StdError ++ ⟨d⟩ }

/-- The bytes the `write` of the launch profile puts in the pipe before it returns: as many as it reports, none when it
fails. -/
def stdinBytes (w : Except Nat Nat) (input : String) : List UInt8 :=
  match w with
  | .ok n => input.toUTF8.data.toList.take n
  | .error _ => []

/-- The child ends: it no longer holds the write ends of its outputs. -/
def Session.end (s : Session) (c : ChildPc) : Session :=
  { s with child := c, outs := fun o => { s.outs o with writerOpen := false } }

/-- `terminate()`: `kill(-Pid, SIGTERM)` kills a child still running, unless `Pid` is `-1`, when it signals nothing. -/
def Session.terminate (i : Impl) (s : Session) : Session :=
  if i.Pid = -1 then s
  else match s.child with
    | .exited | .killed => s
    | _ => s.end .killed

/-- The session as `AbstractChildProcess::run` leaves it: every pipe empty, the parent holding the write end of the
standard input and about to write the launch profile, or to read if it is empty. -/
def Session.init (i : Impl) (w : Except Nat Nat) (out : ProcessResult) : Session :=
  ⟨if i.StandardInput.isEmpty then .reading .stdout else .writing (stdinBytes w i.StandardInput), out, .readingStdin,
    ⟨[], true⟩, fun _ => ⟨[], true⟩⟩

/-- What `writeToPipe(StdInFd, StandardInput, true)` returns once its `write` returned; the error does not depend on the
process's descriptors. -/
def stdinError (w : Except Nat Nat) (i : Impl) : Error := (writeToPipe w i.StdInFd i.StandardInput true ⟨[], [], []⟩).1

/-- `writeToPipe` closes the pipe once its `write` succeeded. -/
def Session.afterWrite (w : Except Nat Nat) (s : Session) : Session :=
  if w.toBool then { s with stdin := { s.stdin with writerOpen := false } } else s

/-- After `readFromPipe` of an output returned at its end: the standard error next, then `waitpid`. -/
def afterRead : Output → ParentPc
  | .stdout => .reading .stderr
  | .stderr => .waiting

/-- The parent's next step.  A write puts one byte in the pipe when it has room, so that a `write` of many bytes
blocks until the reader makes room.  A read takes at most 512 bytes, blocks on an empty pipe whose write end is held,
and ends at end of file.  `waitpid` blocks until the child has ended. -/
def Session.parentStep (C : Nat) (i : Impl) (w : Except Nat Nat) (prog : Program) (s : Session) : Option Session :=
  match s.parent with
  | .writing (b :: bs) =>
    if s.stdin.data.length < C then some { s with parent := .writing bs, stdin := { s.stdin with data := s.stdin.data ++ [b] } }
    else none
  | .writing [] =>
    if (stdinError w i).isError then some { (s.afterWrite w).terminate i with parent := .waiting }
    else some { s.afterWrite w with parent := .reading .stdout }
  | .reading o =>
    if (s.outs o).data = [] then
      if (s.outs o).writerOpen then none else some { s with parent := afterRead o }
    else
      some { s with outs := Function.update s.outs o { s.outs o with data := (s.outs o).data.drop 512 },
                    result := s.result.append o ((s.outs o).data.take 512) }
  | .waiting =>
    match s.child with
    | .exited => some { s with parent := .returned, result := { s.result with ExitCode := exitCode prog.status } }
    | .killed => some { s with parent := .returned, result := { s.result with ExitCode := exitCode SIGTERM } }
    | _ => none
  | .returned => none

/-- The child's next step: a read of its standard input, which takes what is there, blocks on an empty pipe whose
write end is held, and ends at end of file; one byte of its current `write` when the pipe has room; or its exit. -/
def Session.childStep (C : Nat) (prog : Program) (s : Session) : Option Session :=
  match s.child with
  | .readingStdin =>
    if s.stdin.data = [] then
      if s.stdin.writerOpen then none else some { s with child := .writing prog.writes }
    else some { s with stdin := { s.stdin with data := [] } }
  | .writing [] => some (s.end .exited)
  | .writing ((_, []) :: ws) => some { s with child := .writing ws }
  | .writing ((o, b :: bs) :: ws) =>
    if (s.outs o).data.length < C then
      some { s with outs := Function.update s.outs o { s.outs o with data := (s.outs o).data ++ [b] },
                    child := .writing ((o, bs) :: ws) }
    else none
  | .exited | .killed => none

def Session.step (C : Nat) (i : Impl) (w : Except Nat Nat) (prog : Program) (s : Session) : Party → Option Session
  | .parent => s.parentStep C i w prog
  | .child => s.childStep C prog

/-- A schedule run of the session. -/
def Session.run (C : Nat) (i : Impl) (w : Except Nat Nat) (prog : Program) (s : Session) (sched : List Party) :
    Option Session :=
  schedule (Session.step C i w prog) s sched

/-- The bytes the child has still to write to an output. -/
def ChildPc.pending (prog : Program) (o : Output) : ChildPc → List Char
  | .readingStdin => bytesTo o prog.writes
  | .writing ws => bytesTo o ws
  | .exited | .killed => []

/-- The parent has read an output to its end. -/
def ParentPc.past : ParentPc → Output → Bool
  | .writing _, _ => false
  | .reading o', o => o' = .stderr && o = .stdout
  | .waiting, _ => true
  | .returned, _ => true

/-- The parent has begun to read an output. -/
def ParentPc.started : ParentPc → Output → Bool
  | .writing _, _ => false
  | .reading o', o => o' = .stderr || o = .stdout
  | .waiting, _ => true
  | .returned, _ => true

/-- What holds along every run in which the `write` of the launch profile succeeded.  The child is never killed.  Of
each output, what the parent collected, then what is in the pipe, then what the child has still to write, is what the
child writes in all, after what the result held; the parent collects nothing of an output before it reads it.  A
write end is closed exactly when the child has exited, and an output the parent has read to its end is empty and
closed. -/
structure Session.Served (prog : Program) (out : ProcessResult) (s : Session) : Prop where
  not_killed : s.child ≠ .killed
  collected : ∀ o, (s.result.get o).data ++ (s.outs o).data ++ s.child.pending prog o =
    (out.get o).data ++ bytesTo o prog.writes
  unread : ∀ o, s.parent.started o = false → s.result.get o = out.get o
  closed_iff : ∀ o, (s.outs o).writerOpen = false ↔ s.child = .exited
  drained : ∀ o, s.parent.past o = true → s.outs o = ⟨[], false⟩
  exit : s.parent = .returned → s.result.ExitCode = exitCode prog.status

section Steps

variable {C : Nat} {i : Impl} {w : Except Nat Nat} {prog : Program} {s t : Session}

@[simp] theorem get_append_self (r : ProcessResult) (o : Output) (d : List Char) :
    (r.append o d).get o = r.get o ++ ⟨d⟩ := by
  cases o <;> rfl
theorem get_append_ne (r : ProcessResult) {o o' : Output} (d : List Char) (h : o' ≠ o) :
    (r.append o d).get o' = r.get o' := by
  cases o <;> cases o' <;> first | rfl | exact absurd rfl h
@[simp] theorem get_with_ExitCode (r : ProcessResult) (e : Int) (o : Output) :
    ({ r with ExitCode := e }).get o = r.get o := by
  cases o <;> rfl
@[simp] theorem end_parent (s : Session) (c : ChildPc) : (s.end c).parent = s.parent := rfl
@[simp] theorem end_result (s : Session) (c : ChildPc) : (s.end c).result = s.result := rfl
@[simp] theorem end_child (s : Session) (c : ChildPc) : (s.end c).child = c := rfl
@[simp] theorem end_stdin (s : Session) (c : ChildPc) : (s.end c).stdin = s.stdin := rfl
@[simp] theorem end_outs (s : Session) (c : ChildPc) (o : Output) :
    (s.end c).outs o = { s.outs o with writerOpen := false } := rfl
@[simp] theorem afterWrite_parent (s : Session) : (s.afterWrite w).parent = s.parent := by
  unfold Session.afterWrite; split <;> rfl
@[simp] theorem afterWrite_result (s : Session) : (s.afterWrite w).result = s.result := by
  unfold Session.afterWrite; split <;> rfl
@[simp] theorem afterWrite_child (s : Session) : (s.afterWrite w).child = s.child := by
  unfold Session.afterWrite; split <;> rfl
@[simp] theorem afterWrite_outs (s : Session) : (s.afterWrite w).outs = s.outs := by
  unfold Session.afterWrite; split <;> rfl
@[simp] theorem afterWrite_stdin_data (s : Session) : (s.afterWrite w).stdin.data = s.stdin.data := by
  unfold Session.afterWrite; split <;> rfl
@[simp] theorem terminate_parent (s : Session) : (s.terminate i).parent = s.parent := by
  unfold Session.terminate; split <;> [rfl; split <;> rfl]
@[simp] theorem terminate_result (s : Session) : (s.terminate i).result = s.result := by
  unfold Session.terminate; split <;> [rfl; split <;> rfl]
@[simp] theorem terminate_stdin (s : Session) : (s.terminate i).stdin = s.stdin := by
  unfold Session.terminate; split <;> [rfl; split <;> rfl]
@[simp] theorem terminate_outs_data (s : Session) (o : Output) : ((s.terminate i).outs o).data = (s.outs o).data := by
  unfold Session.terminate; split <;> [rfl; split <;> rfl]

/-- What a parent step can do. -/
theorem parentStep_cases (h : s.parentStep C i w prog = some t) :
    (∃ b bs, s.parent = .writing (b :: bs) ∧ s.stdin.data.length < C ∧
      t = { s with parent := .writing bs, stdin := { s.stdin with data := s.stdin.data ++ [b] } }) ∨
    (s.parent = .writing [] ∧ (stdinError w i).isError = false ∧
      t = { s.afterWrite w with parent := .reading .stdout }) ∨
    (s.parent = .writing [] ∧ (stdinError w i).isError = true ∧
      t = { (s.afterWrite w).terminate i with parent := .waiting }) ∨
    (∃ o, s.parent = .reading o ∧ (s.outs o).data ≠ [] ∧
      t = { s with outs := Function.update s.outs o { s.outs o with data := (s.outs o).data.drop 512 },
                   result := s.result.append o ((s.outs o).data.take 512) }) ∨
    (∃ o, s.parent = .reading o ∧ s.outs o = ⟨[], false⟩ ∧ t = { s with parent := afterRead o }) ∨
    (s.parent = .waiting ∧ s.child = .exited ∧
      t = { s with parent := .returned, result := { s.result with ExitCode := exitCode prog.status } }) ∨
    (s.parent = .waiting ∧ s.child = .killed ∧
      t = { s with parent := .returned, result := { s.result with ExitCode := exitCode SIGTERM } }) := by
  unfold Session.parentStep at h
  split at h
  · split at h
    · cases h; exact .inl ⟨_, _, ‹_›, ‹_›, rfl⟩
    · cases h
  · rename_i hp
    split at h <;> cases h
    · exact .inr (.inr (.inl ⟨hp, ‹_›, rfl⟩))
    · rename_i he; exact .inr (.inl ⟨hp, by simpa using he, rfl⟩)
  · rename_i o ho
    split at h
    · split at h
      · cases h
      · cases h; rename_i hd hw
        exact .inr (.inr (.inr (.inr (.inl ⟨o, ho, Pipe.eq_empty hd (Bool.eq_false_iff.2 hw), rfl⟩))))
    · cases h; exact .inr (.inr (.inr (.inl ⟨o, ho, ‹_›, rfl⟩)))
  · split at h <;> cases h
    · exact .inr (.inr (.inr (.inr (.inr (.inl ⟨‹_›, ‹_›, rfl⟩)))))
    · exact .inr (.inr (.inr (.inr (.inr (.inr ⟨‹_›, ‹_›, rfl⟩)))))
  · cases h

/-- What a child step can do. -/
theorem childStep_cases (h : s.childStep C prog = some t) :
    (s.child = .readingStdin ∧ s.stdin.data ≠ [] ∧ t = { s with stdin := { s.stdin with data := [] } }) ∨
    (s.child = .readingStdin ∧ s.stdin = ⟨[], false⟩ ∧ t = { s with child := .writing prog.writes }) ∨
    (s.child = .writing [] ∧ t = s.end .exited) ∨
    (∃ o ws, s.child = .writing ((o, []) :: ws) ∧ t = { s with child := .writing ws }) ∨
    (∃ o b bs ws, s.child = .writing ((o, b :: bs) :: ws) ∧ (s.outs o).data.length < C ∧
      t = { s with outs := Function.update s.outs o { s.outs o with data := (s.outs o).data ++ [b] },
                   child := .writing ((o, bs) :: ws) }) := by
  unfold Session.childStep at h
  split at h
  · split at h
    · split at h
      · cases h
      · cases h; exact .inr (.inl ⟨‹_›, Pipe.eq_empty ‹_› (Bool.eq_false_iff.2 ‹_›), rfl⟩)
    · cases h; exact .inl ⟨‹_›, ‹_›, rfl⟩
  · cases h; exact .inr (.inr (.inl ⟨‹_›, rfl⟩))
  · cases h; exact .inr (.inr (.inr (.inl ⟨_, _, ‹_›, rfl⟩)))
  · split at h
    · cases h; exact .inr (.inr (.inr (.inr ⟨_, _, _, _, ‹_›, ‹_›, rfl⟩)))
    · cases h
  all_goals cases h

/-- When the parent cannot step: a write into a full pipe, a read of an empty pipe whose write end is held, or a wait
for a child still running. -/
theorem parentStep_none (h : s.parentStep C i w prog = none) :
    (∃ b bs, s.parent = .writing (b :: bs) ∧ C ≤ s.stdin.data.length) ∨
    (∃ o, s.parent = .reading o ∧ (s.outs o).data = [] ∧ (s.outs o).writerOpen = true) ∨
    (s.parent = .waiting ∧ s.child ≠ .exited ∧ s.child ≠ .killed) ∨ s.parent = .returned := by
  unfold Session.parentStep at h
  split at h
  · split at h
    · cases h
    · exact .inl ⟨_, _, ‹_›, by omega⟩
  · split at h <;> cases h
  · split at h
    · split at h
      · exact .inr (.inl ⟨_, ‹_›, ‹_›, ‹_›⟩)
      · cases h
    · cases h
  · split at h
    · cases h
    · cases h
    · exact .inr (.inr (.inl ⟨‹_›, ‹_›, ‹_›⟩))
  · exact .inr (.inr (.inr ‹_›))

/-- When the child cannot step: a read of an empty standard input whose write end is held, a write into a full pipe,
or the child has ended. -/
theorem childStep_none (h : s.childStep C prog = none) :
    (s.child = .readingStdin ∧ s.stdin = ⟨[], true⟩) ∨
    (∃ o b bs ws, s.child = .writing ((o, b :: bs) :: ws) ∧ C ≤ (s.outs o).data.length) ∨
    s.child = .exited ∨ s.child = .killed := by
  unfold Session.childStep at h
  split at h
  · split at h
    · split at h
      · exact .inl ⟨‹_›, Pipe.eq_empty ‹_› ‹_›⟩
      · cases h
    · cases h
  · cases h
  · cases h
  · split at h
    · cases h
    · exact .inr (.inl ⟨_, _, _, _, ‹_›, by omega⟩)
  · exact .inr (.inr (.inl ‹_›))
  · exact .inr (.inr (.inr ‹_›))

end Steps

section Served

variable {C : Nat} {i : Impl} {w : Except Nat Nat} {prog : Program} {out : ProcessResult} {s t : Session}

theorem served_init (i : Impl) (w : Except Nat Nat) (prog : Program) (out : ProcessResult) :
    (Session.init i w out).Served prog out := by
  refine ⟨by simp [Session.init], fun o => ?_, fun o _ => rfl, fun o => ?_, fun o h => ?_, fun h => ?_⟩
  · simp [Session.init, ChildPc.pending]
  · simp [Session.init]
  · unfold Session.init at h; split at h <;> cases o <;> simp [ParentPc.past] at h
  · unfold Session.init at h; split at h <;> cases h

theorem Session.Served.parentStep (hw : (stdinError w i).isError = false) (hs : s.Served prog out)
    (h : s.parentStep C i w prog = some t) : t.Served prog out := by
  rcases parentStep_cases h with ⟨b, bs, hp, -, rfl⟩ | ⟨hp, -, rfl⟩ | ⟨-, he, -⟩ | ⟨o, hp, -, rfl⟩ |
    ⟨o, hp, hd, rfl⟩ | ⟨hp, hc, rfl⟩ | ⟨-, hc, -⟩
  · exact ⟨hs.not_killed, fun o => by simpa using hs.collected o,
      fun o _ => hs.unread o (by simp [hp, ParentPc.started]), fun o => by simpa using hs.closed_iff o,
      fun o h => by simp [ParentPc.past] at h, fun h => by cases h⟩
  · refine ⟨by simpa using hs.not_killed, fun o => by simpa using hs.collected o, fun o ho => ?_,
      fun o => by simpa using hs.closed_iff o, fun o h => by cases o <;> simp [ParentPc.past] at h,
      fun h => by cases h⟩
    cases o
    · simp [ParentPc.started] at ho
    · simpa using hs.unread .stderr (by simp [hp, ParentPc.started])
  · simp [hw] at he
  · refine ⟨hs.not_killed, fun o' => ?_, fun o' ho' => ?_, fun o' => ?_, fun o' ho' => ?_,
      fun h => by cases hp ▸ h⟩
    · by_cases e : o' = o
      · subst e; simpa using hs.collected o'
      · simpa [Function.update_noteq e, get_append_ne _ _ e] using hs.collected o'
    · have e : o' ≠ o := by rintro rfl; cases o' <;> simp [hp, ParentPc.started] at ho'
      rw [get_append_ne _ _ e]; exact hs.unread o' (by simpa [hp] using ho')
    · by_cases e : o' = o
      · subst e; simpa using hs.closed_iff o'
      · simpa [Function.update_noteq e] using hs.closed_iff o'
    · have e : o' ≠ o := by rintro rfl; cases o' <;> simp [hp, ParentPc.past] at ho'
      simpa [Function.update_noteq e] using hs.drained o' (by simpa [hp] using ho')
  · refine ⟨hs.not_killed, fun o' => by simpa using hs.collected o', fun o' ho' => ?_,
      fun o' => by simpa using hs.closed_iff o', fun o' ho' => ?_, fun h => by cases o <;> cases h⟩
    · cases o <;> cases o' <;> simp [afterRead, ParentPc.started] at ho'
    · cases o <;> cases o'
      · exact hd
      · simp [hp, afterRead, ParentPc.past] at ho'
      · exact hs.drained .stdout (by simp [hp, ParentPc.past])
      · exact hd
  · exact ⟨hs.not_killed, fun o => by simpa using hs.collected o, fun o h => by simp [ParentPc.started] at h,
      fun o => by simpa using hs.closed_iff o, fun o _ => by simpa using hs.drained o (by simp [hp, ParentPc.past]),
      fun _ => rfl⟩
  · exact absurd hc hs.not_killed

theorem Session.Served.childStep (hs : s.Served prog out) (h : s.childStep C prog = some t) : t.Served prog out := by
  rcases childStep_cases h with ⟨hc, -, rfl⟩ | ⟨hc, -, rfl⟩ | ⟨hc, rfl⟩ | ⟨o, ws, hc, rfl⟩ |
    ⟨o, b, bs, ws, hc, -, rfl⟩
  · exact ⟨hs.not_killed, hs.collected, hs.unread, hs.closed_iff, hs.drained, hs.exit⟩
  · refine ⟨by simp, fun o => by simpa [hc, ChildPc.pending] using hs.collected o, hs.unread, fun o => ?_,
      fun o h => by simpa using hs.drained o h, hs.exit⟩
    simpa [hc] using hs.closed_iff o
  · refine ⟨by simp, fun o => by simpa [hc, ChildPc.pending, bytesTo] using hs.collected o,
      fun o h => by simpa using hs.unread o h, fun o => by simp, fun o h => by simp [hs.drained o h], hs.exit⟩
  · refine ⟨by simp, fun o' => ?_, hs.unread, fun o' => by simpa [hc] using hs.closed_iff o',
      fun o' h => by simpa using hs.drained o' h, hs.exit⟩
    have := hs.collected o'
    simp only [hc, ChildPc.pending, bytesTo, ite_self, List.nil_append] at this
    simpa [ChildPc.pending] using this
  · have hopen : ∀ o', (s.outs o').writerOpen = true := fun o' => by simpa [hc] using hs.closed_iff o'
    refine ⟨by simp, fun o' => ?_, fun o' h => by simpa using hs.unread o' h, fun o' => ?_, fun o' h => ?_,
      fun h => by simpa using hs.exit h⟩
    · have := hs.collected o'
      by_cases e : o' = o
      · subst e; simpa [hc, ChildPc.pending, bytesTo] using this
      · simpa [Function.update_noteq e, hc, ChildPc.pending, bytesTo, e, Ne.symm e] using this
    · by_cases e : o' = o
      · subst e; simp [hopen o']
      · simp [Function.update_noteq e, hopen o']
    · have := hopen o'
      rw [hs.drained o' (by simpa using h)] at this; cases this

theorem stdinError_ok (i : Impl) : (stdinError (.ok i.StandardInput.utf8ByteSize) i).isError = false := by
  simp [stdinError, writeToPipe, Error.isError]

theorem Session.Served.run (hw : (stdinError w i).isError = false) (sched : List Party)
    (h : s.run C i w prog sched = some t) (hs : s.Served prog out) : t.Served prog out :=
  schedule_invariant _ _ (fun _ a _ h' hs' => match a with
    | .parent => hs'.parentStep hw h'
    | .child => hs'.childStep h') sched h hs

/-- What holds along a run in which the `write` succeeded: the parent writes or reads the standard output, which the
child still holds open, and the pipe of the standard error holds all the child has written to it, at most `C`
bytes. -/
structure Session.Stalled (C : Nat) (prog : Program) (s : Session) : Prop where
  parent : (∃ r, s.parent = .writing r) ∨ s.parent = .reading .stdout
  stdout_open : (s.outs .stdout).writerOpen = true
  not_killed : s.child ≠ .killed
  stderr : (s.outs .stderr).data ++ s.child.pending prog .stderr = bytesTo .stderr prog.writes
  bounded : (s.outs .stderr).data.length ≤ C

theorem stalled_init (i : Impl) (w : Except Nat Nat) (prog : Program) (out : ProcessResult) :
    (Session.init i w out).Stalled C prog := by
  refine ⟨?_, rfl, by simp [Session.init], by simp [Session.init, ChildPc.pending], by simp [Session.init]⟩
  unfold Session.init; split
  · exact .inr rfl
  · exact .inl ⟨_, rfl⟩

/-- As long as the parent reads the standard output, the child can never write all it writes to its standard error
when that is more than the pipe holds. -/
theorem Session.Stalled.step (hw : (stdinError w i).isError = false) (hC : C < (bytesTo .stderr prog.writes).length)
    (hs : s.Stalled C prog) (a : Party) (h : s.step C i w prog a = some t) : t.Stalled C prog := by
  cases a with
  | parent =>
    have hq' : ∀ q, s.parent = q → (∃ r, q = .writing r) ∨ q = .reading .stdout := fun q hq => hq ▸ hs.parent
    rcases parentStep_cases h with ⟨b, bs, hp, -, rfl⟩ | ⟨hp, -, rfl⟩ | ⟨-, he, -⟩ | ⟨o, hp, -, rfl⟩ |
      ⟨o, hp, hd, rfl⟩ | ⟨hp, -, -⟩ | ⟨hp, -, -⟩
    · exact ⟨.inl ⟨bs, rfl⟩, hs.stdout_open, hs.not_killed, hs.stderr, hs.bounded⟩
    · exact ⟨.inr rfl, by simpa using hs.stdout_open, by simpa using hs.not_killed, by simpa using hs.stderr,
        by simpa using hs.bounded⟩
    · simp [hw] at he
    · obtain rfl : o = .stdout := by simpa using hq' _ hp
      exact ⟨.inr hp, by simpa using hs.stdout_open, hs.not_killed,
        by simpa [Function.update_noteq (show Output.stderr ≠ .stdout by decide)] using hs.stderr,
        by simpa [Function.update_noteq (show Output.stderr ≠ .stdout by decide)] using hs.bounded⟩
    · obtain rfl : o = .stdout := by simpa using hq' _ hp
      cases hd ▸ hs.stdout_open
    · simpa using hq' _ hp
    · simpa using hq' _ hp
  | child =>
    rcases childStep_cases h with ⟨hc, -, rfl⟩ | ⟨hc, -, rfl⟩ | ⟨hc, rfl⟩ | ⟨o, ws, hc, rfl⟩ |
      ⟨o, b, bs, ws, hc, hlt, rfl⟩
    · exact ⟨hs.parent, hs.stdout_open, hs.not_killed, hs.stderr, hs.bounded⟩
    · exact ⟨hs.parent, hs.stdout_open, by simp, by simpa [hc, ChildPc.pending] using hs.stderr, hs.bounded⟩
    · have := congrArg List.length hs.stderr
      simp [hc, ChildPc.pending, bytesTo] at this
      have := hs.bounded
      omega
    · exact ⟨hs.parent, hs.stdout_open, by simp, by simpa [hc, ChildPc.pending, bytesTo] using hs.stderr,
        hs.bounded⟩
    · cases o with
      | stdout =>
        exact ⟨hs.parent, by simpa using hs.stdout_open, by simp,
          by simpa [Function.update_noteq (show Output.stderr ≠ .stdout by decide), hc, ChildPc.pending, bytesTo]
            using hs.stderr,
          by simpa [Function.update_noteq (show Output.stderr ≠ .stdout by decide)] using hs.bounded⟩
      | stderr =>
        exact ⟨hs.parent,
          by simpa [Function.update_noteq (show Output.stdout ≠ .stderr by decide)] using hs.stdout_open,
          by simp, by simpa [hc, ChildPc.pending, bytesTo] using hs.stderr, by simpa using hlt⟩

/-- **A child that writes more than the pipe holds to its standard error stalls `SyncChildProcess::run`.**  After a
`write` of the launch profile that succeeded, when the child writes more than `C` bytes to its standard error, on every
schedule the parent is still writing to it or reading its standard output, and never returns: the child blocks on the
full pipe of its standard error before it can exit, and the standard output does not end before it exits
(`Session.Stalled.parent`). -/
theorem run_stderrFull (hw : w = .ok i.StandardInput.utf8ByteSize) (hC : C < (bytesTo .stderr prog.writes).length)
    (sched : List Party) (h : (Session.init i w out).run C i w prog sched = some t) : t.Stalled C prog := by
  subst hw
  exact schedule_invariant _ _ (fun _ a _ h' hs => hs.step (stdinError_ok i) hC a h') sched h
    (stalled_init i _ prog out)

/-- What holds along a run in which the `write` failed and `Pid` is `-1`: the standard input stays empty and open, the
child waits in its read, and the parent is still to return from the `write` or waits for the child. -/
structure Session.Starved (s : Session) : Prop where
  child : s.child = .readingStdin
  stdin : s.stdin = ⟨[], true⟩
  parent : s.parent = .writing [] ∨ s.parent = .waiting

theorem Session.Starved.step {e : Nat} (hw : w = .error e) (hp : i.Pid = -1) (hs : s.Starved) (a : Party)
    (h : s.step C i w prog a = some t) : t.Starved := by
  cases a with
  | parent =>
    have hq' : ∀ q, s.parent = q → q = .writing [] ∨ q = .waiting := fun q hq => hq ▸ hs.parent
    rcases parentStep_cases h with ⟨b, bs, hq, -, -⟩ | ⟨-, he, -⟩ | ⟨-, -, rfl⟩ | ⟨o, hq, -, -⟩ |
      ⟨o, hq, -, -⟩ | ⟨-, hc, -⟩ | ⟨-, hc, -⟩
    · simpa using hq' _ hq
    · simp [hw, stdinError, writeToPipe, Error.isError] at he
    · simp only [Session.afterWrite, hw, Except.toBool, Bool.false_eq_true, if_false, Session.terminate, hp, if_true]
      exact ⟨hs.child, hs.stdin, .inr rfl⟩
    · simpa using hq' _ hq
    · simpa using hq' _ hq
    · cases hc.symm.trans hs.child
    · cases hc.symm.trans hs.child
  | child =>
    rcases childStep_cases h with ⟨-, hd, -⟩ | ⟨-, hd, -⟩ | ⟨hc, -⟩ | ⟨_, _, hc, -⟩ |
      ⟨_, _, _, _, hc, -, -⟩
    · exact absurd (by rw [hs.stdin]) hd
    · cases hd.symm.trans hs.stdin
    all_goals cases hc.symm.trans hs.child

/-- **A failed `write` of the launch profile stalls `SyncChildProcess::run`.**  `writeToPipe` returns before it closes
the pipe, and `terminate()` signals nothing while `Pid` is `-1`: the child waits for the end of its standard input,
and the parent, which skips the reads, waits for the child.  On every schedule the parent never returns. -/
theorem run_stdinFails {e : Nat} (hw : w = .error e) (hp : i.Pid = -1) (hi : i.StandardInput.isEmpty = false)
    (sched : List Party) (h : (Session.init i w out).run C i w prog sched = some t) :
    t.parent = .writing [] ∨ t.parent = .waiting := by
  have h0 : (Session.init i w out).Starved := ⟨rfl, rfl, .inl (by simp [Session.init, hi, hw, stdinBytes])⟩
  exact (schedule_invariant _ _ (fun _ a _ h' hs => hs.step hw hp a h') sched h h0).parent

/-- One for each byte of a list of `write`s, twice, and one for each `write` and for the exit. -/
def writesWeight : List (Output × List Char) → Nat
  | [] => 1
  | (_, d) :: ws => 2 * d.length + 1 + writesWeight ws

/-- A bound on the steps the child has left. -/
def ChildPc.weight (prog : Program) : ChildPc → Nat
  | .readingStdin => writesWeight prog.writes + 1
  | .writing ws => writesWeight ws
  | .exited | .killed => 0

/-- A bound on the steps the parent has left. -/
def ParentPc.weight : ParentPc → Nat
  | .writing rest => 2 * rest.length + 4
  | .reading .stdout => 3
  | .reading .stderr => 2
  | .waiting => 1
  | .returned => 0

/-- A bound on the steps a session has left, which every step lowers (`step_measure`). -/
def Session.measure (prog : Program) (s : Session) : Nat :=
  s.parent.weight + s.child.weight prog + s.stdin.data.length + (s.outs .stdout).data.length +
    (s.outs .stderr).data.length

theorem terminate_weight (s : Session) : (s.terminate i).child.weight prog ≤ s.child.weight prog := by
  unfold Session.terminate; split
  · exact le_rfl
  · split <;> simp [ChildPc.weight]

theorem step_measure (a : Party) (h : s.step C i w prog a = some t) : t.measure prog < s.measure prog := by
  cases a with
  | parent =>
    rcases parentStep_cases h with ⟨b, bs, hp, -, rfl⟩ | ⟨hp, -, rfl⟩ | ⟨hp, -, rfl⟩ |
      ⟨o, hp, hd, rfl⟩ | ⟨o, hp, -, rfl⟩ | ⟨hp, -, rfl⟩ | ⟨hp, -, rfl⟩
    · simp [Session.measure, ParentPc.weight, hp]; omega
    · simp [Session.measure, ParentPc.weight, hp]
    · have := @terminate_weight i prog (s.afterWrite w)
      simp [Session.measure, ParentPc.weight, hp, terminate_outs_data] at this ⊢; omega
    · have hlt : ((s.outs o).data.drop 512).length < (s.outs o).data.length := by
        have := List.length_pos.2 hd; simp; omega
      cases o <;> simp [Session.measure, Function.update_noteq] <;> omega
    · cases o <;> simp [Session.measure, ParentPc.weight, afterRead, hp]
    · simp [Session.measure, ParentPc.weight, hp]
    · simp [Session.measure, ParentPc.weight, hp]
  | child =>
    rcases childStep_cases h with ⟨hc, hd, rfl⟩ | ⟨hc, -, rfl⟩ | ⟨hc, rfl⟩ | ⟨o, ws, hc, rfl⟩ |
      ⟨o, b, bs, ws, hc, -, rfl⟩
    · have := List.length_pos.2 hd; simp [Session.measure]; omega
    · simp [Session.measure, ChildPc.weight, hc]
    · simp [Session.measure, ChildPc.weight, hc, writesWeight]
    · simp [Session.measure, ChildPc.weight, hc, writesWeight]
    · cases o <;> simp [Session.measure, ChildPc.weight, hc, writesWeight, Function.update_noteq] <;> omega

/-- What holds along a run in which the `write` of a launch profile that is not empty succeeded: the session is
served, and the parent holds the write end of the standard input while it writes, when the child is still reading,
and closes it after. -/
structure Session.Live (prog : Program) (out : ProcessResult) (s : Session) : Prop where
  served : s.Served prog out
  writing : ∀ r, s.parent = .writing r → s.stdin.writerOpen = true ∧ s.child = .readingStdin
  written : (∀ r, s.parent ≠ .writing r) → s.stdin.writerOpen = false

theorem live_init (hi : i.StandardInput.isEmpty = false) :
    (Session.init i w out).Live prog out :=
  ⟨served_init i w prog out, fun _ _ => ⟨rfl, rfl⟩,
    fun h => absurd (show (Session.init i w out).parent = .writing (stdinBytes w i.StandardInput) by
      simp [Session.init, hi]) (h _)⟩

theorem Session.Live.step (hw : w = .ok i.StandardInput.utf8ByteSize) (hs : s.Live prog out) (a : Party)
    (h : s.step C i w prog a = some t) : t.Live prog out := by
  subst hw
  have hserved : t.Served prog out := by
    cases a with
    | parent => exact hs.served.parentStep (stdinError_ok i) h
    | child => exact hs.served.childStep h
  cases a with
  | parent =>
    rcases parentStep_cases h with ⟨b, bs, hp, -, rfl⟩ | ⟨hp, -, rfl⟩ | ⟨-, he, -⟩ | ⟨o, hp, -, rfl⟩ |
      ⟨o, hp, -, rfl⟩ | ⟨hp, -, rfl⟩ | ⟨hp, -, rfl⟩
    · exact ⟨hserved, fun _ _ => hs.writing _ hp, fun h => absurd rfl (h bs)⟩
    · exact ⟨hserved, fun _ h => (by cases h), fun _ => by simp [Session.afterWrite, Except.toBool]⟩
    · simp [stdinError_ok] at he
    · exact ⟨hserved, fun _ h => absurd (hp.symm.trans h) (by simp), fun _ => hs.written (by simp [hp])⟩
    · exact ⟨hserved, fun _ h => (by cases o <;> cases h), fun _ => hs.written (by simp [hp])⟩
    all_goals exact ⟨hserved, fun _ h => (by cases h), fun _ => hs.written (by simp [hp])⟩
  | child =>
    rcases childStep_cases h with ⟨-, -, rfl⟩ | ⟨-, hd, rfl⟩ | ⟨hc, rfl⟩ | ⟨_, _, hc, rfl⟩ |
      ⟨_, _, _, _, hc, -, rfl⟩
    · exact ⟨hserved, hs.writing, hs.written⟩
    · exact ⟨hserved, fun r hr => absurd (hs.writing r hr).1 (by simp [hd]), hs.written⟩
    all_goals exact ⟨hserved, fun r hr => absurd (hs.writing r hr).2 (by simp [hc]), hs.written⟩

/-- The standard error's pipe holds, besides what the parent has read of it, all the child has written to it. -/
theorem Session.Served.stderr_data (hs : s.Served prog out) (hq : s.parent.started .stderr = false) :
    (s.outs .stderr).data ++ s.child.pending prog .stderr = bytesTo .stderr prog.writes := by
  have := hs.collected .stderr
  rw [hs.unread .stderr hq, List.append_assoc] at this
  exact List.append_cancel_left this

/-- **Where no process can step, the parent has returned**, in a live session whose child writes at most `C` bytes
to its standard error: the parent reading its standard output never waits on a child blocked on the other pipe. -/
theorem Session.Live.returned (hC : 0 < C) (he : (bytesTo .stderr prog.writes).length ≤ C) (hs : s.Live prog out)
    (hstuck : ∀ a, s.step C i w prog a = none) : s.parent = .returned := by
  have hdone : ∀ o, s.parent.past o = true → s.child = .exited := fun o ho =>
    (hs.served.closed_iff o).1 (by simp [hs.served.drained o ho])
  rcases parentStep_none (hstuck .parent) with ⟨b, bs, hq, hfull⟩ | ⟨o, hq, hd, ho⟩ | ⟨hq, hx, -⟩ | hq
  · rcases childStep_none (hstuck .child) with ⟨-, hin⟩ | ⟨_, _, _, _, hc, -⟩ | hc | hc
    · rw [hin] at hfull; simp at hfull; omega
    all_goals rw [(hs.writing _ hq).2] at hc; cases hc
  · have hx : s.child ≠ .exited := fun h => by simp [(hs.served.closed_iff o).2 h] at ho
    rcases childStep_none (hstuck .child) with ⟨-, hin⟩ | ⟨o', b, bs, ws, hc, hfull⟩ | hc | hc
    · have := hs.written (by simp [hq]); rw [hin] at this; cases this
    · cases o
      · cases o'
        · rw [hd] at hfull; simp at hfull; omega
        · have := congrArg List.length (hs.served.stderr_data (by simp [hq, ParentPc.started]))
          simp [hc, ChildPc.pending, bytesTo] at this
          omega
      · rw [hdone .stdout (by simp [hq, ParentPc.past])] at hc; cases hc
    · exact absurd hc hx
    · exact absurd hc hs.served.not_killed
  · exact absurd (hdone .stdout (by simp [hq, ParentPc.past])) hx
  · exact hq

theorem run_livePred (hw : w = .ok i.StandardInput.utf8ByteSize) (hi : i.StandardInput.isEmpty = false)
    (sched : List Party) (h : (Session.init i w out).run C i w prog sched = some t) : t.Live prog out :=
  schedule_invariant _ _ (fun _ a _ h' hs => hs.step hw a h') sched h (live_init hi)

/-- **A child that writes at most `C` bytes to its standard error is always served.**  After a `write` of a launch
profile that is not empty that succeeded, with pipes that hold a byte or more: no run is longer than the measure of
the start, a run can always go on until the parent returns, and on some schedule it returns. -/
theorem run_live (hw : w = .ok i.StandardInput.utf8ByteSize) (hi : i.StandardInput.isEmpty = false) (hC : 0 < C)
    (he : (bytesTo .stderr prog.writes).length ≤ C) :
    (∀ sched t, (Session.init i w out).run C i w prog sched = some t →
      sched.length ≤ (Session.init i w out).measure prog ∧
      ((∀ a, t.step C i w prog a = none) → t.parent = .returned)) ∧
    ∃ sched t, (Session.init i w out).run C i w prog sched = some t ∧ t.parent = .returned := by
  have hmeasure := fun s a t (h : Session.step C i w prog s a = some t) => step_measure a h
  refine ⟨fun sched t h => ⟨?_, fun hs => (run_livePred hw hi sched h).returned hC he hs⟩, ?_⟩
  · have := schedule_length _ _ hmeasure sched h; omega
  · obtain ⟨sched, t, h, hs⟩ := schedule_exists_stuck _ _ hmeasure (Session.init i w out)
    exact ⟨sched, t, h, (run_livePred hw hi sched h).returned hC he hs⟩

theorem run_live_ls :
    let i := Impl.new ⟨⟨"/usr/lib/rstudio-server/bin/rsandbox"⟩, (·.path), "/usr/bin"⟩ lsOptions
    let ok : Except Nat Nat := .ok i.StandardInput.utf8ByteSize
    let prog : Program := ⟨[(.stdout, List.replicate 100000 'o'), (.stderr, List.replicate 65536 'e')], 0⟩
    (∀ sched t, (Session.init i ok ⟨"", "", 0⟩).run 65536 i ok prog sched = some t →
      sched.length ≤ (Session.init i ok ⟨"", "", 0⟩).measure prog ∧
      ((∀ a, t.step 65536 i ok prog a = none) → t.parent = .returned)) ∧
    ∃ sched t, (Session.init i ok ⟨"", "", 0⟩).run 65536 i ok prog sched = some t ∧ t.parent = .returned :=
  run_live rfl (createLaunchProfile_isEmpty lsOptions) (by decide)
    (by simp only [bytesTo, if_neg (show Output.stdout ≠ .stderr by decide), if_pos, List.nil_append, List.append_nil,
      List.length_replicate]; omega)

/-- Where a run that overfills the standard error gets stuck: the parent reads the empty standard output, whose
write end the child holds, while the child is blocked in a `write` to its standard error, whose pipe is full. -/
theorem Session.Stalled.stuck (hC : 0 < C) (hC' : C < (bytesTo .stderr prog.writes).length) (hs : s.Stalled C prog)
    (hl : s.Live prog out) (hstuck : ∀ a, s.step C i w prog a = none) :
    s.parent = .reading .stdout ∧ (s.outs .stdout).data = [] ∧ (s.outs .stdout).writerOpen = true ∧
      (s.outs .stderr).data.length = C ∧ ∃ b bs ws, s.child = .writing ((.stderr, b :: bs) :: ws) := by
  have hq' : ∀ q, s.parent = q → (∃ r, q = .writing r) ∨ q = .reading .stdout := fun q hq => hq ▸ hs.parent
  rcases parentStep_none (hstuck .parent) with ⟨b, bs, hq, hfull⟩ | ⟨o, hq, hd, ho⟩ | ⟨hq, -⟩ | hq
  · rcases childStep_none (hstuck .child) with ⟨-, hin⟩ | ⟨_, _, _, _, hc, -⟩ | hc | hc
    · rw [hin] at hfull; simp at hfull; omega
    all_goals rw [(hl.writing _ hq).2] at hc; cases hc
  · obtain rfl : o = .stdout := by rcases hq' _ hq with ⟨r, hr⟩ | hr <;> cases hr; rfl
    rcases childStep_none (hstuck .child) with ⟨-, hin⟩ | ⟨o', b, bs, ws, hc, hfull⟩ | hc | hc
    · have := hl.written (by simp [hq]); rw [hin] at this; cases this
    · cases o'
      · rw [hd] at hfull; simp at hfull; omega
      · exact ⟨hq, hd, ho, le_antisymm hs.bounded hfull, b, bs, ws, hc⟩
    · have := congrArg List.length hs.stderr
      simp [hc, ChildPc.pending] at this
      have := hs.bounded; omega
    · exact absurd hc hs.not_killed
  all_goals rcases hq' _ hq with ⟨r, hr⟩ | hr <;> cases hr

/-- A served session whose parent has returned holds all the child wrote to each output, after what the result held,
and the exit code of its wait status. -/
theorem Session.Served.returned_result (hs : s.Served prog out) (ht : s.parent = .returned) :
    s.result = ⟨out.StdOut ++ ⟨bytesTo .stdout prog.writes⟩, out.StdError ++ ⟨bytesTo .stderr prog.writes⟩,
      exitCode prog.status⟩ := by
  have hd : ∀ o, s.outs o = ⟨[], false⟩ := fun o => hs.drained o (by simp [ht, ParentPc.past])
  have hc : s.child = .exited := (hs.closed_iff .stdout).1 (by simp [hd])
  have hget : ∀ o, s.result.get o = out.get o ++ ⟨bytesTo o prog.writes⟩ := fun o => by
    have := hs.collected o
    rw [hd o, hc] at this
    exact String.ext (by simpa [ChildPc.pending] using this)
  have h1 := hget .stdout
  have h2 := hget .stderr
  have h3 := hs.exit ht
  rcases hr : s.result with ⟨so, se, ec⟩
  rw [hr] at h1 h2 h3
  simp only [ProcessResult.get] at h1 h2 h3
  rw [h1, h2, h3]

/-- **The session's parent is `collect`.**  On every schedule on which the parent returns after a `write` of the launch
profile that succeeded, `collect` (the same code with the outcome of each call as an input) returns `Success()` and
the session's result, for outcomes in which that `write` succeeds, each read returns what the child wrote to its
output, in any chunks, then end of file, and the wait reaps the child with its status. -/
theorem run_refines_collect (hw : w = .ok i.StandardInput.utf8ByteSize) (sched : List Party)
    (h : (Session.init i w out).run C i w prog sched = some t) (ht : t.parent = .returned) (k : Outcomes)
    (hk : k.stdinWrite = w) (ho : k.stdout.last = none) (he : k.stderr.last = none)
    (hjo : String.join k.stdout.chunks = ⟨bytesTo .stdout prog.writes⟩)
    (hje : String.join k.stderr.chunks = ⟨bytesTo .stderr prog.writes⟩) (hwait : k.waitpid = none) (p : Proc)
    (hpid : i.Pid = -1) {pid : Nat} {cs : List (Nat × Nat)} (hc : p.children = (pid, prog.status) :: cs) :
    (collect k i out p).1 = .success ∧ (collect k i out p).2.1 = t.result := by
  subst hw
  have hr := (Session.Served.run (stdinError_ok i) sched h (served_init i _ prog out)).returned_result ht
  have hwc : (waitCall k i p).1 = .ok (pid, prog.status) := by
    simp only [waitCall, hwait, hpid, Proc.waitpid_any p _ _ hc]
  obtain ⟨h1, h2⟩ := collect_reads k i out p hk ho he
  have h3 := (collect_wait k i out p).1
  rw [hwc] at h3
  refine ⟨by rw [collect_error]; simp [waitError, hwait], ?_⟩
  rcases hres : (collect k i out p).2.1 with ⟨so, se, ec⟩
  rw [hres] at h1 h2 h3
  simp only at h1 h2 h3
  rw [hr, h1, h2, h3, hjo, hje]

theorem run_refines_collect_ls :
    let i := Impl.new ⟨⟨"/usr/lib/rstudio-server/bin/rsandbox"⟩, (·.path), "/usr/bin"⟩ lsOptions
    let ok : Except Nat Nat := .ok i.StandardInput.utf8ByteSize
    let prog : Program := ⟨[(.stdout, "total 0".data), (.stderr, "x".data)], 0⟩
    let k := Outcomes.allSucceed ⟨4242, by decide, 0⟩ [] i.StandardInput ["total ", "0"] ["x"]
    ∃ sched t, (Session.init i ok ⟨"", "", 0⟩).run 512 i ok prog sched = some t ∧ t.parent = .returned ∧
      (collect k i ⟨"", "", 0⟩ ⟨[], [(4242, 0)], []⟩).1 = .success ∧
      (collect k i ⟨"", "", 0⟩ ⟨[], [(4242, 0)], []⟩).2.1 = t.result := by
  intro i ok prog k
  obtain ⟨sched, t, h, hs⟩ :=
    schedule_exists_stuck (Session.step 512 i ok prog) (Session.measure prog) (fun _ a _ h => step_measure a h)
      (Session.init i ok ⟨"", "", 0⟩)
  have hr := (run_livePred (by rfl) (by exact createLaunchProfile_isEmpty lsOptions) sched h).returned (by decide)
    (by simp [prog, bytesTo]) hs
  exact ⟨sched, t, h, hr, run_refines_collect (by rfl) sched h hr k (by rfl) rfl rfl (by decide) (by decide) rfl _
    (by rfl) rfl⟩

/-- **`SyncChildProcess::run` deadlocks.**  With pipes of 65536 bytes, the launch profile of `ls`, and a child that
reads it and writes 65537 bytes to its standard error: on every schedule the parent never returns, and some schedule
ends with the parent blocked reading its empty standard output and the child blocked writing to its full standard
error.  And when the `write` of the launch profile fails, on every schedule the parent never returns. -/
theorem syncRun_stalls (h : Host) (out : ProcessResult) (sched : List Party) (t : Session) :
    let i := Impl.new h lsOptions
    let ok : Except Nat Nat := .ok i.StandardInput.utf8ByteSize
    let prog : Program := ⟨[(.stderr, List.replicate 65537 'x')], 0⟩
    ((Session.init i ok out).run 65536 i ok prog sched = some t → t.parent ≠ .returned) ∧
    (∃ sched' t', (Session.init i ok out).run 65536 i ok prog sched' = some t' ∧
      (∀ a, t'.step 65536 i ok prog a = none) ∧ t'.parent = .reading .stdout ∧ (t'.outs .stdout).data = [] ∧
      (t'.outs .stderr).data.length = 65536 ∧ ∃ b bs ws, t'.child = .writing ((.stderr, b :: bs) :: ws)) ∧
    ((Session.init i (.error EIO) out).run 65536 i (.error EIO) prog sched = some t → t.parent ≠ .returned) := by
  intro i ok prog
  have hC : 65536 < (bytesTo .stderr prog.writes).length := by
    simp only [prog, bytesTo, if_pos, List.append_nil, List.length_replicate]; omega
  have hi : i.StandardInput.isEmpty = false := createLaunchProfile_isEmpty lsOptions
  refine ⟨fun hr => ?_, ?_, fun hr => ?_⟩
  · rcases (run_stderrFull rfl hC sched hr).parent with ⟨r, hp⟩ | hp <;> rw [hp] <;> simp
  · obtain ⟨sched', t', h', hstuck⟩ :=
      schedule_exists_stuck (Session.step 65536 i ok prog) (Session.measure prog) (fun _ a _ h => step_measure a h)
        (Session.init i ok out)
    obtain ⟨hp, hd, -, hfull, hc⟩ :=
      (run_stderrFull rfl hC sched' h').stuck (by decide) hC (run_livePred rfl hi sched' h') hstuck
    exact ⟨sched', t', h', hstuck, hp, hd, hfull, hc⟩
  · rcases run_stdinFails rfl rfl hi sched hr with hp | hp <;> rw [hp] <;> simp

end Served

end Process
end Launcher
