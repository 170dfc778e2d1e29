import LauncherSdk.Run
import Mathlib.Algebra.Group.Nat.Basic
import Mathlib.Algebra.Group.Int
/-!
# CloseParentFds — the control pipe between `sendFileDescriptors` and `closeParentFds` (Process.cpp)

After `fork` the parent writes each descriptor `getOpenFds` found open in the child as a 4-byte value, then `-1`, and
closes its end; the child reads the values in `closeParentFds` and closes each one, and sweeps every descriptor below
the file limit when it read none or a read failed.  The two parties step in any order (`Exchange.run`).  Whatever the
order, the child ends where it would had the parent written everything first (`run_flush`), so where it returns does
not depend on the schedule (`run_replicate_returned`), and it never closes a standard stream or its own pipe
(`childStep_keeps`).  A read at end of file returns `0` and leaves `errno` as it was, and the loop retries while
`errno` is `EINTR` or `EAGAIN`: when the parent stops before `-1` with such an `errno` left over, the child spins for
good (`run_spins`); and the sweep stops at the limit narrowed to 32 bits (`run_sweep`).  With any other `errno`,
whatever the scan and the writes did, the child returns, having closed what it read and, unless the stream ended with
`-1` after a descriptor, swept (`run_closesOrSweeps`).
-/
namespace Launcher
namespace Process

open Posix

/-- `RLIM_INFINITY` on Linux: the largest `rlim_t`. -/
def RLIM_INFINITY : Nat := 2 ^ 64 - 1

/-- `startFd`: the descriptor after `STDERR_FILENO`. -/
def startFd : Nat := 3

/-- The 4 bytes `write(closeFd, &value, 4)` puts in the pipe, as an unsigned 32-bit word. -/
def word (v : Int) : Nat := (v % 2 ^ 32).toNat

/-- The same 4 bytes read into `int32_t buffer`. -/
def int32 (w : Nat) : Int := if w < 2 ^ 31 then w else w - 2 ^ 32

/-- The child as `closeParentFds` changes it: its open descriptors, each once, and `errno`. -/
structure Child where
  fds : List Nat
  fds_nodup : fds.Nodup
  errno : Nat
  deriving DecidableEq, Repr

/-- `closeFd`: `close(in_fd)`, retried while it fails with `EINTR`.  An open descriptor is freed; one that is not open
fails with `EBADF`, which `errno` keeps. -/
def closeFd (c : Child) (fd : Nat) : Child :=
  if fd ∈ c.fds then ⟨c.fds.erase fd, c.fds_nodup.erase fd, c.errno⟩ else { c with errno := EBADF }

/-- Where `closeParentFds` is: in its read loop (with `fdsRead`), in the sweep at `fd`, or returned. -/
inductive Phase where
  | reading (fdsRead : Bool)
  | sweeping (fd : Nat) (from_start : startFd ≤ fd)
  | returned
  deriving DecidableEq, Repr

/-- After the loop: `if (error || !fdsRead)` the sweep from `startFd`, else return. -/
def afterLoop (error fdsRead : Bool) : Phase :=
  if error || !fdsRead then .sweeping startFd (Nat.le_refl _) else .returned

/-- One pass of the read loop on what `::read(in_pipeFd, &buffer, 4)` gave: a word, or nothing at end of file, where
`read` returns `0` and leaves `errno` as the calls before it left it. -/
def readPass (pipeFd maxFd : Nat) (c : Child) (fdsRead : Bool) : Option Nat → Child × Phase
  | none => if c.errno ≠ EINTR ∧ c.errno ≠ EAGAIN then (c, afterLoop true fdsRead) else (c, .reading fdsRead)
  | some w =>
    if int32 w = -1 then (c, afterLoop false fdsRead)
    else (if startFd ≤ w ∧ w < maxFd ∧ int32 w ≠ pipeFd then closeFd c w else c, .reading true)

/-- `uint32_t maxFd = (in_maxFd == RLIM_INFINITY) ? 1024 : in_maxFd;`, which keeps the low 32 bits of a finite
limit. -/
def sweepBound (maxFd : Nat) : Nat := if maxFd = RLIM_INFINITY then 1024 else maxFd % 2 ^ 32

/-- One pass of `for (uint32_t fd = startFd; fd < maxFd; ++fd) if (fd != in_pipeFd) closeFd(fd);`. -/
def sweepPass (pipeFd maxFd : Nat) (c : Child) (fd : Nat) (h : startFd ≤ fd) : Child × Phase :=
  if fd < sweepBound maxFd then (if fd ≠ pipeFd then closeFd c fd else c, .sweeping (fd + 1) (Nat.le_succ_of_le h))
  else (c, .returned)

/-- The parent's side of the control pipe: writing, with the words `sendFileDescriptors` has still to write, or done,
its end closed by `closePipe(fds.CloseFd[s_writePipe])`. -/
inductive Writer where
  | sending (rest : List Nat)
  | closed
  deriving DecidableEq, Repr

/-- The words a writer has still to write. -/
def Writer.rest : Writer → List Nat
  | .sending rest => rest
  | .closed => []

/-- The parent, the words in the control pipe, and the child in `closeParentFds`. -/
structure Exchange where
  writer : Writer
  pipe : List Nat
  child : Child
  phase : Phase
  deriving DecidableEq, Repr

/-- The exchange as `fork` leaves it: the parent is about to write what `sendFileDescriptors` sends, the pipe is empty,
and the child enters the loop holding `c`. -/
def Exchange.init (k : Outcomes) (c : Child) : Exchange :=
  ⟨.sending ((sendFileDescriptors k).2.map word), [], c, .reading false⟩

/-- The parent's next step: its next 4-byte write, which the pipe takes whole, or the close once none is left. -/
def Exchange.parentStep (s : Exchange) : Option Exchange :=
  match s.writer with
  | .sending (w :: ws) => some { s with writer := .sending ws, pipe := s.pipe ++ [w] }
  | .sending [] => some { s with writer := .closed }
  | .closed => none

/-- The child's next step: a pass of the read loop, whose `read` blocks on an empty pipe while the write end is open,
or a pass of the sweep. -/
def Exchange.childStep (pipeFd maxFd : Nat) (s : Exchange) : Option Exchange :=
  match s.phase, s.pipe, s.writer with
  | .reading fdsRead, w :: ws, _ =>
    let r := readPass pipeFd maxFd s.child fdsRead (some w)
    some { s with pipe := ws, child := r.1, phase := r.2 }
  | .reading _, [], .sending _ => none
  | .reading fdsRead, [], .closed =>
    let r := readPass pipeFd maxFd s.child fdsRead none
    some { s with child := r.1, phase := r.2 }
  | .sweeping fd h, _, _ =>
    let r := sweepPass pipeFd maxFd s.child fd h
    some { s with child := r.1, phase := r.2 }
  | .returned, _, _ => none

def Exchange.step (pipeFd maxFd : Nat) (s : Exchange) : Party → Option Exchange
  | .parent => s.parentStep
  | .child => s.childStep pipeFd maxFd

/-- A schedule run of the exchange. -/
def Exchange.run (pipeFd maxFd : Nat) (s : Exchange) (sched : List Party) : Option Exchange :=
  schedule (Exchange.step pipeFd maxFd) s sched

/-- The exchange as the child will find it once the parent has written all it has left and closed its end. -/
def Exchange.flush (s : Exchange) : Exchange := { s with writer := .closed, pipe := s.pipe ++ s.writer.rest }

section Steps

variable {pipeFd maxFd : Nat} {s t : Exchange}

@[simp] theorem rest_closed : Writer.closed.rest = [] := rfl
@[simp] theorem flush_child (s : Exchange) : s.flush.child = s.child := rfl
@[simp] theorem flush_phase (s : Exchange) : s.flush.phase = s.phase := rfl

theorem run_cons (a : Party) (as : List Party) :
    s.run pipeFd maxFd (a :: as) = (s.step pipeFd maxFd a).bind fun t => t.run pipeFd maxFd as := rfl

theorem parentStep_child (h : s.parentStep = some t) : t.child = s.child ∧ t.phase = s.phase := by
  unfold Exchange.parentStep at h
  split at h <;> cases h <;> exact ⟨rfl, rfl⟩

/-- A write or the close moves words from the parent to the pipe and changes nothing the child will find. -/
theorem parentStep_flush (h : s.parentStep = some t) : t.flush = s.flush := by
  unfold Exchange.parentStep at h
  split at h <;> cases h <;> simp [Exchange.flush, Writer.rest, *]

/-- A child step is the same step on the flushed exchange. -/
theorem childStep_flush (h : s.childStep pipeFd maxFd = some t) : s.flush.childStep pipeFd maxFd = some t.flush := by
  unfold Exchange.childStep at h
  split at h <;> cases h <;> simp [Exchange.childStep, Exchange.flush, Writer.rest, *]

theorem childStep_returned (h : s.phase = .returned) : s.childStep pipeFd maxFd = none := by
  simp [Exchange.childStep, h]

/-- **Every interleaving is the parent's writing everything first.**  Whatever the schedule, the child is where it
would be after as many steps of its own, had the parent written all its words and closed before the child's first
read. -/
theorem run_flush (sched : List Party) (h : s.run pipeFd maxFd sched = some t) :
    s.flush.run pipeFd maxFd (List.replicate (sched.count .child) .child) = some t.flush := by
  induction sched generalizing s with
  | nil => cases h; rfl
  | cons a as ih =>
    obtain ⟨s', hs, hr⟩ := Option.bind_eq_some.1 h
    cases a with
    | parent => simpa [parentStep_flush hs] using ih hr
    | child =>
      rw [List.count_cons_self, List.replicate_succ, run_cons]
      simpa [Exchange.step, childStep_flush hs] using ih hr

/-- Once the child has returned, it takes no more steps: of two runs of its own steps, both returned, neither is
longer. -/
theorem run_replicate_returned {t' : Exchange} (n n' : Nat) (h : s.run pipeFd maxFd (List.replicate n .child) = some t)
    (h' : s.run pipeFd maxFd (List.replicate n' .child) = some t') (ht : t.phase = .returned)
    (ht' : t'.phase = .returned) : t = t' := by
  induction n generalizing s n' with
  | zero =>
    cases h
    cases n' with
    | zero => cases h'; rfl
    | succ n' => simp [List.replicate_succ, run_cons, Exchange.step, childStep_returned ht] at h'
  | succ n ih =>
    cases n' with
    | zero =>
      cases h'
      simp [List.replicate_succ, run_cons, Exchange.step, childStep_returned ht'] at h
    | succ n' =>
      obtain ⟨s', hs, hr⟩ := Option.bind_eq_some.1 h
      obtain ⟨s'', hs', hr'⟩ := Option.bind_eq_some.1 h'
      rw [hs] at hs'
      cases hs'
      exact ih n' hr hr'

/-- What both parties' steps keep, every run keeps. -/
theorem run_invariant (P : Exchange → Prop) (hpar : ∀ {s t : Exchange}, s.parentStep = some t → P s → P t)
    (hch : ∀ {s t : Exchange}, s.childStep pipeFd maxFd = some t → P s → P t) (sched : List Party)
    (h : s.run pipeFd maxFd sched = some t) (hs : P s) : P t :=
  schedule_invariant _ P (fun _ a _ h' => match a with | .parent => hpar h' | .child => hch h') sched h hs

/-- A run of the child's own steps from a state its step leaves alone stays there. -/
theorem run_replicate_of_childStep (h : s.childStep pipeFd maxFd = some s) (n : Nat) :
    s.run pipeFd maxFd (List.replicate n .child) = some s := by
  induction n with
  | zero => rfl
  | succ n ih => simp [List.replicate_succ, run_cons, Exchange.step, h, ih]

/-- At end of file with a stale `EINTR` or `EAGAIN`, a pass of the read loop changes nothing. -/
theorem childStep_spin {fr : Bool} (hph : s.phase = .reading fr) (hp : s.pipe = []) (hw : s.writer = .closed)
    (he : s.child.errno = EINTR ∨ s.child.errno = EAGAIN) : s.childStep pipeFd maxFd = some s := by
  rcases s with ⟨_, _, c, _⟩
  simp only at hph hp hw he
  subst hph hp hw
  have hc : ¬(c.errno ≠ EINTR ∧ c.errno ≠ EAGAIN) := fun ⟨h1, h2⟩ => he.elim h1 h2
  simp [Exchange.childStep, readPass, hc]

/-- **A stale `EINTR` or `EAGAIN` at end of file spins the child for good.**  Once the child has read every word the
parent will write and none was `-1`, in whatever order the parties go on the child stays in its loop where it is, and
once the parent has closed its end each pass of the loop leads back to the same state. -/
theorem run_spins {fr : Bool} (hph : s.phase = .reading fr) (hrest : s.pipe ++ s.writer.rest = [])
    (he : s.child.errno = EINTR ∨ s.child.errno = EAGAIN) (sched : List Party)
    (h : s.run pipeFd maxFd sched = some t) :
    t.phase = .reading fr ∧ (t.writer = .closed → t.childStep pipeFd maxFd = some t) := by
  have hs : s.flush.childStep pipeFd maxFd = some s.flush := childStep_spin hph hrest rfl he
  have ht : t.flush = s.flush := Option.some.inj ((run_flush sched h).symm.trans (run_replicate_of_childStep hs _))
  have htp : t.phase = .reading fr := by rw [← flush_phase, ht, flush_phase, hph]
  refine ⟨htp, fun hw => childStep_spin htp ?_ hw (by rw [← flush_child, ht, flush_child]; exact he)⟩
  have := congrArg Exchange.pipe ht
  simpa [Exchange.flush, hw, hrest] using this

theorem closeFd_mem (c : Child) (fd d : Nat) : d ∈ (closeFd c fd).fds ↔ d ∈ c.fds ∧ d ≠ fd := by
  unfold closeFd
  split
  · exact c.fds_nodup.mem_erase_iff.trans and_comm
  · exact ⟨fun h => ⟨h, by rintro rfl; contradiction⟩, And.left⟩

theorem closeFd_if_mem (c : Child) (R : Prop) [Decidable R] (fd d : Nat) :
    d ∈ (if R then closeFd c fd else c).fds ↔ d ∈ c.fds ∧ ¬(d = fd ∧ R) := by
  split <;> simp [closeFd_mem, *]

theorem int32_of_lt {w : Nat} (h : w < 2 ^ 31) : int32 w = w := if_pos h

/-- A pass of the read loop never closes a standard stream or the pipe it reads. -/
theorem readPass_keeps (hp : pipeFd < 2 ^ 31) (c : Child) (fr : Bool) (r : Option Nat) {d : Nat}
    (hd : d < startFd ∨ d = pipeFd) : d ∈ (readPass pipeFd maxFd c fr r).1.fds ↔ d ∈ c.fds := by
  rcases r with _ | w
  · simp only [readPass]; split <;> rfl
  · simp only [readPass]
    split
    · rfl
    · split
      · rename_i h
        rw [closeFd_mem]
        refine and_iff_left_of_imp fun _ e => ?_
        subst e
        rcases hd with hd | rfl
        · exact absurd h.1 (by omega)
        · exact h.2.2 (int32_of_lt hp)
      · rfl

/-- Nor does a pass of the sweep. -/
theorem sweepPass_keeps (c : Child) {fd : Nat} (hf : startFd ≤ fd) {d : Nat} (hd : d < startFd ∨ d = pipeFd) :
    d ∈ (sweepPass pipeFd maxFd c fd hf).1.fds ↔ d ∈ c.fds := by
  simp only [sweepPass]
  split
  · split
    · rw [closeFd_mem]
      refine and_iff_left_of_imp fun _ e => ?_
      subst e
      omega
    · rfl
  · rfl

theorem childStep_keeps (hp : pipeFd < 2 ^ 31) {d : Nat} (hd : d < startFd ∨ d = pipeFd)
    (h : s.childStep pipeFd maxFd = some t) : d ∈ t.child.fds ↔ d ∈ s.child.fds := by
  unfold Exchange.childStep at h
  split at h <;> cases h
  · exact readPass_keeps hp _ _ _ hd
  · exact readPass_keeps hp _ _ _ hd
  · exact sweepPass_keeps _ _ hd

/-- **The child never closes a standard stream or the pipe it reads**, in whatever order the parties go. -/
theorem run_keeps (hp : pipeFd < 2 ^ 31) {d : Nat} (hd : d < startFd ∨ d = pipeFd) (sched : List Party)
    (h : s.run pipeFd maxFd sched = some t) : d ∈ t.child.fds ↔ d ∈ s.child.fds :=
  run_invariant (fun t => d ∈ t.child.fds ↔ d ∈ s.child.fds)
    (fun h' hs => by simpa only [(parentStep_child h').1] using hs) (fun h' hs => (childStep_keeps hp hd h').trans hs)
    sched h Iff.rfl

theorem run_keeps_pipe :
    let s := Exchange.init (Outcomes.allSucceed ⟨4242, by decide, 0⟩ [0, 1, 2, 3, 4] "" [] [])
      ⟨[0, 1, 2, 3, 4], by decide, 0⟩
    ∃ t, s.run 3 1024 [.parent, .child, .parent] = some t ∧ (3 ∈ t.child.fds ↔ 3 ∈ s.child.fds) := by
  intro s
  obtain ⟨t, ht⟩ : ∃ t, s.run 3 1024 [.parent, .child, .parent] = some t := ⟨_, rfl⟩
  exact ⟨t, ht, run_keeps (by decide) (.inr rfl) _ ht⟩

/-- **The sweep closes every descriptor from `fd` below the narrowed limit but the pipe, then returns.** -/
theorem run_sweep (n : Nat) : ∀ (fd : Nat) (hf : startFd ≤ fd) (s : Exchange), s.phase = .sweeping fd hf →
    sweepBound maxFd - fd = n → ∃ t, s.run pipeFd maxFd (List.replicate (n + 1) .child) = some t ∧
      t.phase = .returned ∧
      ∀ d, d ∈ t.child.fds ↔ d ∈ s.child.fds ∧ ¬(fd ≤ d ∧ d < sweepBound maxFd ∧ d ≠ pipeFd) := by
  induction n with
  | zero =>
    intro fd hf s hph hn
    have hge : ¬fd < sweepBound maxFd := by omega
    refine ⟨_, by simp [run_cons, Exchange.step, Exchange.childStep, hph, sweepPass, hge]; rfl, rfl, fun d => ?_⟩
    exact ⟨fun h => ⟨h, by omega⟩, And.left⟩
  | succ n ih =>
    intro fd hf s hph hn
    have hlt : fd < sweepBound maxFd := by omega
    obtain ⟨t, ht, htr, hd⟩ := ih (fd + 1) (Nat.le_succ_of_le hf)
      { s with child := (sweepPass pipeFd maxFd s.child fd hf).1, phase := .sweeping (fd + 1) (Nat.le_succ_of_le hf) }
      rfl (by omega)
    have hsp : (sweepPass pipeFd maxFd s.child fd hf).2 = .sweeping (fd + 1) (Nat.le_succ_of_le hf) := by
      simp [sweepPass, hlt]
    refine ⟨t, ?_, htr, fun d => ?_⟩
    · rw [List.replicate_succ, run_cons]
      simp only [Exchange.step, Exchange.childStep, hph, hsp, Option.some_bind]
      exact ht
    · rw [hd d]
      simp only [sweepPass, hlt, if_true]
      rw [closeFd_if_mem]
      by_cases e : d = fd
      · subst e; simp [hlt]
      · have : fd + 1 ≤ d ↔ fd ≤ d := by omega
        simp [e, this]

theorem run_append (a b : List Party) :
    s.run pipeFd maxFd (a ++ b) = (s.run pipeFd maxFd a).bind fun t => t.run pipeFd maxFd b :=
  schedule_append _ s a b

/-- The parent writes all its words and closes. -/
theorem run_sendAll (ws : List Nat) :
    ∀ s : Exchange, s.writer = .sending ws →
      s.run pipeFd maxFd (List.replicate (ws.length + 1) .parent) = some s.flush := by
  induction ws with
  | nil => intro s h; simp [run_cons, Exchange.step, Exchange.parentStep, h, Exchange.flush, Writer.rest]; rfl
  | cons w ws ih =>
    intro s h
    rw [List.length_cons, List.replicate_succ, run_cons]
    simp only [Exchange.step, Exchange.parentStep, h, Option.some_bind]
    exact (ih _ rfl).trans (by simp [Exchange.flush, h, Writer.rest])

theorem readPass_word {w : Nat} (hw : w < 2 ^ 31) (c : Child) (fr : Bool) :
    readPass pipeFd maxFd c fr (some w) =
      (if startFd ≤ w ∧ w < maxFd ∧ w ≠ pipeFd then closeFd c w else c, .reading true) := by
  have : (w : Int) ≠ -1 := by omega
  simp [readPass, int32_of_lt hw, this, Int.ofNat_inj]

theorem readPass_streamEnd (c : Child) (fr : Bool) :
    readPass pipeFd maxFd c fr (some (2 ^ 32 - 1)) = (c, afterLoop false fr) := by
  simp [readPass, int32]

/-- Reading words below `2^31`: each one from `startFd` below the limit that is not the pipe is closed. -/
theorem run_readWords (ws : List Nat) (hws : ∀ w ∈ ws, w < 2 ^ 31) (rest : List Nat) :
    ∀ (s : Exchange) (fr : Bool), s.phase = .reading fr → s.pipe = ws ++ rest →
    ∃ t, s.run pipeFd maxFd (List.replicate ws.length .child) = some t ∧
      t.phase = .reading (fr || !ws.isEmpty) ∧ t.pipe = rest ∧ t.writer = s.writer ∧
      ∀ d, d ∈ t.child.fds ↔
        d ∈ s.child.fds ∧ ¬(d ∈ ws ∧ startFd ≤ d ∧ d < maxFd ∧ d ≠ pipeFd) := by
  induction ws with
  | nil => intro s fr hph hp; exact ⟨s, rfl, by simp [hph], hp, rfl, fun d => by simp⟩
  | cons w ws ih =>
    intro s fr hph hp
    have hw := hws w (List.mem_cons_self _ _)
    obtain ⟨t, ht, htp, htr, htw, hd⟩ := ih (fun v hv => hws v (List.mem_cons_of_mem _ hv))
      { s with pipe := ws ++ rest, child := (readPass pipeFd maxFd s.child fr (some w)).1, phase := .reading true } true
      rfl rfl
    refine ⟨t, ?_, by simpa using htp, htr, htw, fun d => ?_⟩
    · rw [List.length_cons, List.replicate_succ, run_cons]
      simp only [Exchange.step, Exchange.childStep, hph, hp, List.cons_append, readPass_word hw, Option.some_bind]
      simpa [readPass_word hw] using ht
    · rw [hd d, readPass_word hw]
      rw [closeFd_if_mem, List.mem_cons]
      by_cases e : d = w
      · subst e
        simp only [true_and, true_or]
        exact ⟨And.left, fun h => ⟨h, fun hb => h.2 hb.2⟩⟩
      · simp [e]

/-- A step of the child closes at most one descriptor. -/
theorem childStep_child (h : s.childStep pipeFd maxFd = some t) :
    t.child = s.child ∨ ∃ fd, t.child = closeFd s.child fd := by
  unfold Exchange.childStep at h
  split at h <;> cases h
  · simp only [readPass]
    split_ifs
    · exact .inl rfl
    · exact .inr ⟨_, rfl⟩
    · exact .inl rfl
  · simp only [readPass]; split_ifs <;> exact .inl rfl
  · simp only [sweepPass]
    split_ifs
    · exact .inr ⟨_, rfl⟩
    · exact .inl rfl
    · exact .inl rfl

theorem closeFd_errno (c : Child) (fd : Nat) : (closeFd c fd).errno = c.errno ∨ (closeFd c fd).errno = EBADF := by
  unfold closeFd; split
  · exact .inl rfl
  · exact .inr rfl

/-- An `errno` other than `EINTR` and `EAGAIN` stays so: a failed `close` sets `EBADF`. -/
theorem run_clean (sched : List Party) (h : s.run pipeFd maxFd sched = some t)
    (he : s.child.errno ≠ EINTR ∧ s.child.errno ≠ EAGAIN) :
    t.child.errno ≠ EINTR ∧ t.child.errno ≠ EAGAIN := by
  refine run_invariant (fun t => t.child.errno ≠ EINTR ∧ t.child.errno ≠ EAGAIN)
    (fun h' hs => by simpa only [(parentStep_child h').1] using hs) (fun h' hs => ?_) sched h he
  rcases childStep_child h' with e | ⟨fd, e⟩ <;> rw [e]
  · exact hs
  · rcases closeFd_errno _ fd with e' | e' <;> rw [e']
    · exact hs
    · decide

/-- From the stream as the child finds it once the parent is done, descriptors below `2^31` then `-1` or not, the child
returns after steps of its own, having closed the descriptors it read and, unless it read `-1` after one of them, swept
from `startFd` below the narrowed limit.  `errno` matters only when the stream does not end with `-1`. -/
theorem flush_run_returns (fds : List Nat) (hfds : ∀ fd ∈ fds, fd < 2 ^ 31) (ended : Bool) (c : Child)
    (he : ended = true ∨ c.errno ≠ EINTR ∧ c.errno ≠ EAGAIN) :
    ∃ n t, (⟨.closed, fds ++ (if ended then [2 ^ 32 - 1] else []), c, .reading false⟩ : Exchange).run pipeFd maxFd
        (List.replicate n .child) = some t ∧ t.phase = .returned ∧
      ∀ d, d ∈ t.child.fds ↔ d ∈ c.fds ∧ ¬(d ∈ fds ∧ startFd ≤ d ∧ d < maxFd ∧ d ≠ pipeFd) ∧
        ¬((!ended || fds.isEmpty) ∧ startFd ≤ d ∧ d < sweepBound maxFd ∧ d ≠ pipeFd) := by
  obtain ⟨t1, h1, hp1, hr1, hw1, hd1⟩ := @run_readWords pipeFd maxFd fds hfds (if ended then [2 ^ 32 - 1] else [])
    ⟨.closed, fds ++ (if ended then [2 ^ 32 - 1] else []), c, .reading false⟩ false rfl rfl
  by_cases hA : ended = true ∧ fds ≠ []
  · obtain ⟨rfl, hne⟩ := hA
    refine ⟨fds.length + 1, { t1 with pipe := [], phase := .returned }, ?_, rfl, fun d => ?_⟩
    · rw [List.replicate_succ', run_append, h1]
      simp [run_cons, Exchange.step, Exchange.childStep, hp1, hr1, readPass, int32, afterLoop, hne]
      rfl
    · simp [hd1 d, hne]
  · have hsw : (!ended || fds.isEmpty) = true := by
      cases ended
      · rfl
      · simpa [List.isEmpty_iff] using hA
    have h2 : t1.childStep pipeFd maxFd = some { t1 with pipe := [], phase := .sweeping startFd le_rfl } := by
      cases ended with
      | false =>
        simp only [if_false] at hr1
        simp [Exchange.childStep, hp1, hr1, hw1, readPass, run_clean _ h1 (he.resolve_left Bool.false_ne_true),
          afterLoop]
      | true =>
        obtain rfl : fds = [] := by simpa using hA
        simp [Exchange.childStep, hp1, hr1, readPass, int32, afterLoop]
    obtain ⟨t3, h3, hp3, hd3⟩ := run_sweep (sweepBound maxFd - startFd) startFd le_rfl
      { t1 with pipe := [], phase := .sweeping startFd le_rfl } rfl rfl
    refine ⟨fds.length + 1 + (sweepBound maxFd - startFd + 1), t3, ?_, hp3, fun d => ?_⟩
    · rw [List.replicate_add, run_append, List.replicate_succ', run_append, h1]
      simpa [run_cons, Exchange.step, h2] using h3
    · rw [hd3, hd1, hsw]
      simp only [true_and, and_assoc]

end Steps

theorem word_natCast {n : Nat} (h : n < 2 ^ 32) : word n = n := by
  have : (n : Int) % 2 ^ 32 = n := Int.emod_eq_of_lt (by omega) (by omega)
  rw [word, this, Int.toNat_ofNat]

/-- **`closeParentFds` can spin for good, and its sweep can stop short of the limit.**  Two exchanges with the control
pipe's read end at `3`.  In the first, the first write of `sendFileDescriptors` fails and `errno` holds an `EINTR` an
earlier call left: on every schedule the child stays in its loop, and once the parent has closed its end each pass
leaves it where it was.  In the second, the scan fails, the parent sends only `-1`, and the limit is `2^32 + 5`: the
child returns, and on every schedule on which it returns descriptor `10`, below the limit, is still open. -/
theorem closeParentFds_spinsOrStopsShort (sched : List Party) (t : Exchange) :
    let kSpin := { Outcomes.allSucceed ⟨4242, by decide, 0⟩ [0, 1, 2, 3, 4, 10] "" [] [] with
      fdWrite := fun _ => some EIO }
    let kScan := { Outcomes.allSucceed ⟨4242, by decide, 0⟩ [] "" [] [] with openFds := .error EMFILE }
    let c : Nat → Child := fun errno => ⟨[0, 1, 2, 3, 4, 10], by decide, errno⟩
    ((Exchange.init kSpin (c EINTR)).run 3 1024 sched = some t →
      t.phase = .reading false ∧ (t.writer = .closed → t.childStep 3 1024 = some t)) ∧
    (∃ sched' t', (Exchange.init kScan (c 0)).run 3 (2 ^ 32 + 5) sched' = some t' ∧ t'.phase = .returned) ∧
    ((Exchange.init kScan (c 0)).run 3 (2 ^ 32 + 5) sched = some t → t.phase = .returned →
      t.child.fds = [0, 1, 2, 3, 10]) := by
  intro kSpin kScan c
  have h0 : (Exchange.init kScan (c 0)).run 3 (2 ^ 32 + 5) [.parent, .parent, .child, .child, .child, .child] =
      some ⟨.closed, [], ⟨[0, 1, 2, 3, 10], by decide, 0⟩, .returned⟩ := rfl
  refine ⟨fun h => run_spins (by rfl) (by rfl) (.inl (by rfl)) sched h, ⟨_, _, h0, rfl⟩, fun h ht => ?_⟩
  have := run_replicate_returned _ _ (run_flush sched h) (run_flush _ h0) ht rfl
  exact congrArg (fun t => t.child.fds) this

/-- **A complete stream closes exactly the scanned descriptors in range.**  When the scan and every write succeed and
the scan found a descriptor, the child returns on some schedule, and on every schedule on which it returns it has
closed, of what it held, exactly the scanned descriptors from `startFd` below the limit but its pipe. -/
theorem run_closesScanned (k : Outcomes) {scan : List Nat} (hk : k.openFds = .ok scan) (hw : ∀ n, k.fdWrite n = none)
    (he : k.endWrite = none) (hs : ∀ fd ∈ scan, fd < 2 ^ 31) (hne : scan ≠ []) (c : Child) (pipeFd maxFd : Nat) :
    (∃ sched t, (Exchange.init k c).run pipeFd maxFd sched = some t ∧ t.phase = .returned) ∧
    ∀ sched t, (Exchange.init k c).run pipeFd maxFd sched = some t → t.phase = .returned →
      ∀ d, d ∈ t.child.fds ↔ d ∈ c.fds ∧ ¬(d ∈ scan ∧ startFd ≤ d ∧ d < maxFd ∧ d ≠ pipeFd) := by
  have hwords : (sendFileDescriptors k).2.map word = scan ++ [2 ^ 32 - 1] := by
    rw [sendFileDescriptors_ok k hk hw he, List.map_append, List.map_map]
    congr 1
    exact (List.map_congr_left fun fd h => word_natCast (by have := hs fd h; omega)).trans (List.map_id' _)
  have hflush : (Exchange.init k c).flush = ⟨.closed, scan ++ [2 ^ 32 - 1], c, .reading false⟩ := by
    simp [Exchange.init, Exchange.flush, hwords, Writer.rest]
  obtain ⟨t1, h1, hp1, hr1, -, hd1⟩ := @run_readWords pipeFd maxFd scan hs [2 ^ 32 - 1]
    (Exchange.init k c).flush false (by rw [hflush]) (by rw [hflush])
  have hph1 : t1.phase = .reading true := by
    cases scan with
    | nil => exact absurd rfl hne
    | cons => simpa using hp1
  have h2 : (Exchange.init k c).flush.run pipeFd maxFd (List.replicate (scan.length + 1) .child) =
      some { t1 with pipe := [], phase := .returned } := by
    rw [List.replicate_succ', run_append, h1]
    simp [run_cons, Exchange.step, Exchange.childStep, hph1, hr1, readPass_streamEnd, afterLoop]
    rfl
  refine ⟨⟨List.replicate (scan.length + 2) .parent ++ List.replicate (scan.length + 1) .child,
    { t1 with pipe := [], phase := .returned }, ?_, rfl⟩,
    fun sched t h ht d => ?_⟩
  · have := @run_sendAll pipeFd maxFd (scan ++ [2 ^ 32 - 1]) (Exchange.init k c)
      (by simp [Exchange.init, hwords])
    rw [run_append, show scan.length + 2 = (scan ++ [2 ^ 32 - 1]).length + 1 by simp, this]
    exact h2
  · have := run_replicate_returned _ _ (run_flush sched h) h2 ht rfl
    rw [← flush_child, this]
    simpa [hflush] using hd1 d

theorem run_closesScanned_ls :
    let k := Outcomes.allSucceed ⟨4242, by decide, 0⟩ [0, 1, 2, 3, 4, 5] "" [] []
    let c : Child := ⟨[0, 1, 2, 3, 4, 5], by decide, 0⟩
    (∃ sched t, (Exchange.init k c).run 3 1024 sched = some t ∧ t.phase = .returned) ∧
    ∀ sched t, (Exchange.init k c).run 3 1024 sched = some t → t.phase = .returned →
      ∀ d, d ∈ t.child.fds ↔ d ∈ c.fds ∧ ¬(d ∈ [0, 1, 2, 3, 4, 5] ∧ startFd ≤ d ∧ d < 1024 ∧ d ≠ 3) :=
  run_closesScanned _ rfl (fun _ => rfl) rfl (by decide) (by decide) _ 3 1024

/-- From `fork` on: whatever the parent sends, descriptors below `2^31` then `-1` or not, the child returns on some
schedule, and on every schedule on which it returns it has closed what `flush_run_returns` says. -/
theorem init_run_returns (k : Outcomes) (fds : List Nat) (ended : Bool)
    (hv : (sendFileDescriptors k).2 = fds.map (↑) ++ if ended then [-1] else []) (hfds : ∀ fd ∈ fds, fd < 2 ^ 31)
    (c : Child) (he : ended = true ∨ c.errno ≠ EINTR ∧ c.errno ≠ EAGAIN) (pipeFd maxFd : Nat) :
    (∃ sched t, (Exchange.init k c).run pipeFd maxFd sched = some t ∧ t.phase = .returned) ∧
    ∀ sched t, (Exchange.init k c).run pipeFd maxFd sched = some t → t.phase = .returned →
      ∀ d, d ∈ t.child.fds ↔ d ∈ c.fds ∧ ¬(d ∈ fds ∧ startFd ≤ d ∧ d < maxFd ∧ d ≠ pipeFd) ∧
        ¬((!ended || fds.isEmpty) ∧ startFd ≤ d ∧ d < sweepBound maxFd ∧ d ≠ pipeFd) := by
  have hwords : (sendFileDescriptors k).2.map word = fds ++ if ended then [2 ^ 32 - 1] else [] := by
    rw [hv, List.map_append, List.map_map]
    congr 1
    · exact (List.map_congr_left fun fd h => word_natCast (by have := hfds fd h; omega)).trans (List.map_id' _)
    · cases ended <;> rfl
  have hflush :
      (Exchange.init k c).flush = ⟨.closed, fds ++ if ended then [2 ^ 32 - 1] else [], c, .reading false⟩ := by
    simp [Exchange.init, Exchange.flush, hwords, Writer.rest]
  obtain ⟨n, tF, hF, hpF, hdF⟩ := @flush_run_returns pipeFd maxFd fds hfds ended c he
  rw [← hflush] at hF
  refine ⟨⟨List.replicate (((sendFileDescriptors k).2.map word).length + 1) .parent ++ List.replicate n .child, tF,
    ?_, hpF⟩, fun sched t h ht d => ?_⟩
  · rw [run_append, run_sendAll _ _ rfl]
    exact hF
  · have := run_replicate_returned _ _ (run_flush sched h) hF ht hpF
    rw [← flush_child, this, hdF]

/-- **Whatever the scan and the writes do, the child returns, having closed what it read and, unless the stream ended
with `-1` after a descriptor, swept.**  For any outcome of the scan and of each write, the parent sends descriptors,
then `-1` or not.  When they are below `2^31` and `errno` is neither `EINTR` nor `EAGAIN`, the child returns on some
schedule, and on every schedule on which it returns it has closed, of what it held, the descriptors it read from
`startFd` below the limit but its pipe, and, when the stream did not end with `-1` after one of them, every one from
`startFd` below the narrowed limit but its pipe. -/
theorem run_closesOrSweeps (k : Outcomes) (fds : List Nat) (ended : Bool)
    (hv : (sendFileDescriptors k).2 = fds.map (↑) ++ if ended then [-1] else []) (hfds : ∀ fd ∈ fds, fd < 2 ^ 31)
    (c : Child) (he : c.errno ≠ EINTR ∧ c.errno ≠ EAGAIN) (pipeFd maxFd : Nat) :
    (∃ sched t, (Exchange.init k c).run pipeFd maxFd sched = some t ∧ t.phase = .returned) ∧
    ∀ sched t, (Exchange.init k c).run pipeFd maxFd sched = some t → t.phase = .returned →
      ∀ d, d ∈ t.child.fds ↔ d ∈ c.fds ∧ ¬(d ∈ fds ∧ startFd ≤ d ∧ d < maxFd ∧ d ≠ pipeFd) ∧
        ¬((!ended || fds.isEmpty) ∧ startFd ≤ d ∧ d < sweepBound maxFd ∧ d ≠ pipeFd) :=
  init_run_returns k fds ended hv hfds c (.inr he) pipeFd maxFd

theorem run_closesOrSweeps_writeFails :
    let k := { Outcomes.allSucceed ⟨4242, by decide, 0⟩ [0, 1, 2, 3, 4, 10] "" [] [] with
      fdWrite := fun n => if n = 2 then some EIO else none }
    let c : Child := ⟨[0, 1, 2, 3, 4, 10], by decide, 0⟩
    (∃ sched t, (Exchange.init k c).run 3 1024 sched = some t ∧ t.phase = .returned) ∧
    ∀ sched t, (Exchange.init k c).run 3 1024 sched = some t → t.phase = .returned →
      ∀ d, d ∈ t.child.fds ↔ d ∈ c.fds ∧ ¬(d ∈ [0, 1] ∧ startFd ≤ d ∧ d < 1024 ∧ d ≠ 3) ∧
        ¬((!false || [0, 1].isEmpty) ∧ startFd ≤ d ∧ d < sweepBound 1024 ∧ d ≠ 3) :=
  run_closesOrSweeps _ [0, 1] false (by rfl) (by decide) _ (by decide) 3 1024

/-- **Where the child returns does not depend on the schedule**: two runs on which it returns leave it the same
descriptors and `errno`. -/
theorem run_returned_child {pipeFd maxFd : Nat} {s t t' : Exchange} (sched sched' : List Party)
    (h : s.run pipeFd maxFd sched = some t) (h' : s.run pipeFd maxFd sched' = some t') (ht : t.phase = .returned)
    (ht' : t'.phase = .returned) : t.child = t'.child := by
  have := run_replicate_returned _ _ (run_flush sched h) (run_flush sched' h') ht ht'
  simpa using congrArg Exchange.child this

theorem run_returned_child_sweep :
    let k := { Outcomes.allSucceed ⟨4242, by decide, 0⟩ [] "" [] [] with openFds := .error EMFILE }
    let s := Exchange.init k ⟨[0, 1, 2, 3, 4, 10], by decide, 0⟩
    ∃ t t', s.run 3 (2 ^ 32 + 5) [.parent, .parent, .child, .child, .child, .child] = some t ∧
      s.run 3 (2 ^ 32 + 5) [.parent, .child, .child, .parent, .child, .child] = some t' ∧
      t.phase = .returned ∧ t'.phase = .returned ∧ t.child = t'.child := by
  intro k s
  obtain ⟨t, ht, hr⟩ : ∃ t, s.run 3 (2 ^ 32 + 5) [.parent, .parent, .child, .child, .child, .child] = some t ∧
    t.phase = .returned := by exact ⟨_, rfl, rfl⟩
  obtain ⟨t', ht', hr'⟩ :
    ∃ t', s.run 3 (2 ^ 32 + 5) [.parent, .child, .child, .parent, .child, .child] = some t' ∧
      t'.phase = .returned := by exact ⟨_, rfl, rfl⟩
  exact ⟨t, t', ht, ht', hr, hr', run_returned_child _ _ ht ht' hr hr'⟩

end Process
end Launcher
