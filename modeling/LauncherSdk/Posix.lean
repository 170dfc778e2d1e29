import Mathlib.Data.List.Basic
/-!
# Posix — the calling process as the launch path's system calls see it

What the kernel keeps for the process that runs `AbstractChildProcess::run`: its descriptor table (`pipe()` takes the
two lowest free descriptors, `close()` frees one), its children that are not yet reaped, each with the wait status it
ends with, and the signals it sent.  Whether each call of the launch path succeeds is an input of `Run`; what a call
does to this state when it succeeds is fixed here.
-/
namespace Launcher
namespace Posix

/-- The errno values and the signal the launch path names or meets, with their Linux numbers. -/
def EPERM : Nat := 1
def ESRCH : Nat := 3
def EINTR : Nat := 4
def EIO : Nat := 5
def EBADF : Nat := 9
def ECHILD : Nat := 10
def EAGAIN : Nat := 11
def EMFILE : Nat := 24
def EPIPE : Nat := 32
def SIGTERM : Nat := 15

/-- The lowest descriptor that is not open: a call that opens descriptors takes the lowest free ones (XSH 2.14). -/
def lowestFree (t : List Int) : Int :=
  Int.ofNat (((List.range (t.length + 1)).find? fun (n : Nat) => Int.ofNat n ∉ t).getD t.length)

theorem lowestFree_not_mem (t : List Int) : lowestFree t ∉ t := by
  unfold lowestFree
  cases h : (List.range (t.length + 1)).find? fun (n : Nat) => Int.ofNat n ∉ t with
  | some n => simpa using List.find?_some h
  | none =>
    have hsub : List.range (t.length + 1) ⊆ t.map Int.toNat := fun n hn =>
      List.mem_map.2 ⟨n, by simpa using List.find?_eq_none.1 h n hn, rfl⟩
    exact absurd (List.subperm_of_subset (List.nodup_range _) hsub).length_le (by simp)

/-- Every descriptor below the lowest free one is open. -/
theorem mem_of_lt_lowestFree (t : List Int) {m : Nat} (h : (m : Int) < lowestFree t) : (m : Int) ∈ t := by
  unfold lowestFree at h
  cases hf : (List.range (t.length + 1)).find? fun (n : Nat) => Int.ofNat n ∉ t with
  | some n =>
    rw [hf, Option.getD_some, Int.ofNat_eq_coe, Int.ofNat_lt] at h
    simpa using (List.find?_range_eq_some.1 hf).2.2 m h
  | none =>
    rw [hf, Option.getD_none, Int.ofNat_eq_coe, Int.ofNat_lt] at h
    simpa using List.find?_range_eq_none.1 hf m (by omega)

theorem lowestFree_le_length (t : List Int) : lowestFree t ≤ t.length := by
  unfold lowestFree
  cases hf : (List.range (t.length + 1)).find? fun (n : Nat) => Int.ofNat n ∉ t with
  | some n =>
    have := List.mem_range.1 (List.find?_range_eq_some.1 hf).2.1
    simp only [Option.getD_some, Int.ofNat_eq_coe]; omega
  | none => simp

/-- Taking the lowest free descriptor makes the next one higher. -/
theorem lowestFree_lt_cons (t : List Int) : lowestFree t < lowestFree (lowestFree t :: t) := by
  have hne := lowestFree_not_mem (lowestFree t :: t)
  obtain ⟨m, hm⟩ : ∃ m : Nat, lowestFree (lowestFree t :: t) = m := ⟨_, rfl⟩
  rw [hm] at hne ⊢
  refine Int.not_le.1 fun hle => hne ?_
  by_cases heq : (m : Int) = lowestFree t
  · exact heq ▸ List.mem_cons_self _ _
  · exact List.mem_cons_of_mem _ (mem_of_lt_lowestFree t (by omega))

/-- The process: its open descriptors (the latest opened first), its children that are not yet reaped (pid and the wait
status the child ends with, in the order they end), and the `kill` calls it made (the latest first). -/
@[ext] structure Proc where
  fds : List Int
  children : List (Nat × Nat)
  kills : List (Int × Nat)
  deriving DecidableEq, Repr

namespace Proc

/-- `pipe()`: the read and the write end, the two lowest free descriptors. -/
def pipe (p : Proc) : (Int × Int) × Proc :=
  let r := lowestFree p.fds
  let w := lowestFree (r :: p.fds)
  ((r, w), { p with fds := w :: r :: p.fds })

/-- `close(fd)`.  On Linux the descriptor is free afterwards whatever the call returns; a descriptor that is not open
makes it fail with `EBADF` and change nothing. -/
def close (p : Proc) (fd : Int) : Proc := { p with fds := p.fds.erase fd }

/-- A `fork()` that succeeded: a new child, taken to end after the children already there. -/
def fork (p : Proc) (pid status : Nat) : Proc := { p with children := p.children ++ [(pid, status)] }

/-- `kill(pid, sig)`. -/
def kill (p : Proc) (pid : Int) (sig : Nat) : Proc := { p with kills := (pid, sig) :: p.kills }

/-- Whether `waitpid(pid, …)` waits for a child: `-1` stands for every child. -/
def waitsFor (pid : Int) (c : Nat × Nat) : Bool := pid = -1 ∨ pid = c.1

/-- `waitpid(pid, &status, 0)`: it blocks until the first child it waits for ends, and reaps it; with no such child it
fails with `ECHILD`. -/
def waitpid (p : Proc) (pid : Int) : Except Nat (Nat × Nat) × Proc :=
  match p.children.find? (waitsFor pid) with
  | some c => (.ok c, { p with children := p.children.erase c })
  | none => (.error ECHILD, p)

@[simp] theorem close_children (p : Proc) (fd : Int) : (p.close fd).children = p.children := rfl
@[simp] theorem close_kills (p : Proc) (fd : Int) : (p.close fd).kills = p.kills := rfl
@[simp] theorem close_fds (p : Proc) (fd : Int) : (p.close fd).fds = p.fds.erase fd := rfl
@[simp] theorem pipe_children (p : Proc) : p.pipe.2.children = p.children := rfl
@[simp] theorem pipe_kills (p : Proc) : p.pipe.2.kills = p.kills := rfl
@[simp] theorem pipe_fds (p : Proc) : p.pipe.2.fds = p.pipe.1.2 :: p.pipe.1.1 :: p.fds := rfl
@[simp] theorem fork_fds (p : Proc) (pid status : Nat) : (p.fork pid status).fds = p.fds := rfl
@[simp] theorem kill_fds (p : Proc) (pid : Int) (sig : Nat) : (p.kill pid sig).fds = p.fds := rfl
@[simp] theorem kill_children (p : Proc) (pid : Int) (sig : Nat) : (p.kill pid sig).children = p.children := rfl

/-- The two ends of a new pipe are distinct and were not open. -/
theorem pipe_fresh (p : Proc) : p.pipe.1.1 ∉ p.fds ∧ p.pipe.1.2 ∉ p.pipe.1.1 :: p.fds :=
  ⟨lowestFree_not_mem _, lowestFree_not_mem _⟩

/-- A pipe's read end is below its write end, which is below both ends of the next pipe. -/
theorem pipe_lt (p : Proc) : p.pipe.1.1 < p.pipe.1.2 := lowestFree_lt_cons p.fds

theorem pipe_lt_next (p : Proc) : p.pipe.1.2 < p.pipe.2.pipe.1.1 := lowestFree_lt_cons (p.pipe.1.1 :: p.fds)

theorem pipe_nonneg (p : Proc) : 0 ≤ p.pipe.1.1 := Int.ofNat_zero_le _

theorem pipe_le_length (p : Proc) : p.pipe.1.2 ≤ p.fds.length + 1 := by
  show lowestFree (lowestFree p.fds :: p.fds) ≤ _
  have := lowestFree_le_length (lowestFree p.fds :: p.fds)
  simp only [List.length_cons] at this
  omega

@[simp] theorem pipe_length (p : Proc) : p.pipe.2.fds.length = p.fds.length + 2 := by simp

/-- `waitpid(-1, …)` reaps the first child to end, whoever forked it. -/
theorem waitpid_any (p : Proc) (c : Nat × Nat) (cs : List (Nat × Nat)) (h : p.children = c :: cs) :
    p.waitpid (-1) = (.ok c, { p with children := cs }) := by
  simp [waitpid, h, waitsFor]

theorem waitpid_unset_children (p : Proc) : (p.waitpid (-1)).2.children = p.children.tail := by
  rcases hc : p.children with _ | ⟨c, cs⟩
  · simp [waitpid, hc]
  · rw [waitpid_any p c cs hc]; rfl

end Proc
/-- Who takes the next step: the calling process or the child it forked. -/
inductive Party where
  | parent
  | child
  deriving DecidableEq, Repr

section Schedule

variable {σ : Type} (step : σ → Party → Option σ)

/-- A schedule run: the parties step in the order it lists them; `none` when one that cannot step is scheduled. -/
def schedule (s : σ) : List Party → Option σ
  | [] => some s
  | a :: as => (step s a).bind fun t => schedule t as

theorem schedule_cons (s : σ) (a : Party) (as : List Party) :
    schedule step s (a :: as) = (step s a).bind fun t => schedule step t as := rfl

theorem schedule_append (s : σ) (a b : List Party) :
    schedule step s (a ++ b) = (schedule step s a).bind fun t => schedule step t b := by
  induction a generalizing s with
  | nil => rfl
  | cons x a ih => simp only [List.cons_append, schedule_cons, Option.bind_assoc, ih]

/-- What every step keeps, every run keeps. -/
theorem schedule_invariant (P : σ → Prop) (h : ∀ s a t, step s a = some t → P s → P t) {s t : σ}
    (sched : List Party) (hr : schedule step s sched = some t) (hs : P s) : P t := by
  induction sched generalizing s with
  | nil => cases hr; exact hs
  | cons a as ih =>
    obtain ⟨s', hs', hr'⟩ := Option.bind_eq_some.1 hr
    exact ih hr' (h s a s' hs' hs)

/-- When every step lowers a measure, no schedule is longer than the measure it starts from. -/
theorem schedule_length (μ : σ → Nat) (h : ∀ s a t, step s a = some t → μ t < μ s) {s t : σ}
    (sched : List Party) (hr : schedule step s sched = some t) : sched.length + μ t ≤ μ s := by
  induction sched generalizing s with
  | nil => cases hr; simp
  | cons a as ih =>
    obtain ⟨s', hs', hr'⟩ := Option.bind_eq_some.1 hr
    have := ih hr'
    have := h s a s' hs'
    simp only [List.length_cons]
    omega

/-- When every step lowers a measure, some schedule leads to a state where neither party can step. -/
theorem schedule_exists_stuck (μ : σ → Nat) (h : ∀ s a t, step s a = some t → μ t < μ s) (s : σ) :
    ∃ sched t, schedule step s sched = some t ∧ ∀ a, step t a = none := by
  suffices ∀ n s, μ s = n → ∃ sched t, schedule step s sched = some t ∧ ∀ a, step t a = none from
    this _ s rfl
  intro n
  induction n using Nat.strong_induction_on with
  | _ n ih =>
    intro s hs
    by_cases hst : ∃ a t, step s a = some t
    · obtain ⟨a, t, ht⟩ := hst
      obtain ⟨sched, u, hu, hstuck⟩ := ih (μ t) (hs ▸ h s a t ht) t rfl
      exact ⟨a :: sched, u, by simp [schedule_cons, ht, hu], hstuck⟩
    · exact ⟨[], s, rfl, fun a => Option.eq_none_iff_forall_not_mem.2 fun t ht => hst ⟨a, t, ht⟩⟩

end Schedule

end Posix
end Launcher
