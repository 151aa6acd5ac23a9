import Mathlib.Logic.Function.Basic
import Mathlib.Data.List.Basic

/-! Threads sharing one session. libssh2 keeps the details of one error per session, so a
wrapper that reads them after a failing call must not let another thread's call in between.
The known-host code holds `session_state::aquire_lock()` across the call and the error read;
the SFTP wrappers and the handle deleter take no lock. -/
namespace Ssh.Interleaving

/-- The atomic steps a thread takes on the session. -/
inductive Action
  /-- Take the session's mutex (`aquire_lock`); waits while another thread holds it. -/
  | acquire
  /-- One libssh2 call on the session; libssh2 records an error in the session only when the
  call fails. -/
  | call (fails : Bool)
  /-- One read of the session's error state (`last_error`, `libssh2_sftp_last_error`). -/
  | readError
  /-- The `scoped_lock` goes out of scope. -/
  | release
  deriving DecidableEq, Repr

/-- The library's operations, by what they do with the session. -/
inductive Op
  /-- A `detail::libssh2::sftp` wrapper (`init`, `open`, `read`, `write`) or another SFTP call
  of the stream and directory code: on failure `throw_last_error` reads `last_error`, then
  `libssh2_sftp_last_error` when the code is `LIBSSH2_ERROR_SFTP_PROTOCOL`. -/
  | sftp (fails protocol : Bool)
  /-- `libssh2_sftp_close_handle`, run by the deleter of an open handle's `shared_ptr`; its
  result is ignored, but a failing close still records its error in the session. -/
  | closeHandle (fails : Bool)
  /-- A known-host operation (`readline`, `next_host`, `add`, ...): the wrapper and its error
  read run inside the `scoped_lock` of `aquire_lock()`. -/
  | knownhost (fails : Bool)
  deriving DecidableEq, Repr

/-- Whether the operation runs inside the session lock. -/
def Op.locked : Op → Bool
  | .knownhost _ => true
  | _ => false

/-- Whether the operation's libssh2 call fails. -/
def Op.fails : Op → Bool
  | .sftp fails _ | .closeHandle fails | .knownhost fails => fails

/-- How many times the operation reads the session's error state after its call. -/
def Op.errorReads : Op → Nat
  | .sftp fails protocol => if fails then (if protocol then 2 else 1) else 0
  | .closeHandle _ => 0
  | .knownhost fails => if fails then 1 else 0

theorem Op.fails_of_errorReads {op : Op} (h : 0 < op.errorReads) : op.fails = true := by
  cases op with
  | sftp fails => cases fails <;> simp_all [Op.errorReads, Op.fails]
  | closeHandle => simp [Op.errorReads] at h
  | knownhost fails => cases fails <;> simp_all [Op.errorReads, Op.fails]

/-- The operation's steps, in program order. -/
def Op.actions (op : Op) : List Action :=
  if op.locked then .acquire :: .call op.fails :: List.replicate op.errorReads .readError ++ [.release]
  else .call op.fails :: List.replicate op.errorReads .readError

/-- The session shared by all threads, with each thread's remaining steps. `lastCaller` is the
thread whose failing call came last, so whose error the session's error state holds; `reads` logs
each error read with the thread that made it and the thread whose error it saw. -/
structure Machine where
  threads : Nat → List Action
  lock : Option Nat
  lastCaller : Option Nat
  reads : List (Nat × Option Nat)

/-- Every thread about to run its program, the lock free and no call made yet. -/
def Machine.start (progs : Nat → List Op) : Machine :=
  ⟨fun t => (progs t).flatMap Op.actions, none, none, []⟩

/-- Thread `t` takes its next step; a thread that has finished, or waits for a lock another
thread holds, does not move. -/
def step (m : Machine) (t : Nat) : Machine :=
  match m.threads t with
  | [] => m
  | .acquire :: rest =>
    if m.lock = none then { m with threads := Function.update m.threads t rest, lock := some t }
    else m
  | .call fails :: rest =>
    { m with threads := Function.update m.threads t rest,
             lastCaller := if fails then some t else m.lastCaller }
  | .readError :: rest =>
    { m with threads := Function.update m.threads t rest, reads := m.reads ++ [(t, m.lastCaller)] }
  | .release :: rest => { m with threads := Function.update m.threads t rest, lock := none }

/-- The interleaving that a schedule picks: the thread of each step, in order. -/
def run (m : Machine) (sched : List Nat) : Machine := sched.foldl step m

@[simp] theorem run_nil (m : Machine) : run m [] = m := rfl

@[simp] theorem run_cons (m : Machine) (t : Nat) (sched : List Nat) :
    run m (t :: sched) = run (step m t) sched := rfl

/-- A failing SFTP read on thread 0 while a close of thread 1's file handle fails: the close's
call lands between the read's call and its error read, which then sees thread 1's error. -/
theorem close_steals_read_error :
    (run (Machine.start fun t => if t = 0 then [.sftp true false]
      else if t = 1 then [.closeHandle true] else []) [0, 1, 0]).reads = [(0, some 1)] := rfl

/-! Programs made only of locked operations never read another thread's error. -/

/-- The rest of a thread's steps between two locked operations; only a failing call is followed
by error reads. -/
inductive Between : List Action → Prop
  | nil : Between []
  | block (fails : Bool) (k : Nat) {rest : List Action} (hk : 0 < k → fails = true) :
      Between rest →
        Between (.acquire :: .call fails :: List.replicate k .readError ++ .release :: rest)

theorem between_flatMap {ops : List Op} (h : ∀ op ∈ ops, op.locked = true) :
    Between (ops.flatMap Op.actions) := by
  induction ops with
  | nil => exact .nil
  | cons op ops ih =>
    simp only [List.mem_cons, forall_eq_or_imp] at h
    simpa [Op.actions, h.1] using
      Between.block op.fails op.errorReads Op.fails_of_errorReads (ih h.2)

/-- Where thread `t` can be, given the lock holder and the last caller: between operations, or
inside one holding the lock, before its call or past it, and then the last caller when error
reads are left. -/
def Place (lock lastCaller : Option Nat) (t : Nat) (l : List Action) : Prop :=
  Between l ∨ ∃ k rest, Between rest ∧ lock = some t ∧
    ((∃ fails, (0 < k → fails = true) ∧
        l = .call fails :: List.replicate k .readError ++ .release :: rest) ∨
      (l = List.replicate k .readError ++ .release :: rest ∧ (0 < k → lastCaller = some t)))

theorem Place.between_of_ne {lock lc : Option Nat} {t : Nat} {l : List Action}
    (h : Place lock lc t l) (hl : ∀ u, lock = some u → u ≠ t) : Between l := by
  rcases h with h | ⟨_, _, _, hlock, _⟩
  · exact h
  · exact absurd rfl (hl t hlock)

/-- The invariant: every thread is in its place and every error read so far saw its own
thread's error. -/
structure Guarded (m : Machine) : Prop where
  place : ∀ t, Place m.lock m.lastCaller t (m.threads t)
  ownReads : ∀ r ∈ m.reads, r.2 = some r.1

theorem Guarded.update_same {m : Machine} (hm : Guarded m) {u : Nat} {rest : List Action}
    (hu : Place m.lock m.lastCaller u rest) (t : Nat) :
    Place m.lock m.lastCaller t (Function.update m.threads u rest t) := by
  rw [Function.update_apply]
  split_ifs with h
  · exact h ▸ hu
  · exact hm.place t

theorem Guarded.update_other {m : Machine} (hm : Guarded m) {u : Nat} {rest : List Action}
    {lock lc : Option Nat} (hu : Place lock lc u rest) (hfree : ∀ v, m.lock = some v → v = u)
    (t : Nat) : Place lock lc t (Function.update m.threads u rest t) := by
  rw [Function.update_apply]
  split_ifs with h
  · exact h ▸ hu
  · exact .inl ((hm.place t).between_of_ne fun v hv => (hfree v hv).trans_ne (Ne.symm h))

theorem Guarded.step {m : Machine} (hm : Guarded m) (u : Nat) : Guarded (step m u) := by
  rcases hm.place u with hb | ⟨k, rest, hrest, hlock, ⟨fails, hk, hl⟩ | ⟨hl, hlc⟩⟩
  · generalize hl : m.threads u = l at hb
    cases hb with
    | nil => simpa [Interleaving.step, hl] using hm
    | @block fails k rest hk hrest =>
      unfold Interleaving.step
      rw [hl]
      split_ifs with hfree
      · exact ⟨hm.update_other (.inr ⟨k, rest, hrest, rfl, .inl ⟨fails, hk, rfl⟩⟩)
          (by simp [hfree]), hm.ownReads⟩
      · exact hm
  · simp only [Interleaving.step, hl]
    refine ⟨hm.update_other (.inr ⟨k, rest, hrest, hlock, .inr ⟨rfl, fun h => ?_⟩⟩)
      (by simp [hlock]), hm.ownReads⟩
    simp [hk h]
  · cases k with
    | zero =>
      simp only [Interleaving.step, hl, List.replicate_zero, List.nil_append]
      exact ⟨hm.update_other (.inl hrest) (by simp [hlock]), hm.ownReads⟩
    | succ k =>
      have hlc := hlc (Nat.succ_pos k)
      simp only [Interleaving.step, hl, List.replicate_succ, List.cons_append]
      refine ⟨hm.update_same (.inr ⟨k, rest, hrest, hlock, .inr ⟨rfl, fun _ => hlc⟩⟩),
        fun r hr => ?_⟩
      rcases List.mem_append.1 hr with hr | hr
      · exact hm.ownReads r hr
      · rw [List.mem_singleton.1 hr]
        exact hlc

theorem Guarded.run {m : Machine} (hm : Guarded m) (sched : List Nat) : Guarded (run m sched) := by
  induction sched generalizing m with
  | nil => exact hm
  | cons t sched ih => exact ih (hm.step t)

/-- With every operation inside the session lock, as the known-host code does it, each error
read in every interleaving of any number of threads sees the error of its own thread's call. -/
theorem locked_ops_read_own_errors (progs : Nat → List Op)
    (hlocked : ∀ t, ∀ op ∈ progs t, op.locked = true) (sched : List Nat) :
    ∀ r ∈ (run (Machine.start progs) sched).reads, r.2 = some r.1 :=
  (Guarded.run ⟨fun t => .inl (between_flatMap (hlocked t)), by simp [Machine.start]⟩ sched).ownReads

/-- Two threads whose known-host operations fail, interleaved as far as the lock lets them. -/
theorem locked_ops_read_own_errors_two_threads :
    (∀ t, ∀ op ∈ (fun t => if t < 2 then [Op.knownhost true, .knownhost false] else []) t,
      op.locked = true) ∧
    ∀ r ∈ (run (Machine.start fun t => if t < 2 then [Op.knownhost true, .knownhost false] else [])
      [0, 1, 0, 1, 0, 0, 1, 1]).reads, r.2 = some r.1 :=
  have hlocked : ∀ t, ∀ op ∈ (fun t => if t < 2 then [Op.knownhost true, .knownhost false] else [])
      t, op.locked = true := fun t op h => by
    dsimp only at h
    split_ifs at h <;> simp at h
    rcases h with rfl | rfl <;> rfl
  ⟨hlocked, locked_ops_read_own_errors _ hlocked _⟩

/-- The lock excludes: a thread in the middle of an operation (past its `acquire`, before its
`release`) holds the session lock, so no two threads are inside at once. -/
theorem Guarded.holds_lock {m : Machine} (hm : Guarded m) {t : Nat} (ht : ¬Between (m.threads t)) :
    m.lock = some t := by
  rcases hm.place t with hb | ⟨_, _, _, hlock, _⟩
  · exact absurd hb ht
  · exact hlock

end Ssh.Interleaving
