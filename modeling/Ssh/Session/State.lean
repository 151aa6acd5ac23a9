import Ssh.Error

/-! `ssh::detail::session_state`, the RAII owner of one `LIBSSH2_SESSION`. A program run creates
objects with either constructor or the move constructor and ends their lifetimes; the log
records every `libssh2` call on every session allocated on the way. -/
namespace Ssh.Detail

/-- A `libssh2` call on one session, with the outcome the environment gave it. -/
inductive SessionCall
  | startup (socket : Int) (ok : Bool)
  | disconnect (ok : Bool)
  | free
  deriving DecidableEq, Repr

/-- A `session_state` object: `m_session` and `m_disconnection_message`. -/
structure SessionState where
  session : Nat
  disconnectionMessage : Option String
  deriving DecidableEq, Repr

/-- The program's objects by slot (`none` before construction, after a constructor threw, and
once the lifetime ended), the slots used, the sessions allocated, and the call log. -/
structure Heap where
  objects : Nat → Option SessionState
  constructed : Nat
  sessions : Nat
  log : List (Nat × SessionCall)

/-- No objects, no sessions. -/
def Heap.empty : Heap := ⟨fun _ => none, 0, 0, []⟩

/-- Log one call on session `s`. -/
def Heap.call (h : Heap) (s : Nat) (c : SessionCall) : Heap := { h with log := h.log ++ [(s, c)] }

/-- Fill the next slot: with the object, or with nothing when its constructor threw. -/
def Heap.push (h : Heap) (o : Option SessionState) : Heap :=
  { h with objects := Function.update h.objects h.constructed o, constructed := h.constructed + 1 }

/-- End the lifetime of the object in slot `i`. -/
def Heap.kill (h : Heap) (i : Nat) : Heap := { h with objects := Function.update h.objects i none }

/-- One step of a program run. The environment's answers to the calls it makes are part of the
step: whether `libssh2_session_init_ex` allocated, whether startup failed (with what error), and
what disconnect reported. -/
inductive Command
  /-- `session_state()`. -/
  | create (allocated : Bool)
  /-- `session_state(socket, disconnection_message)`. -/
  | connect (allocated : Bool) (socket : Int) (message : String) (startupError : Option (Int × String))
  /-- `session_state(boost::move(object))`, from the object in slot `source`. -/
  | move (source : Nat)
  /-- The end of the lifetime of the object in slot `target`. -/
  | destroy (target : Nat) (disconnected : Bool)
  deriving DecidableEq, Repr

namespace Libssh2.Session

/-- `libssh2::session::init`: a fresh session, or `bad_alloc`. -/
def init (h : Heap) (allocated : Bool) : Except Error Nat × Heap :=
  if allocated then (.ok h.sessions, { h with sessions := h.sessions + 1 })
  else (.error (Error.of (.badAlloc "Failed to allocate new ssh session")), h)

/-- Modelled from the spec: the `startup(session, socket, ec, message)` overload is not among the
sources; it runs `libssh2_session_startup` and reports a failure in `ec` and `message` instead of
throwing. -/
def startup (h : Heap) (s : Nat) (socket : Int) (err : Option (Int × String)) : Heap :=
  h.call s (.startup socket err.isNone)

/-- Modelled from the spec: the `disconnect(session, description, ec)` overload is not among the
sources; it runs `libssh2_session_disconnect` and reports a failure in `ec` instead of throwing. -/
def disconnect (h : Heap) (s : Nat) (ok : Bool) : Heap := h.call s (.disconnect ok)

end Libssh2.Session

open Libssh2.Session in
/-- One command, and the exception that leaves it, if any. -/
def step (h : Heap) : Command → Option Error × Heap
  | .create allocated =>
    match init h allocated with
    | (.error e, h) => (some e, h.push none)
    | (.ok s, h) => (none, h.push (some ⟨s, none⟩))
  | .connect allocated socket message err =>
    match init h allocated with
    | (.error e, h) => (some e, h.push none)
    | (.ok s, h) =>
      let h := startup h s socket err
      match err with
      -- the session is freed here, as the destructor will not run
      | some (code, what) => (some (Error.of (.systemError code what)), (h.call s .free).push none)
      | none => (none, h.push (some ⟨s, some message⟩))
  | .move source =>
    match h.objects source with
    -- `m_session` is a raw pointer and is copied; a moved `boost::optional` stays engaged
    | some o => (none, h.push (some ⟨o.session, o.disconnectionMessage⟩))
    | none => (none, h)
  | .destroy target disconnected =>
    match h.objects target with
    | some o =>
      let h := match o.disconnectionMessage with
        | some _ => disconnect h o.session disconnected
        | none => h
      (none, (h.call o.session .free).kill target)
    | none => (none, h)

/-- A program run: each command on the heap the one before left. -/
def run (h : Heap) (cmds : List Command) : Heap := cmds.foldl (fun h c => (step h c).2) h

@[simp] theorem run_nil (h : Heap) : run h [] = h := rfl
@[simp] theorem run_cons (h : Heap) (c : Command) (cs : List Command) :
    run h (c :: cs) = run (step h c).2 cs := rfl

/-- The commands of a run only name objects that are alive when they run. -/
def ValidRun : Heap → List Command → Prop
  | _, [] => True
  | h, c :: cs =>
    (match c with
      | .move i | .destroy i _ => (h.objects i).isSome
      | _ => True) ∧ ValidRun (step h c).2 cs

/-- The calls on session `s`, in order. -/
def callsOn (log : List (Nat × SessionCall)) (s : Nat) : List SessionCall :=
  log.filterMap fun e => if e.1 = s then some e.2 else none

/-- The calls one session should see over its whole life: a free on its own (never started);
a failed startup, then a free; or a successful startup, one disconnect, then a free. -/
def lifecycle : List SessionCall → Bool
  | [.free] => true
  | [.startup _ false, .free] => true
  | [.startup _ true, .disconnect _, .free] => true
  | _ => false

/-- A connected object moved into a second one, then both lifetimes ended: the session is
disconnected twice and freed twice, the second disconnect after the first free. -/
theorem moved_session_freed_twice :
    ValidRun .empty [.connect true 3 "bye" none, .move 0, .destroy 0 true, .destroy 1 true] ∧
    (∀ i, (run .empty [.connect true 3 "bye" none, .move 0, .destroy 0 true, .destroy 1 true]).objects i
      = none) ∧
    callsOn (run .empty [.connect true 3 "bye" none, .move 0, .destroy 0 true, .destroy 1 true]).log 0 =
      [.startup 3 true, .disconnect true, .free, .disconnect true, .free] := by
  refine ⟨⟨trivial, rfl, rfl, rfl, trivial⟩, fun i => ?_, by decide⟩
  rcases i with _ | _ | i <;> simp [step, Heap.empty, Heap.push, Heap.kill, Heap.call,
    Libssh2.Session.init, Libssh2.Session.startup, Libssh2.Session.disconnect, Function.update]

/-! ### Runs without moves -/

/-- A command that runs the move constructor. -/
def Command.isMove : Command → Bool
  | .move _ => true
  | _ => false

/-- The calls a live object's session has seen: none if it was never started, one successful
startup if it was. -/
def Pending (o : SessionState) (calls : List SessionCall) : Prop :=
  (o.disconnectionMessage = none ∧ calls = []) ∨
    (o.disconnectionMessage.isSome ∧ ∃ socket, calls = [.startup socket true])

/-- The ownership invariant of move-free runs: every session has at most one owner, an owned
session has seen only its startup, and a session without owner has seen its whole life. -/
structure Owned (h : Heap) : Prop where
  log_allocated : ∀ e ∈ h.log, e.1 < h.sessions
  object_allocated : ∀ i o, h.objects i = some o → o.session < h.sessions
  slots : ∀ i, h.constructed ≤ i → h.objects i = none
  unique : ∀ i j o o', h.objects i = some o → h.objects j = some o' → o.session = o'.session →
    i = j
  status : ∀ s < h.sessions,
    (∃ i o, h.objects i = some o ∧ o.session = s ∧ Pending o (callsOn h.log s)) ∨
      ((∀ i o, h.objects i = some o → o.session ≠ s) ∧ lifecycle (callsOn h.log s))

theorem callsOn_append (log : List (Nat × SessionCall)) (s : Nat) (calls : List SessionCall)
    (t : Nat) :
    callsOn (log ++ calls.map (s, ·)) t = callsOn log t ++ if s = t then calls else [] := by
  induction calls with
  | nil => simp [callsOn]
  | cons c cs ih =>
    simp only [callsOn, List.filterMap_append, List.map_cons, List.filterMap_cons] at ih ⊢
    split_ifs <;> simp_all

theorem callsOn_of_forall_ne {log : List (Nat × SessionCall)} {s : Nat}
    (h : ∀ e ∈ log, e.1 < s) : callsOn log s = [] := by
  simp only [callsOn, List.filterMap_eq_nil_iff]
  intro e he
  simp [Nat.ne_of_lt (h e he)]

theorem push_objects {h : Heap} {o : Option SessionState} {i : Nat} {x : SessionState} :
    (h.push o).objects i = some x ↔ (i = h.constructed ∧ o = some x) ∨
      (i ≠ h.constructed ∧ h.objects i = some x) := by
  by_cases hi : i = h.constructed <;> simp [Heap.push, Function.update, hi, eq_comm]

theorem kill_objects {h : Heap} {t i : Nat} {x : SessionState} :
    (h.kill t).objects i = some x ↔ i ≠ t ∧ h.objects i = some x := by
  by_cases hi : i = t <;> simp [Heap.kill, Function.update, hi]

theorem push_slots {h : Heap} (hs : ∀ i, h.constructed ≤ i → h.objects i = none)
    (o : Option SessionState) (i : Nat) (hi : (h.push o).constructed ≤ i) :
    (h.push o).objects i = none := by
  simp only [Heap.push, Function.update_apply] at hi ⊢
  rw [if_neg (by omega)]
  exact hs i (by omega)

theorem Owned.alloc {h : Heap} (hI : Owned h) (calls : List SessionCall) (o : Option SessionState)
    (hsome : ∀ x, o = some x → x.session = h.sessions ∧ Pending x calls)
    (hnone : o = none → lifecycle calls) :
    Owned (({ h with sessions := h.sessions + 1,
                     log := h.log ++ calls.map (h.sessions, ·) } : Heap).push o) := by
  have hfree := hI.slots h.constructed le_rfl
  constructor
  · intro e he
    simp only [Heap.push, List.mem_append, List.mem_map] at he
    rcases he with he | ⟨c, -, rfl⟩
    · exact Nat.lt_succ_of_lt (hI.log_allocated e he)
    · exact Nat.lt_succ_self _
  · intro i x hx
    show x.session < h.sessions + 1
    rcases push_objects.mp hx with ⟨-, hox⟩ | ⟨-, hx⟩
    · exact (hsome x hox).1 ▸ Nat.lt_succ_self _
    · exact Nat.lt_succ_of_lt (hI.object_allocated i x hx)
  · exact push_slots hI.slots o
  · intro i j x y hx hy hxy
    rcases push_objects.mp hx with ⟨hi, hox⟩ | ⟨-, hx⟩ <;>
      rcases push_objects.mp hy with ⟨hj, hoy⟩ | ⟨-, hy⟩
    · exact hi.trans hj.symm
    · have := hI.object_allocated j y hy
      have := (hsome x hox).1
      omega
    · have := hI.object_allocated i x hx
      have := (hsome y hoy).1
      omega
    · exact hI.unique i j x y hx hy hxy
  · intro s hs
    simp only [Heap.push, callsOn_append] at hs ⊢
    rcases Nat.lt_succ_iff_lt_or_eq.mp hs with hs | rfl
    · rw [if_neg (Nat.ne_of_gt hs), List.append_nil]
      rcases hI.status s hs with ⟨i, x, hx, rfl, hp⟩ | ⟨hno, hl⟩
      · refine .inl ⟨i, x, push_objects.mpr (.inr ⟨?_, hx⟩), rfl, hp⟩
        rintro rfl
        simp [hfree] at hx
      · refine .inr ⟨fun i x hx => ?_, hl⟩
        rcases push_objects.mp hx with ⟨-, hox⟩ | ⟨-, hx⟩
        · have := (hsome x hox).1
          omega
        · exact hno i x hx
    · rw [if_pos rfl, callsOn_of_forall_ne hI.log_allocated, List.nil_append]
      cases ho : o with
      | some x =>
        obtain ⟨hxs, hp⟩ := hsome x ho
        exact .inl ⟨h.constructed, x, push_objects.mpr (.inl ⟨rfl, rfl⟩), hxs, hp⟩
      | none =>
        refine .inr ⟨fun i x hx => ?_, hnone ho⟩
        rcases push_objects.mp hx with ⟨-, hx⟩ | ⟨-, hx⟩
        · simp [ho] at hx
        · exact Nat.ne_of_lt (hI.object_allocated i x hx)

theorem Owned.push_none {h : Heap} (hI : Owned h) : Owned (h.push none) := by
  have hfree := hI.slots h.constructed le_rfl
  have hobj : ∀ i x, (h.push none).objects i = some x ↔ h.objects i = some x := fun i x => by
    rw [push_objects]
    by_cases hi : i = h.constructed
    · subst hi; simp [hfree]
    · simp [hi]
  refine ⟨hI.log_allocated, fun i x hx => hI.object_allocated i x ((hobj i x).mp hx),
    push_slots hI.slots none, fun i j x y hx hy => hI.unique i j x y ((hobj i x).mp hx)
    ((hobj j y).mp hy), fun s hs => ?_⟩
  simp only [hobj]
  exact hI.status s hs

theorem Owned.destroy {h : Heap} (hI : Owned h) {t : Nat} {o : SessionState}
    (ht : h.objects t = some o) (d : Bool) : Owned (step h (.destroy t d)).2 := by
  set calls : List SessionCall := (if o.disconnectionMessage.isSome then [.disconnect d] else []) ++
    [.free] with hcalls
  have hstep : (step h (.destroy t d)).2 =
      ({ h with log := h.log ++ calls.map (o.session, ·) } : Heap).kill t := by
    simp only [step, ht, hcalls]
    cases o.disconnectionMessage <;> simp [Libssh2.Session.disconnect, Heap.call, Heap.kill]
  rw [hstep]
  have hos := hI.object_allocated t o ht
  constructor
  · intro e he
    simp only [Heap.kill, List.mem_append, List.mem_map] at he
    rcases he with he | ⟨c, -, rfl⟩
    · exact hI.log_allocated e he
    · exact hos
  · intro i x hx
    exact hI.object_allocated i x (kill_objects.mp hx).2
  · intro i hi
    simp only [Heap.kill, Function.update_apply] at hi ⊢
    split_ifs
    · rfl
    · exact hI.slots i hi
  · intro i j x y hx hy
    exact hI.unique i j x y (kill_objects.mp hx).2 (kill_objects.mp hy).2
  · intro s hs
    simp only [Heap.kill, callsOn_append] at hs ⊢
    have hgone : ∀ i x, (h.kill t).objects i = some x → x.session = o.session → False :=
      fun i x hx hxs => (kill_objects.mp hx).1 (hI.unique i t x o (kill_objects.mp hx).2 ht hxs)
    by_cases hso : o.session = s
    · subst hso
      rw [if_pos rfl]
      refine .inr ⟨fun i x hx hxs => hgone i x hx hxs, ?_⟩
      rcases hI.status o.session hs with ⟨i, x, hx, hxs, hp⟩ | ⟨hno, -⟩
      · obtain rfl := hI.unique i t x o hx ht hxs
        rw [hx] at ht
        cases ht
        rcases hp with ⟨hm, hc⟩ | ⟨hm, sock, hc⟩ <;> simp [hc, hcalls, hm, lifecycle]
      · exact absurd rfl (hno t o ht)
    · rw [if_neg hso, List.append_nil]
      rcases hI.status s hs with ⟨i, x, hx, rfl, hp⟩ | ⟨hno, hl⟩
      · refine .inl ⟨i, x, kill_objects.mpr ⟨?_, hx⟩, rfl, hp⟩
        rintro rfl
        rw [ht] at hx
        cases hx
        exact hso rfl
      · exact .inr ⟨fun i x hx => hno i x (kill_objects.mp hx).2, hl⟩

theorem Owned.empty : Owned .empty := by
  constructor <;> simp [Heap.empty]

theorem Owned.next {h : Heap} (hI : Owned h) (c : Command) (hc : c.isMove = false) :
    Owned (step h c).2 := by
  cases c with
  | create allocated =>
    cases allocated
    · exact hI.push_none
    · have := hI.alloc [] (some ⟨h.sessions, none⟩) (by simp [Pending]) (by simp)
      simpa [step, Libssh2.Session.init] using this
  | connect allocated socket message err =>
    cases allocated
    · exact hI.push_none
    · cases err with
      | some e =>
        obtain ⟨code, what⟩ := e
        have := hI.alloc [.startup socket false, .free] none (by simp) (fun _ => rfl)
        simpa [step, Libssh2.Session.init, Libssh2.Session.startup, Heap.call] using this
      | none =>
        have := hI.alloc [.startup socket true] (some ⟨h.sessions, some message⟩)
          (by simp [Pending]) (by simp)
        simpa [step, Libssh2.Session.init, Libssh2.Session.startup, Heap.call] using this
  | move source => simp [Command.isMove] at hc
  | destroy target d =>
    cases ht : h.objects target with
    | none => simpa [step, ht] using hI
    | some o => exact hI.destroy ht d

theorem Owned.run {h : Heap} (hI : Owned h) :
    ∀ cmds : List Command, (∀ c ∈ cmds, c.isMove = false) → Owned (run h cmds)
  | [], _ => hI
  | c :: cs, hm => (hI.next c (hm c (by simp))).run cs (fun c' hc' => hm c' (by simp [hc']))

end Ssh.Detail
