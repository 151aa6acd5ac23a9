import Mathlib

/-! Who frees what. The library's values own libssh2 objects through `shared_ptr` members; a
libssh2 object is released when its last owner lets go of it. Its dependent objects (an SFTP
channel of a session, a handle of a channel, a known-host list of a session) must be released
before it. The values' destructors let go of their members from the last declared to the
first, which gets this order right; the implicit copy and move assignments replace members from
the first declared to the last. Values come from the library's own constructors; the
`sftp_channel(session, sftp)` constructor that attaches a caller's SFTP pointer to a caller's
session is left out, since nothing ties the two together. -/
namespace Ssh.Ownership

/-- The libssh2 objects held through `shared_ptr`s, by how they are released. -/
inductive Kind
  /-- A `LIBSSH2_SESSION` in its `session_state`: disconnected, then `libssh2_session_free`. -/
  | session
  /-- `LIBSSH2_SFTP`, released by `libssh2_sftp_shutdown`. -/
  | sftp
  /-- `LIBSSH2_SFTP_HANDLE` of a file or directory, released by `libssh2_sftp_close_handle`. -/
  | handle
  /-- `LIBSSH2_KNOWNHOSTS`, released by `libssh2_knownhost_free`. -/
  | knownhosts
  deriving DecidableEq, Repr

/-- An allocated libssh2 object and the one it was created from. -/
structure Block where
  kind : Kind
  parent : Option Nat
  deriving DecidableEq, Repr

/-- The library's value types. -/
inductive ValueType
  | sftpChannel
  | sftpInputDevice
  | sftpOutputDevice
  | sftpIoDevice
  | directoryIterator
  | knownhostCollection
  | knownhostIterator
  | knownhost
  deriving DecidableEq, Repr

/-- Whether values of the type hold a channel's session and SFTP channel and a handle of their
own: `m_channel` (`m_session`, `m_sftp`) and `m_handle` of a device, `m_session`, `m_channel`
and `m_handle` of a `directory_iterator`. -/
def ValueType.opensHandle : ValueType → Bool
  | .sftpInputDevice | .sftpOutputDevice | .sftpIoDevice | .directoryIterator => true
  | _ => false

/-- Whether values of the type share a known-host list's `m_session` and `m_hosts`. -/
def ValueType.viewsKnownhosts : ValueType → Bool
  | .knownhostCollection | .knownhostIterator | .knownhost => true
  | _ => false

/-- A value: its type and its `shared_ptr` members in declaration order (`none` for a null
pointer; members that own nothing are left out). -/
structure Value where
  type : ValueType
  members : List (Option Nat)
  deriving DecidableEq, Repr

/-- The allocated libssh2 objects (an object's address is its index), the values in the order
they were made, and the release log. -/
structure Heap where
  blocks : List Block
  values : List Value
  released : List Nat
  deriving DecidableEq, Repr

namespace Heap

def empty : Heap := ⟨[], [], []⟩

/-- `shared_ptr::use_count` of the object at `b`: how many members own it. -/
def useCount (h : Heap) (b : Nat) : Nat := (h.values.map fun v => v.members.count (some b)).sum

/-- The object the one at `c` was created from. -/
def parent (h : Heap) (c : Nat) : Option Nat := h.blocks[c]?.bind (·.parent)

/-- Member `i` of value `o`. -/
def member (h : Heap) (o i : Nat) : Option Nat := (h.values[o]?.bind (·.members[i]?)).join

/-- How many members value `o` has. -/
def width (h : Heap) (o : Nat) : Nat := (h.values[o]?.map (·.members.length)).getD 0

/-- The owner that let go of `p` was the last: release the object. -/
def releaseIfUnowned (h : Heap) : Option Nat → Heap
  | some b => if h.useCount b = 0 then { h with released := h.released ++ [b] } else h
  | none => h

/-- Overwrite member `i` of value `o`. -/
def setMember (h : Heap) (o i : Nat) (p : Option Nat) : Heap :=
  { h with values := h.values.modify (fun v => { v with members := v.members.set i p }) o }

/-- `shared_ptr` assignment to member `i` of value `o`: take `p`, let go of the old pointer. -/
def assignMember (h : Heap) (o i : Nat) (p : Option Nat) : Heap :=
  (h.setMember o i p).releaseIfUnowned (h.member o i)

/-- Destroy the last member of value `o`. -/
def popMember (h : Heap) (o : Nat) : Heap :=
  match h.values[o]? with
  | some v =>
    ({ h with values := h.values.set o { v with members := v.members.dropLast } }).releaseIfUnowned
      v.members.getLast?.join
  | none => h

/-- A constructor: allocate `fresh` in order, then add the value `v` owning its members. -/
def construct (h : Heap) (fresh : List Block) (v : Value) : Heap :=
  { h with blocks := h.blocks ++ fresh, values := h.values ++ [v] }

end Heap

/-- The operations of a run. Each value made gets the next index. -/
inductive Command
  /-- `sftp_channel(session)` on a new session. -/
  | sftpChannel
  /-- `sftp_channel(c.session())`: a new SFTP channel on the session of channel `c`. -/
  | sftpChannelOn (c : Nat)
  /-- A device or `directory_iterator(channel, path)` on channel `c`: a copy of the channel's
  members and a new handle. -/
  | openOn (type : ValueType) (c : Nat)
  /-- `knownhost_collection()`: a new session and a new known-host list. -/
  | knownhostCollection
  /-- `begin()`, `find()` or a `knownhost` from the collection or iterator `c`. -/
  | viewOf (type : ValueType) (c : Nat)
  /-- `directory_iterator()`, `knownhost_iterator()`: null members. -/
  | endMarker (type : ValueType)
  /-- The implicit copy constructor. -/
  | copy (src : Nat)
  /-- The implicit copy assignment `dst = src`. -/
  | copyAssign (dst src : Nat)
  /-- The implicit move assignment `dst = boost::move(src)`. -/
  | moveAssign (dst src : Nat)
  /-- The end of value `o`'s lifetime. -/
  | destroy (o : Nat)
  deriving DecidableEq, Repr

/-- Whether the command is one of the implicit assignments. -/
def Command.isAssignment : Command → Bool
  | .copyAssign _ _ | .moveAssign _ _ => true
  | _ => false

namespace Heap

/-- The implicit copy assignment: members replaced from the first declared to the last. -/
def copyAssign (h : Heap) (dst src : Nat) : Heap :=
  (List.range (h.width dst)).foldl (fun h i => h.assignMember dst i (h.member src i)) h

/-- The implicit move assignment: each member takes the source's pointer, which becomes null. -/
def moveAssign (h : Heap) (dst src : Nat) : Heap :=
  (List.range (h.width dst)).foldl
    (fun h i => (h.setMember src i none).assignMember dst i (h.member src i)) h

/-- The destructor: members let go from the last declared to the first. -/
def destroy (h : Heap) (o : Nat) : Heap := (fun h => h.popMember o)^[h.width o] h

/-- The value types of two values agree. -/
def sameType (h : Heap) (a b : Nat) : Bool := (h.values[a]?.map (·.type)) == h.values[b]?.map (·.type)

end Heap

/-- One operation of a run; an operation on values it does not apply to changes nothing. -/
def step (h : Heap) : Command → Heap
  | .sftpChannel =>
    let s := h.blocks.length
    h.construct [⟨.session, none⟩, ⟨.sftp, some s⟩] ⟨.sftpChannel, [some s, some (s + 1)]⟩
  | .sftpChannelOn c =>
    match h.values[c]? with
    | some ⟨.sftpChannel, [some s, _]⟩ =>
      h.construct [⟨.sftp, some s⟩] ⟨.sftpChannel, [some s, some h.blocks.length]⟩
    | _ => h
  | .openOn type c =>
    match type.opensHandle, h.values[c]? with
    | true, some ⟨.sftpChannel, [some s, some f]⟩ =>
      h.construct [⟨.handle, some f⟩] ⟨type, [some s, some f, some h.blocks.length]⟩
    | _, _ => h
  | .knownhostCollection =>
    let s := h.blocks.length
    h.construct [⟨.session, none⟩, ⟨.knownhosts, some s⟩]
      ⟨.knownhostCollection, [some s, some (s + 1)]⟩
  | .viewOf type c =>
    match type.viewsKnownhosts && type != .knownhostCollection, h.values[c]? with
    | true, some v => if v.type.viewsKnownhosts then h.construct [] ⟨type, v.members⟩ else h
    | _, _ => h
  | .endMarker type =>
    if type = .directoryIterator then h.construct [] ⟨type, [none, none, none]⟩
    else if type = .knownhostIterator then h.construct [] ⟨type, [none, none]⟩
    else h
  | .copy src =>
    match h.values[src]? with
    | some v => h.construct [] v
    | none => h
  | .copyAssign dst src => if h.sameType dst src then h.copyAssign dst src else h
  | .moveAssign dst src => if h.sameType dst src then h.moveAssign dst src else h
  | .destroy o => h.destroy o

/-- A run of operations from no values. -/
def run (cmds : List Command) : Heap := cmds.foldl step .empty

/-- Two known-host collections, the first copy-assigned from the second: its session is freed
(`libssh2_session_free`, address 0) before its known-host list (address 1), whose session it
is. Two SFTP channels the same way: the session goes before its SFTP channel's shutdown. -/
theorem assignment_frees_session_first :
    (run [.knownhostCollection, .knownhostCollection, .copyAssign 0 1]).released = [0, 1] ∧
    (run [.knownhostCollection, .knownhostCollection, .copyAssign 0 1]).parent 1 = some 0 ∧
    (run [.sftpChannel, .sftpChannel, .copyAssign 0 1]).released = [0, 1] ∧
    (run [.sftpChannel, .sftpChannel, .copyAssign 0 1]).parent 1 = some 0 := by
  decide

theorem sum_map_set {f : Value → Nat} :
    ∀ (l : List Value) (o : Nat) {x : Value} (y : Value), l[o]? = some x →
      ((l.set o y).map f).sum + f x = (l.map f).sum + f y
  | [], _, _, _, h => by simp at h
  | a :: l, 0, x, y, h => by
    simp only [List.getElem?_cons_zero, Option.some.injEq] at h
    subst h
    simp only [List.set_cons_zero, List.map_cons, List.sum_cons]
    omega
  | a :: l, o + 1, x, y, h => by
    simp only [List.getElem?_cons_succ] at h
    simp only [List.set_cons_succ, List.map_cons, List.sum_cons]
    have := sum_map_set (f := f) l o y h
    omega

theorem set_self_of_getElem? {l : List Value} {o : Nat} {v : Value} (h : l[o]? = some v) :
    l.set o v = l :=
  List.ext_getElem? fun j => by
    rw [List.getElem?_set]
    split_ifs with h1 h2
    · rw [← h, h1]
    · rw [← h1, List.getElem?_eq_none (by omega)]
    · rfl

namespace Heap

@[simp] theorem construct_blocks (h : Heap) (fresh : List Block) (v : Value) :
    (h.construct fresh v).blocks = h.blocks ++ fresh := rfl

@[simp] theorem construct_values (h : Heap) (fresh : List Block) (v : Value) :
    (h.construct fresh v).values = h.values ++ [v] := rfl

@[simp] theorem construct_released (h : Heap) (fresh : List Block) (v : Value) :
    (h.construct fresh v).released = h.released := rfl

@[simp] theorem releaseIfUnowned_blocks (h : Heap) (p : Option Nat) :
    (h.releaseIfUnowned p).blocks = h.blocks := by
  cases p <;> simp only [releaseIfUnowned]
  split_ifs <;> rfl

@[simp] theorem releaseIfUnowned_values (h : Heap) (p : Option Nat) :
    (h.releaseIfUnowned p).values = h.values := by
  cases p <;> simp only [releaseIfUnowned]
  split_ifs <;> rfl

theorem useCount_construct (h : Heap) (fresh : List Block) (v : Value) (b : Nat) :
    (h.construct fresh v).useCount b = h.useCount b + v.members.count (some b) := by
  simp [useCount, List.sum_append]

theorem sum_count_pos {b : Nat} (l : List Value) :
    0 < (l.map fun v => v.members.count (some b)).sum ↔ ∃ v ∈ l, some b ∈ v.members := by
  induction l with
  | nil => simp
  | cons v l ih => simp [Nat.add_pos_iff_pos_or_pos, List.count_pos_iff, ih]

theorem useCount_pos {h : Heap} {b : Nat} :
    0 < h.useCount b ↔ ∃ v ∈ h.values, some b ∈ v.members :=
  sum_count_pos h.values

theorem parent_lt_length {h : Heap} {c b : Nat} (hc : h.parent c = some b) :
    c < h.blocks.length := by
  by_contra hn
  simp [parent, List.getElem?_eq_none (by omega : h.blocks.length ≤ c)] at hc

theorem parent_construct {h : Heap} {c : Nat} (hc : c < h.blocks.length) (fresh : List Block)
    (v : Value) : (h.construct fresh v).parent c = h.parent c := by
  simp [parent, List.getElem?_append_left hc]

end Heap

/-- What one operation does to the heap, indexed by whether it is an assignment: nothing, a
constructor of one of four shapes, an implicit assignment, or a destructor. -/
inductive Effect (h : Heap) : Heap → Bool → Prop
  | same (b : Bool) : Effect h h b
  /-- A new session and an object created from it: `sftp_channel(session)`,
  `knownhost_collection()`. -/
  | newPair (k : Kind) (t : ValueType) :
      Effect h (h.construct [⟨.session, none⟩, ⟨k, some h.blocks.length⟩]
        ⟨t, [some h.blocks.length, some (h.blocks.length + 1)]⟩) false
  /-- The first members `ms` of an existing value `w`, then a new object created from one of
  them: `sftp_channel(c.session())`, a device or `directory_iterator` on a channel. -/
  | extend {w : Value} (hw : w ∈ h.values) (ms rest : List (Option Nat))
      (hms : w.members = ms ++ rest) (q : Nat) (hq : some q ∈ ms) (k : Kind) (t : ValueType) :
      Effect h (h.construct [⟨k, some q⟩] ⟨t, ms ++ [some h.blocks.length]⟩) false
  /-- A copy of an existing value's members: the copy constructor, `begin()`, `find()`. -/
  | copyOf {v : Value} (hv : v ∈ h.values) (t : ValueType) :
      Effect h (h.construct [] ⟨t, v.members⟩) false
  /-- A value of null members: an end marker. -/
  | nulls (t : ValueType) {ms : List (Option Nat)} (hms : ∀ p ∈ ms, p = none) :
      Effect h (h.construct [] ⟨t, ms⟩) false
  | copyAssign (dst src : Nat) : Effect h (h.copyAssign dst src) true
  | moveAssign (dst src : Nat) : Effect h (h.moveAssign dst src) true
  | destroy (o : Nat) : Effect h (h.destroy o) false

theorem step_effect (h : Heap) (cmd : Command) : Effect h (step h cmd) cmd.isAssignment := by
  have hmem : ∀ {o v}, h.values[o]? = some v → v ∈ h.values :=
    fun hv => List.mem_iff_getElem?.2 ⟨_, hv⟩
  cases cmd with
  | sftpChannel => exact .newPair .sftp .sftpChannel
  | knownhostCollection => exact .newPair .knownhosts .knownhostCollection
  | sftpChannelOn c =>
    simp only [step]
    split
    · rename_i s x hv
      exact .extend (hmem hv) [some s] [x] rfl s (by simp) .sftp .sftpChannel
    · exact .same _
  | openOn type c =>
    simp only [step]
    split
    · rename_i s f _ hv
      exact .extend (hmem hv) [some s, some f] [] rfl f (by simp) .handle type
    · exact .same _
  | viewOf type c =>
    simp only [step]
    split
    · rename_i v _ hv
      split
      · exact .copyOf (hmem hv) type
      · exact .same _
    · exact .same _
  | endMarker type =>
    simp only [step]
    split_ifs
    · exact .nulls type (by simp)
    · exact .nulls type (by simp)
    · exact .same _
  | copy src =>
    simp only [step]
    split
    · rename_i v hv
      exact .copyOf (hmem hv) v.type
    · exact .same _
  | copyAssign dst src =>
    simp only [step]
    split_ifs
    · exact .copyAssign dst src
    · exact .same _
  | moveAssign dst src =>
    simp only [step]
    split_ifs
    · exact .moveAssign dst src
    · exact .same _
  | destroy o => exact .destroy o

/-! The `shared_ptr` counts, the part of `Sound` that constructors and destructors keep. -/

/-- The `shared_ptr` counts of a heap are right but for the objects `ps` whose owners have just
let go of them: members are allocated, an object some value holds is not released, an allocated
object no value holds is released unless it is one of `ps` (allocated and not released yet), and
no object is released twice. -/
structure Counted (h : Heap) (ps : List Nat) : Prop where
  allocated : ∀ v ∈ h.values, ∀ b, some b ∈ v.members → b < h.blocks.length
  released_lt : ∀ b ∈ h.released, b < h.blocks.length
  owned_live : ∀ b, 0 < h.useCount b → b ∉ h.released
  unowned : ∀ b < h.blocks.length, h.useCount b = 0 → b ∉ ps → b ∈ h.released
  pending : ∀ b ∈ ps, b < h.blocks.length ∧ b ∉ h.released
  nodup : h.released.Nodup

theorem Counted.empty : Counted .empty [] := by
  constructor <;> simp [Heap.empty]

theorem Counted.live {h : Heap} {ps : List Nat} (hs : Counted h ps) {b : Nat}
    (hb : 0 < h.useCount b) : b < h.blocks.length ∧ b ∉ h.released := by
  obtain ⟨v, hv, hm⟩ := Heap.useCount_pos.1 hb
  exact ⟨hs.allocated v hv b hm, hs.owned_live b hb⟩

theorem Counted.update {h : Heap} {ps : List Nat} (hs : Counted h ps) {o : Nat} {v : Value}
    (hv : h.values[o]? = some v) (w : Value) (old new : Option Nat)
    (hw : ∀ b, w.members.count (some b) + [old].count (some b) =
      v.members.count (some b) + [new].count (some b))
    (hnew : ∀ b, new = some b → b < h.blocks.length ∧ b ∉ h.released) :
    Counted { h with values := h.values.set o w } (old.toList ++ ps) := by
  have hvm : v ∈ h.values := List.mem_iff_getElem?.2 ⟨o, hv⟩
  have hcount : ∀ b, ({ h with values := h.values.set o w } : Heap).useCount b +
      [old].count (some b) = h.useCount b + [new].count (some b) := fun b => by
    have h1 := sum_map_set (f := fun w => w.members.count (some b)) h.values o w hv
    have := hw b
    dsimp only at h1
    simp only [Heap.useCount]
    omega
  have hnew' : ∀ b, 0 < [new].count (some b) → b < h.blocks.length ∧ b ∉ h.released :=
    fun b hb => hnew b (List.mem_singleton.1 (List.count_pos_iff.1 hb)).symm
  -- an object the new members or `old` hold is one `v` held or `new`
  have hlive : ∀ b, 0 < w.members.count (some b) + [old].count (some b) →
      b < h.blocks.length ∧ b ∉ h.released := by
    intro b hb
    rw [hw b] at hb
    rcases Nat.eq_zero_or_pos (v.members.count (some b)) with h0 | h0
    · exact hnew' b (by omega)
    · exact hs.live (Heap.useCount_pos.2 ⟨v, hvm, List.count_pos_iff.1 h0⟩)
  refine ⟨fun x hx b hb => ?_, hs.released_lt, fun b hb => ?_, fun b hb h0 hps => ?_,
    fun b hb => ?_, hs.nodup⟩
  · rcases List.mem_or_eq_of_mem_set hx with hx | rfl
    · exact hs.allocated x hx b hb
    · exact (hlive b (Nat.add_pos_left (List.count_pos_iff.2 hb) _)).1
  · rcases Nat.eq_zero_or_pos (h.useCount b) with h0 | h0
    · exact (hnew' b (by have := hcount b; omega)).2
    · exact hs.owned_live b h0
  · rw [List.mem_append, not_or] at hps
    have : [old].count (some b) = 0 :=
      List.count_eq_zero.2 fun hm => hps.1 (by rw [← List.mem_singleton.1 hm]; simp)
    exact hs.unowned b hb (by have := hcount b; omega) hps.2
  · rcases List.mem_append.1 hb with hb | hb
    · obtain rfl : old = some b := by simpa using hb
      exact hlive b (by simp)
    · exact hs.pending b hb

theorem Counted.release {h : Heap} {p : Option Nat} (hs : Counted h p.toList) :
    Counted (h.releaseIfUnowned p) [] := by
  rcases p with _ | b
  · exact hs
  obtain ⟨hb, hbr⟩ := hs.pending b (by simp)
  by_cases h0 : h.useCount b = 0
  · simp only [Heap.releaseIfUnowned, h0, if_true]
    refine ⟨hs.allocated, fun c hc => ?_, fun c hc hrel => ?_, fun c hc h0c _ => ?_, by simp,
      List.nodup_append.2 ⟨hs.nodup, List.nodup_singleton b, by simpa using hbr⟩⟩
    · rcases List.mem_append.1 hc with hc | hc
      · exact hs.released_lt c hc
      · rwa [List.mem_singleton.1 hc]
    · change 0 < h.useCount c at hc
      rcases List.mem_append.1 hrel with hrel | hrel
      · exact hs.owned_live c hc hrel
      · rw [List.mem_singleton.1 hrel, h0] at hc
        exact absurd hc (lt_irrefl 0)
    · by_cases hcb : c = b
      · simp [hcb]
      · exact List.mem_append_left _ (hs.unowned c hc h0c (by simpa using hcb))
  · simp only [Heap.releaseIfUnowned, h0, if_false]
    exact ⟨hs.allocated, hs.released_lt, hs.owned_live,
      fun c hc h0c _ => hs.unowned c hc h0c fun hm => h0 (List.mem_singleton.1 hm ▸ h0c), by simp,
      hs.nodup⟩

/-- What a constructor must do for the counts to stay right: the new value's members are
allocated, it owns every object it allocates, and the old objects it holds are owned already. -/
structure Fits (h : Heap) (fresh : List Block) (v : Value) : Prop where
  mem : ∀ b, some b ∈ v.members → b < h.blocks.length + fresh.length
  own : ∀ k < fresh.length, some (h.blocks.length + k) ∈ v.members
  live : ∀ b < h.blocks.length, some b ∈ v.members → 0 < h.useCount b

theorem Counted.construct {h : Heap} (hs : Counted h []) {fresh : List Block} {v : Value}
    (hf : Fits h fresh v) : Counted (h.construct fresh v) [] where
  allocated := by
    intro w hw b hb
    rw [Heap.construct_values, List.mem_append, List.mem_singleton] at hw
    rcases hw with hw | rfl
    · have := hs.allocated w hw b hb
      simp only [Heap.construct_blocks, List.length_append]
      omega
    · simpa using hf.mem b hb
  released_lt := fun b hb => by
    have := hs.released_lt b hb
    simp only [Heap.construct_blocks, List.length_append]
    omega
  owned_live := by
    intro b hb hrel
    rw [Heap.useCount_construct] at hb
    rcases Nat.eq_zero_or_pos (h.useCount b) with h0 | hpos
    · rw [h0, zero_add] at hb
      exact hs.owned_live b (hf.live b (hs.released_lt b hrel) (List.count_pos_iff.1 hb)) hrel
    · exact hs.owned_live b hpos hrel
  unowned := by
    intro b hb h0 _
    rw [Heap.useCount_construct, Nat.add_eq_zero] at h0
    by_cases hlt : b < h.blocks.length
    · exact hs.unowned b hlt h0.1 (List.not_mem_nil b)
    · simp only [Heap.construct_blocks, List.length_append] at hb
      have hm := hf.own (b - h.blocks.length) (by omega)
      rw [Nat.add_sub_cancel' (by omega)] at hm
      exact absurd h0.2 (List.count_pos_iff.2 hm).ne'
  pending := by simp
  nodup := hs.nodup

theorem Fits.newPair (h : Heap) (k : Kind) (t : ValueType) :
    Fits h [⟨.session, none⟩, ⟨k, some h.blocks.length⟩]
      ⟨t, [some h.blocks.length, some (h.blocks.length + 1)]⟩ where
  mem b hb := by simp at hb ⊢; omega
  own j hj := by rcases j with _ | _ | j <;> simp at hj ⊢; omega
  live b hb hm := by simp at hm; omega

theorem Fits.extend {h : Heap} (hs : Counted h []) {w : Value} (hw : w ∈ h.values)
    (ms rest : List (Option Nat)) (hms : w.members = ms ++ rest) (q : Nat) (k : Kind)
    (t : ValueType) : Fits h [⟨k, some q⟩] ⟨t, ms ++ [some h.blocks.length]⟩ where
  mem b hb := by
    simp only [List.mem_append, List.mem_singleton, Option.some.injEq] at hb
    rcases hb with hb | rfl
    · have := hs.allocated w hw b (by simp [hms, hb])
      simp
      omega
    · simp
  own j hj := by simp at hj; simp [hj]
  live b hb hm := Heap.useCount_pos.2 ⟨w, hw, by
    rw [hms]
    exact List.mem_append_left _ (by simpa [Nat.ne_of_lt hb] using hm)⟩

theorem Fits.copyOf {h : Heap} (hs : Counted h []) {v : Value} (hv : v ∈ h.values)
    (t : ValueType) : Fits h [] ⟨t, v.members⟩ where
  mem b hb := by simpa using hs.allocated v hv b hb
  own := by simp
  live b _ hb := Heap.useCount_pos.2 ⟨v, hv, hb⟩

theorem Fits.nulls (h : Heap) (t : ValueType) {ms : List (Option Nat)}
    (hms : ∀ p ∈ ms, p = none) : Fits h [] ⟨t, ms⟩ where
  mem b hb := by simpa using hms _ hb
  own := by simp
  live b _ hb := by simpa using hms _ hb

/-! Without the assignments, every run keeps the counts right and releases each object before
the one it was created from: each value holds an object's parent in an earlier member than the
object, which the destructor lets go of later. -/

/-- Every member's parent object is held by an earlier member. -/
def Layout (parent : Nat → Option Nat) (ms : List (Option Nat)) : Prop :=
  ∀ (i c b : Nat), ms[i]? = some (some c) → parent c = some b → ∃ j < i, ms[j]? = some (some b)

theorem Layout.of_append {parent : Nat → Option Nat} {ms rest : List (Option Nat)}
    (h : Layout parent (ms ++ rest)) : Layout parent ms := by
  intro i c b hi hp
  have hlt : i < ms.length := (List.getElem?_eq_some_iff.1 hi).1
  obtain ⟨j, hj, hb⟩ := h i c b (by rwa [List.getElem?_append_left hlt]) hp
  exact ⟨j, hj, by rwa [List.getElem?_append_left (by omega)] at hb⟩

theorem Layout.congr {parent parent' : Nat → Option Nat} {ms : List (Option Nat)}
    (h : Layout parent ms) (hp : ∀ c, some c ∈ ms → parent' c = parent c) : Layout parent' ms :=
  fun i c b hi hc => h i c b hi (by rwa [← hp c (List.mem_iff_getElem?.2 ⟨i, hi⟩)])

/-- What holds of every heap a run without assignments reaches. -/
structure Sound (h : Heap) extends Counted h [] : Prop where
  parent_lt : ∀ c b, h.parent c = some b → b < c
  layout : ∀ v ∈ h.values, Layout h.parent v.members
  ordered : ∀ l₁ b l₂, h.released = l₁ ++ b :: l₂ → ∀ c, h.parent c = some b → c ∈ l₁

theorem Sound.empty : Sound .empty :=
  ⟨Counted.empty, by simp [Heap.empty, Heap.parent], by simp [Heap.empty], by simp [Heap.empty]⟩

theorem owned_parent {h : Heap} (hl : ∀ v ∈ h.values, Layout h.parent v.members) {c b : Nat}
    (hc : 0 < h.useCount c) (hp : h.parent c = some b) : 0 < h.useCount b := by
  obtain ⟨v, hv, hcm⟩ := Heap.useCount_pos.1 hc
  obtain ⟨i, hi⟩ := List.mem_iff_getElem?.1 hcm
  obtain ⟨j, -, hj⟩ := hl v hv i c b hi hp
  exact Heap.useCount_pos.2 ⟨v, hv, List.mem_iff_getElem?.2 ⟨j, hj⟩⟩

theorem Sound.construct {h : Heap} (hs : Sound h) {fresh : List Block} {v : Value}
    (hf : Fits h fresh v)
    (hpar : ∀ k blk, fresh[k]? = some blk → ∀ b, blk.parent = some b → b < h.blocks.length + k)
    (hlay : Layout (h.construct fresh v).parent v.members) :
    Sound (h.construct fresh v) where
  toCounted := hs.toCounted.construct hf
  parent_lt := by
    intro c b hc
    by_cases hlt : c < h.blocks.length
    · exact hs.parent_lt c b (by rwa [Heap.parent_construct hlt] at hc)
    · simp only [Heap.parent, Heap.construct_blocks,
        List.getElem?_append_right (Nat.le_of_not_lt hlt)] at hc
      obtain ⟨blk, hblk, hb⟩ := Option.bind_eq_some.1 hc
      have := hpar _ blk hblk b hb
      omega
  layout := by
    intro w hw
    rw [Heap.construct_values, List.mem_append, List.mem_singleton] at hw
    rcases hw with hw | rfl
    · exact (hs.layout w hw).congr fun c hc =>
        Heap.parent_construct (hs.allocated w hw c hc) fresh v
    · exact hlay
  ordered := by
    intro l₁ b l₂ hrel c hc
    by_cases hlt : c < h.blocks.length
    · exact hs.ordered l₁ b l₂ hrel c (by rwa [Heap.parent_construct hlt] at hc)
    · have hbr : b ∈ h.released := by
        rw [← Heap.construct_released h fresh v, hrel]
        simp
      have hclen := Heap.parent_lt_length hc
      simp only [Heap.construct_blocks, List.length_append] at hclen
      have hm := hf.own (c - h.blocks.length) (by omega)
      rw [Nat.add_sub_cancel' (by omega)] at hm
      obtain ⟨i, hi⟩ := List.mem_iff_getElem?.1 hm
      obtain ⟨j, -, hj⟩ := hlay i c b hi hc
      exact absurd hbr (hs.owned_live b
        (hf.live b (hs.released_lt b hbr) (List.mem_iff_getElem?.2 ⟨j, hj⟩)))

/-- `Sound` but for the object `p` a destructor has just let go of. -/
structure SoundExcept (h : Heap) (p : Option Nat) extends Counted h p.toList : Prop where
  parent_lt : ∀ c b, h.parent c = some b → b < c
  layout : ∀ v ∈ h.values, Layout h.parent v.members
  ordered : ∀ l₁ b l₂, h.released = l₁ ++ b :: l₂ → ∀ c, h.parent c = some b → c ∈ l₁

theorem released_append {released : List Nat} {parent : Nat → Option Nat} {b : Nat}
    (ho : ∀ l₁ x l₂, released = l₁ ++ x :: l₂ → ∀ c, parent c = some x → c ∈ l₁)
    (hb : ∀ c, parent c = some b → c ∈ released) :
    ∀ l₁ x l₂, released ++ [b] = l₁ ++ x :: l₂ → ∀ c, parent c = some x → c ∈ l₁ := by
  intro l₁ x l₂ h c hc
  rcases List.eq_nil_or_concat l₂ with rfl | ⟨l₂, y, rfl⟩
  · obtain ⟨rfl, hx⟩ := List.append_inj' h rfl
    obtain rfl : b = x := by simpa using hx
    exact hb c hc
  · have h' : (l₁ ++ x :: l₂) ++ [y] = released ++ [b] := by simpa using h.symm
    exact ho l₁ x l₂ (List.append_inj' h' rfl).1.symm c hc

theorem SoundExcept.release {h : Heap} {p : Option Nat} (hs : SoundExcept h p) :
    Sound (h.releaseIfUnowned p) := by
  have hpar : (h.releaseIfUnowned p).parent = h.parent := by
    funext c
    simp [Heap.parent]
  refine ⟨hs.toCounted.release, by rw [hpar]; exact hs.parent_lt,
    by simpa [hpar] using hs.layout, ?_⟩
  rw [hpar]
  rcases p with _ | b
  · exact hs.ordered
  by_cases h0 : h.useCount b = 0
  · simp only [Heap.releaseIfUnowned, h0, if_true]
    refine released_append hs.ordered fun c hc => ?_
    have hcu : h.useCount c = 0 := by
      by_contra hne
      exact absurd (owned_parent hs.layout (Nat.pos_of_ne_zero hne) hc) (by omega)
    have hne : b ≠ c := Nat.ne_of_lt (hs.parent_lt c b hc)
    exact hs.unowned c (Heap.parent_lt_length hc) hcu fun hm => hne (List.mem_singleton.1 hm).symm
  · simp only [Heap.releaseIfUnowned, h0, if_false]
    exact hs.ordered

theorem Sound.shrink {h : Heap} (hs : Sound h) {o : Nat} {v : Value} (hv : h.values[o]? = some v)
    {L : List (Option Nat)} {p : Option Nat} (hm : v.members = L ++ [p]) :
    SoundExcept { h with values := h.values.set o { v with members := L } } p where
  toCounted := by
    have hc := hs.toCounted.update hv { v with members := L } p none
      (fun b => by simp [hm, List.count_append]) (by simp)
    rwa [List.append_nil] at hc
  parent_lt := hs.parent_lt
  layout := by
    intro w hw
    rcases List.mem_or_eq_of_mem_set hw with hw | rfl
    · exact hs.layout w hw
    · have hl : Layout h.parent (L ++ [p]) := hm ▸ hs.layout v (List.mem_iff_getElem?.2 ⟨o, hv⟩)
      exact hl.of_append
  ordered := hs.ordered

theorem Sound.pop {h : Heap} (hs : Sound h) (o : Nat) : Sound (h.popMember o) := by
  unfold Heap.popMember
  cases hv : h.values[o]? with
  | none => exact hs
  | some v =>
    rcases List.eq_nil_or_concat v.members with hnil | ⟨L, p, hm⟩
    · obtain ⟨t, ms⟩ := v
      subst hnil
      simpa [Heap.releaseIfUnowned, set_self_of_getElem? hv] using hs
    · rw [List.concat_eq_append] at hm
      simpa [hm] using (hs.shrink hv hm).release

theorem Sound.destroy {h : Heap} (hs : Sound h) (o : Nat) : Sound (h.destroy o) := by
  unfold Heap.destroy
  induction h.width o with
  | zero => exact hs
  | succ n ih => rw [Function.iterate_succ_apply']; exact ih.pop o

theorem Heap.parent_construct_fresh (h : Heap) (fresh : List Block) (v : Value) (k : Nat) :
    (h.construct fresh v).parent (h.blocks.length + k) = fresh[k]?.bind (·.parent) := by
  simp [Heap.parent, List.getElem?_append_right]

theorem Sound.copyOf {h : Heap} (hs : Sound h) {v : Value} (hv : v ∈ h.values) (t : ValueType) :
    Sound (h.construct [] ⟨t, v.members⟩) :=
  hs.construct (.copyOf hs.toCounted hv t) (by simp)
    ((hs.layout v hv).congr fun c hc => Heap.parent_construct (hs.allocated v hv c hc) _ _)

theorem Sound.nulls {h : Heap} (hs : Sound h) (t : ValueType) {ms : List (Option Nat)}
    (hms : ∀ p ∈ ms, p = none) : Sound (h.construct [] ⟨t, ms⟩) :=
  hs.construct (.nulls h t hms) (by simp)
    fun i c _ hi _ => by simpa using hms _ (List.mem_iff_getElem?.2 ⟨i, hi⟩)

theorem Sound.newPair {h : Heap} (hs : Sound h) (k : Kind) (t : ValueType) :
    Sound (h.construct [⟨.session, none⟩, ⟨k, some h.blocks.length⟩]
      ⟨t, [some h.blocks.length, some (h.blocks.length + 1)]⟩) := by
  refine hs.construct (.newPair h k t) (fun j blk hj b hb => ?_) (fun i c b hi hp => ?_)
  · rcases j with _ | _ | j <;> simp at hj <;> subst hj <;> simp at hb
    omega
  · rcases i with _ | _ | i <;> simp at hi <;> subst hi
    · have := Heap.parent_construct_fresh h [⟨.session, none⟩, ⟨k, some h.blocks.length⟩]
        ⟨t, [some h.blocks.length, some (h.blocks.length + 1)]⟩ 0
      simp only [Nat.add_zero] at this
      simp [this] at hp
    · simp [Heap.parent_construct_fresh] at hp
      exact ⟨0, by omega, by simp [hp]⟩

theorem Sound.extend {h : Heap} (hs : Sound h) {w : Value} (hw : w ∈ h.values)
    (ms rest : List (Option Nat)) (hms : w.members = ms ++ rest) (q : Nat) (hq : some q ∈ ms)
    (k : Kind) (t : ValueType) :
    Sound (h.construct [⟨k, some q⟩] ⟨t, ms ++ [some h.blocks.length]⟩) := by
  have hlt : ∀ b, some b ∈ ms → b < h.blocks.length :=
    fun b hb => hs.allocated w hw b (by simp [hms, hb])
  refine hs.construct (.extend hs.toCounted hw ms rest hms q k t) (fun j blk hj b hb => ?_)
    (fun i c b hi hp => ?_)
  · rcases j with _ | j <;> simp at hj
    subst hj
    simp only [Option.some.injEq] at hb
    subst hb
    simpa using hlt q hq
  · by_cases hi' : i < ms.length
    · rw [List.getElem?_append_left hi'] at hi
      have hc := hlt c (List.mem_iff_getElem?.2 ⟨i, hi⟩)
      rw [Heap.parent_construct hc] at hp
      have hl : Layout h.parent ms := Layout.of_append (hms ▸ hs.layout w hw)
      obtain ⟨j, hj, hb⟩ := hl i c b hi hp
      exact ⟨j, hj, by rw [List.getElem?_append_left (by omega)]; exact hb⟩
    · rw [List.getElem?_append_right (by omega)] at hi
      obtain ⟨hi0, rfl⟩ : i - ms.length = 0 ∧ h.blocks.length = c := by
        rcases h' : i - ms.length with _ | n <;> simp [h'] at hi; exact ⟨rfl, hi⟩
      have := Heap.parent_construct_fresh h [⟨k, some q⟩] ⟨t, ms ++ [some h.blocks.length]⟩ 0
      simp only [Nat.add_zero] at this
      simp [this] at hp
      subst hp
      obtain ⟨j, hj⟩ := List.mem_iff_getElem?.1 hq
      exact ⟨j, by have := (List.getElem?_eq_some_iff.1 hj).1; omega,
        by rw [List.getElem?_append_left (List.getElem?_eq_some_iff.1 hj).1]; exact hj⟩

theorem Sound.ofEffect {h h' : Heap} (hs : Sound h) (he : Effect h h' false) : Sound h' := by
  cases he with
  | same => exact hs
  | newPair k t => exact hs.newPair k t
  | extend hw ms rest hms q hq k t => exact hs.extend hw ms rest hms q hq k t
  | copyOf hv t => exact hs.copyOf hv t
  | nulls t hms => exact hs.nulls t hms
  | destroy o => exact hs.destroy o

theorem Sound.foldl {h : Heap} (hs : Sound h) (cmds : List Command)
    (hcmds : ∀ c ∈ cmds, c.isAssignment = false) : Sound (cmds.foldl Ownership.step h) := by
  induction cmds generalizing h with
  | nil => exact hs
  | cons c cmds ih =>
    simp only [List.mem_cons, forall_eq_or_imp] at hcmds
    exact ih (hs.ofEffect (hcmds.1 ▸ step_effect h c)) hcmds.2

/-- Without the implicit assignments, every run of constructions, copies and destructions of
the library's values releases each libssh2 object before the one it was created from: each
handle is closed before its SFTP channel is shut down, and each SFTP channel and known-host list
is released before its session is freed. -/
theorem children_released_first (cmds : List Command)
    (hcmds : ∀ c ∈ cmds, c.isAssignment = false) :
    ∀ l₁ b l₂, (run cmds).released = l₁ ++ b :: l₂ →
      ∀ c, (run cmds).parent c = some b → c ∈ l₁ :=
  (Sound.empty.foldl cmds hcmds).ordered

/-- A file opened on a channel, then the channel and the file destroyed: the handle (2) is
closed before the SFTP channel (1) is shut down, which is before the session (0) is freed. -/
theorem children_released_first_file :
    (∀ c ∈ [Command.sftpChannel, .openOn .sftpInputDevice 0, .destroy 0, .destroy 1],
      c.isAssignment = false) ∧
    (run [.sftpChannel, .openOn .sftpInputDevice 0, .destroy 0, .destroy 1]).released =
      [2] ++ 1 :: [0] ∧
    ∀ c, (run [.sftpChannel, .openOn .sftpInputDevice 0, .destroy 0, .destroy 1]).parent c =
      some 1 → c ∈ [2] :=
  ⟨by decide, by decide,
    children_released_first _ (by decide) [2] 1 [0] (by decide)⟩

end Ssh.Ownership
