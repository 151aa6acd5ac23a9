import Mathlib.Data.List.Nodup
import Ssh.Error

/-! Known hosts. A `knownhost_collection` wraps libssh2's list of known-host entries; `find`
asks libssh2 for the entry of a host, and `ssh::update` replaces a found entry by erasing it
and then adding the new one. -/
namespace Ssh

def LIBSSH2_KNOWNHOST_TYPE_PLAIN : Nat := 1
def LIBSSH2_KNOWNHOST_TYPE_SHA1 : Nat := 2
def LIBSSH2_KNOWNHOST_TYPE_CUSTOM : Nat := 3
def LIBSSH2_KNOWNHOST_TYPE_MASK : Nat := 0xffff
def LIBSSH2_KNOWNHOST_KEY_MASK : Nat := 15 <<< 18
def LIBSSH2_KNOWNHOST_KEYENC_RAW : Nat := 1 <<< 16
def LIBSSH2_KNOWNHOST_KEYENC_BASE64 : Nat := 2 <<< 16
def LIBSSH2_KNOWNHOST_KEY_RSA1 : Nat := 1 <<< 18
def LIBSSH2_KNOWNHOST_KEY_SSHRSA : Nat := 2 <<< 18
def LIBSSH2_KNOWNHOST_KEY_SSHDSS : Nat := 3 <<< 18
def LIBSSH2_KNOWNHOST_CHECK_MATCH : Nat := 0
def LIBSSH2_KNOWNHOST_CHECK_MISMATCH : Nat := 1
def LIBSSH2_KNOWNHOST_CHECK_NOTFOUND : Nat := 2

/-- `ssh::hostkey_type`. -/
inductive HostkeyType
  | unknown
  | rsa1
  | sshRsa
  | sshDss
  deriving DecidableEq, Repr

/-- `ssh::host_key`, through the accessors the known-host code calls: `key()`, `algorithm()`
and `is_base64()`. -/
structure HostKey where
  key : String
  algorithm : HostkeyType
  isBase64 : Bool
  deriving DecidableEq, Repr

/-- A `libssh2_knownhost` entry as libssh2 shows it: its address in the collection, its `name`
(`NULL` unless the name is plain), its `key` string and its `typemask`. -/
structure KnownHost where
  node : Nat
  name : Option String
  key : String
  typemask : Nat
  deriving DecidableEq, Repr

/-- `knownhost::key_algo`: the name of the entry's key algorithm. -/
def KnownHost.keyAlgo (e : KnownHost) : String :=
  let k := e.typemask &&& LIBSSH2_KNOWNHOST_KEY_MASK
  if k = LIBSSH2_KNOWNHOST_KEY_RSA1 then "rsa1"
  else if k = LIBSSH2_KNOWNHOST_KEY_SSHRSA then "ssh-rsa"
  else if k = LIBSSH2_KNOWNHOST_KEY_SSHDSS then "ssh-dss"
  else "unknown"

/-- The three name-type predicates of `knownhost`: the entry's name type is `type`. -/
def KnownHost.nameTypeIs (e : KnownHost) (type : Nat) : Bool :=
  e.typemask &&& LIBSSH2_KNOWNHOST_TYPE_MASK = type

/-- `knownhost::is_name_plain`. -/
def KnownHost.isNamePlain (e : KnownHost) : Bool := e.nameTypeIs LIBSSH2_KNOWNHOST_TYPE_PLAIN
/-- `knownhost::is_name_sha1`. -/
def KnownHost.isNameSha1 (e : KnownHost) : Bool := e.nameTypeIs LIBSSH2_KNOWNHOST_TYPE_SHA1
/-- `knownhost::is_name_custom`. -/
def KnownHost.isNameCustom (e : KnownHost) : Bool := e.nameTypeIs LIBSSH2_KNOWNHOST_TYPE_CUSTOM

/-- A `LIBSSH2_KNOWNHOSTS` list: its entries in libssh2's order, each at its own address, and
the address the next added entry gets, past every address in use. -/
structure Collection where
  entries : List KnownHost
  nextNode : Nat
  fresh : ∀ e ∈ entries, e.node < nextNode
  nodup : (entries.map KnownHost.node).Nodup

/-- The libssh2 known-host calls whose answers depend on more than the list: what
`libssh2_knownhost_checkp` returns for a host, key and type (its return code and the entry it
stores), and whether `libssh2_knownhost_add` fails for a host, salt (`NULL` as `none`), key and
typemask (a hashed name that does not decode, no memory). -/
structure KnownhostServer where
  check : Collection → String → String → Nat → Nat × Option Nat
  add : Collection → String → Option String → String → Nat → Option LastError

/-- What libssh2 promises of a check: a match or a mismatch stores an entry of the list. -/
def KnownhostServer.Checks (srv : KnownhostServer) : Prop :=
  ∀ c host key type, ((srv.check c host key type).1 = LIBSSH2_KNOWNHOST_CHECK_MATCH ∨
    (srv.check c host key type).1 = LIBSSH2_KNOWNHOST_CHECK_MISMATCH) →
      ∃ e ∈ c.entries, (srv.check c host key type).2 = some e.node

/-- `libssh2_knownhost_get`: the entry after `prev`, or the first one for `NULL`; none (return
code 1) past the last. -/
def libssh2KnownhostGet (c : Collection) : Option Nat → Option KnownHost
  | none => c.entries.head?
  | some n => ((c.entries.dropWhile (·.node ≠ n)).drop 1).head?

theorem Collection.nodup_filter (c : Collection) (p : KnownHost → Bool) :
    ((c.entries.filter p).map KnownHost.node).Nodup :=
  c.nodup.sublist ((List.filter_sublist _).map _)

/-- `libssh2_knownhost_del`: unlink the entry at address `n`. -/
def libssh2KnownhostDel (c : Collection) (n : Nat) : Collection :=
  ⟨c.entries.filter (·.node ≠ n), c.nextNode, fun e he => c.fresh e (List.mem_of_mem_filter he),
    c.nodup_filter _⟩

theorem Collection.fresh_append (c : Collection) (e : KnownHost) (he : e.node = c.nextNode) :
    ∀ x ∈ c.entries ++ [e], x.node < c.nextNode + 1 := by
  intro x hx
  rcases List.mem_append.1 hx with hx | hx
  · exact Nat.lt_succ_of_lt (c.fresh x hx)
  · rw [List.mem_singleton.1 hx, he]
    exact Nat.lt_succ_self _

theorem Collection.nodup_append (c : Collection) (e : KnownHost) (he : e.node = c.nextNode) :
    ((c.entries ++ [e]).map KnownHost.node).Nodup := by
  rw [List.map_append, List.nodup_append]
  refine ⟨c.nodup, List.nodup_singleton _, ?_⟩
  simp only [List.map_cons, List.map_nil, List.disjoint_singleton, List.mem_map, not_exists,
    not_and, he]
  exact fun x hx h => absurd (c.fresh x hx) (by omega)

/-- The digit of a six-bit value in the base64 alphabet (RFC 4648 §4). -/
def base64Digit (n : Nat) : Char :=
  "ABCDEFGHIJKLMNOPQRSTUVWXYZabcdefghijklmnopqrstuvwxyz0123456789+/".toList.getD n '='

/-- Base64 with padding: each three bytes become four digits, and a last group of one or two
bytes is padded with `=`. -/
def base64Encode : List UInt8 → List Char
  | a :: b :: c :: rest => quad a b c ++ base64Encode rest
  | [a, b] => (quad a b 0).take 3 ++ ['=']
  | [a] => (quad a 0 0).take 2 ++ ['=', '=']
  | [] => []
where
  quad (a b c : UInt8) : List Char :=
    let n := a.toNat * 65536 + b.toNat * 256 + c.toNat
    [base64Digit (n / 262144), base64Digit (n / 4096 % 64), base64Digit (n / 64 % 64),
      base64Digit (n % 64)]

/-- `_libssh2_base64_encode` of a string's bytes. -/
def libssh2Base64Encode (s : String) : String := String.mk (base64Encode s.toUTF8.data.toList)

example : libssh2Base64Encode "k2" = "azI=" ∧ libssh2Base64Encode "hello" = "aGVsbG8=" := by
  decide

/-- `libssh2_knownhost_add` once it has accepted the entry: a new entry at the next address,
linked at the end of the list. libssh2 keeps a key that is base64 already as given and encodes a
raw one, and shows the name only of a plain entry: a hashed name is kept decoded and a custom one
as given, but `name` is `NULL` for both. -/
def libssh2KnownhostAdd (c : Collection) (host key : String) (typemask : Nat) : Collection :=
  let name := if typemask &&& LIBSSH2_KNOWNHOST_TYPE_MASK = LIBSSH2_KNOWNHOST_TYPE_PLAIN then
    some host else none
  let stored := if typemask &&& LIBSSH2_KNOWNHOST_KEYENC_BASE64 ≠ 0 then key
    else libssh2Base64Encode key
  ⟨c.entries ++ [⟨c.nextNode, name, stored, typemask⟩], c.nextNode + 1, c.fresh_append _ rfl,
    c.nodup_append _ rfl⟩

namespace Knownhost

/-- Modelled from the spec: `detail::libssh2::knownhost::add` is not among the sources. By the
rules of the `detail::libssh2` wrappers it throws the session's last error, tagged with the API
function, when `libssh2_knownhost_add` fails, and otherwise returns the new entry. libssh2 takes
the length of a hashed name's salt, so a `NULL` salt there is undefined behaviour; the server's
answer stands for whatever that call does. -/
def libssh2Add (srv : KnownhostServer) (c : Collection) (host : String) (salt : Option String)
    (key : String) (type : Nat) : Except Error Nat × Collection :=
  match srv.add c host salt key type with
  | some e => (.error { exception := .sshError e.code e.message,
                        apiFunction := some "libssh2_knownhost_add" }, c)
  | none => (.ok c.nextNode, libssh2KnownhostAdd c host key type)

/-- `detail::next_host`. -/
def nextHost (c : Collection) (pos : Option Nat) : Option Nat :=
  (libssh2KnownhostGet c pos).map (·.node)

/-- `detail::hostkey_type_to_add_type`. -/
def hostkeyTypeToAddType : HostkeyType → Except Error Nat
  | .rsa1 => .ok LIBSSH2_KNOWNHOST_KEY_RSA1
  | .sshRsa => .ok LIBSSH2_KNOWNHOST_KEY_SSHRSA
  | .sshDss => .ok LIBSSH2_KNOWNHOST_KEY_SSHDSS
  | .unknown => .error (Error.of (.invalidArgument "Unrecognised key algorithm"))

/-- `detail::add`: the key's encoding joins the type, and an empty salt is passed as `NULL`. -/
def add (srv : KnownhostServer) (c : Collection) (hostOrIp salt key : String) (type : Nat)
    (base64Key : Bool) : Except Error Nat × Collection :=
  libssh2Add srv c hostOrIp (if salt.isEmpty then none else some salt) key
    (type ||| if base64Key then LIBSSH2_KNOWNHOST_KEYENC_BASE64 else LIBSSH2_KNOWNHOST_KEYENC_RAW)

end Knownhost

/-- A `knownhost_iterator`: the address of the entry it points at, `NULL` at the end. -/
structure KnownhostIterator where
  pos : Option Nat
  deriving DecidableEq, Repr

/-- `knownhost_iterator::increment`. -/
def KnownhostIterator.increment (c : Collection) (it : KnownhostIterator) :
    Except Error KnownhostIterator :=
  match it.pos with
  | none => .error (Error.of (.logicError "Can't increment past the end of a collection"))
  | some p => .ok ⟨Knownhost.nextHost c (some p)⟩

/-- `knownhost_iterator::dereference`: the address of the entry the `knownhost` views. -/
def KnownhostIterator.dereference (it : KnownhostIterator) : Except Error Nat :=
  match it.pos with
  | none => .error (Error.of (.logicError "Can't dereference the end of a collection"))
  | some p => .ok p

/-- `n` applications of `++it`, stopping at the first throw. -/
def KnownhostIterator.advance (c : Collection) : Nat → KnownhostIterator →
    Except Error KnownhostIterator
  | 0, it => .ok it
  | n + 1, it => (advance c n it).bind (·.increment c)

/-- `knownhost_collection::begin`: the iterator at `next_host(NULL)`. -/
def Collection.begin (c : Collection) : KnownhostIterator := ⟨Knownhost.nextHost c none⟩

/-- `knownhost_collection::end`. -/
def Collection.«end» : KnownhostIterator := ⟨none⟩

theorem dropWhile_node_ne {l l₁ l₂ : List KnownHost} {e : KnownHost} (hl : l = l₁ ++ e :: l₂)
    (hnd : (l.map KnownHost.node).Nodup) : l.dropWhile (·.node ≠ e.node) = e :: l₂ := by
  subst hl
  induction l₁ with
  | nil => simp [List.dropWhile_cons]
  | cons x l₁ ih =>
    rw [List.cons_append, List.map_cons, List.nodup_cons] at hnd
    have hx : x.node ≠ e.node := fun h => hnd.1 (h ▸ by simp)
    rw [List.cons_append, List.dropWhile_cons_of_pos (by simpa using hx), ih hnd.2]

theorem nextHost_getElem (c : Collection) {n : Nat} (h : n < c.entries.length) :
    Knownhost.nextHost c (some c.entries[n].node) = c.entries[n + 1]?.map (·.node) := by
  have hsplit : c.entries = c.entries.take n ++ c.entries[n] :: c.entries.drop (n + 1) := by
    rw [← List.drop_eq_getElem_cons h, List.take_append_drop]
  rw [Knownhost.nextHost, libssh2KnownhostGet, dropWhile_node_ne hsplit c.nodup]
  simp

theorem advance_begin (c : Collection) {n : Nat} (h : n ≤ c.entries.length) :
    c.begin.advance c n = .ok ⟨c.entries[n]?.map (·.node)⟩ := by
  induction n with
  | zero => simp [Collection.begin, KnownhostIterator.advance, Knownhost.nextHost,
      libssh2KnownhostGet, List.head?_eq_getElem?]
  | succ n ih =>
    have hn : n < c.entries.length := by omega
    rw [KnownhostIterator.advance, ih hn.le, List.getElem?_eq_getElem hn]
    simp [Except.bind, KnownhostIterator.increment, nextHost_getElem c hn]

/-- Walking a known-host list from `begin()` with `++` visits every entry once, in list order:
the `n`-th increment dereferences to the `n`-th entry's address, the increment after the last
entry gives `end()`, and one more throws. -/
theorem begin_enumerates (c : Collection) :
    (∀ n (h : n < c.entries.length),
      (c.begin.advance c n).bind KnownhostIterator.dereference = .ok c.entries[n].node) ∧
    c.begin.advance c c.entries.length = .ok Collection.«end» ∧
    c.begin.advance c (c.entries.length + 1) =
      .error (Error.of (.logicError "Can't increment past the end of a collection")) := by
  have hend : c.begin.advance c c.entries.length = .ok Collection.«end» := by
    simp [advance_begin c le_rfl, Collection.«end»]
  refine ⟨fun n h => ?_, hend, ?_⟩
  · simp [advance_begin c h.le, List.getElem?_eq_getElem h, Except.bind,
      KnownhostIterator.dereference]
  · rw [KnownhostIterator.advance, hend]
    rfl

/-- `erase(knownhost_iterator)`: step a copy past the entry (which throws at the end), then
delete the entry. -/
def erase (c : Collection) (it : KnownhostIterator) : Except Error KnownhostIterator × Collection :=
  match it.increment c, it.pos with
  | .error e, _ => (.error e, c)
  | .ok next, some p => (.ok next, libssh2KnownhostDel c p)
  | .ok next, none => (.ok next, c)

/-- `knownhost_search_result`. -/
structure KnownhostSearchResult where
  host : KnownhostIterator
  «end» : KnownhostIterator
  «match» : Bool
  deriving DecidableEq, Repr

/-- `knownhost_collection::find`. -/
def find (srv : KnownhostServer) (c : Collection) (host key : String) (base64Key : Bool) :
    Except Error KnownhostSearchResult :=
  let type := LIBSSH2_KNOWNHOST_TYPE_PLAIN |||
    if base64Key then LIBSSH2_KNOWNHOST_KEYENC_BASE64 else LIBSSH2_KNOWNHOST_KEYENC_RAW
  let (rc, found) := srv.check c host key type
  if rc = LIBSSH2_KNOWNHOST_CHECK_MATCH then .ok ⟨⟨found⟩, ⟨none⟩, true⟩
  else if rc = LIBSSH2_KNOWNHOST_CHECK_MISMATCH then .ok ⟨⟨found⟩, ⟨none⟩, false⟩
  else if rc = LIBSSH2_KNOWNHOST_CHECK_NOTFOUND then .ok ⟨⟨none⟩, ⟨none⟩, false⟩
  else .error (Error.of (.logicError "Unexpected return code"))

/-- What `add`, `add_hashed` and `add_custom` share: the name type `nameType` joins the key's
algorithm, then `detail::add` with the salt. -/
def Collection.addEntry (srv : KnownhostServer) (c : Collection) (nameType : Nat)
    (hostOrIp salt key : String) (algorithm : HostkeyType) (base64Key : Bool) :
    Except Error Nat × Collection :=
  match Knownhost.hostkeyTypeToAddType algorithm with
  | .error e => (.error e, c)
  | .ok addType => Knownhost.add srv c hostOrIp salt key (nameType ||| addType) base64Key

/-- `knownhost_collection::add`: a plain name and no salt. -/
def Collection.add (srv : KnownhostServer) (c : Collection) (hostOrIp key : String)
    (algorithm : HostkeyType) (base64Key : Bool) : Except Error Nat × Collection :=
  c.addEntry srv LIBSSH2_KNOWNHOST_TYPE_PLAIN hostOrIp "" key algorithm base64Key

/-- `knownhost_collection::add_hashed`: a hashed name with its salt, which reaches libssh2 as
`NULL` when it is empty. -/
def Collection.addHashed (srv : KnownhostServer) (c : Collection) (hostOrIp salt key : String)
    (algorithm : HostkeyType) (base64Key : Bool) : Except Error Nat × Collection :=
  c.addEntry srv LIBSSH2_KNOWNHOST_TYPE_SHA1 hostOrIp salt key algorithm base64Key

/-- `knownhost_collection::add_custom`: a custom name and no salt. -/
def Collection.addCustom (srv : KnownhostServer) (c : Collection) (hostOrIp key : String)
    (algorithm : HostkeyType) (base64Key : Bool) : Except Error Nat × Collection :=
  c.addEntry srv LIBSSH2_KNOWNHOST_TYPE_CUSTOM hostOrIp "" key algorithm base64Key

/-- `ssh::update`: `erase(entry.host())`, then `add(hosts, host_or_ip, key)`. -/
def update (srv : KnownhostServer) (c : Collection) (hostOrIp : String) (key : HostKey)
    (entry : KnownhostSearchResult) : Except Error Nat × Collection :=
  match erase c entry.host with
  | (.error e, c') => (.error e, c')
  | (.ok _, c') => c'.add srv hostOrIp key.key key.algorithm key.isBase64

theorem filter_node_ne_eq_erase {l : List KnownHost} (hl : (l.map KnownHost.node).Nodup)
    {e : KnownHost} (he : e ∈ l) : l.filter (·.node ≠ e.node) = l.erase e := by
  induction l with
  | nil => simp at he
  | cons x l ih =>
    rw [List.map_cons, List.nodup_cons] at hl
    by_cases hx : x = e
    · subst hx
      rw [List.erase_cons_head, List.filter_cons_of_neg (by simp), List.filter_eq_self]
      exact fun y hy => decide_eq_true fun h => hl.1 (h ▸ List.mem_map_of_mem KnownHost.node hy)
    · have he' : e ∈ l := (List.mem_cons.1 he).resolve_left (Ne.symm hx)
      have hn : x.node ≠ e.node := fun h => hl.1 (h ▸ List.mem_map_of_mem _ he')
      rw [List.erase_cons_tail (by simpa using hx), List.filter_cons_of_pos (by simpa),
        ih hl.2 he']

/-- `erase` at the `n`-th entry, as its documentation says: the list loses just that entry, and
the iterator returned points to the next item, which is the `n`-th of the list that remains, or
is the end when there are no more items. -/
theorem erase_returns_next (c : Collection) {n : Nat} (h : n < c.entries.length) :
    (erase c ⟨some c.entries[n].node⟩).2.entries = c.entries.eraseIdx n ∧
    (erase c ⟨some c.entries[n].node⟩).1 = .ok ⟨(c.entries.eraseIdx n)[n]?.map (·.node)⟩ := by
  have hnd := c.nodup
  have hdel : (libssh2KnownhostDel c c.entries[n].node).entries = c.entries.eraseIdx n := by
    rw [← (hnd.of_map _).erase_getElem n h]
    exact filter_node_ne_eq_erase hnd (List.getElem_mem h)
  simp only [erase, KnownhostIterator.increment, nextHost_getElem c h,
    List.getElem?_eraseIdx_of_ge _ _ _ le_rfl]
  exact ⟨hdel, trivial⟩

/-- Two plain entries, for `h` and `g`. -/
def twoHosts : Collection :=
  ⟨[⟨0, some "h", "aw==", 0x20001⟩, ⟨1, some "g", "azI=", 0x20001⟩], 2, by decide, by decide⟩

/-- Erasing the first of two entries leaves the second, and returns an iterator to it. -/
theorem erase_returns_next_first :
    0 < twoHosts.entries.length ∧
    (erase twoHosts ⟨some twoHosts.entries[0].node⟩).2.entries = twoHosts.entries.eraseIdx 0 ∧
    (erase twoHosts ⟨some twoHosts.entries[0].node⟩).1 =
      .ok ⟨(twoHosts.entries.eraseIdx 0)[0]?.map (·.node)⟩ :=
  ⟨by decide, erase_returns_next twoHosts (by decide)⟩

theorem find_host {srv : KnownhostServer} (hsrv : srv.Checks) {c : Collection}
    {host key : String} {base64Key : Bool} {entry : KnownhostSearchResult}
    (h : find srv c host key base64Key = .ok entry) :
    entry.host.pos = none ∨ ∃ e ∈ c.entries, entry.host.pos = some e.node := by
  unfold find at h
  generalize (LIBSSH2_KNOWNHOST_TYPE_PLAIN |||
    if base64Key then LIBSSH2_KNOWNHOST_KEYENC_BASE64 else LIBSSH2_KNOWNHOST_KEYENC_RAW) = type at h
  simp only at h
  have hc := hsrv c host key type
  split_ifs at h with h0 h1 <;> cases h
  · exact .inr (hc (.inl h0))
  · exact .inr (hc (.inr h1))
  · exact .inl rfl

/-- The typemask `ssh::update` gives the new entry: a plain name, the key's algorithm and its
encoding. -/
def updateTypemask (key : HostKey) (addType : Nat) : Nat :=
  LIBSSH2_KNOWNHOST_TYPE_PLAIN ||| addType |||
    if key.isBase64 then LIBSSH2_KNOWNHOST_KEYENC_BASE64 else LIBSSH2_KNOWNHOST_KEYENC_RAW

theorem updateTypemask_bits (key : HostKey) {addType : Nat}
    (h : Knownhost.hostkeyTypeToAddType key.algorithm = .ok addType) :
    updateTypemask key addType &&& LIBSSH2_KNOWNHOST_TYPE_MASK = LIBSSH2_KNOWNHOST_TYPE_PLAIN ∧
      (updateTypemask key addType &&& LIBSSH2_KNOWNHOST_KEYENC_BASE64 ≠ 0 ↔ key.isBase64 = true) := by
  simp only [updateTypemask]
  generalize key.isBase64 = base64
  obtain ⟨_, algorithm, _⟩ := key
  cases algorithm <;> simp only [Knownhost.hostkeyTypeToAddType, reduceCtorEq,
    Except.ok.injEq] at h <;> subst h <;> cases base64 <;> decide

/-- What `ssh::update` ends in from the list `c`: for the end iterator (nothing found), the
increment's error and the list unchanged; for an iterator to the entry `e`, the list without
`e`, with the new plain entry for `(hostOrIp, key)` linked at the end on success, its key
base64-encoded by libssh2 when it was raw. -/
def UpdateSpec (c : Collection) (hostOrIp : String) (key : HostKey)
    (entry : KnownhostSearchResult) : Except Error Nat × Collection → Prop
  | (r, c') =>
    (entry.host.pos = none ∧
      r = .error (Error.of (.logicError "Can't increment past the end of a collection")) ∧
      c'.entries = c.entries) ∨
    ∃ e ∈ c.entries, entry.host.pos = some e.node ∧
      match r with
      | .ok n => ∃ addType, Knownhost.hostkeyTypeToAddType key.algorithm = .ok addType ∧
          c'.entries = c.entries.erase e ++
            [⟨n, some hostOrIp, if key.isBase64 then key.key else libssh2Base64Encode key.key,
              updateTypemask key addType⟩]
      | .error _ => c'.entries = c.entries.erase e

/-- `ssh::update` on a result of `find` replaces the found entry by the new one, or raises.
It raises with the list unchanged only when nothing was found; when the key's algorithm is
not rsa1, ssh-rsa or ssh-dss, or `libssh2_knownhost_add` fails, it raises after the erase,
with the found entry gone and nothing added. -/
theorem update_replaces_entry (srv : KnownhostServer) (hsrv : srv.Checks) (c : Collection)
    (host key : String) (base64Key : Bool) (entry : KnownhostSearchResult)
    (hfind : find srv c host key base64Key = .ok entry) (hostOrIp : String) (hk : HostKey) :
    UpdateSpec c hostOrIp hk entry (update srv c hostOrIp hk entry) := by
  obtain ⟨⟨pos⟩, _, _⟩ := entry
  rcases find_host hsrv hfind with hpos | ⟨e, he, hpos⟩ <;> dsimp only at hpos <;> subst hpos
  · exact .inl ⟨rfl, rfl, rfl⟩
  refine .inr ⟨e, he, rfl, ?_⟩
  have hdel : (libssh2KnownhostDel c e.node).entries = c.entries.erase e :=
    filter_node_ne_eq_erase c.nodup he
  cases hA : Knownhost.hostkeyTypeToAddType hk.algorithm with
  | error => exact hdel
  | ok addType =>
    obtain ⟨hplain, hbase64⟩ := updateTypemask_bits hk hA
    simp only [Knownhost.add, Knownhost.libssh2Add]
    cases srv.add (libssh2KnownhostDel c e.node) hostOrIp _ hk.key _ with
    | some => exact hdel
    | none =>
      refine ⟨addType, rfl, ?_⟩
      simp only [updateTypemask] at hplain hbase64
      simp only [libssh2KnownhostAdd, hdel, hplain, hbase64, if_true]
      rfl

/-- A server whose check matches the first entry of the list and whose adds succeed. -/
def firstMatch : KnownhostServer where
  check c _ _ _ := match c.entries with
    | [] => (LIBSSH2_KNOWNHOST_CHECK_NOTFOUND, none)
    | e :: _ => (LIBSSH2_KNOWNHOST_CHECK_MATCH, some e.node)
  add _ _ _ _ _ := none

theorem firstMatch_checks : firstMatch.Checks := by
  intro c _ _ _ h
  simp only [firstMatch] at h ⊢
  split at h
  · simp [LIBSSH2_KNOWNHOST_CHECK_NOTFOUND, LIBSSH2_KNOWNHOST_CHECK_MATCH,
      LIBSSH2_KNOWNHOST_CHECK_MISMATCH] at h
  · rename_i e _ hc
    exact ⟨e, by simp [hc], rfl⟩

/-- A list of one plain entry for `h`. -/
def oneHost : Collection := ⟨[⟨0, some "h", "aw==", 0x20001⟩], 1, by decide, by decide⟩

/-- Updating the entry `find` matched with a raw ssh-rsa key. -/
theorem update_replaces_entry_one_host :
    firstMatch.Checks ∧ find firstMatch oneHost "h" "aw==" true = .ok ⟨⟨some 0⟩, ⟨none⟩, true⟩ ∧
    UpdateSpec oneHost "h" ⟨"k2", .sshRsa, false⟩ ⟨⟨some 0⟩, ⟨none⟩, true⟩
      (update firstMatch oneHost "h" ⟨"k2", .sshRsa, false⟩ ⟨⟨some 0⟩, ⟨none⟩, true⟩) :=
  ⟨firstMatch_checks, rfl, update_replaces_entry firstMatch firstMatch_checks oneHost "h" "aw==" true
    _ rfl "h" _⟩

/-- Updating the entry `find` matched with a key of unknown algorithm raises, and the entry is
gone. -/
theorem update_unknown_key_loses_entry :
    find firstMatch oneHost "h" "aw==" true = .ok ⟨⟨some 0⟩, ⟨none⟩, true⟩ ∧
    (update firstMatch oneHost "h" ⟨"k2", .unknown, false⟩ ⟨⟨some 0⟩, ⟨none⟩, true⟩).1 =
      .error (Error.of (.invalidArgument "Unrecognised key algorithm")) ∧
    (update firstMatch oneHost "h" ⟨"k2", .unknown, false⟩ ⟨⟨some 0⟩, ⟨none⟩, true⟩).2.entries = [] :=
  ⟨rfl, rfl, rfl⟩

/-! ### Key and comment -/

/-- `std::string::npos`. -/
def npos : Nat := 0xffffffffffffffff

namespace Knownhost

/-- `knownhost::name()` of the `knownhost` viewing `pos`: the entry's name, empty for `NULL`. -/
def name (pos : Option KnownHost) : String := (pos.bind (·.name)).getD ""

/-- `detail::internal_key`: libssh2's key string for the entry, which may carry a comment after a
space; empty for `NULL`. -/
def internalKey (pos : Option KnownHost) : String := (pos.map (·.key)).getD ""

/-- `knownhost::key()` of the `knownhost` viewing `pos`: the key string up to its first space. -/
def key (pos : Option KnownHost) : String :=
  let k := internalKey pos
  match k.toList.indexOf? ' ' with
  | some space => String.mk (k.toList.take space)
  | none => k

/-- `knownhost::comment()`: the key string after its first space, or nothing. -/
def comment (pos : Option KnownHost) : String :=
  let k := internalKey pos
  match k.toList.indexOf? ' ' with
  | some space => if space + 1 ≠ npos then String.mk (k.toList.drop (space + 1)) else ""
  | none => ""

end Knownhost

theorem eq_take_cons_drop_of_indexOf? {l : List Char} {c : Char} {i : Nat}
    (h : l.indexOf? c = some i) : l = l.take i ++ c :: l.drop (i + 1) ∧ c ∉ l.take i := by
  obtain ⟨hi, hc, hbefore⟩ := List.findIdx?_eq_some_iff_getElem.1 h
  refine ⟨?_, fun hm => ?_⟩
  · conv_lhs => rw [← List.take_append_drop i l, List.drop_eq_getElem_cons hi]
    rw [beq_iff_eq.1 hc]
  · obtain ⟨j, hj, hjc⟩ := List.getElem_of_mem hm
    rw [List.length_take] at hj
    rw [List.getElem_take] at hjc
    exact hbefore j (by omega) (beq_iff_eq.2 hjc)

/-- `key()` and `comment()` split libssh2's key string at its first space: `key()` has no space,
and the key string is `key()` followed, when it has a space, by that space and `comment()`;
without a space the comment is empty. -/
theorem key_comment_split (pos : Option KnownHost) (hlen : (Knownhost.internalKey pos).length < npos) :
    ' ' ∉ (Knownhost.key pos).toList ∧
    Knownhost.internalKey pos = Knownhost.key pos ++
      (if ' ' ∈ (Knownhost.internalKey pos).toList then " " ++ Knownhost.comment pos else "") ∧
    (' ' ∉ (Knownhost.internalKey pos).toList → Knownhost.comment pos = "") := by
  unfold Knownhost.key Knownhost.comment
  generalize Knownhost.internalKey pos = k at hlen ⊢
  dsimp only
  cases h : k.toList.indexOf? ' ' with
  | none =>
    have hk : ' ' ∉ k.data := fun hm => by
      simpa using List.indexOf?_eq_none_iff.1 h _ hm
    simp [hk]
  | some i =>
    obtain ⟨hsplit, hfirst⟩ := eq_take_cons_drop_of_indexOf? h
    obtain ⟨hi, -⟩ := List.findIdx?_eq_some_iff_getElem.1 h
    have hnpos : i + 1 ≠ npos := by
      have : k.toList.length < npos := hlen
      omega
    have hmem : ' ' ∈ k.toList := by
      rw [hsplit]
      simp
    refine ⟨hfirst, ?_, fun hn => absurd hmem hn⟩
    dsimp only
    rw [if_pos hmem, if_pos hnpos]
    apply String.ext
    simp only [String.data_append]
    exact hsplit

/-- A stored key with a comment. -/
theorem key_comment_split_commented :
    (Knownhost.internalKey (some ⟨0, some "h", "AAAAB3 me@there", 0x20001⟩)).length < npos ∧
    ' ' ∉ (Knownhost.key (some ⟨0, some "h", "AAAAB3 me@there", 0x20001⟩)).toList ∧
    Knownhost.internalKey (some ⟨0, some "h", "AAAAB3 me@there", 0x20001⟩) =
      Knownhost.key (some ⟨0, some "h", "AAAAB3 me@there", 0x20001⟩) ++
      (if ' ' ∈ (Knownhost.internalKey (some ⟨0, some "h", "AAAAB3 me@there", 0x20001⟩)).toList then
        " " ++ Knownhost.comment (some ⟨0, some "h", "AAAAB3 me@there", 0x20001⟩) else "") ∧
    (' ' ∉ (Knownhost.internalKey (some ⟨0, some "h", "AAAAB3 me@there", 0x20001⟩)).toList →
      Knownhost.comment (some ⟨0, some "h", "AAAAB3 me@there", 0x20001⟩) = "") :=
  ⟨by decide, key_comment_split _ (by decide)⟩

example : Knownhost.key (some ⟨0, some "h", "AAAAB3 me@there", 0x20001⟩) = "AAAAB3" ∧
    Knownhost.comment (some ⟨0, some "h", "AAAAB3 me@there", 0x20001⟩) = "me@there" := by decide

/-! ### Search results -/

namespace KnownhostSearchResult

/-- `knownhost_search_result::mismatch()`. -/
def mismatch (r : KnownhostSearchResult) : Bool := !r.match && r.host != r.end

/-- `knownhost_search_result::match()`; `match` names the flag here. -/
def isMatch (r : KnownhostSearchResult) : Bool := r.match && r.host != r.end

/-- `knownhost_search_result::not_found()`. -/
def notFound (r : KnownhostSearchResult) : Bool := r.host == r.end

end KnownhostSearchResult

end Ssh
