import Mathlib
import Ssh.Sftp.Write

/-! `ssh::sftp::detail::seek`. The target is computed in 64-bit arithmetic: `stream_offset` is
signed, while `libssh2_sftp_tell64` and the size from `libssh2_sftp_fstat_ex` are unsigned, so
`tell64() + off` and `filesize + off` are sums modulo `2^64` read back as signed values before the
sign check. -/
namespace Ssh.Sftp

/-- `std::ios_base::seekdir`. -/
inductive Seekdir
  | beg
  | cur
  | «end»
  deriving DecidableEq, Repr

/-- `libssh2_sftp_tell64`: the handle's offset as a `libssh2_uint64_t`. -/
def libssh2SftpTell64 (w : World) : BitVec 64 := BitVec.ofNat 64 w.handle.pos

/-- `libssh2_sftp_seek64`: move the handle; no data moves. -/
def libssh2SftpSeek64 (w : World) (offset : BitVec 64) : World :=
  { w with handle := { w.handle with pos := offset.toNat } }

@[simp] theorem tell64_seek64 (w : World) (x : BitVec 64) :
    libssh2SftpTell64 (libssh2SftpSeek64 w x) = x := by
  simp [libssh2SftpTell64, libssh2SftpSeek64]

@[simp] theorem seek64_seek64 (w : World) (x y : BitVec 64) :
    libssh2SftpSeek64 (libssh2SftpSeek64 w x) y = libssh2SftpSeek64 w y := rfl

namespace Detail

/-- The `switch (way)` of `detail::seek`: the new position as the 64-bit `stream_offset` it is
stored in. Only `end` asks the server (`libssh2_sftp_fstat_ex`). -/
def seekTarget (srv : Server) (openPath : String) (off : BitVec 64) (w : World) :
    Seekdir → Except Error (BitVec 64) × World
  | .beg => (.ok off, w)
  | .cur => (.ok (libssh2SftpTell64 w + off), w)
  | .end =>
    match srv.fstat w with
    | .error e =>
      (.error (throwLastErrorWithPath e "libssh2_sftp_fstat_ex" openPath), { w with lastError := e })
    | .ok filesize => (.ok (filesize + off), w)

/-- `detail::seek`: refuse a negative target, otherwise move the handle there and return it. -/
def seek (srv : Server) (openPath : String) (off : BitVec 64) (way : Seekdir) (w : World) :
    Except Error Int × World :=
  match seekTarget srv openPath off w way with
  | (.error e, w') => (.error e, w')
  | (.ok newPosition, w') =>
    if newPosition.toInt < 0 then
      (.error (Error.of (.logicError "Cannot seek before start of file")), w')
    else (.ok newPosition.toInt, libssh2SftpSeek64 w' newPosition)

end Detail

/-- The position `detail::seek` counts from, read as an integer before any 64-bit sum: `0` for
`beg`, the offset `libssh2_sftp_tell64` reports for `cur`, and the size `libssh2_sftp_fstat_ex`
reports for `end`. -/
def Seekdir.base (w : World) (filesize : BitVec 64) : Seekdir → Int
  | .beg => 0
  | .cur => (libssh2SftpTell64 w).toNat
  | .end => filesize.toNat

/-- What a seek should do: raise and leave the handle where it was, or move it to `base + off`,
a non-negative signed 64-bit position, with the file's bytes untouched, and return that
position. -/
def SeekSpec (w : World) (base : Int) (off : BitVec 64) : Except Error Int × World → Prop
  | (.error _, w') => w'.handle = w.handle
  | (.ok p, w') => p = base + off.toInt ∧ 0 ≤ p ∧ p ≤ 2 ^ 63 - 1 ∧
      w'.handle = { w.handle with pos := p.toNat }

theorem toInt_le_max (x : BitVec 64) : x.toInt ≤ 2 ^ 63 - 1 := by
  have := x.isLt
  rw [BitVec.toInt_eq_toNat_cond]
  split_ifs <;> omega

theorem toInt_add_of_lt {x : Nat} (y : BitVec 64) (hx : x < 2 ^ 63)
    (h : 0 ≤ (BitVec.ofNat 64 x + y).toInt) : (BitVec.ofNat 64 x + y).toInt = x + y.toInt := by
  have hy := y.isLt
  rw [BitVec.toInt_eq_toNat_cond] at h ⊢
  rw [BitVec.toInt_eq_toNat_cond y]
  simp only [BitVec.toNat_add, BitVec.toNat_ofNat] at h ⊢
  split_ifs at h ⊢ <;> omega

theorem toInt_ofNat_add {x : Nat} (hx : x < 2 ^ 63) (y : BitVec 64) :
    (BitVec.ofNat 64 x + y).toInt =
      if (x : Int) + y.toInt < 2 ^ 63 then x + y.toInt else x + y.toInt - 2 ^ 64 := by
  have hy := y.isLt
  rw [BitVec.toInt_eq_toNat_cond, BitVec.toInt_eq_toNat_cond y]
  simp only [BitVec.toNat_add, BitVec.toNat_ofNat]
  split_ifs <;> omega

theorem seek_eq_of_wrapped {srv : Server} {openPath : String} {off : BitVec 64} {way : Seekdir}
    {w : World} {t : BitVec 64} {target : Int}
    (h : Detail.seekTarget srv openPath off w way = (.ok t, w))
    (ht : t.toInt = if target < 2 ^ 63 then target else target - 2 ^ 64) (hhi : target < 2 ^ 64) :
    Detail.seek srv openPath off way w =
      if 0 ≤ target ∧ target < 2 ^ 63 then
        (.ok target, { w with handle := { w.handle with pos := target.toNat } })
      else (.error (Error.of (.logicError "Cannot seek before start of file")), w) := by
  unfold Detail.seek
  rw [h]
  dsimp only
  by_cases hin : 0 ≤ target ∧ target < 2 ^ 63
  · have hti : t.toInt = target := by rw [ht, if_pos hin.2]
    have hnat : t.toNat = target.toNat := by
      have := t.isLt
      rw [BitVec.toInt_eq_toNat_cond] at hti
      split_ifs at hti <;> omega
    rw [if_neg (by omega), if_pos hin, hti]
    simp only [libssh2SftpSeek64, hnat]
  · have hneg : t.toInt < 0 := by split_ifs at ht <;> omega
    rw [if_pos hneg, if_neg hin]

theorem seek_of_target {srv : Server} {openPath : String} {off : BitVec 64} {way : Seekdir}
    {w w' : World} {target : BitVec 64} {base : Int} (h : Detail.seekTarget srv openPath off w way = (.ok target, w'))
    (hb : 0 ≤ target.toInt → target.toInt = base + off.toInt) (hw : w'.handle = w.handle) :
    SeekSpec w base off (Detail.seek srv openPath off way w) := by
  unfold Detail.seek
  rw [h]
  dsimp only
  split_ifs with hneg
  · exact hw
  · have hnn : 0 ≤ target.toInt := by omega
    refine ⟨hb hnn, hnn, toInt_le_max _, ?_⟩
    rw [BitVec.toInt_eq_toNat_cond] at hnn ⊢
    split_ifs at hnn ⊢
    simp [libssh2SftpSeek64, hw]
    omega

/-- For a handle offset below `2^63`, and for `end` a file size below `2^63`, the signed sums
cannot wrap into range, so every seek either raises without moving the handle or lands exactly on
`base + off`. -/
theorem seek_exact (srv : Server) (openPath : String) (off : BitVec 64) (way : Seekdir)
    (w : World) (filesize : BitVec 64) (hpos : w.handle.pos < 2 ^ 63)
    (hsize : way = .end → srv.fstat w = .ok filesize)
    (hsmall : way = .end → filesize.toNat < 2 ^ 63) :
    SeekSpec w (way.base w filesize) off (Detail.seek srv openPath off way w) := by
  cases way with
  | beg => exact seek_of_target rfl (by simp [Seekdir.base]) rfl
  | cur =>
    have ht : (libssh2SftpTell64 w).toNat = w.handle.pos := by
      simp [libssh2SftpTell64]; omega
    exact seek_of_target rfl (fun h => by
      rw [Seekdir.base, ht, libssh2SftpTell64]; exact toInt_add_of_lt off hpos h) rfl
  | «end» =>
    have hs : BitVec.ofNat 64 filesize.toNat = filesize := by simp
    refine seek_of_target (show Detail.seekTarget srv openPath off w .end = (.ok (filesize + off), w)
      by simp [Detail.seekTarget, hsize rfl]) (fun h => ?_) rfl
    have := toInt_add_of_lt off (hsmall rfl) (by rwa [hs])
    rw [hs] at this
    exact this

/-- A file of three bytes, seen from offset 1, sought to three bytes before its end. -/
theorem seek_exact_before_end :
    (⟨⟨[7, 8, 9], 1⟩, ⟨0, "", 0⟩, [], []⟩ : World).handle.pos < 2 ^ 63 ∧
    (Seekdir.end = .end → trickle.fstat ⟨⟨[7, 8, 9], 1⟩, ⟨0, "", 0⟩, [], []⟩ = .ok 3) ∧
    (Seekdir.end = .end → (3 : BitVec 64).toNat < 2 ^ 63) ∧
    SeekSpec ⟨⟨[7, 8, 9], 1⟩, ⟨0, "", 0⟩, [], []⟩ 3 (-3)
      (Detail.seek trickle "/tmp/f" (-3) .end ⟨⟨[7, 8, 9], 1⟩, ⟨0, "", 0⟩, [], []⟩) :=
  ⟨by decide, fun _ => rfl, fun _ => by decide,
    seek_exact trickle "/tmp/f" (-3) .end ⟨⟨[7, 8, 9], 1⟩, ⟨0, "", 0⟩, [], []⟩ 3 (by decide)
      (fun _ => rfl) (fun _ => by decide)⟩

theorem seek_beg_of_nonneg (srv : Server) (openPath : String) {p : BitVec 64} (w : World)
    (hp : 0 ≤ p.toInt) : Detail.seek srv openPath p .beg w = (.ok p.toInt, libssh2SftpSeek64 w p) := by
  simp [Detail.seek, Detail.seekTarget, not_lt.2 hp]

/-- `seek(beg, p)` then `seek(cur, d)` does what `seek(beg, p + d)` does, in 64-bit arithmetic,
except that a refused second seek leaves the handle where the first one put it. -/
theorem seek_cur_after_beg (srv : Server) (openPath : String) (p d : BitVec 64) (w : World)
    (hp : 0 ≤ p.toInt) :
    Detail.seek srv openPath d .cur (Detail.seek srv openPath p .beg w).2 =
      match Detail.seek srv openPath (p + d) .beg w with
      | (.ok q, w') => (.ok q, w')
      | (.error e, _) => (.error e, libssh2SftpSeek64 w p) := by
  rw [seek_beg_of_nonneg srv openPath w hp]
  simp only [Detail.seek, Detail.seekTarget, tell64_seek64, seek64_seek64]
  split_ifs <;> rfl

/-- From offset 1, to 2 and then 3 bytes on. -/
theorem seek_cur_after_beg_five :
    0 ≤ (2 : BitVec 64).toInt ∧
    Detail.seek trickle "/tmp/f" 3 .cur (Detail.seek trickle "/tmp/f" 2 .beg ⟨⟨[], 1⟩, ⟨0, "", 0⟩, [], []⟩).2 =
      match Detail.seek trickle "/tmp/f" (2 + 3) .beg ⟨⟨[], 1⟩, ⟨0, "", 0⟩, [], []⟩ with
      | (.ok q, w') => (.ok q, w')
      | (.error e, _) => (.error e, libssh2SftpSeek64 ⟨⟨[], 1⟩, ⟨0, "", 0⟩, [], []⟩ 2) :=
  ⟨by decide, seek_cur_after_beg trickle "/tmp/f" 2 3 _ (by decide)⟩

/-- A server whose `fstat` reports the largest 64-bit size. -/
def hugeFile : Server := { trickle with fstat := fun _ => .ok (BitVec.ofNat 64 (2 ^ 64 - 1)) }

/-- Seeking one byte past the end of a file the server reports as `2^64 - 1` bytes long: the
unsigned sum wraps to `0`, which passes the sign check, so the handle is moved to `0` and `0` is
returned, where the position asked for is `2^64`. -/
theorem seek_end_wraps :
    Detail.seek hugeFile "/tmp/f" 1 .end ⟨⟨[], 5⟩, ⟨0, "", 0⟩, [], []⟩ =
      (.ok 0, ⟨⟨[], 0⟩, ⟨0, "", 0⟩, [], []⟩) ∧
    (BitVec.ofNat 64 (2 ^ 64 - 1)).toNat + (1 : BitVec 64).toInt = 2 ^ 64 := by
  constructor
  · rfl
  · decide

/-! ### What an error tells the caller -/

/-- What a stream operation's error says about a failed libssh2 call: the file's path, and the
call's name only when the session's error is an SFTP protocol error. -/
def CallContext (openPath apiFunction : String) (lastError : LastError) (e : Error) : Prop :=
  e.fileName = some openPath ∧
    e.apiFunction = if lastError.code = LIBSSH2_ERROR_SFTP_PROTOCOL then some apiFunction else none

theorem throwLastError_context (lastError : LastError) (apiFunction openPath : String) :
    CallContext openPath apiFunction lastError
      ((Detail.throwLastError lastError apiFunction).withFileName openPath) := by
  unfold Detail.throwLastError
  split_ifs <;> simp [CallContext, Error.withFileName, Error.of, *]

/-- The errors of the stream operations, for every server. A failed read or write, and a seek
from the end whose `fstat` fails, carry the file's path and name the failing libssh2 call only
when the session's error is an SFTP protocol error; other failures of the same calls (a socket
error, a timeout) name no call. A seek to a negative position raises
`logic_error("Cannot seek before start of file")`, which carries neither. -/
theorem stream_errors_context (srv : Server) (openPath : String) (w : World) :
    (∀ n e w', Detail.read srv openPath n w = (.error e, w') →
      CallContext openPath "libssh2_sftp_read" w'.lastError e) ∧
    (∀ data fuel e w', Detail.write srv openPath data fuel w = (some (.error e), w') →
      CallContext openPath "libssh2_sftp_write" w'.lastError e) ∧
    (∀ off way e w', Detail.seek srv openPath off way w = (.error e, w') →
      CallContext openPath "libssh2_sftp_fstat_ex" w'.lastError e ∨
        e = Error.of (.logicError "Cannot seek before start of file")) := by
  refine ⟨fun n e w' h => ?_, fun data fuel e w' h => ?_, fun off way e w' h => ?_⟩
  · unfold Detail.read at h
    rcases hr : Detail.readLoop srv n 0 w with ⟨_ | _, w₁⟩ <;> rw [hr] at h <;> cases h
    rw [readLoop_error srv n 0 w hr]
    exact throwLastError_context _ _ _
  · unfold Detail.write at h
    rcases hr : Detail.writeLoop srv data fuel 0 w with ⟨_ | _ | _, w₁⟩ <;> rw [hr] at h <;>
      cases h
    rw [writeLoop_error srv data fuel 0 w hr]
    exact throwLastError_context _ _ _
  · unfold Detail.seek at h
    rcases ht : Detail.seekTarget srv openPath off w way with ⟨_ | p, w₁⟩ <;> rw [ht] at h
    · cases h
      cases way with
      | beg | cur => cases ht
      | «end» =>
        simp only [Detail.seekTarget] at ht
        split at ht <;> cases ht
        exact .inl (throwLastError_context _ _ _)
    · dsimp only at h
      split_ifs at h <;> cases h
      exact .inr rfl

/-- A read on a session whose calls time out (`LIBSSH2_ERROR_TIMEOUT`): the error names the file
but not `libssh2_sftp_read`. -/
example : (Detail.read { trickle with read := fun _ _ => .fail ⟨-9, "timed out", 0⟩ } "/tmp/f" 1
    ⟨⟨[7], 0⟩, ⟨0, "", 0⟩, [0], []⟩).1 =
      .error { exception := .sshError (-9) "timed out", fileName := some "/tmp/f" } := by
  rw [Detail.read, Detail.readLoop]
  rfl

end Ssh.Sftp
