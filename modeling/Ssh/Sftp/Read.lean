import Ssh.Sftp.Remote

/-! `ssh::sftp::detail::read`, the loop under every input stream: a stream read may come back
short only at end of file, so the loop asks again for the rest of the buffer until it is full or
the server returns zero. -/
namespace Ssh.Sftp
namespace Detail

/-- The `do ... while (count < buffer_size)` loop of `detail::read`, entered with `count` bytes
already read. A zero result ends it (end of file). -/
def readLoop (srv : Server) (n count : Nat) (w : World) : Except Error Nat × World :=
  match Libssh2.read srv w count ((n : Int) - count) with
  | (.error e, w') => (.error e, w')
  | (.ok rc, w') =>
    if rc = 0 then (.ok count, w')
    else if count + rc < n then readLoop srv n (count + rc) w'
    else (.ok (count + rc), w')
termination_by n - count

/-- `detail::read`: the loop from an empty count, with the path attached to any error on the
way out (`e << errinfo_file_name(open_path)`). -/
def read (srv : Server) (openPath : String) (n : Nat) (w : World) : Except Error Nat × World :=
  let r := readLoop srv n 0 w
  (r.1.mapError (·.withFileName openPath), r.2)

end Detail

theorem readLoop_error (srv : Server) (n count : Nat) (w : World) {e : Error} {w' : World}
    (h : Detail.readLoop srv n count w = (.error e, w')) :
    e = Detail.throwLastError w'.lastError "libssh2_sftp_read" := by
  rw [Detail.readLoop] at h
  rcases hr : Libssh2.read srv w count ((n : Int) - count) with ⟨_ | rc, w₁⟩
  · rw [hr] at h
    cases h
    exact Libssh2.checkCount_error hr
  · rw [hr] at h
    dsimp only at h
    split_ifs at h with h0 hlt
    · cases h
    · exact readLoop_error srv n (count + rc) w₁ h
    · cases h
termination_by n - count

theorem readLoop_ne_error {srv : Server} (hr : ∀ w k, Bounded k (srv.read w k))
    (hok : ∀ w k e, srv.read w k ≠ .fail e) (n count : Nat) (w : World) (e : Error) :
    (Detail.readLoop srv n count w).1 ≠ .error e := by
  rw [Detail.readLoop]
  rcases Libssh2.read_cases count (hr w _) with ⟨e', -, hs, -⟩ | ⟨j, -, -, hres⟩
  · exact absurd hs (hok _ _ e')
  rw [hres]
  dsimp only
  split_ifs
  · exact Except.noConfusion
  · exact readLoop_ne_error hr hok n _ _ e
  · exact Except.noConfusion
termination_by n - count

/-- The calls after `before` are successful ones followed by exactly one failing call: nothing
is called after a failure. -/
def FailedLast (before after : List Call) : Prop :=
  ∃ oks bad, after = before ++ oks ++ [bad] ∧ (∀ c ∈ oks, 0 ≤ c.result) ∧ bad.result < 0

theorem FailedLast.single (before : List Call) {c : Call} (h : c.result < 0) :
    FailedLast before (before ++ [c]) :=
  ⟨[], c, by simp, by simp, h⟩

theorem FailedLast.cons {before after : List Call} {c : Call} (hc : 0 ≤ c.result)
    (h : FailedLast (before ++ [c]) after) : FailedLast before after := by
  obtain ⟨oks, bad, rfl, hoks, hbad⟩ := h
  exact ⟨c :: oks, bad, by simp, by simpa [hc] using hoks, hbad⟩

/-- What the read loop ends in, started at offset `p` of the file `F` with the caller's buffer
`buf`: the bytes up to the end of the buffer or of the file, or the failing call's error. -/
def ReadLoopSpec (F : List UInt8) (p : Nat) (buf : List UInt8) (calls : List Call) :
    Except Error Nat × World → Prop
  | (.ok c, w') => c = min buf.length (F.length - p) ∧ w'.handle = ⟨F, p + c⟩ ∧
      w'.buffer = (F.drop p).take c ++ buf.drop c
  | (.error e, w') => e = Detail.throwLastError w'.lastError "libssh2_sftp_read" ∧
      FailedLast calls w'.calls

theorem overwrite_read_window {F buf : List UInt8} {p count j : Nat} (hc : count ≤ F.length - p)
    (hj : j ≤ F.length - (p + count)) :
    overwrite ((F.drop p).take count ++ buf.drop count) count ((F.drop (p + count)).take j) =
      (F.drop p).take (count + j) ++ buf.drop (count + j) := by
  rw [overwrite_append_of_length (by simp; omega), List.take_add, List.drop_drop, List.drop_drop,
    List.length_take, List.length_drop, Nat.min_eq_left (by omega)]

section
variable {srv : Server} (hsrv : ∀ w k, ReadReply w.handle k (srv.read w k))
  {F : List UInt8} {p : Nat} {buf : List UInt8}
include hsrv

/-- The loop invariant: `count` bytes of the file sit at the front of the buffer and the handle
is `count` bytes on; every call before the last one moved at least one byte. -/
theorem readLoop_spec (count : Nat) (w : World) (hh : w.handle = ⟨F, p + count⟩)
    (hb : w.buffer = (F.drop p).take count ++ buf.drop count) (hc : count ≤ F.length - p)
    (hn : count ≤ buf.length) :
    ReadLoopSpec F p buf w.calls (Detail.readLoop srv buf.length count w) := by
  have hv := hsrv w ((buf.length : Int) - count).toNat
  rw [Detail.readLoop]
  rcases Libssh2.read_cases count hv.bounded with ⟨e, he, -, hr⟩ | ⟨j, -, hs, hr⟩
  · rw [hr]
    exact ⟨rfl, FailedLast.single _ he⟩
  rw [hr]
  rw [hs, hh] at hv
  obtain ⟨hjk, hjF, hj0⟩ := hv
  simp only [Int.toNat_sub] at hjk hjF hj0
  have hadv : w.handle.advance j = ⟨F, p + (count + j)⟩ := by
    simp [Handle.advance, hh, Nat.add_assoc]
  have hbuf : overwrite w.buffer count (w.handle.rest.take j) =
      (F.drop p).take (count + j) ++ buf.drop (count + j) := by
    rw [hb, hh]
    exact overwrite_read_window hc hjF
  dsimp only
  split_ifs with h0 hlt
  · subst h0
    exact ⟨by omega, hadv, by simpa using hbuf⟩
  · have ih := readLoop_spec (count + j)
      { w with handle := w.handle.advance j, buffer := overwrite w.buffer count (w.handle.rest.take j),
               calls := w.calls ++ [⟨count, (buf.length : Int) - count, j⟩] }
      hadv hbuf (by omega) (by omega)
    revert ih
    rcases Detail.readLoop srv buf.length (count + j) _ with ⟨_ | c, w'⟩
    · exact fun ⟨he, hf⟩ => ⟨he, FailedLast.cons (Int.ofNat_zero_le _) hf⟩
    · exact id
  · exact ⟨by omega, hadv, hbuf⟩
termination_by buf.length - count

end

/-- What `detail::read` may end in from the world `w`, with the caller's whole buffer: the bytes
from the handle's offset up to the end of the buffer or of the file, the rest of the buffer
untouched and the handle moved past them; or the failing call's error with the path attached,
and no call after the failing one. -/
def ReadSpec (openPath : String) (w : World) : Except Error Nat × World → Prop
  | (.ok c, w') => c = min w.buffer.length (w.handle.file.length - w.handle.pos) ∧
      w'.buffer = w.handle.rest.take c ++ w.buffer.drop c ∧ w'.handle = w.handle.advance c
  | (.error e, w') =>
      e = (Detail.throwLastError w'.lastError "libssh2_sftp_read").withFileName openPath ∧
        FailedLast w.calls w'.calls

/-- Full reads: for every file, offset (past the end included), buffer and schedule of partial
transfers, a result shorter than the buffer happens only at end of file. -/
theorem read_fills_buffer (srv : Server) (hsrv : ∀ w k, ReadReply w.handle k (srv.read w k))
    (openPath : String) (w : World) :
    ReadSpec openPath w (Detail.read srv openPath w.buffer.length w) := by
  have h := @readLoop_spec srv hsrv w.handle.file w.handle.pos w.buffer 0 w
    rfl (by simp) (by omega) (by omega)
  unfold Detail.read
  revert h
  rcases Detail.readLoop srv w.buffer.length 0 w with ⟨e | c, w'⟩
  · exact fun ⟨he, hf⟩ => ⟨by simp [he], hf⟩
  · exact fun ⟨hc, hh, hb⟩ => ⟨hc, hb, by simp [hh, Handle.advance]⟩

/-- A four-byte buffer read one byte at a time from offset 1 of a three-byte file. -/
theorem read_fills_buffer_trickle :
    ReadSpec "/tmp/f" ⟨⟨[7, 8, 9], 1⟩, ⟨0, "", 0⟩, [0, 0, 0, 0], []⟩
      (Detail.read trickle "/tmp/f" 4 ⟨⟨[7, 8, 9], 1⟩, ⟨0, "", 0⟩, [0, 0, 0, 0], []⟩) :=
  read_fills_buffer trickle trickle_read "/tmp/f" _

end Ssh.Sftp
