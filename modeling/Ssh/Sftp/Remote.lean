import Ssh.Error

/-! The remote side of an open SFTP file and the two transfer primitives under the stream
devices. `libssh2_sftp_read` and `libssh2_sftp_write` are driven by a server that chooses each
answer, so the loops above them are checked against every schedule of partial transfers. -/
namespace Ssh.Sftp

/-- An open `LIBSSH2_SFTP_HANDLE`: the remote file's bytes and the handle's offset, which may lie
past the end after a seek. -/
structure Handle where
  file : List UInt8
  pos : Nat
  deriving DecidableEq, Repr

/-- One transfer call as the loop issued it: the offset `count` into the caller's buffer, the
signed length `size - count` the code computes, and the call's result. -/
structure Call where
  offset : Nat
  length : Int
  result : Int
  deriving DecidableEq, Repr

/-- What one stream operation touches: the handle, the error state of its session, the caller's
read buffer, and the transfer calls issued so far. -/
structure World where
  handle : Handle
  lastError : LastError
  buffer : List UInt8
  calls : List Call
  deriving DecidableEq, Repr

/-- The server's answer to one transfer call: a byte count, or a failure that records `e`. -/
inductive Reply
  | transfer (j : Nat)
  | fail (e : LastError)
  deriving DecidableEq, Repr

/-- The server behind the handle. Each answer may depend on everything that happened before
(`World.calls` holds the history) and on the request. -/
structure Server where
  read : World → Nat → Reply
  write : World → List UInt8 → Reply
  fstat : World → Except LastError (BitVec 64)

/-! ### Bytes -/

/-- `memcpy(buf + off, data, size)`. -/
def overwrite (buf : List UInt8) (off : Nat) (data : List UInt8) : List UInt8 :=
  buf.take off ++ data ++ buf.drop (off + data.length)

/-- The file after the server stores a non-empty `data` at offset `p`; a gap between the end of
the file and `p` is filled with zero bytes. -/
def writeAt (file : List UInt8) (p : Nat) (data : List UInt8) : List UInt8 :=
  if data = [] then file else overwrite (file ++ List.replicate (p - file.length) 0) p data

theorem overwrite_append_of_length {pre rest data : List UInt8} {off : Nat} (h : pre.length = off) :
    overwrite (pre ++ rest) off data = pre ++ data ++ rest.drop data.length := by
  subst h
  simp [overwrite, List.drop_append_eq_append_drop]

@[simp] theorem overwrite_nil (buf : List UInt8) (off : Nat) : overwrite buf off [] = buf := by
  simp [overwrite]

theorem length_overwrite {buf data : List UInt8} {off : Nat} (h : off ≤ buf.length) :
    (overwrite buf off data).length = max buf.length (off + data.length) := by
  simp only [overwrite, List.length_append, List.length_take, List.length_drop]
  omega

theorem overwrite_overwrite {buf d₁ d₂ : List UInt8} {off : Nat} (h : off ≤ buf.length) :
    overwrite (overwrite buf off d₁) (off + d₁.length) d₂ = overwrite buf off (d₁ ++ d₂) := by
  have ht : (buf.take off ++ d₁).length = off + d₁.length := by simp; omega
  calc overwrite (overwrite buf off d₁) (off + d₁.length) d₂
      = overwrite ((buf.take off ++ d₁) ++ buf.drop (off + d₁.length)) (off + d₁.length) d₂ := rfl
    _ = buf.take off ++ d₁ ++ d₂ ++ (buf.drop (off + d₁.length)).drop d₂.length :=
        overwrite_append_of_length ht
    _ = overwrite buf off (d₁ ++ d₂) := by
        simp only [overwrite, List.drop_drop, List.length_append, List.append_assoc, Nat.add_assoc]

@[simp] theorem writeAt_nil (file : List UInt8) (p : Nat) : writeAt file p [] = file := by
  simp [writeAt]

theorem writeAt_of_ne {file data : List UInt8} {p : Nat} (h : data ≠ []) :
    writeAt file p data = overwrite (file ++ List.replicate (p - file.length) 0) p data :=
  if_neg h

theorem length_writeAt {file data : List UInt8} {p : Nat} (h : data ≠ []) :
    (writeAt file p data).length = max file.length (p + data.length) := by
  rw [writeAt_of_ne h, length_overwrite (by simp; omega)]
  simp only [List.length_append, List.length_replicate]
  omega

theorem length_le_length_writeAt (file data : List UInt8) (p : Nat) :
    file.length ≤ (writeAt file p data).length := by
  by_cases h : data = []
  · simp [h]
  · rw [length_writeAt h]
    omega

theorem writeAt_read_back (file data : List UInt8) (p : Nat) :
    ((writeAt file p data).drop p).take data.length = data := by
  by_cases h : data = []
  · simp [h]
  have hpre : ((file ++ List.replicate (p - file.length) 0).take p).length = p := by simp; omega
  rw [writeAt_of_ne h, overwrite, List.append_assoc, List.drop_left' hpre, List.take_left]

theorem writeAt_writeAt (file d₁ d₂ : List UInt8) (p : Nat) :
    writeAt (writeAt file p d₁) (p + d₁.length) d₂ = writeAt file p (d₁ ++ d₂) := by
  by_cases h₁ : d₁ = []
  · simp [h₁]
  by_cases h₂ : d₂ = []
  · simp [h₂]
  have hpad : p + d₁.length - (writeAt file p d₁).length = 0 := by
    rw [length_writeAt h₁]; omega
  rw [writeAt_of_ne h₂, hpad, List.replicate_zero, List.append_nil, writeAt_of_ne h₁,
    writeAt_of_ne (by simp [h₁]), overwrite_overwrite (by simp; omega)]

/-! ### The transfer primitives -/

/-- The handle after `j` bytes were transferred. -/
def Handle.advance (h : Handle) (j : Nat) : Handle := { h with pos := h.pos + j }

/-- The bytes from the handle's offset on. -/
def Handle.rest (h : Handle) : List UInt8 := h.file.drop h.pos

@[simp] theorem Handle.advance_file (h : Handle) (j : Nat) : (h.advance j).file = h.file := rfl
@[simp] theorem Handle.advance_pos (h : Handle) (j : Nat) : (h.advance j).pos = h.pos + j := rfl

/-- `libssh2_sftp_read(handle, buffer + off, len)`: the server picks how many bytes arrive. -/
def libssh2SftpRead (srv : Server) (w : World) (off len : Nat) : Int × World :=
  match srv.read w len with
  | .transfer j => (j, { w with handle := w.handle.advance j,
                                buffer := overwrite w.buffer off (w.handle.rest.take j) })
  | .fail e => (e.code, { w with lastError := e })

/-- `libssh2_sftp_write(handle, data, len)`: the server picks how long a prefix it accepts. -/
def libssh2SftpWrite (srv : Server) (w : World) (data : List UInt8) : Int × World :=
  match srv.write w data with
  | .transfer j => (j, { w with handle := { file := writeAt w.handle.file w.handle.pos (data.take j),
                                            pos := w.handle.pos + j } })
  | .fail e => (e.code, { w with lastError := e })

/-- Append one call to the history. -/
def World.record (w : World) (c : Call) : World := { w with calls := w.calls ++ [c] }

namespace Libssh2

/-- What the two wrappers share: the libssh2 call's result `r`, logged as the call at `off` of
length `len`, and `throw_last_error` naming `apiFunction` when the count is negative. -/
def checkCount (apiFunction : String) (off : Nat) (len : Int) (r : Int × World) :
    Except Error Nat × World :=
  let w' := r.2.record ⟨off, len, r.1⟩
  if r.1 < 0 then (.error (Detail.throwLastError w'.lastError apiFunction), w')
  else (.ok r.1.toNat, w')

theorem checkCount_error {apiFunction : String} {off : Nat} {len : Int} {r : Int × World}
    {e : Error} {w' : World} (h : checkCount apiFunction off len r = (.error e, w')) :
    e = Detail.throwLastError w'.lastError apiFunction := by
  simp only [checkCount] at h
  split_ifs at h <;> cases h
  rfl

/-- `detail::libssh2::sftp::read`. -/
def read (srv : Server) (w : World) (off : Nat) (len : Int) : Except Error Nat × World :=
  checkCount "libssh2_sftp_read" off len (libssh2SftpRead srv w off len.toNat)

/-- `detail::libssh2::sftp::write`. -/
def write (srv : Server) (w : World) (data : List UInt8) (off : Nat) (len : Int) :
    Except Error Nat × World :=
  checkCount "libssh2_sftp_write" off len (libssh2SftpWrite srv w ((data.drop off).take len.toNat))

end Libssh2

/-! ### What the server may answer -/

/-- The read contract: a failure has a negative code; otherwise `j` bytes with
`j ≤ min(k, |F| - p)`, and zero only for an empty request or at end of file. -/
def ReadReply (h : Handle) (k : Nat) : Reply → Prop
  | .transfer j => j ≤ k ∧ j ≤ h.file.length - h.pos ∧ (j = 0 → k = 0 ∨ h.file.length ≤ h.pos)
  | .fail e => e.code < 0

/-- The write contract: a failure has a negative code; a non-empty request gets a non-empty
prefix accepted, an empty one gets `0`. -/
def WriteReply (k : Nat) : Reply → Prop
  | .transfer j => j ≤ k ∧ (0 < k → 0 < j)
  | .fail e => e.code < 0

/-- The weakest contract: a failure is negative and a count is at most the length requested. -/
def Bounded (k : Nat) : Reply → Prop
  | .transfer j => j ≤ k
  | .fail e => e.code < 0

theorem ReadReply.bounded {h : Handle} {k : Nat} {r : Reply} (hr : ReadReply h k r) :
    Bounded k r := by
  cases r with
  | transfer j => exact hr.1
  | fail e => exact hr

theorem WriteReply.bounded {k : Nat} {r : Reply} (hr : WriteReply k r) : Bounded k r := by
  cases r with
  | transfer j => exact hr.1
  | fail e => exact hr

/-- A server that moves one byte per call: the slowest schedule the contracts allow. -/
def trickle : Server where
  read w k := .transfer (if k = 0 ∨ w.handle.file.length ≤ w.handle.pos then 0 else 1)
  write _ data := .transfer (min 1 data.length)
  fstat w := .ok (BitVec.ofNat 64 w.handle.file.length)

theorem trickle_read (w : World) (k : Nat) : ReadReply w.handle k (trickle.read w k) := by
  show ReadReply w.handle k (.transfer (if k = 0 ∨ w.handle.file.length ≤ w.handle.pos then 0 else 1))
  split_ifs with h
  · exact ⟨by omega, by omega, fun _ => h⟩
  · exact ⟨by omega, by omega, by omega⟩

theorem trickle_write (w : World) (data : List UInt8) :
    WriteReply data.length (trickle.write w data) := by
  simp only [trickle, WriteReply]
  omega

/-- One call of `detail::libssh2::sftp::read` under the weakest contract: it fails with the error
it recorded, or returns a count no larger than the request; either way it logs itself. -/
theorem Libssh2.read_cases {srv : Server} {w : World} (off : Nat) {len : Int}
    (hr : Bounded len.toNat (srv.read w len.toNat)) :
    (∃ e, e.code < 0 ∧ srv.read w len.toNat = .fail e ∧
      Libssh2.read srv w off len =
        (.error (Detail.throwLastError e "libssh2_sftp_read"),
          { w with lastError := e, calls := w.calls ++ [⟨off, len, e.code⟩] })) ∨
    (∃ j, j ≤ len.toNat ∧ srv.read w len.toNat = .transfer j ∧
      Libssh2.read srv w off len =
        (.ok j, { w with handle := w.handle.advance j,
                         buffer := overwrite w.buffer off (w.handle.rest.take j),
                         calls := w.calls ++ [⟨off, len, j⟩] })) := by
  cases hs : srv.read w len.toNat with
  | fail e =>
    have hr : e.code < 0 := by rw [hs] at hr; exact hr
    refine .inl ⟨e, hr, rfl, ?_⟩
    simp [Libssh2.read, Libssh2.checkCount, libssh2SftpRead, hs, World.record, hr]
  | transfer j =>
    have hj : ¬(j : Int) < 0 := by omega
    refine .inr ⟨j, by rw [hs] at hr; exact hr, rfl, ?_⟩
    simp [Libssh2.read, Libssh2.checkCount, libssh2SftpRead, hs, World.record, hj]

/-- One call of `detail::libssh2::sftp::write` under the weakest contract: the chunk handed over
is `(data.drop off).take len`, and an accepted count is at most its length. -/
theorem Libssh2.write_cases {srv : Server} {w : World} {data : List UInt8} (off : Nat) {len : Int}
    (hr : Bounded ((data.drop off).take len.toNat).length
      (srv.write w ((data.drop off).take len.toNat))) :
    (∃ e, e.code < 0 ∧ srv.write w ((data.drop off).take len.toNat) = .fail e ∧
      Libssh2.write srv w data off len =
        (.error (Detail.throwLastError e "libssh2_sftp_write"),
          { w with lastError := e, calls := w.calls ++ [⟨off, len, e.code⟩] })) ∨
    (∃ j, j ≤ ((data.drop off).take len.toNat).length ∧
      srv.write w ((data.drop off).take len.toNat) = .transfer j ∧
      Libssh2.write srv w data off len =
        (.ok j, { w with handle := { file := writeAt w.handle.file w.handle.pos
                                        (((data.drop off).take len.toNat).take j),
                                      pos := w.handle.pos + j },
                         calls := w.calls ++ [⟨off, len, j⟩] })) := by
  cases hs : srv.write w ((data.drop off).take len.toNat) with
  | fail e =>
    have hr : e.code < 0 := by rw [hs] at hr; exact hr
    refine .inl ⟨e, hr, rfl, ?_⟩
    simp [Libssh2.write, Libssh2.checkCount, libssh2SftpWrite, hs, World.record, hr]
  | transfer j =>
    have hj : ¬(j : Int) < 0 := by omega
    refine .inr ⟨j, by rw [hs] at hr; exact hr, rfl, ?_⟩
    simp [Libssh2.write, Libssh2.checkCount, libssh2SftpWrite, hs, World.record, hj]

end Ssh.Sftp
