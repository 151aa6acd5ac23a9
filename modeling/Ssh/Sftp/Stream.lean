import Mathlib
import Ssh.Sftp.Seek

/-! The stream devices. `sftp_io_device` passes `read`, `write` and `seek` to `detail::read`,
`detail::write` and `detail::seek` on the handle it opened. `sftp_input_device` and
`sftp_output_device` make the same calls, less `write` or `read`. Against a server that answers
within the contracts and never fails, every sequence of device calls behaves as one random-access
file with a cursor: a read sees the bytes the writes before it stored, wherever the seeks between
them moved the cursor. -/
namespace Ssh.Sftp

/-- `sftp_io_device`: the channel it opened its file through and the path it opened. The handle
it owns is the world's. -/
structure SftpIoDevice where
  channel : Server
  openPath : String

/-- One call a stream makes on its device. -/
inductive DeviceOp
  /-- `read(buffer, buffer.size())`. -/
  | read (buffer : List UInt8)
  /-- `write(data, data.size())`. -/
  | write (data : List UInt8)
  /-- `seek(off, way)`. -/
  | seek (off : BitVec 64) (way : Seekdir)
  deriving DecidableEq, Repr

/-- What a device call returns to the stream. A read returns the buffer as the call left it. -/
inductive Outcome
  | read (count : Nat) (buffer : List UInt8)
  | wrote (count : Nat)
  | sought (position : Int)
  | failed (e : Error)
  /-- The write loop was still running when the rounds the model allows ran out. -/
  | looping
  deriving DecidableEq, Repr

namespace SftpIoDevice
variable (d : SftpIoDevice)

/-- `sftp_io_device::read`: `detail::read` into the caller's buffer. -/
def read (buffer : List UInt8) (w : World) : Outcome × World :=
  let r := Detail.read d.channel d.openPath buffer.length { w with buffer := buffer }
  let o := match r.1 with
    | .ok count => .read count r.2.buffer
    | .error e => .failed e
  (o, r.2)

/-- `sftp_io_device::write`: `detail::write`, whose loop gets `fuel` rounds. -/
def write (fuel : Nat) (data : List UInt8) (w : World) : Outcome × World :=
  let r := Detail.write d.channel d.openPath data fuel w
  let o := match r.1 with
    | some (.ok count) => .wrote count
    | some (.error e) => .failed e
    | none => .looping
  (o, r.2)

/-- `sftp_io_device::seek`. -/
def seek (off : BitVec 64) (way : Seekdir) (w : World) : Outcome × World :=
  let r := Detail.seek d.channel d.openPath off way w
  let o := match r.1 with
    | .ok p => .sought p
    | .error e => .failed e
  (o, r.2)

/-- One device call. -/
def step (fuel : Nat) (w : World) : DeviceOp → Outcome × World
  | .read buffer => d.read buffer w
  | .write data => d.write fuel data w
  | .seek off way => d.seek off way w

/-- A stream's calls on the device, one after another, with what each returned. -/
def run (fuel : Nat) : List DeviceOp → World → List Outcome × World
  | [], w => ([], w)
  | op :: ops, w =>
    let r := d.step fuel w op
    let rest := run fuel ops r.2
    (r.1 :: rest.1, rest.2)

end SftpIoDevice

/-! ### The file a stream sees -/

/-- A random-access file: its bytes and the offset of the next transfer. -/
structure RemoteFile where
  bytes : List UInt8
  cursor : Nat
  deriving DecidableEq, Repr

namespace RemoteFile

/-- The position a seek direction counts from. -/
def base (f : RemoteFile) : Seekdir → Int
  | .beg => 0
  | .cur => f.cursor
  | .end => f.bytes.length

/-- A call on the file. A read takes the bytes from the cursor up to the end of the buffer or of
the file. A write stores its data at the cursor, zero-filling a gap past the end. A seek moves
the cursor to a position a `stream_offset` can hold and refuses any other target. -/
def step (f : RemoteFile) : DeviceOp → Outcome × RemoteFile
  | .read buffer =>
    let data := (f.bytes.drop f.cursor).take buffer.length
    (.read data.length (data ++ buffer.drop data.length), { f with cursor := f.cursor + data.length })
  | .write data => (.wrote data.length, ⟨writeAt f.bytes f.cursor data, f.cursor + data.length⟩)
  | .seek off way =>
    let target := f.base way + off.toInt
    if 0 ≤ target ∧ target < 2 ^ 63 then (.sought target, { f with cursor := target.toNat })
    else (.failed (Error.of (.logicError "Cannot seek before start of file")), f)

theorem step_seek_beg (f : RemoteFile) {p : Nat} (hp : p < 2 ^ 63) :
    f.step (.seek (BitVec.ofNat 64 p) .beg) = (.sought p, { f with cursor := p }) := by
  have h : (BitVec.ofNat 64 p).toInt = p := by
    rw [BitVec.toInt_eq_toNat_cond, BitVec.toNat_ofNat, Nat.mod_eq_of_lt (by omega),
      if_pos (by omega)]
  rw [step, base, h, zero_add, if_pos (by omega), Int.toNat_ofNat]

/-- The calls one after another. -/
def run : List DeviceOp → RemoteFile → List Outcome × RemoteFile
  | [], f => ([], f)
  | op :: ops, f =>
    let r := f.step op
    let rest := run ops r.2
    (r.1 :: rest.1, rest.2)

/-- Along the run, every file is shorter than `2^63` bytes, the most a `stream_offset` can
count. -/
def StaysSmall : RemoteFile → List DeviceOp → Prop
  | f, [] => f.bytes.length < 2 ^ 63
  | f, op :: ops => f.bytes.length < 2 ^ 63 ∧ StaysSmall (f.step op).2 ops

instance decStaysSmall : (f : RemoteFile) → (ops : List DeviceOp) → Decidable (StaysSmall f ops)
  | f, [] => inferInstanceAs (Decidable (f.bytes.length < 2 ^ 63))
  | f, op :: ops =>
    have := decStaysSmall (f.step op).2 ops
    inferInstanceAs (Decidable (_ ∧ _))

theorem StaysSmall.length_lt {f : RemoteFile} :
    ∀ {ops : List DeviceOp}, StaysSmall f ops → f.bytes.length < 2 ^ 63
  | [], h => h
  | _ :: _, h => h.1

theorem step_cursor_lt {f : RemoteFile} (op : DeviceOp) (hc : f.cursor < 2 ^ 63)
    (hl : (f.step op).2.bytes.length < 2 ^ 63) : (f.step op).2.cursor < 2 ^ 63 := by
  cases op with
  | read buffer =>
    simp only [step, List.length_take, List.length_drop] at hl ⊢
    omega
  | write data =>
    by_cases hd : data = []
    · simpa [step, hd] using hc
    · simp only [step, length_writeAt hd] at hl ⊢
      omega
  | seek off way =>
    simp only [step] at hl ⊢
    split_ifs with h
    · dsimp only
      omega
    · exact hc

end RemoteFile

/-- The file a handle shows: its bytes and its offset. -/
def Handle.toFile (h : Handle) : RemoteFile := ⟨h.file, h.pos⟩

theorem Handle.toFile_injective : Function.Injective Handle.toFile := by
  rintro ⟨_, _⟩ ⟨_, _⟩ h
  cases h
  rfl

/-- A server that answers every call within the contracts and never fails, and whose `fstat`
reports the handle's true size. -/
structure Server.Reliable (srv : Server) : Prop where
  read : ∀ w k, ReadReply w.handle k (srv.read w k)
  write : ∀ w d, WriteReply d.length (srv.write w d)
  read_ne_fail : ∀ w k e, srv.read w k ≠ .fail e
  write_ne_fail : ∀ w d e, srv.write w d ≠ .fail e
  fstat : ∀ w, srv.fstat w = .ok (BitVec.ofNat 64 w.handle.file.length)

theorem trickle_reliable : trickle.Reliable where
  read := trickle_read
  write := trickle_write
  read_ne_fail _ _ _ := Reply.noConfusion
  write_ne_fail _ _ _ := Reply.noConfusion
  fstat _ := rfl

/-! ### Each device call is the file's call -/

namespace SftpIoDevice
variable {d : SftpIoDevice} (hsrv : d.channel.Reliable)
include hsrv

theorem read_refines (buffer : List UInt8) (w : World) :
    (d.read buffer w).1 = (w.handle.toFile.step (.read buffer)).1 ∧
      (d.read buffer w).2.handle.toFile = (w.handle.toFile.step (.read buffer)).2 := by
  have hspec := read_fills_buffer d.channel hsrv.read d.openPath { w with buffer := buffer }
  have hok := readLoop_ne_error (fun w k => (hsrv.read w k).bounded) hsrv.read_ne_fail
    buffer.length 0 { w with buffer := buffer }
  unfold read
  revert hspec hok
  simp only [Detail.read]
  rcases Detail.readLoop d.channel buffer.length 0 { w with buffer := buffer } with ⟨e | c, w'⟩
  · exact fun _ hok => absurd rfl (hok e)
  · rintro ⟨hc, hb, hh⟩ -
    have hlen : ((w.handle.file.drop w.handle.pos).take buffer.length).length = c := by
      simp only [hc, List.length_take, List.length_drop]
    have htake : (w.handle.file.drop w.handle.pos).take c =
        (w.handle.file.drop w.handle.pos).take buffer.length := by
      rw [← hlen]
      simp
    simp only [Except.mapError] at hb hh ⊢
    simp only [RemoteFile.step, Handle.toFile, hlen, hh, Handle.advance]
    exact ⟨by rw [hb, Handle.rest, htake], trivial⟩

theorem write_refines {fuel : Nat} (data : List UInt8) (w : World) (hfuel : data.length < fuel) :
    (d.write fuel data w).1 = (w.handle.toFile.step (.write data)).1 ∧
      (d.write fuel data w).2.handle.toFile = (w.handle.toFile.step (.write data)).2 := by
  have hspec := write_is_full d.channel hsrv.write d.openPath data w fuel hfuel
  have hok := writeLoop_ne_error (fun w d => (hsrv.write w d).bounded) hsrv.write_ne_fail data
  unfold write
  revert hspec
  simp only [Detail.write]
  rcases hr : Detail.writeLoop d.channel data fuel 0 w with ⟨_ | _ | c, w'⟩
  · exact False.elim
  · rename_i e
    exact fun _ => absurd (by rw [hr]) (hok e fuel 0 w)
  · rintro ⟨hc, hh, -⟩
    simp only [Option.map, Except.mapError] at hc hh ⊢
    exact ⟨by rw [hc]; rfl, by rw [hh]; rfl⟩

theorem seek_refines (off : BitVec 64) (way : Seekdir) (w : World) (hpos : w.handle.pos < 2 ^ 63)
    (hlen : w.handle.file.length < 2 ^ 63) :
    (d.seek off way w).1 = (w.handle.toFile.step (.seek off way)).1 ∧
      (d.seek off way w).2.handle.toFile = (w.handle.toFile.step (.seek off way)).2 := by
  have hoff := toInt_le_max off
  have hseek : Detail.seek d.channel d.openPath off way w =
      if 0 ≤ w.handle.toFile.base way + off.toInt ∧ w.handle.toFile.base way + off.toInt < 2 ^ 63
      then (.ok (w.handle.toFile.base way + off.toInt),
        { w with handle := { w.handle with pos := (w.handle.toFile.base way + off.toInt).toNat } })
      else (.error (Error.of (.logicError "Cannot seek before start of file")), w) := by
    cases way with
    | beg =>
      refine seek_eq_of_wrapped (by rfl) ?_ (by show (0 : Int) + off.toInt < 2 ^ 64; omega)
      rw [if_pos (by show (0 : Int) + off.toInt < 2 ^ 63; omega)]
      exact (zero_add _).symm
    | cur =>
      exact seek_eq_of_wrapped (by rfl) (toInt_ofNat_add hpos off)
        (by show (w.handle.pos : Int) + off.toInt < 2 ^ 64; omega)
    | «end» =>
      exact seek_eq_of_wrapped (by simp [Detail.seekTarget, hsrv.fstat]) (toInt_ofNat_add hlen off)
        (by show (w.handle.file.length : Int) + off.toInt < 2 ^ 64; omega)
  unfold seek
  rw [hseek]
  simp only [RemoteFile.step]
  split_ifs <;> exact ⟨rfl, rfl⟩

/-- Each device call returns what the file's call returns, and leaves the handle as the file's
call leaves the file. -/
theorem step_refines (fuel : Nat) (op : DeviceOp) (w : World)
    (hfuel : ∀ data, op = .write data → data.length < fuel) (hpos : w.handle.pos < 2 ^ 63)
    (hlen : w.handle.file.length < 2 ^ 63) :
    (d.step fuel w op).1 = (w.handle.toFile.step op).1 ∧
      (d.step fuel w op).2.handle.toFile = (w.handle.toFile.step op).2 := by
  cases op with
  | read buffer => exact read_refines hsrv buffer w
  | write data => exact write_refines hsrv data w (hfuel data rfl)
  | seek off way => exact seek_refines hsrv off way w hpos hlen

theorem step_of_file (fuel : Nat) (op : DeviceOp) (w : World) {F : List UInt8} {p : Nat}
    {o : Outcome} {f : RemoteFile} (hw : w.handle = ⟨F, p⟩) (h : RemoteFile.step ⟨F, p⟩ op = (o, f))
    (hfuel : ∀ data, op = .write data → data.length < fuel) (hpos : p < 2 ^ 63)
    (hlen : F.length < 2 ^ 63) :
    (d.step fuel w op).1 = o ∧ (d.step fuel w op).2.handle = ⟨f.bytes, f.cursor⟩ := by
  have hf : w.handle.toFile.step op = (o, f) := by rw [hw]; exact h
  obtain ⟨h₁, h₂⟩ := step_refines hsrv fuel op w hfuel (by rw [hw]; exact hpos)
    (by rw [hw]; exact hlen)
  rw [hf] at h₁ h₂
  exact ⟨h₁, Handle.toFile_injective h₂⟩

/-- Against a server that answers within the contracts and never fails, any sequence of calls on
an `sftp_io_device` returns, call for call, what the same calls on a random-access file return,
and leaves the handle as that file: the file's bytes and the cursor. Each write's loop gets a
round per byte, and no file along the way reaches `2^63` bytes. -/
theorem run_refines (fuel : Nat) : ∀ (ops : List DeviceOp) (w : World),
    (∀ data, .write data ∈ ops → data.length < fuel) → w.handle.pos < 2 ^ 63 →
    w.handle.toFile.StaysSmall ops →
    (d.run fuel ops w).1 = (w.handle.toFile.run ops).1 ∧
      (d.run fuel ops w).2.handle.toFile = (w.handle.toFile.run ops).2
  | [], _, _, _, _ => ⟨rfl, rfl⟩
  | op :: ops, w, hfuel, hpos, hsmall => by
    obtain ⟨h1, h2⟩ := step_refines hsrv fuel op w
      (fun data h => hfuel data (h ▸ List.mem_cons_self _ _)) hpos hsmall.1
    have hpos' : (d.step fuel w op).2.handle.pos < 2 ^ 63 := by
      rw [show (d.step fuel w op).2.handle.pos = _ from congrArg RemoteFile.cursor h2]
      exact RemoteFile.step_cursor_lt op hpos hsmall.2.length_lt
    have ih := run_refines fuel ops _ (fun data h => hfuel data (List.mem_cons_of_mem _ h)) hpos'
      (h2 ▸ hsmall.2)
    rw [h2] at ih
    exact ⟨by simp only [run, RemoteFile.run, h1, ih.1], ih.2⟩

end SftpIoDevice

/-- Three bytes written one byte per call into an empty file, read back from its start into a
four-byte buffer, and a seek to before the start refused. -/
theorem run_refines_trickle :
    trickle.Reliable ∧
    (∀ data, DeviceOp.write data ∈
      ([.write [1, 2, 3], .seek 0 .beg, .read [0, 0, 0, 0], .seek (-5) .cur] : List DeviceOp) →
      data.length < 4) ∧
    (⟨⟨[], 0⟩, ⟨0, "", 0⟩, [], []⟩ : World).handle.pos < 2 ^ 63 ∧
    (Handle.toFile ⟨[], 0⟩).StaysSmall
      [.write [1, 2, 3], .seek 0 .beg, .read [0, 0, 0, 0], .seek (-5) .cur] ∧
    ((⟨trickle, "/tmp/f"⟩ : SftpIoDevice).run 4
        [.write [1, 2, 3], .seek 0 .beg, .read [0, 0, 0, 0], .seek (-5) .cur]
        ⟨⟨[], 0⟩, ⟨0, "", 0⟩, [], []⟩).1 =
      ((Handle.toFile ⟨[], 0⟩).run
        [.write [1, 2, 3], .seek 0 .beg, .read [0, 0, 0, 0], .seek (-5) .cur]).1 ∧
    ((⟨trickle, "/tmp/f"⟩ : SftpIoDevice).run 4
        [.write [1, 2, 3], .seek 0 .beg, .read [0, 0, 0, 0], .seek (-5) .cur]
        ⟨⟨[], 0⟩, ⟨0, "", 0⟩, [], []⟩).2.handle.toFile =
      ((Handle.toFile ⟨[], 0⟩).run
        [.write [1, 2, 3], .seek 0 .beg, .read [0, 0, 0, 0], .seek (-5) .cur]).2 :=
  ⟨trickle_reliable, by simp, by decide, by decide,
    SftpIoDevice.run_refines (d := ⟨trickle, "/tmp/f"⟩) trickle_reliable 4 _ _ (by simp) (by decide)
      (by decide)⟩

/-- A write, a seek back to where it began and a read of its length: the read returns the data,
whatever partial transfers the server chose, and the file holds the data where it was written. -/
theorem SftpIoDevice.write_seek_read {d : SftpIoDevice} (hsrv : d.channel.Reliable) {fuel : Nat}
    (data buffer : List UInt8) (w : World)
    (hfuel : data.length < fuel) (hbuf : buffer.length = data.length) (hpos : w.handle.pos < 2 ^ 63)
    (hlen : (writeAt w.handle.file w.handle.pos data).length < 2 ^ 63) :
    (d.run fuel [.write data, .seek (BitVec.ofNat 64 w.handle.pos) .beg, .read buffer] w).1 =
      [.wrote data.length, .sought w.handle.pos, .read data.length data] ∧
    (d.run fuel [.write data, .seek (BitVec.ofNat 64 w.handle.pos) .beg, .read buffer] w).2.handle =
      ⟨writeAt w.handle.file w.handle.pos data, w.handle.pos + data.length⟩ := by
  have hend : w.handle.pos + data.length < 2 ^ 63 :=
    RemoteFile.step_cursor_lt (f := w.handle.toFile) (.write data) hpos hlen
  have hread : RemoteFile.step ⟨writeAt w.handle.file w.handle.pos data, w.handle.pos⟩
      (.read buffer) = (.read data.length data, ⟨writeAt w.handle.file w.handle.pos data,
        w.handle.pos + data.length⟩) := by
    simp only [RemoteFile.step, hbuf, writeAt_read_back, List.drop_eq_nil_of_le hbuf.le,
      List.append_nil]
  simp only [run]
  set w₁ := (d.step fuel w (.write data)).2
  set w₂ := (d.step fuel w₁ (.seek (BitVec.ofNat 64 w.handle.pos) .beg)).2
  obtain ⟨o₁, h₁⟩ := step_of_file hsrv fuel (.write data) w rfl rfl (by rintro _ ⟨⟩; exact hfuel)
    hpos (lt_of_le_of_lt (length_le_length_writeAt _ _ _) hlen)
  obtain ⟨o₂, h₂⟩ := step_of_file hsrv fuel (.seek (BitVec.ofNat 64 w.handle.pos) .beg) w₁ h₁
    (RemoteFile.step_seek_beg _ hpos) (by rintro _ ⟨⟩) hend hlen
  obtain ⟨o₃, h₃⟩ := step_of_file hsrv fuel (.read buffer) w₂ h₂ hread (by rintro _ ⟨⟩) hpos hlen
  exact ⟨by rw [o₁, o₂, o₃], h₃⟩

/-- Two bytes written at the end of a one-byte file, one byte per call, and read back. -/
theorem write_seek_read_trickle :
    trickle.Reliable ∧ [5, 6].length < 3 ∧ [0, 0].length = [5, 6].length ∧ 1 < 2 ^ 63 ∧
    (writeAt [7] 1 [5, 6]).length < 2 ^ 63 ∧
    ((⟨trickle, "/tmp/f"⟩ : SftpIoDevice).run 3 [.write [5, 6], .seek (BitVec.ofNat 64 1) .beg,
        .read [0, 0]] ⟨⟨[7], 1⟩, ⟨0, "", 0⟩, [], []⟩).1 =
      [.wrote 2, .sought 1, .read 2 [5, 6]] ∧
    ((⟨trickle, "/tmp/f"⟩ : SftpIoDevice).run 3 [.write [5, 6], .seek (BitVec.ofNat 64 1) .beg,
        .read [0, 0]] ⟨⟨[7], 1⟩, ⟨0, "", 0⟩, [], []⟩).2.handle = ⟨writeAt [7] 1 [5, 6], 1 + 2⟩ :=
  ⟨trickle_reliable, by decide, rfl, by decide, by decide,
    SftpIoDevice.write_seek_read trickle_reliable [5, 6] [0, 0] ⟨⟨[7], 1⟩, ⟨0, "", 0⟩, [], []⟩
      (by decide) rfl (by decide) (by decide)⟩

end Ssh.Sftp
