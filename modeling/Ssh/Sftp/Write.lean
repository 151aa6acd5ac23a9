import Ssh.Sftp.Read

/-! `ssh::sftp::detail::write`, the loop under every output stream. A device write may not
return short, so the loop hands the unwritten tail to `libssh2_sftp_write` until all of it is
accepted. Unlike the read loop it has no exit on a zero result, so it runs with explicit fuel:
`none` means it was still looping when the fuel ran out. -/
namespace Ssh.Sftp
namespace Detail

/-- The `do ... while (count < data_size)` loop of `detail::write`, entered with `count` bytes
written, for at most `fuel` rounds. -/
def writeLoop (srv : Server) (data : List UInt8) :
    Nat → Nat → World → Option (Except Error Nat) × World
  | 0, _, w => (none, w)
  | fuel + 1, count, w =>
    match Libssh2.write srv w data count ((data.length : Int) - count) with
    | (.error e, w') => (some (.error e), w')
    | (.ok rc, w') =>
      if count + rc < data.length then writeLoop srv data fuel (count + rc) w'
      else (some (.ok (count + rc)), w')

/-- `detail::write`: the loop from an empty count, with the path attached to any error. -/
def write (srv : Server) (openPath : String) (data : List UInt8) (fuel : Nat) (w : World) :
    Option (Except Error Nat) × World :=
  let r := writeLoop srv data fuel 0 w
  (r.1.map (·.mapError (·.withFileName openPath)), r.2)

end Detail

theorem writeLoop_error (srv : Server) (data : List UInt8) :
    ∀ (fuel count : Nat) (w : World) {e : Error} {w' : World},
      Detail.writeLoop srv data fuel count w = (some (.error e), w') →
        e = Detail.throwLastError w'.lastError "libssh2_sftp_write"
  | 0, _, _, _, _, h => by cases h
  | fuel + 1, count, w, e, w', h => by
    rw [Detail.writeLoop] at h
    rcases hr : Libssh2.write srv w data count ((data.length : Int) - count) with ⟨_ | rc, w₁⟩
    · rw [hr] at h
      cases h
      exact Libssh2.checkCount_error hr
    · rw [hr] at h
      dsimp only at h
      split_ifs at h
      · exact writeLoop_error srv data fuel (count + rc) w₁ h
      · cases h

theorem writeLoop_ne_error {srv : Server} (hw : ∀ w d, Bounded d.length (srv.write w d))
    (hok : ∀ w d e, srv.write w d ≠ .fail e) (data : List UInt8) (e : Error) :
    ∀ (fuel count : Nat) (w : World), (Detail.writeLoop srv data fuel count w).1 ≠ some (.error e)
  | 0, _, _ => Option.noConfusion
  | fuel + 1, count, w => by
    rw [Detail.writeLoop]
    rcases Libssh2.write_cases count (hw w _) with ⟨e', -, hs, -⟩ | ⟨j, -, -, hres⟩
    · exact absurd hs (hok _ _ e')
    rw [hres]
    dsimp only
    split_ifs
    · exact writeLoop_ne_error hw hok data e fuel _ _
    · simp

/-- The part of `data` that a logged call handed over and the server accepted. -/
def accepted (data : List UInt8) (c : Call) : List UInt8 := (data.drop c.offset).take c.result.toNat

/-- The calls' accepted chunks tile `[a, b)`: each starts where the one before ended. -/
def Tiles : Nat → Nat → List Call → Prop
  | a, b, [] => a = b
  | a, b, c :: cs => c.offset = a ∧ 0 ≤ c.result ∧ Tiles (a + c.result.toNat) b cs

theorem Tiles.le : ∀ {a b : Nat} {cs : List Call}, Tiles a b cs → a ≤ b
  | _, _, [], h => Nat.le_of_eq h
  | _, _, _ :: _, ⟨_, _, h⟩ => Nat.le_trans (Nat.le_add_right _ _) h.le

theorem Tiles.flatten {data : List UInt8} :
    ∀ {a b : Nat} {cs : List Call}, Tiles a b cs →
      (cs.map (accepted data)).flatten = (data.drop a).take (b - a)
  | _, _, [], (h : _ = _) => by subst h; simp
  | a, b, c :: cs, ⟨ho, _, h⟩ => by
    have hle := h.le
    rw [List.map_cons, List.flatten_cons, h.flatten, accepted, ho,
      show b - a = c.result.toNat + (b - (a + c.result.toNat)) by omega, List.take_add,
      List.drop_drop]

/-- What `detail::write` ends in from the world `w`: exactly `data.length` bytes accepted, in
consecutive chunks that make up `data`, the file overwritten by `data` at the handle's offset;
or the failing call's error with the path attached and no call after it. -/
def WriteSpec (openPath : String) (data : List UInt8) (w : World) :
    Option (Except Error Nat) × World → Prop
  | (some (.ok c), w') => c = data.length ∧
      w'.handle = ⟨writeAt w.handle.file w.handle.pos data, w.handle.pos + data.length⟩ ∧
      ∃ cs, w'.calls = w.calls ++ cs ∧ Tiles 0 data.length cs ∧ (cs.map (accepted data)).flatten = data
  | (some (.error e), w') =>
      e = (Detail.throwLastError w'.lastError "libssh2_sftp_write").withFileName openPath ∧
        FailedLast w.calls w'.calls
  | (none, _) => False

/-- The loop's outcome from `count`, relative to the world it starts in. -/
def WriteLoopSpec (data : List UInt8) (count : Nat) (w : World) :
    Option (Except Error Nat) × World → Prop
  | (some (.ok c), w') => c = data.length ∧
      w'.handle = ⟨writeAt w.handle.file w.handle.pos (data.drop count),
        w.handle.pos + (data.length - count)⟩ ∧
      ∃ cs, w'.calls = w.calls ++ cs ∧ Tiles count data.length cs
  | (some (.error e), w') => e = Detail.throwLastError w'.lastError "libssh2_sftp_write" ∧
      FailedLast w.calls w'.calls
  | (none, _) => False

section
variable {srv : Server} (hsrv : ∀ w d, WriteReply d.length (srv.write w d)) {data : List UInt8}
include hsrv

/-- With one round per byte left (and one for an empty write), the loop finishes. -/
theorem writeLoop_spec (fuel : Nat) : ∀ (count : Nat) (w : World), count ≤ data.length →
    (count < data.length ∨ count = 0) → data.length - count < fuel →
    WriteLoopSpec data count w (Detail.writeLoop srv data fuel count w) := by
  induction fuel with
  | zero => intro _ _ _ _ h; omega
  | succ fuel ih =>
  intro count w hc hfirst hfuel
  have hchunk : (data.drop count).take ((data.length : Int) - count).toNat = data.drop count := by
    rw [Int.toNat_sub]; exact List.take_of_length_le (by simp)
  have hv := hsrv w ((data.drop count).take ((data.length : Int) - count).toNat)
  rw [Detail.writeLoop]
  rcases Libssh2.write_cases count hv.bounded with ⟨e, he, -, hr⟩ | ⟨j, -, hs, hr⟩
  · rw [hr]
    exact ⟨rfl, FailedLast.single _ he⟩
  rw [hchunk] at hr hs hv
  rw [hr]
  rw [hs] at hv
  obtain ⟨hjk, hj0⟩ := hv
  simp only [List.length_drop] at hjk hj0
  have hfile : writeAt (writeAt w.handle.file w.handle.pos ((data.drop count).take j))
      (w.handle.pos + j) (data.drop (count + j)) =
      writeAt w.handle.file w.handle.pos (data.drop count) := by
    have hlen : ((data.drop count).take j).length = j := by simp; omega
    have h := writeAt_writeAt w.handle.file ((data.drop count).take j) ((data.drop count).drop j)
      w.handle.pos
    rwa [hlen, List.take_append_drop, List.drop_drop] at h
  dsimp only
  split_ifs with hlt
  · have h := ih (count + j)
      { w with handle := ⟨writeAt w.handle.file w.handle.pos ((data.drop count).take j),
                          w.handle.pos + j⟩,
               calls := w.calls ++ [⟨count, (data.length : Int) - count, j⟩] }
      (by omega) (.inl hlt) (by omega)
    revert h
    rcases Detail.writeLoop srv data fuel (count + j) _ with ⟨_ | _ | c, w'⟩
    · exact False.elim
    · exact fun ⟨he, hf⟩ => ⟨he, FailedLast.cons (Int.ofNat_zero_le _) hf⟩
    · refine fun ⟨hc', hh, cs, hcs, ht⟩ => ⟨hc', ?_, ⟨count, (data.length : Int) - count, j⟩ :: cs,
        by simp [hcs], rfl, Int.ofNat_zero_le _, by simpa using ht⟩
      rw [hh]
      simp only [hfile]
      congr 1
      omega
  · have hj : j = data.length - count := by omega
    subst hj
    refine ⟨by omega, ?_, _, rfl, rfl, Int.ofNat_zero_le _, ?_⟩
    · simp [List.take_of_length_le]
    · show count + (data.length - count) = data.length
      omega

end

/-- Full writes: for every file, offset, data and schedule of partial acceptances, the write
returns within `data.length + 1` calls, and either writes all of `data` in order at the handle's
offset (zero-filling a gap past the end) and returns its length, or fails with the path
attached and no call after the failing one. -/
theorem write_is_full (srv : Server) (hsrv : ∀ w d, WriteReply d.length (srv.write w d))
    (openPath : String) (data : List UInt8) (w : World) (fuel : Nat)
    (hfuel : data.length < fuel) :
    WriteSpec openPath data w (Detail.write srv openPath data fuel w) := by
  have h := @writeLoop_spec srv hsrv data fuel 0 w (by omega) (.inr rfl) (by omega)
  unfold Detail.write
  revert h
  rcases Detail.writeLoop srv data fuel 0 w with ⟨_ | _ | c, w'⟩
  · exact False.elim
  · exact fun ⟨he, hf⟩ => ⟨by simp [he], hf⟩
  · refine fun ⟨hc, hh, cs, hcs, ht⟩ => ⟨hc, by simpa using hh, cs, hcs, ht, ?_⟩
    simpa using @Tiles.flatten data _ _ _ ht

/-- Three bytes written one byte per call, at offset 5 of a two-byte file. -/
theorem write_is_full_trickle :
    [1, 2, 3].length < 4 ∧
    WriteSpec "/tmp/f" [1, 2, 3] ⟨⟨[7, 8], 5⟩, ⟨0, "", 0⟩, [], []⟩
      (Detail.write trickle "/tmp/f" [1, 2, 3] 4 ⟨⟨[7, 8], 5⟩, ⟨0, "", 0⟩, [], []⟩) :=
  ⟨by decide, write_is_full trickle trickle_write "/tmp/f" [1, 2, 3] _ 4 (by decide)⟩

/-! ### Progress -/

/-- A server that acknowledges nothing: every write returns `0`. -/
def stalled : Server := { trickle with write := fun _ _ => .transfer 0 }

@[simp] theorem stalled_write_eq (w : World) (d : List UInt8) : stalled.write w d = .transfer 0 :=
  rfl

/-- A call's window `[offset, n)` lies inside the caller's `n`-byte buffer. -/
def InWindow (n : Nat) (c : Call) : Prop := c.offset ≤ n ∧ c.length = (n : Int) - c.offset

/-- The calls run on from `count`: each starts at the count the calls before it reached. -/
def Consecutive : Nat → List Call → Prop
  | _, [] => True
  | count, c :: cs => c.offset = count ∧ Consecutive (count + c.result.toNat) cs

theorem readLoop_window {srv : Server} (hr : ∀ w k, Bounded k (srv.read w k)) (n count : Nat)
    (w : World) (hc : count ≤ n) :
    ∃ cs, (Detail.readLoop srv n count w).2.calls = w.calls ++ cs ∧ cs.length ≤ n - count + 1 ∧
      (∀ c ∈ cs, InWindow n c) ∧ Consecutive count cs := by
  have hv := hr w ((n : Int) - count).toNat
  rw [Detail.readLoop]
  rcases Libssh2.read_cases count hv with ⟨e, -, -, hres⟩ | ⟨j, hj, -, hres⟩
  · rw [hres]
    exact ⟨_, rfl, by simp, by simp [InWindow, hc], rfl, trivial⟩
  rw [hres, Int.toNat_sub] at *
  dsimp only
  split_ifs with h0 hlt
  · exact ⟨_, rfl, by simp, by simp [InWindow, hc], rfl, trivial⟩
  · obtain ⟨cs, hcs, hlen, hin, hcons⟩ := readLoop_window hr n (count + j)
      { w with handle := w.handle.advance j, buffer := overwrite w.buffer count (w.handle.rest.take j),
               calls := w.calls ++ [⟨count, (n : Int) - count, j⟩] } (by omega)
    refine ⟨⟨count, (n : Int) - count, j⟩ :: cs, by simp [hcs], by simp; omega, ?_,
      rfl, by simpa using hcons⟩
    rintro c (_ | ⟨_, hc'⟩)
    · exact ⟨hc, rfl⟩
    · exact hin c hc'
  · exact ⟨_, rfl, by simp, by simp [InWindow, hc], rfl, trivial⟩
termination_by n - count

theorem writeLoop_window {srv : Server} (hw : ∀ w d, Bounded d.length (srv.write w d))
    (data : List UInt8) (fuel : Nat) :
    ∀ count w, count ≤ data.length →
      ∃ cs, (Detail.writeLoop srv data fuel count w).2.calls = w.calls ++ cs ∧
        (∀ c ∈ cs, InWindow data.length c) ∧ Consecutive count cs ∧
        ∀ c, (Detail.writeLoop srv data fuel count w).1 = some (.ok c) → c = data.length := by
  induction fuel with
  | zero =>
    intro count w _
    exact ⟨[], by simp [Detail.writeLoop], by simp, trivial, by simp [Detail.writeLoop]⟩
  | succ fuel ih =>
  intro count w hc
  have hv := hw w ((data.drop count).take ((data.length : Int) - count).toNat)
  rw [Detail.writeLoop]
  rcases Libssh2.write_cases count hv with ⟨e, -, -, hres⟩ | ⟨j, hj, -, hres⟩
  · rw [hres]
    exact ⟨_, rfl, by simp [InWindow, hc], ⟨rfl, trivial⟩, by simp⟩
  rw [Int.toNat_sub] at hres hj
  rw [hres]
  simp only [List.length_take, List.length_drop, min_self] at hj
  dsimp only
  split_ifs with hlt
  · obtain ⟨cs, hcs, hin, hcons, hok⟩ := ih (count + j)
      { w with handle := ⟨writeAt w.handle.file w.handle.pos
                 (((data.drop count).take (data.length - count)).take j), w.handle.pos + j⟩,
               calls := w.calls ++ [⟨count, (data.length : Int) - count, j⟩] } (by omega)
    refine ⟨⟨count, (data.length : Int) - count, j⟩ :: cs, by simp [hcs], ?_,
      ⟨rfl, by simpa using hcons⟩, hok⟩
    rintro c (_ | ⟨_, hc'⟩)
    · exact ⟨hc, rfl⟩
    · exact hin c hc'
  · exact ⟨_, rfl, by simp [InWindow, hc], ⟨rfl, trivial⟩, by simp; omega⟩

/-- Both loops keep `0 ≤ count ≤ n` before every call, so every call gets the window
`[count, n)` of the caller's buffer, at the count the calls before it reached; `read` makes at
most `n + 1` calls; and `write`'s loop only exits normally with `count = n`, so its
`assert(count == data_size)` holds. -/
theorem loops_stay_in_window (srv : Server) (hr : ∀ w k, Bounded k (srv.read w k))
    (hw : ∀ w d, Bounded d.length (srv.write w d)) :
    (∀ openPath n w, ∃ cs, (Detail.read srv openPath n w).2.calls = w.calls ++ cs ∧
      cs.length ≤ n + 1 ∧ (∀ c ∈ cs, InWindow n c) ∧ Consecutive 0 cs) ∧
    (∀ openPath data fuel w, ∃ cs, (Detail.write srv openPath data fuel w).2.calls = w.calls ++ cs ∧
      (∀ c ∈ cs, InWindow data.length c) ∧ Consecutive 0 cs ∧
      ∀ c, (Detail.write srv openPath data fuel w).1 = some (.ok c) → c = data.length) := by
  refine ⟨fun openPath n w => ?_, fun openPath data fuel w => ?_⟩
  · obtain ⟨cs, hcs, hlen, hin, hcons⟩ := readLoop_window hr n 0 w (Nat.zero_le _)
    exact ⟨cs, hcs, by omega, hin, hcons⟩
  · obtain ⟨cs, hcs, hin, hcons, hok⟩ := writeLoop_window hw data fuel 0 w (Nat.zero_le _)
    refine ⟨cs, hcs, hin, hcons, fun c h => hok c ?_⟩
    revert h
    simp only [Detail.write]
    rcases Detail.writeLoop srv data fuel 0 w with ⟨_ | _ | c', w'⟩ <;> simp [Except.mapError]

/-- The one-byte-a-time server meets the weakest contract on both primitives. -/
theorem loops_stay_in_window_trickle :
    (∀ w k, Bounded k (trickle.read w k)) ∧ (∀ w d, Bounded d.length (trickle.write w d)) ∧
    (∀ openPath n w, ∃ cs, (Detail.read trickle openPath n w).2.calls = w.calls ++ cs ∧
      cs.length ≤ n + 1 ∧ (∀ c ∈ cs, InWindow n c) ∧ Consecutive 0 cs) ∧
    (∀ openPath data fuel w, ∃ cs,
      (Detail.write trickle openPath data fuel w).2.calls = w.calls ++ cs ∧
      (∀ c ∈ cs, InWindow data.length c) ∧ Consecutive 0 cs ∧
      ∀ c, (Detail.write trickle openPath data fuel w).1 = some (.ok c) → c = data.length) :=
  ⟨fun w k => (trickle_read w k).bounded, fun w d => (trickle_write w d).bounded,
    loops_stay_in_window trickle (fun w k => (trickle_read w k).bounded)
      (fun w d => (trickle_write w d).bounded)⟩

end Ssh.Sftp
