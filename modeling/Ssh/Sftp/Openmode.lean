import Mathlib
import Ssh.Error

/-! Open modes. `openmode_to_libssh2_flags` turns the library's `openmode` into the
`LIBSSH2_FXF_*` flags of `libssh2_sftp_open_ex`: SFTP does not create or truncate a file opened
for writing unless asked, so the C++ stream defaults are added explicitly. -/
namespace Ssh.Sftp

def LIBSSH2_FXF_READ : Nat := 0x01
def LIBSSH2_FXF_WRITE : Nat := 0x02
def LIBSSH2_FXF_APPEND : Nat := 0x04
def LIBSSH2_FXF_CREAT : Nat := 0x08
def LIBSSH2_FXF_TRUNC : Nat := 0x10
def LIBSSH2_FXF_EXCL : Nat := 0x20

/-- `openmode::value`, by the flags the code tests: each is its own bit. -/
structure Openmode where
  «in» : Bool
  out : Bool
  app : Bool
  trunc : Bool
  nocreate : Bool
  noreplace : Bool
  deriving DecidableEq, Repr

/-- `std::ios_base::openmode`, by the flags `translate_flags` tests. -/
structure StdOpenmode where
  «in» : Bool
  out : Bool
  ate : Bool
  app : Bool
  trunc : Bool
  binary : Bool
  deriving DecidableEq, Repr

/-- Whether the flag set asks for creating the file: for writing, unless `nocreate`, and with
`in` only together with `trunc`. -/
def Openmode.creates (m : Openmode) : Bool := m.out && !m.nocreate && (!m.in || m.trunc)

/-- Whether `openmode_to_libssh2_flags` refuses the mode: `nocreate` with `noreplace` where the
file could be created. -/
def Openmode.refused (m : Openmode) : Bool :=
  m.out && m.nocreate && m.noreplace && (!m.in || m.trunc)

/-- The flags `openmode_to_libssh2_flags` sets, one bit each, read off the mode. -/
def Openmode.flagBits (m : Openmode) : List Bool :=
  [m.in, m.out, m.out && !m.in && m.app, m.creates, m.out && (if m.in then m.trunc else !m.app),
    m.creates && m.noreplace]

/-- What `openmode_to_libssh2_flags` gives for `m`, bit by bit. -/
def FlagsSpec (m : Openmode) : Except Error Nat → Prop
  | .error e => e = Error.of (.invalidArgument "Cannot combine nocreate and noreplace") ∧
      m.refused
  | .ok flags => !m.refused ∧ flags < 2 ^ 6 ∧ (List.range 6).map flags.testBit = m.flagBits

instance (m : Openmode) : (r : Except Error Nat) → Decidable (FlagsSpec m r)
  | .error _ => inferInstanceAs (Decidable (_ ∧ _))
  | .ok _ => inferInstanceAs (Decidable (_ ∧ _))

namespace Detail

/-- `translate_flags`: the standard flags carried over; `ate` is refused and `binary` ignored. -/
def translateFlags (m : StdOpenmode) : Except Error Openmode :=
  if m.ate then .error (Error.of (.invalidArgument "ate flag not yet supported"))
  else .ok ⟨m.in, m.out, m.app, m.trunc, false, false⟩

/-- The creation block that `openmode_to_libssh2_flags` has twice: `CREAT` (with `EXCL` for
`noreplace`) unless `nocreate`, and `nocreate` with `noreplace` refused. -/
def createFlags (m : Openmode) (flags : Nat) : Except Error Nat :=
  if !m.nocreate then
    .ok (flags ||| LIBSSH2_FXF_CREAT ||| if m.noreplace then LIBSSH2_FXF_EXCL else 0)
  else if m.noreplace then
    .error (Error.of (.invalidArgument "Cannot combine nocreate and noreplace"))
  else .ok flags

/-- `openmode_to_libssh2_flags`. -/
def openmodeToLibssh2Flags (m : Openmode) : Except Error Nat :=
  let flags := if m.in then LIBSSH2_FXF_READ else 0
  if m.out then
    let flags := flags ||| LIBSSH2_FXF_WRITE
    if m.in then
      if m.trunc then (createFlags m flags).map (· ||| LIBSSH2_FXF_TRUNC)
      else .ok flags
    else
      (createFlags m flags).map (· ||| if m.app then LIBSSH2_FXF_APPEND else LIBSSH2_FXF_TRUNC)
  else .ok flags

/-- Every one of the 64 modes: `nocreate` with `noreplace` is refused exactly where the file could
be created; otherwise `READ` is set for `in`, `WRITE` for `out`, `APPEND` for `out` with `app`
and without `in`, `CREAT` where the file may be created, `TRUNC` for `out` with `trunc` when `in`
is given and without `app` otherwise, `EXCL` for a creating `noreplace`, and no other bit. -/
example (m : Openmode) : FlagsSpec m (openmodeToLibssh2Flags m) := by
  obtain ⟨_ | _, _ | _, _ | _, _ | _, _ | _, _ | _⟩ := m <;> decide

/-- The flags `open_file` passes to `libssh2_sftp_open_ex`; `sftp_io_device` opens this way. -/
def openFile (m : Openmode) : Except Error Nat := openmodeToLibssh2Flags m

/-- `open_input_file`: opened for input whatever the mode says, as `ifstream` does. -/
def openInputFile (m : Openmode) : Except Error Nat := openFile { m with «in» := true }

/-- `open_output_file`: opened for output whatever the mode says, as `ofstream` does. -/
def openOutputFile (m : Openmode) : Except Error Nat := openFile { m with out := true }

end Detail

/-- `in` with `nocreate` and `noreplace` opens for reading without complaint. -/
example : Detail.openmodeToLibssh2Flags ⟨true, false, false, false, true, true⟩ =
    .ok LIBSSH2_FXF_READ := rfl

end Ssh.Sftp
