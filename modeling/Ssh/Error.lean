import Mathlib.Data.List.Basic

/-! Errors as the library throws them. A failing `libssh2` call leaves its code and message on
the session (and an SFTP status on the channel); `throw_last_error` copies that state into the
thrown value, and callers attach `boost::error_info` such as the API function and file name. -/
namespace Ssh

def LIBSSH2_ERROR_SFTP_PROTOCOL : Int := -31

/-- The error state one session records for its last failing call: `libssh2_session_last_error`
gives the code and message, `libssh2_sftp_last_error` the SFTP status of the channel. -/
structure LastError where
  code : Int
  message : String
  sftpCode : Nat
  deriving DecidableEq, Repr

/-- The exception types the modelled code throws. -/
inductive Exception
  /-- `ssh::exception::ssh_error`, as `last_error(session)` builds it. -/
  | sshError (code : Int) (message : String)
  /-- `sftp_error`: an `ssh_error` extended with the SFTP status. -/
  | sftpError (code : Int) (message : String) (sftpCode : Nat)
  | invalidArgument (what : String)
  | logicError (what : String)
  | rangeError (what : String)
  | badAlloc (what : String)
  /-- `boost::system::system_error(ec, message)`. -/
  | systemError (code : Int) (message : String)
  deriving DecidableEq, Repr

/-- A thrown exception with the `boost::error_info` attached to it. -/
structure Error where
  exception : Exception
  apiFunction : Option String := none
  fileName : Option String := none
  deriving DecidableEq, Repr

/-- `e << boost::errinfo_file_name(path)`. -/
def Error.withFileName (e : Error) (path : String) : Error := { e with fileName := some path }

/-- An exception thrown by `BOOST_THROW_EXCEPTION` with no `error_info`. -/
def Error.of (x : Exception) : Error := { exception := x }

@[simp] theorem Error.withFileName_exception (e : Error) (path : String) :
    (e.withFileName path).exception = e.exception := rfl

namespace Sftp.Detail

/-- `sftp_part_of_error_message`: the text appended to an `sftp_error`'s message. The cases are
the `LIBSSH2_FX_*` statuses, numbered 0 to 21 in libssh2_sftp.h. -/
def sftpPartOfErrorMessage : Nat → String
  | 0 => ": FX_OK"
  | 1 => ": FX_EOF"
  | 2 => ": FX_NO_SUCH_FILE"
  | 3 => ": FX_PERMISSION_DENIED"
  | 4 => ": FX_FAILURE"
  | 5 => ": FX_BAD_MESSAGE"
  | 6 => ": FX_NO_CONNECTION"
  | 7 => ": FX_CONNECTION_LOST"
  | 8 => ": FX_OP_UNSUPPORTED"
  | 9 => ": FX_INVALID_HANDLE"
  | 10 => ": FX_NO_SUCH_PATH"
  | 11 => ": FX_FILE_ALREADY_EXISTS"
  | 12 => ": FX_WRITE_PROTECT"
  | 13 => ": FX_NO_MEDIA"
  | 14 => ": FX_NO_SPACE_ON_FILESYSTEM"
  | 15 => ": FX_QUOTA_EXCEEDED"
  | 16 => ": FX_UNKNOWN_PRINCIPAL"
  | 17 => ": FX_LOCK_CONFLICT"
  | 18 => ": FX_DIR_NOT_EMPTY"
  | 19 => ": FX_NOT_A_DIRECTORY"
  | 20 => ": FX_INVALID_FILENAME"
  | 21 => ": FX_LINK_LOOP"
  | _ => "Unrecognised SFTP error value"

/-- `throw_last_error`: read the session's error, and for an SFTP protocol error also the
channel's status. Only the `sftp_error` branch is tagged with the API function. -/
def throwLastError (e : LastError) (apiFunction : String) : Error :=
  if e.code = LIBSSH2_ERROR_SFTP_PROTOCOL then
    { exception := .sftpError e.code (e.message ++ sftpPartOfErrorMessage e.sftpCode) e.sftpCode
      apiFunction := some apiFunction }
  else Error.of (.sshError e.code e.message)

/-- Modelled from the spec: the `throw_last_error` overload with a path, which
`SSH_THROW_LAST_SFTP_ERROR_WITH_PATH` calls, is not among the sources; a failed file operation's
error carries the path of the file. -/
def throwLastErrorWithPath (e : LastError) (apiFunction path : String) : Error :=
  (throwLastError e apiFunction).withFileName path

end Sftp.Detail
end Ssh
