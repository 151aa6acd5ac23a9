import Mathlib.Logic.Function.Basic
import Ssh.Error

/-! `ssh::sftp::directory_iterator`. Copies of an iterator share its directory handle, the
`shared_ptr` to the server-side cursor that `libssh2_sftp_readdir_ex` advances, but each copy
keeps its own name, long entry and attributes of the file it last read. -/
namespace Ssh.Sftp

/-- `LIBSSH2_SFTP_ATTRIBUTES`, value-initialised to zeros. -/
structure Attributes where
  flags : Nat := 0
  filesize : Nat := 0
  uid : Nat := 0
  gid : Nat := 0
  permissions : Nat := 0
  atime : Nat := 0
  mtime : Nat := 0
  deriving DecidableEq, Repr

/-- One result of `libssh2_sftp_readdir_ex`: the name written to the file-name buffer (the
return code is its length), the long entry and the attributes; or a failing call. A handle
with no results left returns `0`. -/
inductive Readdir
  | entry (fileName longEntry : String) (attributes : Attributes)
  | fail (e : LastError)
  deriving DecidableEq, Repr

/-- The open directory handles on the server, each with its remaining readdir results. -/
def Dirs := Nat → List Readdir

/-- `sftp_file`: a listed file's path, long entry and attributes. -/
structure SftpFile where
  file : String
  longEntry : String
  attributes : Attributes
  deriving DecidableEq, Repr

/-- `path / name` of `boost::filesystem`: a separator goes between the two unless either is empty
or one already stands at the join. -/
def Path.append (path name : String) : String :=
  if path.isEmpty || name.isEmpty || path.back == '/' || name.front == '/' then path ++ name
  else path ++ "/" ++ name

/-- A `directory_iterator`: the directory, the shared handle (`NULL` at the end) and the
properties of the last successfully listed file. -/
structure DirectoryIterator where
  directory : String
  handle : Option Nat
  fileName : String := ""
  longEntry : String := ""
  attributes : Attributes := {}
  deriving DecidableEq, Repr

namespace DirectoryIterator

/-- `directory_iterator()`, the end-of-directory marker. -/
def endIterator : DirectoryIterator := ⟨"", none, "", "", {}⟩

/-- `next_file`: one `libssh2_sftp_readdir_ex` on the handle `h`. A zero return code resets
this copy's handle; a failure throws; otherwise this copy takes the file's properties. -/
def nextFile (it : DirectoryIterator) (h : Nat) (d : Dirs) : Except Error DirectoryIterator × Dirs :=
  match d h with
  | [] => (.ok { it with handle := none }, d)
  | .fail e :: rest =>
    (.error (Detail.throwLastError e "libssh2_sftp_readdir_ex"), Function.update d h rest)
  | .entry fileName longEntry attributes :: rest =>
    if fileName.utf8ByteSize = 0 then (.ok { it with handle := none }, Function.update d h rest)
    else (.ok { it with fileName, longEntry, attributes }, Function.update d h rest)

/-- `increment`, the iterator's `++`. -/
def increment (it : DirectoryIterator) (d : Dirs) : Except Error DirectoryIterator × Dirs :=
  match it.handle with
  | none => (.error (Error.of (.rangeError "No more files")), d)
  | some h => it.nextFile h d

/-- `equal`, the iterator's `==`: the two copies hold the same handle. -/
def equal (a b : DirectoryIterator) : Bool := a.handle == b.handle

/-- `dereference`, the iterator's `*`. -/
def dereference (it : DirectoryIterator) : Except Error SftpFile :=
  if it.handle = none then .error (Error.of (.logicError "Can't dereference the end of a collection"))
  else .ok ⟨Path.append it.directory it.fileName, it.longEntry, it.attributes⟩

end DirectoryIterator

open DirectoryIterator

/-- `directory_iterator(channel, path)`: the result of `open_directory` (a failure is thrown),
then the first `next_file`. -/
def directoryIterator (path : String) (opened : Except Error Nat) (d : Dirs) :
    Except Error DirectoryIterator × Dirs :=
  match opened with
  | .error e => (.error e, d)
  | .ok h => nextFile { directory := path, handle := some h } h d

/-- Two copies of an iterator over a listing of two files (`b = a`, then `++a`) compare equal
but dereference to different files; over a listing of one file, `++a` makes `a` the end while
its copy is not. -/
theorem copies_diverge :
    (∃ d1 d2, directoryIterator "/d" (.ok 0) (fun _ => [.entry "f1" "l1" {}, .entry "f2" "l2" {}]) =
        (.ok ⟨"/d", some 0, "f1", "l1", {}⟩, d1) ∧
      increment ⟨"/d", some 0, "f1", "l1", {}⟩ d1 = (.ok ⟨"/d", some 0, "f2", "l2", {}⟩, d2) ∧
      equal ⟨"/d", some 0, "f2", "l2", {}⟩ ⟨"/d", some 0, "f1", "l1", {}⟩ = true ∧
      dereference ⟨"/d", some 0, "f2", "l2", {}⟩ = .ok ⟨"/d/f2", "l2", {}⟩ ∧
      dereference ⟨"/d", some 0, "f1", "l1", {}⟩ = .ok ⟨"/d/f1", "l1", {}⟩) ∧
    ∃ d1 d2, directoryIterator "/d" (.ok 0) (fun _ => [.entry "f1" "l1" {}]) =
        (.ok ⟨"/d", some 0, "f1", "l1", {}⟩, d1) ∧
      increment ⟨"/d", some 0, "f1", "l1", {}⟩ d1 = (.ok ⟨"/d", none, "f1", "l1", {}⟩, d2) ∧
      equal ⟨"/d", none, "f1", "l1", {}⟩ ⟨"/d", some 0, "f1", "l1", {}⟩ = false :=
  ⟨⟨_, _, rfl, rfl, rfl, rfl, rfl⟩, _, _, rfl, rfl, rfl⟩

/-- A caller's listing loop, `for (; it != directory_iterator(); ++it) files.push_back(*it);`,
running its body at most `fuel` times: `none` means the fuel ran out before the end test passed. -/
def collectFiles : Nat → DirectoryIterator → Dirs → Option (Except Error (List SftpFile)) × Dirs
  | fuel, it, d =>
    if it.equal endIterator then (some (.ok []), d) else
    match fuel with
    | 0 => (none, d)
    | fuel + 1 =>
      match it.dereference with
      | .error e => (some (.error e), d)
      | .ok f =>
        match it.increment d with
        | (.error e, d') => (some (.error e), d')
        | (.ok it', d') =>
          let r := collectFiles fuel it' d'
          (r.1.map (·.map (f :: ·)), r.2)

/-- The loop after a step of the iterator: the step's error, or the loop from where it went. -/
def collectAfter (fuel : Nat) :
    Except Error DirectoryIterator × Dirs → Option (Except Error (List SftpFile)) × Dirs
  | (.error e, d) => (some (.error e), d)
  | (.ok it, d) => collectFiles fuel it d

/-- Listing the directory `path`: construct the iterator, then run the loop. -/
def listDirectory (fuel : Nat) (path : String) (opened : Except Error Nat) (d : Dirs) :
    Option (Except Error (List SftpFile)) × Dirs :=
  collectAfter fuel (directoryIterator path opened d)

/-- What listing the directory `path` should give from its handle's readdir results: the files
up to the end of the listing, or the error of the first failing read. -/
def listing (path : String) : List Readdir → Except Error (List SftpFile)
  | [] => .ok []
  | .fail e :: _ => .error (Detail.throwLastError e "libssh2_sftp_readdir_ex")
  | .entry fileName longEntry attributes :: rest =>
    if fileName.utf8ByteSize = 0 then .ok []
    else (listing path rest).map (⟨Path.append path fileName, longEntry, attributes⟩ :: ·)

theorem nextFile_entry (it : DirectoryIterator) {h : Nat} {d : Dirs} {n l : String}
    {a : Attributes} {rs : List Readdir} (hd : d h = .entry n l a :: rs) (hn : n.utf8ByteSize ≠ 0) :
    it.nextFile h d =
      (.ok { it with fileName := n, longEntry := l, attributes := a }, Function.update d h rs) := by
  simp [nextFile, hd, hn]

theorem collectFiles_of_end (fuel : Nat) {it : DirectoryIterator} (hit : it.handle = none)
    (d : Dirs) : collectFiles fuel it d = (some (.ok []), d) := by
  unfold collectFiles
  simp [equal, endIterator, hit]

theorem nextFile_collectFiles {path : String} {h : Nat} (rs : List Readdir) :
    ∀ (it : DirectoryIterator) (d : Dirs) (fuel : Nat), it.directory = path →
      it.handle = some h → d h = rs → rs.length ≤ fuel →
      (collectAfter fuel (it.nextFile h d)).1 = some (listing path rs) := by
  induction rs with
  | nil =>
    intro it d fuel _ _ hd _
    simp [nextFile, hd, collectAfter, collectFiles_of_end, listing]
  | cons r rs ih =>
    rintro ⟨path, _, _, _, _⟩ d fuel rfl rfl hd hlen
    cases r with
    | fail e => simp [nextFile, hd, collectAfter, listing]
    | entry n l a =>
      by_cases hn : n.utf8ByteSize = 0
      · simp [nextFile, hd, hn, collectAfter, collectFiles_of_end, listing]
      obtain ⟨f, rfl⟩ : ∃ f, fuel = f + 1 := ⟨fuel - 1, by simp at hlen; omega⟩
      have ih' := ih ⟨path, some h, n, l, a⟩ (Function.update d h rs) f rfl rfl (by simp)
        (by simp at hlen; omega)
      rw [nextFile_entry _ hd hn]
      simp only [collectAfter, collectFiles, equal, endIterator, dereference, increment]
      revert ih'
      rcases nextFile ⟨path, some h, n, l, a⟩ h (Function.update d h rs) with ⟨_ | it', d'⟩ <;>
        intro ih' <;> simp only [collectAfter] at ih'
      · simp only [Option.some.injEq] at ih'
        simp [listing, hn, ← ih', Except.map]
      · simp [listing, hn, ih', Except.map]

/-- Listing a directory with a single iterator gives every file of the listing, in the server's
order, up to its end, or raises the first failing read's error, given one loop round per
readdir result. -/
theorem listDirectory_lists (path : String) (h : Nat) (d : Dirs) (fuel : Nat)
    (hfuel : (d h).length ≤ fuel) :
    (listDirectory fuel path (.ok h) d).1 = some (listing path (d h)) :=
  nextFile_collectFiles (d h) _ d fuel rfl rfl rfl hfuel

/-- A directory of two files, listed with two loop rounds. -/
theorem listDirectory_two_files :
    ([Readdir.entry "a" "la" {}, .entry "b" "lb" {}] : List Readdir).length ≤ 2 ∧
    (listDirectory 2 "/d" (.ok 0) fun _ => [.entry "a" "la" {}, .entry "b" "lb" {}]).1 =
      some (listing "/d" [.entry "a" "la" {}, .entry "b" "lb" {}]) :=
  ⟨by decide, listDirectory_lists "/d" 0 (fun _ => [.entry "a" "la" {}, .entry "b" "lb" {}]) 2
    (by decide)⟩

example : listing "/d" [.entry "a" "la" {}, .entry "b" "lb" {}] =
    .ok [⟨"/d/a", "la", {}⟩, ⟨"/d/b", "lb", {}⟩] := rfl

end Ssh.Sftp
