import CompletionEngine.Flags.Basic

/-!
# The flag families of the kernel interface

The eight flag families, with the native constants of Linux on 64-bit machines, and the sets the
engine itself uses. No two flags of one family share a bit, which is what makes decomposition
lossless.
-/

namespace CompletionEngine

namespace FlagFamily

/-- Flags of a submission queue entry. -/
def submit : FlagFamily where
  name := "SubmitFlags"
  width := 8
  isSigned := false
  flags :=
    [⟨"FIXED_FILE", 0x1⟩, ⟨"IO_DRAIN", 0x2⟩, ⟨"IO_LINK", 0x4⟩, ⟨"IO_HARDLINK", 0x8⟩,
      ⟨"ASYNC", 0x10⟩, ⟨"BUFFER_SELECT", 0x20⟩, ⟨"CQE_SKIP_SUCCESS", 0x40⟩]

/-- Flags of opening a file. A set without either write flag opens for reading. -/
def opening : FlagFamily where
  name := "OpenFlags"
  width := 32
  isSigned := true
  flags :=
    [⟨"WRITE_ONLY", 0x1⟩, ⟨"READ_WRITE", 0x2⟩, ⟨"CREATE", 0x40⟩, ⟨"EXCLUSIVE", 0x80⟩,
      ⟨"NO_CTTY", 0x100⟩, ⟨"TRUNCATE", 0x200⟩, ⟨"APPEND", 0x400⟩, ⟨"NON_BLOCK", 0x800⟩,
      ⟨"DSYNC", 0x1000⟩, ⟨"DIRECT", 0x4000⟩, ⟨"DIRECTORY", 0x10000⟩, ⟨"NO_FOLLOW", 0x20000⟩,
      ⟨"NO_ATIME", 0x40000⟩, ⟨"CLOSE_ON_EXEC", 0x80000⟩, ⟨"PATH", 0x200000⟩]

/-- Mode bits of a file. -/
def permission : FlagFamily where
  name := "FilePermission"
  width := 32
  isSigned := false
  flags :=
    [⟨"USER_READ", 0x100⟩, ⟨"USER_WRITE", 0x80⟩, ⟨"USER_EXEC", 0x40⟩, ⟨"GROUP_READ", 0x20⟩,
      ⟨"GROUP_WRITE", 0x10⟩, ⟨"GROUP_EXEC", 0x8⟩, ⟨"OTHER_READ", 0x4⟩, ⟨"OTHER_WRITE", 0x2⟩,
      ⟨"OTHER_EXEC", 0x1⟩, ⟨"SET_UID", 0x800⟩, ⟨"SET_GID", 0x400⟩, ⟨"STICKY", 0x200⟩]

/-- Flags joined to the socket type when a socket is created. -/
def socket : FlagFamily where
  name := "SocketFlag"
  width := 32
  isSigned := true
  flags := [⟨"NON_BLOCK", 0x800⟩, ⟨"CLOSE_ON_EXEC", 0x80000⟩]

/-- Boolean socket options switched on after creation. -/
def socketOption : FlagFamily where
  name := "SocketOption"
  width := 32
  isSigned := false
  flags := [⟨"REUSE_ADDRESS", 0x1⟩, ⟨"REUSE_PORT", 0x2⟩, ⟨"KEEP_ALIVE", 0x4⟩, ⟨"NO_DELAY", 0x8⟩]

/-- Lookup flags of a status query. -/
def status : FlagFamily where
  name := "StatFlags"
  width := 32
  isSigned := true
  flags :=
    [⟨"EMPTY_PATH", 0x1000⟩, ⟨"NO_AUTOMOUNT", 0x800⟩, ⟨"SYMLINK_NOFOLLOW", 0x100⟩,
      ⟨"FORCE_SYNC", 0x2000⟩, ⟨"DONT_SYNC", 0x4000⟩]

/-- Fields a status query asks for. -/
def statusMask : FlagFamily where
  name := "StatMask"
  width := 32
  isSigned := false
  flags :=
    [⟨"TYPE", 0x1⟩, ⟨"MODE", 0x2⟩, ⟨"NLINK", 0x4⟩, ⟨"UID", 0x8⟩, ⟨"GID", 0x10⟩, ⟨"ATIME", 0x20⟩,
      ⟨"MTIME", 0x40⟩, ⟨"CTIME", 0x80⟩, ⟨"INO", 0x100⟩, ⟨"SIZE", 0x200⟩, ⟨"BLOCKS", 0x400⟩,
      ⟨"BTIME", 0x800⟩]

/-- Flags of moving bytes between two descriptors. -/
def splice : FlagFamily where
  name := "SpliceFlags"
  width := 32
  isSigned := false
  flags := [⟨"MOVE", 0x1⟩, ⟨"NON_BLOCK", 0x2⟩, ⟨"MORE", 0x4⟩, ⟨"GIFT", 0x8⟩]

/-- Every family. -/
def catalogue : List FlagFamily :=
  [submit, opening, permission, socket, socketOption, status, statusMask, splice]

end FlagFamily

abbrev SubmitFlags := Flags .submit
abbrev OpenFlags := Flags .opening
abbrev FilePermission := Flags .permission
abbrev SocketFlags := Flags .socket
abbrev SocketOptions := Flags .socketOption
abbrev StatusFlags := Flags .status
abbrev StatusMask := Flags .statusMask
abbrev SpliceFlags := Flags .splice

namespace Flags

/-- The next entry does not start before this one completes, and is cancelled when it fails. -/
def ioLink : SubmitFlags := ofNat 0x4

/-- As `ioLink`, but a failure does not cancel the rest of the chain. -/
def ioHardLink : SubmitFlags := ofNat 0x8

/-- A success posts no completion. -/
def skipSuccess : SubmitFlags := ofNat 0x40

/-- Read and write for the owner, read for everybody else. -/
def defaultFile : FilePermission := ofNat 0x1a4

/-- A created socket is closed when the process runs another program. -/
def closeOnExec : SocketFlags := ofNat 0x80000

/-- Allow binding an address that was in use a moment ago. -/
def reuseAddress : SocketOptions := ofNat 0x1

/-- Query the descriptor itself instead of a path below it. -/
def emptyPath : StatusFlags := ofNat 0x1000

/-- Everything the classic status call returns. -/
def basicStatus : StatusMask := ofNat 0x7ff

end Flags

/-- A socket option as the kernel names it: the protocol level and the option's number. -/
structure NativeOption where
  level : Int32
  number : Int32
  deriving DecidableEq

namespace NativeOption

/-- Every option of `FlagFamily.socketOption` with its native name, in the order of application. -/
def table : List (SocketOptions × NativeOption) :=
  [(.ofNat 0x1, ⟨1, 2⟩), (.ofNat 0x2, ⟨1, 15⟩), (.ofNat 0x4, ⟨1, 9⟩), (.ofNat 0x8, ⟨6, 1⟩)]

/-- The native names of the options in a set. -/
def ofSet (options : SocketOptions) : List NativeOption :=
  (table.filter fun row => options.contains row.1).map Prod.snd

end NativeOption

end CompletionEngine
