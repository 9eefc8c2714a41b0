import CompletionEngine.Flags.Catalogue

/-!
# File status

The status block a query fills in, field by field as the kernel lays it out, and the status decoded
from it. Mode bits split into the file type and the permissions; bits of the mask that no field is
known for are dropped.
-/

namespace CompletionEngine

/-- What kind of file a status describes. -/
inductive FileType where
  | regular
  | directory
  | symlink
  | socket
  | fifo
  | charDevice
  | blockDevice
  | unknown
  deriving DecidableEq

namespace FileType

/-- The file type in the mode bits of a status. -/
def ofMode (mode : UInt32) : FileType :=
  match (mode &&& 0xf000).toNat with
  | 0x8000 => regular
  | 0x4000 => directory
  | 0xa000 => symlink
  | 0xc000 => socket
  | 0x1000 => fifo
  | 0x2000 => charDevice
  | 0x6000 => blockDevice
  | _ => unknown

/-- The name of a file type in diagnostics. -/
def debugText : FileType → String
  | regular => "Regular"
  | directory => "Directory"
  | symlink => "Symlink"
  | socket => "Socket"
  | fifo => "Fifo"
  | charDevice => "CharDevice"
  | blockDevice => "BlockDevice"
  | unknown => "Unknown"

end FileType

/-- A moment as the kernel stamps it on a file. -/
structure FileTime where
  seconds : Int64
  nanos : UInt32
  deriving DecidableEq

/-- The earliest moment of the era, and the content of a zeroed field. -/
def FileTime.zero : FileTime := ⟨0, 0⟩

/-- A device number in its two parts. -/
structure DeviceNumber where
  major : UInt32
  minor : UInt32
  deriving DecidableEq

/-- The block that a status query fills in. -/
structure StatusBlock where
  mask : UInt32
  blockSize : UInt32
  attributes : UInt64
  links : UInt32
  owner : UInt32
  group : UInt32
  mode : UInt16
  inode : UInt64
  size : UInt64
  blocks : UInt64
  accessed : FileTime
  created : FileTime
  statusChanged : FileTime
  modified : FileTime
  device : DeviceNumber
  rawDevice : DeviceNumber
  deriving DecidableEq

/-- A block in which every byte is zero. -/
def StatusBlock.zero : StatusBlock where
  mask := 0
  blockSize := 0
  attributes := 0
  links := 0
  owner := 0
  group := 0
  mode := 0
  inode := 0
  size := 0
  blocks := 0
  accessed := .zero
  created := .zero
  statusChanged := .zero
  modified := .zero
  device := ⟨0, 0⟩
  rawDevice := ⟨0, 0⟩

/-- Zero a block before the kernel fills it in. -/
def StatusBlock.reset (_block : StatusBlock) : StatusBlock := .zero

/-- The status of a file. -/
structure FileStatus where
  mask : StatusMask
  blockSize : UInt32
  attributes : UInt64
  links : UInt32
  owner : UInt32
  group : UInt32
  fileType : FileType
  permissions : FilePermission
  inode : UInt64
  size : UInt64
  blocks : UInt64
  accessed : FileTime
  created : FileTime
  statusChanged : FileTime
  modified : FileTime
  device : DeviceNumber
  rawDevice : DeviceNumber
  deriving DecidableEq

namespace FileStatus

/-- Whether the file is a regular one. -/
def isFile (status : FileStatus) : Bool := status.fileType = .regular

/-- Whether the file is a directory. -/
def isDirectory (status : FileStatus) : Bool := status.fileType = .directory

end FileStatus

/-- Decode what the kernel wrote. -/
def StatusBlock.decode (block : StatusBlock) : FileStatus where
  mask := (Flags.ofNat block.mask.toNat).truncate
  blockSize := block.blockSize
  attributes := block.attributes
  links := block.links
  owner := block.owner
  group := block.group
  fileType := .ofMode block.mode.toUInt32
  permissions := (Flags.ofNat (block.mode.toUInt32 &&& 0xfff).toNat).truncate
  inode := block.inode
  size := block.size
  blocks := block.blocks
  accessed := block.accessed
  created := block.created
  statusChanged := block.statusChanged
  modified := block.modified
  device := block.device
  rawDevice := block.rawDevice

end CompletionEngine
