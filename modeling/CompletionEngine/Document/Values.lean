import CompletionEngine.Document.Basic
import CompletionEngine.Operation.Catalogue
import CompletionEngine.Settings.Configuration
import CompletionEngine.Slots.Pools
import CompletionEngine.Slots.Tags

/-!
# Values in documents

How the small values of the library are read from and written as documents: numbers with a meaning
by their numbers, pairs as lists of two, and everything with names as a record.
-/

namespace CompletionEngine

/-- Bytes, which are given as text, in hexadecimal, or as one byte many times. -/
structure Blob where
  bytes : List UInt8

/-- The bytes of hexadecimal digits. -/
def Blob.ofHex (digits : String) : List UInt8 := (Bytes.ofHex? digits.toList).getD []

instance : Readable Blob where
  read
    | .text text => ⟨text.toUTF8.toList⟩
    | document =>
      match (document.get "hex" : Option String) with
      | some digits => ⟨Blob.ofHex digits⟩
      | none => ⟨List.replicate (document.get "n") (document.get "byte")⟩

/-- Bytes as text where they are UTF-8, else in hexadecimal. -/
instance : Writable Blob where
  write blob :=
    match String.fromUTF8? ⟨blob.bytes.toArray⟩ with
    | some text => text
    | none => .record [("hex", Bytes.hex blob.bytes)]

instance : Readable Descriptor := ⟨fun document => ⟨read document⟩⟩
instance : Writable Descriptor := ⟨fun descriptor => descriptor.number⟩
instance : Readable TimeLimit := ⟨fun document => ⟨read document⟩⟩
instance : Writable TimeLimit := ⟨fun limit => limit.nanos⟩
instance {family : FlagFamily} : Readable (Flags family) := ⟨fun document => .ofInt (read document)⟩
instance {family : FlagFamily} : Writable (Flags family) := ⟨fun set => set.value⟩
instance : Readable Kind := ⟨fun document => (Kind.ofName? (read document)).getD .nop⟩
instance : Writable Kind := ⟨fun kind => kind.name⟩
instance : Writable TimeSpec := ⟨fun spec => (spec.seconds, spec.nanos)⟩
instance : Writable Duration := ⟨fun duration => (duration.seconds, duration.nanos)⟩

instance : Readable FileTime where
  read
    | .list [seconds, nanos] => ⟨read seconds, read nanos⟩
    | _ => .zero

instance : Writable FileTime := ⟨fun time => (time.seconds, time.nanos)⟩

instance : Readable DeviceNumber where
  read
    | .list [major, minor] => ⟨read major, read minor⟩
    | _ => ⟨0, 0⟩

instance : Writable DeviceNumber := ⟨fun device => (device.major, device.minor)⟩
instance : Writable ErrorNumber := ⟨fun error => error.code⟩

/-- A vector of the first bytes of a list, with zeros where it ends. -/
def vectorOf (size : Nat) (bytes : List UInt8) : Vector UInt8 size :=
  Vector.ofFn fun index => bytes.getD index 0

instance : Readable SocketAddress where
  read document :=
    match (document.get "v4" : Option (List UInt8)) with
    | some host => .v4 (vectorOf 4 host) (document.get "port")
    | none =>
      .v6 (vectorOf 16 (Blob.ofHex (document.get "v6"))) (document.get "port")
        (document.get "flow") (document.get "scope")

/-- An address as a document, where `portOut` writes its port. -/
def SocketAddress.document (portOut : UInt16 → Document) : SocketAddress → Document
  | .v4 host port => .record [("v4", host.toList), ("port", portOut port)]
  | .v6 host port flow scope =>
    .record
      [("v6", Bytes.hex host.toList), ("port", portOut port), ("flow", flow), ("scope", scope)]

instance : Writable SocketAddress := ⟨SocketAddress.document write⟩

/-- The word that names the cause of a failure. -/
def Failure.tag : Failure → String
  | native _ => "native"
  | closed => "closed"
  | exhausted _ => "exhausted"
  | invalidInput _ => "invalid"

instance : Readable Failure where
  read document :=
    match (document.get "failure" : String) with
    | "native" => .ofResult (document.get "code")
    | "invalid" => .invalidInput (document.get "text")
    | "exhausted" => .exhausted <| match (document.get "resource" : String) with
      | "submission" => .submissionQueue
      | "request" => .requestQueue
      | "memory" => .memory
      | _ => .pool (document.get "pool")
    | _ => .closed

instance : Writable Failure where
  write failure := .record <|
    [("failure", write failure.tag), ("text", write failure.message)] ++
      failure.errorNumber?.toList.map fun error => ("errno", write error)

instance : Readable RingError where
  read document :=
    let number := document.get "errno"
    match (document.get "kind" : String) with
    | "full" => .full
    | "setup" => .setup number
    | "submit" => .submit number
    | "os" => .system number
    | _ => .released

instance : Writable RingError := ⟨fun error => error.message⟩

instance {ε α : Type} [Writable ε] [Writable α] : Writable (Except ε α) where
  write
    | .ok value => .success value
    | .error error => .failure error

instance : Readable StatusBlock where
  read document :=
    { mask := document.get "mask"
      blockSize := document.get "blksize"
      attributes := document.get "attributes"
      links := document.get "nlink"
      owner := document.get "uid"
      group := document.get "gid"
      mode := document.get "mode"
      inode := document.get "ino"
      size := document.get "size"
      blocks := document.get "blocks"
      accessed := document.get "atime"
      created := document.get "btime"
      statusChanged := document.get "ctime"
      modified := document.get "mtime"
      device := document.get "dev"
      rawDevice := document.get "rdev" }

/-- What most callers want to know of a status. -/
def FileStatus.summary (status : FileStatus) : Document.Fields :=
  [("size", status.size), ("file_type", status.fileType.debugText),
    ("permissions", status.permissions), ("is_file", status.isFile),
    ("is_dir", status.isDirectory)]

instance : Writable FileStatus where
  write status :=
    let others : Document.Fields :=
      [("mask", status.mask), ("block_size", status.blockSize), ("attributes", status.attributes),
        ("links", status.links), ("owner", status.owner), ("group", status.group),
        ("inode", status.inode), ("blocks", status.blocks), ("accessed", status.accessed),
        ("created", status.created), ("status_changed", status.statusChanged),
        ("modified", status.modified), ("device", status.device),
        ("raw_device", status.rawDevice)]
    .record (status.summary ++ others)

/-- A time limit in every form it is given in. -/
def TimeLimit.document (limit : TimeLimit) : Document :=
  .record
    [("nanos", limit.nanos), ("micros", limit.micros), ("millis", limit.millis),
      ("timespec", limit.timeSpec), ("duration", limit.toDuration), ("into", limit.toDuration),
      ("text", limit.text), ("debug", limit.debugText)]

/-- What a single set of flags tells. -/
def Flags.document {family : FlagFamily} (set : Flags family) : Document.Fields :=
  let (names, remaining) := set.decompose
  [("from_bits", set.ofKnownBits?), ("truncate", set.truncate), ("names", names.map Flag.name),
    ("remaining", remaining), ("debug", set.debugText), ("iter", set.parts),
    ("is_empty", set.isEmpty), ("is_all", set.isAll), ("complement", set.complement),
    ("all", (all : Flags family))]

/-- What two sets of flags tell together. -/
def Flags.pairDocument {family : FlagFamily} (left right : Flags family) :
    Document.Fields :=
  [("union", left.union right), ("intersection", left.intersection right),
    ("difference", left.difference right),
    ("symmetric_difference", left.symmetricDifference right), ("contains", left.contains right),
    ("intersects", left.intersects right)]

namespace Configuration

/-- The configuration with one setting changed. -/
def assign (name : String) (value : Document) (configuration : Configuration) : Configuration :=
  match name with
  | "sq_entries" => { configuration with ring.submissions := read value }
  | "cq_entries" => { configuration with ring.completions := read value }
  | "inbox_capacity" => { configuration with inboxCapacity := read value }
  | "pool_ceiling" => { configuration with poolCeiling := read value }
  | "completion_batch" => { configuration with completionBatch := read value }
  | "wait_timeout" => { configuration with waitLimit := read value }
  | "shutdown_drain" | "drain" => { configuration with shutdownDrain := read value }
  | "wake_poll" => { configuration with wakePoll := read value }
  | _ => configuration

/-- The configuration with the settings of a document. -/
def assignAll (document : Document) (configuration : Configuration) : Configuration :=
  document.fields.foldl (fun configuration (name, value) => configuration.assign name value)
    configuration

end Configuration

instance : Writable Configuration where
  write configuration :=
    let ring := configuration.ring
    .record
      [("sq_entries", ring.submissions), ("cq_entries", ring.completions),
        ("backend", (ring.submissions, ring.completions)),
        ("inbox_capacity", configuration.inboxCapacity),
        ("pool_ceiling", configuration.poolCeiling),
        ("completion_batch", configuration.completionBatch),
        ("wait_timeout", configuration.waitLimit),
        ("shutdown_drain", configuration.shutdownDrain), ("wake_poll", configuration.wakePoll)]

instance : Writable SlotRef := ⟨fun reference => (reference.kind, reference.slot)⟩

instance : Writable PoolStatistics where
  write statistics := [statistics.capacity, statistics.available, statistics.inUse]

/-- The pools that hold entries, by name. -/
instance {γ : Type} : Writable (Pools γ) where
  write pools := .record <|
    (pools.statistics.filter fun row => row.2.capacity ≠ 0).map fun row =>
      (row.1.name, write row.2)

/-- How full a pool is, and how many of its entries are in each state. -/
def Pool.document {kind : Kind} {γ : Type} (pool : Pool kind γ) : Document.Fields :=
  let statistics := pool.statistics
  [("stats", statistics), ("in_use", statistics.inUse), ("available", statistics.available),
    ("states", [.free, .prepared, .submitted, .completed].map pool.countIn)]

/-- The state, tag and flags of an entry. -/
instance {kind : Kind} {γ : Type} : Writable (Entry kind γ) where
  write entry := .list [entry.state.name, entry.tag, entry.flags]

end CompletionEngine
