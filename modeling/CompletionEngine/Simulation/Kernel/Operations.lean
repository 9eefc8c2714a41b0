import CompletionEngine.Simulation.Kernel.Basic

/-!
# Operations of the kernel

What each submitted operation does when it is tried: it completes with a result, or it has to wait
for something else to happen first.
-/

namespace CompletionEngine.Simulation

/-- How trying an operation went. -/
inductive Attempt where
  /-- It completed, with a raw result and what it wrote into the operation's memory. -/
  | done (result : Int32) (written : KernelWrite)
  /-- It has to wait. -/
  | waiting

namespace Attempt

/-- It completed with an error. -/
def failed (error : ErrorNumber) : Attempt := done error.toResult .nothing

/-- It completed with a count or a number. -/
def counted (count : Nat) : Attempt := done (Int32.ofNat count) .nothing

end Attempt

namespace Kernel

open Attempt

/-- The position where no operation may begin. -/
def positionLimit : Nat := 0x8000000000000000

/-- Where in a file an operation takes place: at its offset, or else at the file's own position. -/
def place (offset : UInt64) (position : Nat) : Nat :=
  if offset = Offset.current then position else offset.toNat

/-- Leave a file's own position where an operation ended, when the operation went by it. -/
def movePosition (number : Int32) (file : OpenFile) (offset : UInt64) (position : Nat)
    (kernel : Kernel) : Kernel :=
  match file with
  | .file path access appends _ =>
    if offset = Offset.current then
      { kernel with
        descriptors := kernel.descriptors.insert number (.file path access appends position) }
    else kernel
  | _ => kernel

/-- Bytes taken from a file, or the attempt that ends the operation. -/
abbrev Taken := Except Attempt (List UInt8 × Kernel)

/-- Take up to `count` bytes from a file. -/
def takeBytes (number : Int32) (file : OpenFile) (offset : UInt64) (count : Nat)
    (kernel : Kernel) : Taken :=
  match file with
  | .pipeReader pipe =>
    let bytes := kernel.pipe pipe
    if count = 0 then .ok ([], kernel)
    else if bytes.isEmpty then
      if kernel.holds (.pipeWriter pipe) then .error waiting else .ok ([], kernel)
    else .ok (bytes.take count, kernel.setPipe pipe (bytes.drop count))
  | .file path access _ position =>
    if !access.reads then .error (failed .badDescriptor)
    else
      match kernel.files.node? path with
      | some .directory => .error (failed .isDirectory)
      | some (.regular content _) =>
        let start := place offset position
        if positionLimit ≤ start + count then .error (failed .invalidArgument)
        else
          let bytes := content.read start count
          .ok (bytes, kernel.movePosition number file offset (start + bytes.length))
      | _ => .ok ([], kernel)
  | .socket socket =>
    if socket.type = .stream then .error (failed .notConnected) else .error waiting
  | .pipeWriter _ => .error (failed .badDescriptor)
  | .counter _ => .error (failed .invalidArgument)

/-- Put bytes into a file. -/
def putBytes (number : Int32) (file : OpenFile) (offset : UInt64) (bytes : List UInt8)
    (kernel : Kernel) : Except Attempt Kernel :=
  match file with
  | .pipeWriter pipe =>
    if bytes.isEmpty then .ok kernel
    else if kernel.holds (.pipeReader pipe) then
      .ok (kernel.setPipe pipe (kernel.pipe pipe ++ bytes))
    else .error (failed .brokenPipe)
  | .file path access appends position =>
    if !access.writes then .error (failed .badDescriptor)
    else
      match kernel.files.node? path with
      | some .directory => .error (failed .isDirectory)
      | some (.regular content mode) =>
        let start := if appends then content.size else place offset position
        if positionLimit ≤ start + bytes.length then .error (failed .invalidArgument)
        else
          let files := kernel.files.put path (.regular (content.write start bytes) mode)
          .ok (movePosition number file offset (start + bytes.length)
            { kernel with files := files })
      | _ => .ok kernel
  | .socket socket =>
    .error (failed (if socket.type = .stream then .brokenPipe else .destinationRequired))
  | .pipeReader _ => .error (failed .badDescriptor)
  | .counter _ => .error (failed .invalidArgument)

/-- End a computation whose exits are attempts. -/
def settleAttempt (kernel : Kernel) : Except Attempt (Attempt × Kernel) → Attempt × Kernel
  | .ok result => result
  | .error attempt => (attempt, kernel)

/-- The number in an operand, which is no memory of the operation's own. -/
def wordOf : Operand → Nat
  | .word value => value.toNat
  | .block .. => 0

/-- The memory that a transfer is about. -/
def placesOf (kernel : Kernel) (entry : SubmissionEntry) (isVector : Bool) :
    Except Attempt Memory.Places :=
  let address := wordOf entry.address
  if isVector then
    match kernel.memory.vector? address entry.length.toNat with
    | some places => .ok places
    | none => .error (failed .badAddress)
  else .ok [(address, entry.length.toNat)]

/-- The offset of an entry. -/
def offsetOf (entry : SubmissionEntry) : UInt64 := UInt64.ofNat (wordOf entry.offset)

/-- Read into memory of the caller. -/
def readFile (isVector : Bool) (entry : SubmissionEntry) (file : OpenFile) (kernel : Kernel) :
    Attempt × Kernel :=
  kernel.settleAttempt do
    let places ← kernel.placesOf entry isVector
    let count := places.foldr (fun place total => place.2 + total) 0
    let (bytes, after) ← kernel.takeBytes entry.descriptor file (offsetOf entry) count
    if bytes.isEmpty then .ok (counted 0, after)
    else if kernel.memory.isMapped places then
      .ok (counted bytes.length, { after with memory := after.memory.scatter places bytes })
    else .error (failed .badAddress)

/--
Write from memory of the caller. Putting no bytes first finds out whether the file takes any, since
that comes before the question whether the memory is there.
-/
def writeFile (isVector : Bool) (entry : SubmissionEntry) (file : OpenFile) (kernel : Kernel) :
    Attempt × Kernel :=
  kernel.settleAttempt do
    let places ← kernel.placesOf entry isVector
    let _ ← kernel.putBytes entry.descriptor file (offsetOf entry) []
    match kernel.memory.gather? places with
    | none => .error (failed .badAddress)
    | some bytes =>
      let after ← kernel.putBytes entry.descriptor file (offsetOf entry) bytes
      .ok (counted bytes.length, after)

/-- Whether a file is an end of a pipe. -/
def isPipe : OpenFile → Bool
  | .pipeReader _ | .pipeWriter _ => true
  | _ => false

/-- Whether an offset is given for a file that has no positions. -/
def seeksPipe (file : OpenFile) (offset : UInt64) : Bool := isPipe file && offset ≠ Offset.current

/-- Whether a file may be spliced from. -/
def canRead : OpenFile → Bool
  | .pipeReader _ => true
  | .file _ access _ _ => access.reads
  | _ => false

/-- Whether a file may be spliced to. -/
def canWrite : OpenFile → Bool
  | .pipeWriter _ => true
  | .file _ access _ _ => access.writes
  | _ => false

/-- Move bytes between two descriptors, one of which is a pipe. -/
def spliceFiles (entry : SubmissionEntry) (target : OpenFile) (kernel : Kernel) :
    Attempt × Kernel :=
  kernel.settleAttempt do
    let sourceOffset := UInt64.ofNat (wordOf entry.address)
    let targetOffset := offsetOf entry
    let some source := kernel.descriptors.file? entry.spliceFrom
      | .error (failed .badDescriptor)
    if entry.length = 0 then .error (counted 0)
    if !canRead source || !canWrite target then .error (failed .badDescriptor)
    if !isPipe source && !isPipe target then .error (failed .invalidArgument)
    if seeksPipe source sourceOffset || seeksPipe target targetOffset then
      .error (failed .illegalSeek)
    match source, target with
    | .pipeReader first, .pipeWriter second =>
      if first = second then .error (failed .invalidArgument)
    | _, _ => .ok ()
    if let .pipeWriter pipe := target then
      if !kernel.holds (.pipeReader pipe) then .error (failed .brokenPipe)
    let (bytes, after) ←
      kernel.takeBytes entry.spliceFrom source sourceOffset entry.length.toNat
    let after ← after.putBytes entry.descriptor target targetOffset bytes
    .ok (counted bytes.length, after)

/-- Whether a word has a bit. -/
def hasBit (word bit : UInt32) : Bool := word &&& bit ≠ 0

/-- What the flags of an open let the file be used for. -/
def accessOf (flags : UInt32) : Access :=
  ⟨flags &&& 3 = 0 || flags &&& 3 = 2, flags &&& 3 = 1 || flags &&& 3 = 2⟩

/-- Open what lies at a path, making a regular file when that is asked for. -/
def openPath (path : NativePath) (flags mode : UInt32) (kernel : Kernel) :
    Except ErrorNumber (Descriptor × Kernel) := do
  let access := accessOf flags
  let resolved ← kernel.files.resolve path.bytes
  let creates := hasBit flags 0x40
  let node ← match resolved.node with
    | some node =>
      if creates && hasBit flags 0x80 then .error .alreadyExists else .ok node
    | none =>
      if creates then .ok (Node.regular .empty (mode &&& 0xfff).toUInt16) else .error .noEntry
  let node ← match node with
    | .directory =>
      if creates || access.writes then .error .isDirectory else .ok Node.directory
    | .regular content mode =>
      if hasBit flags 0x10000 then .error .notDirectory
      else .ok (Node.regular (if hasBit flags 0x200 then .empty else content) mode)
    | .null => if hasBit flags 0x10000 then .error .notDirectory else .ok Node.null
  .ok ({ kernel with files := kernel.files.put resolved.path node }.openFile
    (.file resolved.path access (hasBit flags 0x400) 0))

/-- The status block of something with these type and permission bits and this size. -/
def statusOf (mode : UInt16) (size : Nat) : StatusBlock :=
  { StatusBlock.zero with
    mask := 0x7ff
    blockSize := 4096
    links := 1
    mode := mode
    size := UInt64.ofNat size }

/-- The status of an open file. -/
def fileStatus (file : OpenFile) (kernel : Kernel) : StatusBlock :=
  match file with
  | .socket _ => statusOf 0xc1ff 0
  | .pipeReader _ | .pipeWriter _ => statusOf 0x1180 0
  | .counter _ => statusOf 0x0180 0
  | .file path _ _ _ =>
    match kernel.files.node? path with
    | some node => statusOf (FileSystem.modeOf node) (FileSystem.sizeOf node)
    | none => statusOf 0x8000 0

/-- Find the status that a query asks for. -/
def queryStatus (path : NativePath) (entry : SubmissionEntry) (kernel : Kernel) :
    Except ErrorNumber StatusBlock := do
  if hasBit entry.length 0x80000000 || hasBit entry.operationFlags (~~~0x7900) ||
      entry.operationFlags &&& 0x6000 = 0x6000 then
    .error .invalidArgument
  if path.bytes.isEmpty && hasBit entry.operationFlags 0x1000 then
    if entry.descriptor = Descriptor.workingDirectory.number then
      .ok (statusOf (FileSystem.modeOf .directory) (FileSystem.sizeOf .directory))
    else
      match kernel.descriptors.file? entry.descriptor with
      | some file => .ok (kernel.fileStatus file)
      | none => .error .badDescriptor
  else
    match (← kernel.files.resolve path.bytes).node with
    | some node => .ok (statusOf (FileSystem.modeOf node) (FileSystem.sizeOf node))
    | none => .error .noEntry

/-- Create a socket of the family and type in an entry. -/
def createSocket (entry : SubmissionEntry) (kernel : Kernel) :
    Except ErrorNumber (Descriptor × Kernel) := do
  let word := offsetOf entry &&& 0xffffffff
  if word &&& ~~~0x8080f ≠ 0 then .error .invalidArgument
  let some family := [AddressFamily.inet, .inet6].find? (·.native = entry.descriptor)
    | .error .noSuchFamily
  match SocketType.all.find? fun type => type.native.toInt64.toUInt64 = word &&& Socket.typeMask with
  | some .stream => .ok (kernel.openFile (.socket (.fresh family .stream)))
  | some .datagram => .ok (kernel.openFile (.socket (.fresh family .datagram)))
  | some .raw => .error .noSuchProtocol
  | some .seqPacket => .error .noSuchSocketType
  | none => .error .invalidArgument

/-- The descriptor that was opened, as an attempt. -/
def opened (kernel : Kernel) :
    Except ErrorNumber (Descriptor × Kernel) → Attempt × Kernel
  | .ok (descriptor, kernel) => (done descriptor.number .nothing, kernel)
  | .error error => (failed error, kernel)

/-- The length of a time specification in nanoseconds. -/
def nanosOf (spec : TimeSpec) : Nat := spec.seconds.toNat * 1000000000 + spec.nanos.toNat

/-- The moment when the timer of an entry that began at a given one runs out. -/
def expiry? (begun : Instant) (entry : SubmissionEntry) : Option Instant :=
  match entry.address with
  | .block _ (.timeSpec spec) => some (begun + nanosOf spec)
  | _ => none

/-- Try an operation on an open file. -/
def attemptOn (entry : SubmissionEntry) (file : OpenFile) (kernel : Kernel) : Attempt × Kernel :=
  match entry.opcode with
  | .read => kernel.readFile false entry file
  | .readv => kernel.readFile true entry file
  | .write => kernel.writeFile false entry file
  | .writev => kernel.writeFile true entry file
  | .splice => kernel.spliceFiles entry file
  | .close => (counted 0, (kernel.closeFile ⟨entry.descriptor⟩).2)
  | .pollAdd =>
    match file with
    | .counter _ =>
      (if kernel.isReadable ⟨entry.descriptor⟩ then counted 1 else waiting, kernel)
    | _ => (counted 1, kernel)
  | .accept =>
    match file with
    | .socket socket =>
      (if socket.isListening then waiting else failed .invalidArgument, kernel)
    | _ => (failed .notSocket, kernel)
  | .connect =>
    match file with
    | .socket _ => (failed .connectionRefused, kernel)
    | _ => (failed .notSocket, kernel)
  | _ => (failed .invalidArgument, kernel)

/-- Try the first operation of a chain. -/
def attempt (chain : Chain) (kernel : Kernel) : Attempt × Kernel :=
  let entry := chain.head
  match entry.opcode with
  | .nop => (counted 0, kernel)
  | .timeout =>
    match expiry? chain.begun entry with
    | some moment => (if moment ≤ kernel.clock then failed .timerExpired else waiting, kernel)
    | none => (failed .badAddress, kernel)
  | .linkTimeout => (failed .invalidArgument, kernel)
  | .openAt =>
    match entry.address with
    | .block _ (.path path) =>
      kernel.opened (kernel.openPath path entry.operationFlags entry.length)
    | _ => (failed .badAddress, kernel)
  | .statx =>
    match entry.address with
    | .block _ (.path path) =>
      match kernel.queryStatus path entry with
      | .ok block => (done 0 (.status block), kernel)
      | .error error => (failed error, kernel)
    | _ => (failed .badAddress, kernel)
  | .socket => kernel.opened (kernel.createSocket entry)
  | _ =>
    match chain.file with
    | some file => kernel.attemptOn entry file
    | none => (failed .badDescriptor, kernel)

end Kernel

end CompletionEngine.Simulation
