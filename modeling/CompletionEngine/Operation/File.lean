import CompletionEngine.Operation.Basic

/-!
# Files

Opening, closing and asking for the status of a file. A path belongs to one operation only, while
the status block is kept for the next query and zeroed when that is prepared.
-/

namespace CompletionEngine

/-- Which file to open and how. -/
structure OpenParams where
  path : List UInt8
  flags : OpenFlags
  mode : FilePermission

/-- Open for reading, with the default mode. -/
def OpenParams.ofPath (path : List UInt8) : OpenParams := ⟨path, .empty, .defaultFile⟩

/-- The native parameters of opening a file. -/
structure OpenPayload where
  path : Option (Owned NativePath)
  flags : OpenFlags
  mode : FilePermission

/-- What a status query is about. -/
inductive StatusTarget where
  /-- A path, from the working directory. -/
  | path (path : List UInt8)
  /-- An open descriptor. -/
  | descriptor (descriptor : Descriptor)

/-- A status query. -/
structure StatusParams where
  target : StatusTarget
  flags : StatusFlags
  mask : StatusMask

namespace StatusParams

/-- Query a path for everything the classic status call returns. -/
def ofPath (path : List UInt8) : StatusParams := ⟨.path path, .empty, .basicStatus⟩

/-- Query an open descriptor for everything the classic status call returns. -/
def ofDescriptor (descriptor : Descriptor) : StatusParams :=
  ⟨.descriptor descriptor, .emptyPath, .basicStatus⟩

/-- Query with more lookup flags. -/
def withFlags (params : StatusParams) (flags : StatusFlags) : StatusParams :=
  { params with flags := params.flags.union flags }

/-- The directory a query starts from and the path it follows there. -/
def start (params : StatusParams) : Descriptor × List UInt8 :=
  match params.target with
  | .path path => (.workingDirectory, path)
  | .descriptor descriptor => (descriptor, [])

end StatusParams

/-- The native parameters of a status query, with the block it fills in. -/
structure StatusPayload where
  directory : Descriptor
  path : Option (Owned NativePath)
  flags : StatusFlags
  mask : StatusMask
  block : Option (Owned StatusBlock)

namespace Operation

/-- Close a descriptor. -/
def close : Operation where
  Params := Descriptor
  Output := Unit
  Payload := Descriptor
  fresh := .invalid
  prepare _ descriptor _ := .ok descriptor
  fill payload record := { record with opcode := .close, descriptor := payload.number }
  receive _ payload := payload
  translate _ _ result payload system := (checkResult result fun _ => (), payload, system)
  recycle _ := .invalid
  dispose _ := .invalid

/-- Open a file. -/
def opening : Operation where
  Params := OpenParams
  Output := Descriptor
  Payload := OpenPayload
  fresh := ⟨none, .empty, .empty⟩
  prepare now params _ := do
    let path ← NativePath.ofBytes params.path
    .ok ⟨some ⟨now.heap.place, path⟩, params.flags, params.mode⟩
  fill payload record :=
    { record with
      opcode := .openAt
      descriptor := Descriptor.workingDirectory.number
      address := .ofBlock? .path payload.path
      length := payload.mode.toUInt32
      operationFlags := payload.flags.toUInt32 }
  receive _ payload := payload
  translate _ _ result payload system := (checkResult result descriptorOfResult, payload, system)
  recycle payload := { payload with path := none }
  dispose payload := { payload with path := none }

/-- Ask for the status of a file. -/
def status : Operation where
  Params := StatusParams
  Output := FileStatus
  Payload := StatusPayload
  fresh := ⟨.invalid, none, .empty, .empty, none⟩
  prepare now params payload := do
    let path ← NativePath.ofBytes params.start.2
    let block := payload.block.getD ⟨now.heap.grow.place, .zero⟩
    .ok ⟨params.start.1, some ⟨now.heap.place, path⟩, params.flags, params.mask,
      some (block.map (·.reset))⟩
  fill payload record :=
    { record with
      opcode := .statx
      descriptor := payload.directory.number
      address := .ofBlock? .path payload.path
      address2 := .ofBlock? .status payload.block
      length := payload.mask.toUInt32
      operationFlags := payload.flags.toUInt32 }
  receive written payload :=
    match written with
    | .status block => { payload with block := payload.block.map (·.map fun _ => block) }
    | _ => payload
  translate _ _ result payload system :=
    let outcome := do
      checkResult result fun _ => ()
      match payload.block with
      | some block => .ok block.content.decode
      | none => .error .noStatusBlock
    (outcome, payload, system)
  recycle payload := { payload with path := none, directory := .invalid }
  dispose payload := { payload with path := none, directory := .invalid, block := none }

end Operation

end CompletionEngine
