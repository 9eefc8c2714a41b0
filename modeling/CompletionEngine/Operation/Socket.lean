import CompletionEngine.Operation.Basic

/-!
# Sockets

Creating, listening, accepting and connecting. The ring only creates a socket; its options are set,
and a listener is bound and put to listen, when the creation has completed. Whatever fails on the
way closes the new descriptor again, because nobody else knows of it.
-/

namespace CompletionEngine

/-- A socket to create. -/
structure SocketParams where
  family : AddressFamily
  type : SocketType
  flags : SocketFlags
  options : SocketOptions

/-- A stream socket that other programs do not inherit. -/
def SocketParams.stream (family : AddressFamily) : SocketParams :=
  ⟨family, .stream, .closeOnExec, .empty⟩

/-- A socket to create, bind and listen on. -/
structure ListenParams where
  address : SocketAddress
  type : SocketType
  flags : SocketFlags
  options : SocketOptions
  queueDepth : UInt64

namespace ListenParams

/-- A stream listener that may take over an address just left, with a backlog of 128. -/
def on (address : SocketAddress) : ListenParams :=
  ⟨address, .stream, .closeOnExec, .reuseAddress, 128⟩

/-- The socket that a listener needs. -/
def socket (params : ListenParams) : SocketParams :=
  ⟨params.address.family, params.type, params.flags, params.options⟩

/-- The backlog, cut to what a signed 32-bit number can say. -/
def backlog (params : ListenParams) : Int32 := Int32.ofNat (min params.queueDepth.toNat 0x7fffffff)

end ListenParams

/-- The native parameters of a listen, with a block for addresses. Only calls that return at once are
handed this block, so where it lies makes no difference. -/
structure ListenPayload where
  params : Option ListenParams
  scratch : Option AddressBlock

/-- A socket that listens. -/
structure Listener where
  socket : Descriptor
  /-- The address it is bound to. -/
  address : SocketAddress
  queueDepth : UInt64
  deriving DecidableEq

/-- The native parameters of an accept, with the block for the peer's address. -/
structure AcceptPayload where
  socket : Descriptor
  flags : SocketFlags
  peer : Option (Owned AddressBlock)

/-- An accepted connection. -/
structure Connection where
  socket : Descriptor
  /-- The other end, when its address is of a family known here. -/
  peer : Option SocketAddress
  deriving DecidableEq

/-- The native parameters of a connect, with the block that holds the address. -/
structure ConnectPayload where
  socket : Descriptor
  address : Option (Owned AddressBlock)

/-- Fill the fields of creating a socket into a record. -/
def SocketParams.fill (params : SocketParams) (record : SubmitRecord) : SubmitRecord :=
  { record with
    opcode := .socket
    descriptor := params.family.native
    offset := (params.type.native ||| params.flags.toUInt32.toInt32).toInt64.toUInt64
    length := 0 }

section Calls

variable {σ : Type} (calls : SocketCalls σ)

/-- Switch options on, one after the other. The first failure ends it. -/
def setOptions (socket : Descriptor) : List NativeOption → σ → Except ErrorNumber Unit × σ
  | [], system => (.ok (), system)
  | option :: rest, system =>
    match calls.setOption socket option system with
    | (.ok (), system) => setOptions socket rest system
    | (.error error, system) => (.error error, system)

/-- Close a descriptor that was created but cannot be handed out. -/
def discard (socket : Descriptor) (system : σ) : σ :=
  if socket.isValid then calls.close socket system else system

/--
Bind a socket, put it to listen and find out the address it got, in the given block. The block is
handed back as the last call left it.
-/
def establish (socket : Descriptor) (params : ListenParams) (scratch : Option AddressBlock)
    (system : σ) : Except ErrorNumber Listener × Option AddressBlock × σ :=
  match setOptions calls socket (NativeOption.ofSet params.options) system with
  | (.error error, system) => (.error error, scratch, system)
  | (.ok (), system) =>
    let block := (scratch.getD .blank).assign params.address
    match calls.bind socket block system with
    | (.error error, system) => (.error error, some block, system)
    | (.ok (), system) =>
      match calls.listen socket params.backlog system with
      | (.error error, system) => (.error error, some block, system)
      | (.ok (), system) =>
        match calls.boundAddress socket block.reset system with
        | (.error error, system) => (.error error, some block.reset, system)
        | (.ok bound, system) =>
          (.ok ⟨socket, bound.extract?.getD params.address, params.queueDepth⟩, some bound, system)

end Calls

namespace Operation

/-- Create a socket and set its options. -/
def socket : Operation where
  Params := SocketParams
  Output := Descriptor
  Payload := Option SocketParams
  fresh := none
  prepare _ params _ := .ok (some params)
  fill
    | some params, record => params.fill record
    | none, record => { record with opcode := .nop }
  receive _ payload := payload
  translate calls _ result payload system :=
    match checkResult result descriptorOfResult with
    | .error failure => (.error failure, payload, system)
    | .ok socket =>
      let options := match payload with
        | some params => params.options
        | none => .empty
      match setOptions calls socket (NativeOption.ofSet options) system with
      | (.ok (), system) => (.ok socket, payload, system)
      | (.error error, system) => (.error (.native error), payload, discard calls socket system)
  recycle _ := none
  dispose _ := none

/-- Create a socket, bind it and put it to listen. -/
def listen : Operation where
  Params := ListenParams
  Output := Listener
  Payload := ListenPayload
  fresh := ⟨none, none⟩
  prepare _ params payload := .ok { payload with params := some params }
  fill payload record :=
    match payload.params with
    | some params => params.socket.fill record
    | none => { record with opcode := .nop }
  receive _ payload := payload
  translate calls _ result payload system :=
    match checkResult result descriptorOfResult with
    | .error failure => (.error failure, payload, system)
    | .ok socket =>
      match payload.params with
      | none => (.error .noListenParameters, payload, discard calls socket system)
      | some params =>
        match establish calls socket params payload.scratch system with
        | (.ok listener, scratch, system) =>
          (.ok listener, { payload with scratch := scratch }, system)
        | (.error error, scratch, system) =>
          (.error (.native error), { payload with scratch := scratch },
            discard calls socket system)
  recycle payload := { payload with params := none }
  dispose _ := ⟨none, none⟩

/-- Accept one connection. -/
def accept : Operation where
  Params := Descriptor × SocketFlags
  Output := Connection
  Payload := AcceptPayload
  fresh := ⟨.invalid, .empty, none⟩
  prepare now params payload :=
    let peer := payload.peer.getD ⟨now.heap.place, .blank⟩
    .ok ⟨params.1, params.2, some (peer.map (·.reset))⟩
  fill payload record :=
    { record with
      opcode := .accept
      descriptor := payload.socket.number
      address := match payload.peer with
        | some peer => .block peer.place (.address peer.content)
        | none => record.address
      address2 := match payload.peer with
        | some peer => .block peer.place (.addressLength peer.content)
        | none => record.address2
      operationFlags := payload.flags.toUInt32 }
  receive written payload :=
    match written with
    | .peer bytes length =>
      { payload with peer := payload.peer.map (·.map (·.receive bytes length)) }
    | _ => payload
  translate _ _ result payload system :=
    (checkResult result fun socket =>
      ⟨descriptorOfResult socket, payload.peer.bind (·.content.extract?)⟩, payload, system)
  recycle payload := { payload with socket := .invalid, flags := .empty }
  dispose _ := ⟨.invalid, .empty, none⟩

/-- Connect a socket. -/
def connect : Operation where
  Params := Descriptor × SocketAddress
  Output := Descriptor
  Payload := ConnectPayload
  fresh := ⟨.invalid, none⟩
  prepare now params payload :=
    let block := payload.address.getD ⟨now.heap.place, .blank⟩
    .ok ⟨params.1, some (block.map (·.assign params.2))⟩
  fill payload record :=
    { record with
      opcode := .connect
      descriptor := payload.socket.number
      address := match payload.address with
        | some block => .block block.place (.address block.content)
        | none => record.address
      offset := match payload.address with
        | some block => block.content.length.toUInt64
        | none => record.offset }
  receive _ payload := payload
  translate _ _ result payload system :=
    (checkResult result fun _ => payload.socket, payload, system)
  recycle payload := { payload with socket := .invalid }
  dispose _ := ⟨.invalid, none⟩

end Operation

end CompletionEngine
