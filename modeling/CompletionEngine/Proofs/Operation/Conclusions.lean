import CompletionEngine.Proofs.Flags.Bits
import CompletionEngine.Proofs.Operation.Supplies
import CompletionEngine.Proofs.Platform.SocketTrace

/-!
# What a completion comes to

A result is read by its sign. A negative one is a failure with the number that it negates, apart
from the few by which timers tell that they ran out or were disarmed. Any other is a success with
the value of its kind. Two kinds of operations are not finished by their result: it only names a new
descriptor, on which a script of socket calls is run before anybody is told of it. If that stops at
a failure, the descriptor is closed and the failure is what the operation comes to.

A guard is the exception. It takes a positive result, which the kernel has no reason to complete it
with, for a failure whose number is the result itself.
-/

namespace CompletionEngine

section Options

/-- The native names of the options that a set asks for, in the order in which they are applied:
reuse of an address, reuse of a port, keeping alive, no delay. -/
def NativeOption.wanted (options : SocketOptions) : List NativeOption :=
  ([(0, ⟨1, 2⟩), (1, ⟨1, 15⟩), (2, ⟨1, 9⟩), (3, ⟨6, 1⟩)] : List (Nat × NativeOption)).filterMap
    fun row => if options.bits.getLsbD row.1 then some row.2 else none

theorem NativeOption.ofSet_eq_wanted (options : SocketOptions) :
    ofSet options = wanted options := by
  have contains (index : Nat) (inside : index < 32) :
      options.contains ⟨BitVec.twoPow 32 index⟩ = options.bits.getLsbD index :=
    options.contains_twoPow inside
  have table_eq : table =
      [(⟨BitVec.twoPow 32 0⟩, ⟨1, 2⟩), (⟨BitVec.twoPow 32 1⟩, ⟨1, 15⟩),
        (⟨BitVec.twoPow 32 2⟩, ⟨1, 9⟩), (⟨BitVec.twoPow 32 3⟩, ⟨6, 1⟩)] := rfl
  unfold ofSet wanted
  rw [table_eq]
  simp only [List.filter_cons, List.filter_nil, List.filterMap_cons, List.filterMap_nil,
    contains 0 (by omega), contains 1 (by omega), contains 2 (by omega), contains 3 (by omega)]
  cases options.bits.getLsbD 0 <;> cases options.bits.getLsbD 1 <;>
    cases options.bits.getLsbD 2 <;> cases options.bits.getLsbD 3 <;> rfl

end Options

/-- The calls that switch on what a set of options asks for. -/
def NativeOption.script (options : SocketOptions) (socket : Descriptor) : List SocketCall :=
  (wanted options).map (.setOption socket)

/-- The calls that make a listener of a socket. -/
def ListenParams.script (params : ListenParams) (socket : Descriptor) : List SocketCall :=
  NativeOption.script params.options socket ++
    [.bind socket (AddressBlock.blank.assign params.address), .listen socket params.backlog,
      .boundAddress socket .blank]

/-- The peer's address block as the kernel leaves it. -/
def AddressBlock.written (writes : List KernelWrite) : AddressBlock :=
  writes.foldl (fun block written => match written with
    | .peer bytes length => block.receive bytes length
    | _ => block) .blank

/-- The status block as the kernel leaves it. -/
def StatusBlock.written (writes : List KernelWrite) : StatusBlock :=
  writes.foldl (fun block written => match written with
    | .status found => found
    | _ => block) .zero

/-- A listener as it was asked for, and as the calls that finish it tell of it. -/
structure Listener.ReportedBy (listener : Listener) (created : Descriptor) (params : ListenParams)
    (trace : SocketTrace) : Prop where
  socket_eq : listener.socket = created
  queueDepth_eq : listener.queueDepth = params.queueDepth
  told : ∃ (earlier : SocketTrace) (backlog : Int32) (bound : AddressBlock),
    trace = earlier ++
      [(.listen created backlog, .ok none), (.boundAddress created .blank, .ok (some bound))] ∧
    backlog.toInt = min params.queueDepth.toNat (2 ^ 31 - 1) ∧
    listener.address = bound.extract?.getD params.address

/-- What there is to go by when an operation ends. -/
structure Kind.Ending (kind : Kind) where
  params : kind.Params
  /-- The time since they were accepted. -/
  elapsed : Elapsed
  /-- What the kernel has written since. -/
  writes : List KernelWrite
  result : Int32

namespace Kind.Ending

/-- The descriptor that the result names, if it names one. -/
def created {kind : Kind} (ending : kind.Ending) : Descriptor := ⟨ending.result⟩

/-- The calls that finish a new socket. -/
def script : {kind : Kind} → kind.Ending → List SocketCall
  | .socket, ending => NativeOption.script (SocketParams.options ending.params) ending.created
  | .listen, ending => ListenParams.script ending.params ending.created
  | _, _ => []

/-- What a success yields after the calls of a trace. -/
def Yields : {kind : Kind} → kind.Ending → SocketTrace → kind.Output → Prop
  | .delay, ending, _, elapsed => elapsed = ending.elapsed
  | .guard, _, _, expiry => expiry = Expiry.disarmed
  | .read, ending, _, count => (UInt64.toNat count : Int) = ending.result.toInt
  | .write, ending, _, count => (UInt64.toNat count : Int) = ending.result.toInt
  | .readVector, ending, _, count => (UInt64.toNat count : Int) = ending.result.toInt
  | .writeVector, ending, _, count => (UInt64.toNat count : Int) = ending.result.toInt
  | .splice, ending, _, count => (UInt64.toNat count : Int) = ending.result.toInt
  | .opening, ending, _, opened => opened = ending.created
  | .socket, ending, _, opened => opened = ending.created
  | .listen, ending, trace, listener =>
    Listener.ReportedBy listener ending.created ending.params trace
  | .accept, ending, _, connection =>
    connection = (⟨ending.created, (AddressBlock.written ending.writes).extract?⟩ : Connection)
  | .connect, ending, _, connected => connected = ending.params.1
  | .status, ending, _, found => found = (StatusBlock.written ending.writes).decode
  | .nop, _, _, _ => True
  | .close, _, _, _ => True

/-- What a negative result yields that tells of no error. -/
def spared? : {kind : Kind} → kind.Ending → Option kind.Output
  | .delay, ending =>
    if ending.result = ErrorNumber.timerExpired.toResult then some ending.elapsed else none
  | .guard, ending =>
    if ending.result = ErrorNumber.timerExpired.toResult then some Expiry.fired
    else if ending.result ∈
        [ErrorNumber.cancelled.toResult, ErrorNumber.noEntry.toResult, -114] then
      some Expiry.disarmed
    else none
  | _, _ => none

end Kind.Ending

section Scripts

variable {σ : Type} (calls : SocketCalls σ)

theorem runs_setOptions (socket : Descriptor) (options : List NativeOption) (system : σ) :
    ∃ trace, calls.Runs (options.map (.setOption socket)) system
      (setOptions calls socket options system).1 trace
      (setOptions calls socket options system).2 := by
  induction options generalizing system with
  | nil => exact ⟨[], .done system⟩
  | cons option rest ih =>
      rcases answered : calls.setOption socket option system with ⟨error | done, next⟩
      · have made : calls.make (.setOption socket option) system = (.error error, next) := by
          simp only [SocketCalls.make, answered, Prod.map, Except.map, id]
        simp only [setOptions, answered]
        exact ⟨_, .fails made _⟩
      · have made : calls.make (.setOption socket option) system = (.ok none, next) := by
          simp only [SocketCalls.make, answered, Prod.map, Except.map, id]
        rcases ih next with ⟨trace, runs⟩
        simp only [setOptions, answered]
        exact ⟨_, .goesOn made runs⟩

theorem runs_script (socket : Descriptor) (options : SocketOptions) (system : σ) :
    ∃ trace, calls.Runs (NativeOption.script options socket) system
      (setOptions calls socket (NativeOption.ofSet options) system).1 trace
      (setOptions calls socket (NativeOption.ofSet options) system).2 := by
  rw [NativeOption.ofSet_eq_wanted]
  exact runs_setOptions calls socket _ system

theorem ListenParams.toInt_backlog (params : ListenParams) :
    params.backlog.toInt = min params.queueDepth.toNat (2 ^ 31 - 1) := by
  have small : min params.queueDepth.toNat 0x7fffffff < 2 ^ 31 := by omega
  rw [backlog, Int32.toInt_ofNat_of_lt small]
  omega

/-- The calls that make a listener of a socket whose options are set. -/
theorem runs_establish (socket : Descriptor) (params : ListenParams)
    (scratch : Option AddressBlock) (system : σ) :
    ∃ trace, calls.Runs (params.script socket) system
        ((establish calls socket params scratch system).1.map fun _ => ()) trace
        (establish calls socket params scratch system).2.2 ∧
      ∀ listener, (establish calls socket params scratch system).1 = .ok listener →
        listener.ReportedBy socket params trace := by
  rcases runs_script calls socket params.options system with ⟨earlier, options⟩
  unfold establish
  rcases applied : setOptions calls socket (NativeOption.ofSet params.options) system with
    ⟨error | done, configured⟩
  · rw [applied] at options
    exact ⟨_, options.append_of_fails _, nofun⟩
  rw [applied] at options
  dsimp only
  rcases binds : calls.bind socket ((scratch.getD .blank).assign params.address) configured with
    ⟨error | done, bound⟩
  · have made : calls.make (.bind socket (AddressBlock.blank.assign params.address)) configured =
        (.error error, bound) := by
      rw [SocketCalls.make]
      exact congrArg _ binds
    exact ⟨_, options.append (.fails made _), nofun⟩
  have made : calls.make (.bind socket (AddressBlock.blank.assign params.address)) configured =
      (.ok none, bound) := by
    rw [SocketCalls.make]
    exact congrArg _ binds
  dsimp only
  rcases listens : calls.listen socket params.backlog bound with ⟨error | done, listening⟩
  · have refused : calls.make (.listen socket params.backlog) bound =
        (.error error, listening) := by
      rw [SocketCalls.make, listens]
      rfl
    exact ⟨_, options.append (.goesOn made (.fails refused _)), nofun⟩
  have listened : calls.make (.listen socket params.backlog) bound = (.ok none, listening) := by
    rw [SocketCalls.make, listens]
    rfl
  dsimp only
  rcases asks : calls.boundAddress socket .blank listening with ⟨error | found, asked⟩
  · have refused : calls.make (.boundAddress socket .blank) listening = (.error error, asked) := by
      rw [SocketCalls.make, asks]
      rfl
    rw [AddressBlock.reset, asks]
    exact ⟨_, options.append (.goesOn made (.goesOn listened (.fails refused _))), nofun⟩
  have answered : calls.make (.boundAddress socket .blank) listening =
      (.ok (some found), asked) := by
    rw [SocketCalls.make, asks]
    rfl
  rw [AddressBlock.reset, asks]
  refine ⟨_, options.append (.goesOn made (.goesOn listened (.goesOn answered (.done asked)))), ?_⟩
  rintro listener ⟨⟩
  let binding := SocketCall.bind socket (AddressBlock.blank.assign params.address)
  refine ⟨rfl, rfl, earlier ++ [(binding, .ok none)], params.backlog, found, ?_,
    params.toInt_backlog, rfl⟩
  rw [List.append_assoc]
  rfl

end Scripts

namespace Kind

/-- What a payload still knows when the result comes: what was asked for and when, and what the
kernel has written since. -/
def Recalls : (kind : Kind) → kind.Params → Instant → List KernelWrite → kind.Payload → Prop
  | delay, _, start, _, payload => DelayPayload.started payload = some start
  | socket, params, _, _, payload => payload = some params
  | listen, params, _, _, payload => ListenPayload.params payload = some params
  | accept, _, _, writes, payload =>
    ∃ place, AcceptPayload.peer payload = some ⟨place, .written writes⟩
  | connect, params, _, _, payload => ConnectPayload.socket payload = params.1
  | status, _, _, writes, payload =>
    ∃ place, StatusPayload.block payload = some ⟨place, .written writes⟩
  | _, _, _, _, _ => True

variable {kind : Kind} {params : kind.Params} {start : Instant}

theorem recalls_of_prepare {now : Moment} {before payload : kind.Payload}
    (prepared : kind.operation.prepare now params before = .ok payload) :
    kind.Recalls params now.time [] payload := by
  cases kind with
  | status =>
      cases path : NativePath.ofBytes (StatusParams.start params).2 with
      | error failure => simp [operation, Operation.status, path, bind, Except.bind] at prepared
      | ok path' =>
          simp only [operation, Operation.status, path, bind, Except.bind] at prepared
          cases prepared
          exact ⟨_, rfl⟩
  | accept =>
      cases prepared
      exact ⟨_, rfl⟩
  | delay | socket | listen | connect =>
      cases prepared
      rfl
  | _ => trivial

theorem Recalls.receive {writes : List KernelWrite} {payload : kind.Payload}
    (recalls : kind.Recalls params start writes payload) (written : KernelWrite) :
    kind.Recalls params start (writes ++ [written]) (kind.operation.receive written payload) := by
  cases kind with
  | accept =>
      rcases payload with ⟨socket, flags, peer⟩
      rcases recalls with ⟨place, recalls⟩
      change peer = some ⟨place, .written writes⟩ at recalls
      subst recalls
      refine ⟨place, ?_⟩
      simp only [AddressBlock.written, List.foldl_append]
      cases written <;> rfl
  | status =>
      rcases payload with ⟨directory, path, flags, mask, block⟩
      rcases recalls with ⟨place, recalls⟩
      change block = some ⟨place, .written writes⟩ at recalls
      subst recalls
      refine ⟨place, ?_⟩
      simp only [StatusBlock.written, List.foldl_append]
      cases written <;> rfl
  | _ => exact recalls

end Kind

section Results

variable {α : Type} {result : Int32}

theorem checkResult_of_neg (negative : result < 0) (value : UInt32 → α) :
    checkResult result value = .error (.ofResult result) := by
  rw [checkResult, if_pos negative]

theorem checkResult_of_nonneg (nonneg : 0 ≤ result) (value : UInt32 → α) :
    checkResult result value = .ok (value result.toUInt32) := by
  rw [checkResult, if_neg (Int32.not_lt.mpr nonneg)]

theorem descriptorOfResult_toUInt32 (result : Int32) :
    descriptorOfResult result.toUInt32 = ⟨result⟩ := by
  rw [descriptorOfResult, Int32.toInt32_toUInt32]

theorem toNat_toUInt32 (nonneg : 0 ≤ result) :
    (result.toUInt32.toUInt64.toNat : Int) = result.toInt := by
  have signless : 0 ≤ result.toInt := Int32.le_iff_toInt_le.mp nonneg
  rw [UInt32.toNat_toUInt64, Int32.toNat_toUInt32_of_le nonneg, ← Int32.toNat_toInt]
  omega

theorem neg_result_eq_iff (number : Int32) : -result = number ↔ result = -number := by
  constructor
  · rintro rfl
    exact Int32.neg_neg.symm
  · rintro rfl
    exact Int32.neg_neg

theorem discard_of_nonneg {σ : Type} (nonneg : 0 ≤ result) (calls : SocketCalls σ) (system : σ) :
    discard calls ⟨result⟩ system = calls.close ⟨result⟩ system := by
  rw [discard, if_pos]
  exact decide_eq_true nonneg

end Results

namespace Kind.Ending

variable {kind : Kind} (ending : kind.Ending) {σ : Type} (calls : SocketCalls σ)
  {now start : Instant} {payload : kind.Payload} (system : σ)

/-- No script closes what it is to finish, or anything else. -/
theorem closed?_of_mem_script {call : SocketCall} (member : call ∈ ending.script) :
    call.closed? = none := by
  rcases ending with ⟨params, elapsed, writes, result⟩
  cases kind with
  | socket =>
      rcases List.mem_map.mp member with ⟨option, _, rfl⟩
      rfl
  | listen =>
      rcases List.mem_append.mp member with applies | establishes
      · rcases List.mem_map.mp applies with ⟨option, _, rfl⟩
        rfl
      · simp only [List.mem_cons, List.not_mem_nil, or_false] at establishes
        rcases establishes with rfl | rfl | rfl <;> rfl
  | _ => cases member

theorem creates_of_mem_script {call : SocketCall} (member : call ∈ ending.script) :
    kind = .socket ∨ kind = .listen := by
  cases kind with
  | socket => exact .inl rfl
  | listen => exact .inr rfl
  | _ => cases member

theorem finishes (recalls : kind.Recalls ending.params start ending.writes payload)
    (elapsed : ending.elapsed = now - start) (nonneg : 0 ≤ ending.result)
    (unguarded : kind = .guard → ending.result = 0) :
    ∃ trace, calls.Finishes ending.created ending.script ending.Yields system
      (kind.operation.translate calls now ending.result payload system).1 trace
      (kind.operation.translate calls now ending.result payload system).2.2 := by
  rcases ending with ⟨params, elapsed, writes, result⟩
  have counted := toNat_toUInt32 nonneg
  have checked {α : Type} (value : UInt32 → α) := checkResult_of_nonneg nonneg value
  cases kind with
  | socket =>
      cases recalls
      rcases runs_script calls ⟨result⟩ (SocketParams.options params) system with ⟨trace, runs⟩
      simp only [operation, Operation.socket, checked, descriptorOfResult_toUInt32]
      rcases applied : setOptions calls ⟨result⟩ _ system with ⟨error | done, after⟩
      · rw [applied] at runs
        simp only [discard_of_nonneg nonneg]
        exact ⟨_, .discards runs⟩
      · rw [applied] at runs
        exact ⟨_, .keeps runs rfl⟩
  | listen =>
      rcases payload with ⟨asked, scratch⟩
      change asked = some params at recalls
      subst recalls
      rcases runs_establish calls ⟨result⟩ params scratch system with ⟨trace, runs, reports⟩
      simp only [operation, Operation.listen, checked, descriptorOfResult_toUInt32]
      rcases established : establish calls ⟨result⟩ params scratch system with
        ⟨error | listener, block, after⟩
      · rw [established] at runs
        simp only [discard_of_nonneg nonneg]
        exact ⟨_, .discards runs⟩
      · rw [established] at runs reports
        exact ⟨_, .keeps runs (reports listener rfl)⟩
  | delay =>
      rcases payload with ⟨spec, started⟩
      change started = some start at recalls
      subst recalls
      simp only [operation, Operation.delay, nonneg, true_or, if_true]
      exact ⟨[], .keeps (.done system) elapsed.symm⟩
  | guard =>
      have zero : result = 0 := unguarded rfl
      subst zero
      have disarmed : Expiry.ofResult 0 = .ok .disarmed := rfl
      simp only [operation, Operation.guard, disarmed]
      exact ⟨[], .keeps (.done system) rfl⟩
  | status =>
      rcases payload with ⟨directory, path, flags, mask, block⟩
      rcases recalls with ⟨place, recalls⟩
      change block = some ⟨place, .written writes⟩ at recalls
      subst recalls
      simp only [operation, Operation.status, checked]
      exact ⟨[], .keeps (.done system) rfl⟩
  | accept =>
      rcases payload with ⟨socket, flags, peer⟩
      rcases recalls with ⟨place, recalls⟩
      change peer = some ⟨place, .written writes⟩ at recalls
      subst recalls
      simp only [operation, Operation.accept, checked, descriptorOfResult_toUInt32]
      exact ⟨[], .keeps (.done system) rfl⟩
  | connect =>
      simp only [operation, Operation.connect, checked]
      exact ⟨[], .keeps (.done system) recalls⟩
  | opening =>
      simp only [operation, Operation.opening, checked, descriptorOfResult_toUInt32]
      exact ⟨[], .keeps (.done system) rfl⟩
  | nop | close =>
      simp only [operation, Operation.nop, Operation.close, checked]
      exact ⟨[], .keeps (.done system) trivial⟩
  | read | write | readVector | writeVector | splice =>
      simp only [operation, Operation.read, Operation.write, Operation.readVector,
        Operation.writeVector, Operation.splice, Operation.transfer, Operation.vectorTransfer,
        checked]
      exact ⟨[], .keeps (.done system) counted⟩

/-- What a negative result comes to. It makes no calls. -/
def verdict : Except Failure kind.Output :=
  match ending.spared? with
  | some output => .ok output
  | none => .error (.native ⟨(-ending.result.toInt).toNat⟩)

theorem translate_of_neg (recalls : kind.Recalls ending.params start ending.writes payload)
    (elapsed : ending.elapsed = now - start) (negative : ending.result < 0) :
    kind.operation.translate calls now ending.result payload system =
      (ending.verdict, payload, system) := by
  rcases ending with ⟨params, elapsed, writes, result⟩
  have checked {α : Type} (value : UInt32 → α) := checkResult_of_neg negative value
  have code_eq : Failure.ofResult result = .native ⟨(-result.toInt).toNat⟩ := by
    have below : result.toInt < 0 := Int32.lt_iff_toInt_lt.mp negative
    have magnitude : result.toInt.natAbs = (-result.toInt).toNat := by omega
    rw [Failure.ofResult, ErrorNumber.ofResult, magnitude]
  cases kind with
  | delay =>
      rcases payload with ⟨spec, started⟩
      change started = some start at recalls
      subst recalls elapsed
      have below : ¬ 0 ≤ result := Int32.not_le.mpr negative
      have timer_eq : ErrorNumber.timerExpired.toResult = -62 := by decide
      simp only [operation, Operation.delay, verdict, spared?, below, false_or, timer_eq, code_eq]
      split <;> rfl
  | guard =>
      have nonzero : result ≠ 0 := (Int32.ne_of_lt negative)
      have numbers : ErrorNumber.timerExpired.toResult = -62 ∧
          ErrorNumber.cancelled.toResult = -125 ∧ ErrorNumber.noEntry.toResult = -2 := by decide
      simp only [operation, Operation.guard, verdict, spared?, Expiry.ofResult, numbers,
        neg_result_eq_iff, Int32.neg_zero, code_eq, nonzero, false_or, List.mem_cons,
        List.not_mem_nil, or_false]
      split
      · rfl
      · split <;> rfl
  | socket | listen =>
      simp only [operation, Operation.socket, Operation.listen, checked, code_eq]
      rfl
  | status =>
      simp only [operation, Operation.status, checked, code_eq]
      rfl
  | nop | close | accept | connect =>
      simp only [operation, Operation.nop, Operation.close, Operation.accept, Operation.connect,
        checked, code_eq]
      rfl
  | _ =>
      exact Prod.ext ((checked _).trans (congrArg Except.error code_eq)) rfl

/-- A guard takes a positive result for a failure. -/
theorem translate_guard_of_pos {result : Int32} (positive : 0 < result) (now : Instant)
    (spec : Option (Owned TimeSpec)) :
    Kind.guard.operation.translate calls now result spec system =
      (.error (.native ⟨result.toInt.toNat⟩), spec, system) := by
  have above : 0 < result.toInt := Int32.lt_iff_toInt_lt.mp positive
  have magnitude : result.toInt.natAbs = result.toInt.toNat := by omega
  have other {number : Int32} (negated : number ≤ 0) : result ≠ number :=
    (Int32.ne_of_lt (Int32.lt_of_le_of_lt negated positive)).symm
  simp only [operation, Operation.guard, Expiry.ofResult, neg_result_eq_iff]
  rw [if_neg (other (by decide)), if_neg, Failure.ofResult, ErrorNumber.ofResult, magnitude]
  rintro (zero | cancelled | missing | already)
  · exact other (by decide) zero
  · exact other (by decide) cancelled
  · exact other (by decide) missing
  · exact other (by decide) already

end Kind.Ending

end CompletionEngine
