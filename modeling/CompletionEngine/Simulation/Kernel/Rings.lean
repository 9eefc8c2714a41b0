import CompletionEngine.Simulation.Kernel.Operations

/-!
# The ring of the kernel

How the kernel carries out what is submitted. Linked entries form a chain and run one after the
other; when one of them fails, the rest of its chain is cancelled, unless the link is a hard one. A
timeout linked behind an operation cancels it when it runs out first, and is cancelled otherwise.

An entry may be refused before it begins. It completes with an error then, nothing else of its chain
is carried out, and what comes after it stays in the queue, unless it is linked to the next.

Whoever waits lets the clock move from one timer to the next, until enough has completed or the wait
has lasted as long as it may.
-/

namespace CompletionEngine.Simulation

namespace Kernel

/-- Whether an entry is linked to the next. -/
def isLinked (entry : SubmissionEntry) : Bool :=
  entry.flags.intersects (Flags.ioLink.union .ioHardLink)

/-- Whether the failure of an entry cancels the rest of its chain. -/
def breaksChain (entry : SubmissionEntry) : Bool := !entry.flags.contains .ioHardLink

/-- The end of the addresses at which a program may have memory. -/
def addressEnd : Nat := 0x7ffffffff000

/-- Why an entry is refused before it begins, if it is: no program has the memory it names. -/
def refusal? (entry : SubmissionEntry) : Option ErrorNumber :=
  match entry.opcode, entry.address with
  | .read, .word address | .write, .word address =>
    if addressEnd < address.toNat + (min entry.length maxTransfer).toNat then some .badAddress
    else none
  | _, _ => none

/-- How many entries are taken over: all up to the first that is refused and not linked. -/
def takenOver : List SubmissionEntry → Nat
  | [] => 0
  | entry :: rest =>
    if (refusal? entry).isSome && !isLinked entry then 1 else takenOver rest + 1

/-- Split entries into chains. -/
def chainsOf : List SubmissionEntry → List (List SubmissionEntry)
  | [] => []
  | entry :: rest =>
    match isLinked entry, chainsOf rest with
    | true, chain :: chains => (entry :: chain) :: chains
    | _, chains => [entry] :: chains

/-- Post the completion of an entry, unless it is a success that the entry keeps quiet about. -/
def post (entry : SubmissionEntry) (result : Int32) (written : KernelWrite) (kernel : Kernel) :
    Kernel :=
  if 0 ≤ result && entry.flags.contains .skipSuccess then kernel
  else { kernel with posted := ⟨entry.userData, result, 0, written⟩ :: kernel.posted }

/-- Cancel entries. -/
def cancel (entries : List SubmissionEntry) (kernel : Kernel) : Kernel :=
  entries.foldl (fun kernel entry => kernel.post entry ErrorNumber.cancelled.toResult .nothing)
    kernel

/-- The chain that begins with the first of some entries. -/
def beginChain? (kernel : Kernel) : List SubmissionEntry → Option Chain
  | [] => none
  | head :: rest => some ⟨head, kernel.descriptors.file? head.descriptor, kernel.clock, rest⟩

/-- The timeout linked behind the first operation of a chain, and what comes after it. -/
def guard? (chain : Chain) : Option (SubmissionEntry × List SubmissionEntry) :=
  match chain.rest with
  | entry :: rest => if entry.opcode = .linkTimeout then some (entry, rest) else none
  | [] => none

/-- What becomes of a chain whose first operation has completed. -/
def complete (chain : Chain) (result : Int32) (written : KernelWrite) (kernel : Kernel) :
    Option Chain × Kernel :=
  let kernel := kernel.post chain.head result written
  let (kernel, rest) := match guard? chain with
    | some (entry, rest) => (kernel.cancel [entry], rest)
    | none => (kernel, chain.rest)
  if result < 0 && breaksChain chain.head then (none, kernel.cancel rest)
  else (kernel.beginChain? rest, kernel)

/-- Whether the timeout linked behind an operation has run out. -/
def isExpired (chain : Chain) (kernel : Kernel) : Bool :=
  match (guard? chain).bind fun (entry, _) => expiry? chain.begun entry with
  | some moment => moment ≤ kernel.clock
  | none => false

/-- End a chain whose first operation ran out of time. -/
def expire (chain : Chain) (kernel : Kernel) : Kernel :=
  let kernel := kernel.cancel [chain.head]
  match chain.rest with
  | entry :: rest => (kernel.post entry ErrorNumber.timerExpired.toResult .nothing).cancel rest
  | [] => kernel

/-- Let the first chain that can move do so, and tell whether there was one. -/
def moveOne (skipped : List Chain) : List Chain → Kernel → Bool × Kernel
  | [], kernel => (false, kernel)
  | chain :: rest, kernel =>
    match { kernel with chains := skipped ++ chain :: rest }.attempt chain with
    | (.done result written, moved) =>
      let (next, moved) := complete chain result written moved
      (true, { moved with chains := skipped ++ next.toList ++ rest })
    | (.waiting, _) =>
      if isExpired chain kernel then
        (true, { expire chain kernel with chains := skipped ++ rest })
      else moveOne (skipped ++ [chain]) rest kernel

/-- The operations that have begun or wait behind one that has. -/
def outstanding (kernel : Kernel) : Nat :=
  kernel.chains.foldr (fun chain total => chain.rest.length + 1 + total) 0

/-- Let chains move, at most `fuel` times. -/
def settleFor : Nat → Kernel → Kernel
  | 0, kernel => kernel
  | fuel + 1, kernel =>
    match moveOne [] kernel.chains kernel with
    | (true, kernel) => settleFor fuel kernel
    | (false, kernel) => kernel

/-- Let every chain move as far as it can. Each move completes an operation. -/
def settle (kernel : Kernel) : Kernel := settleFor kernel.outstanding kernel

/-- End a chain with an entry that is refused. All the others are cancelled. -/
def refuse (entries : List SubmissionEntry) (kernel : Kernel) : Kernel :=
  entries.foldl (fun kernel entry =>
    kernel.post entry ((refusal? entry).getD .cancelled).toResult .nothing) kernel

/-- Begin a chain and let everything move as far as it can. -/
def submitChain (kernel : Kernel) (entries : List SubmissionEntry) : Kernel :=
  if entries.any fun entry => (refusal? entry).isSome then kernel.refuse entries
  else { kernel with chains := kernel.chains ++ (kernel.beginChain? entries).toList }.settle

/-- The next moment at which a timer runs out. -/
def nextExpiry? (kernel : Kernel) : Option Instant :=
  (kernel.chains.flatMap fun chain =>
    (expiry? chain.begun chain.head).toList ++
      ((guard? chain).bind fun (entry, _) => expiry? chain.begun entry).toList).min?

/-- Wait until a deadline for completions, through at most `fuel` timers. Tell whether they came. -/
def waitFor (want : Nat) (deadline : Option Instant) : Nat → Kernel → Bool × Kernel
  | 0, kernel => (want ≤ kernel.posted.length, kernel)
  | fuel + 1, kernel =>
    if want ≤ kernel.posted.length then (true, kernel)
    else
      match kernel.nextExpiry?, deadline with
      | some moment, some last =>
        if moment ≤ last then
          waitFor want deadline fuel { kernel with clock := max kernel.clock moment }.settle
        else (false, { kernel with clock := max kernel.clock last })
      | some moment, none =>
        waitFor want deadline fuel { kernel with clock := max kernel.clock moment }.settle
      | none, some last => (false, { kernel with clock := max kernel.clock last })
      | none, none => (false, kernel)

/-- Take over entries, then wait for completions if that was all of them. -/
def enter (entries : List SubmissionEntry) (want : Nat) (limit : Option TimeSpec)
    (kernel : Kernel) : Except ErrorNumber Nat × Kernel :=
  let count := takenOver entries
  let kernel := (chainsOf (entries.take count)).foldl submitChain kernel.settle
  if count < entries.length then (.ok count, kernel)
  else
    let deadline := limit.map fun spec => kernel.clock + nanosOf spec
    let (came, kernel) := kernel.waitFor want deadline (kernel.outstanding + 1)
    (if !came && entries.isEmpty then .error .timerExpired else .ok count, kernel)

/-- The smallest power of two that is not below a number. -/
def roundUp (number : Nat) : Nat := number.nextPowerOfTwo

/-- The sizes that a ring may be set up with, and the capacity of its submission queue. -/
def setUpSize (size : RingSize) : Except ErrorNumber Nat :=
  let capacity := roundUp size.submissions.toNat
  if size.submissions = 0 ∨ 32768 < size.submissions.toNat then .error .invalidArgument
  else
    match size.completions with
    | none => .ok capacity
    | some completions =>
      if completions = 0 ∨ 65536 < completions.toNat ∨ roundUp completions.toNat < capacity then
        .error .invalidArgument
      else .ok capacity

/-- The ring calls. -/
def ringCalls : RingCalls Kernel where
  setUp size kernel := (setUpSize size, kernel)
  enter := enter
  reap kernel := (kernel.posted.reverse, { kernel with posted := [] })
  close kernel := { kernel with chains := [], posted := [] }

/-- Everything an engine needs of the kernel. -/
def systemCalls : SystemCalls Kernel where
  rings := ringCalls
  events := eventCalls
  sockets := socketCalls
  now kernel := kernel.clock

end Kernel

end CompletionEngine.Simulation
