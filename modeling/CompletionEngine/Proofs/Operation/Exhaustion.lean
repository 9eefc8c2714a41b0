import CompletionEngine.Operation.Catalogue

/-!
# What operations do not run out of

An operation of any kind may refuse its parameters, and may be completed with an error. Neither is
ever told as running out of something: only the engine itself says so, of its pools and queues.
-/

namespace CompletionEngine

theorem NativePath.ofBytes_ne_exhausted {bytes : List UInt8} {failure : Failure}
    (refuses : NativePath.ofBytes bytes = .error failure) (resource : Resource) :
    failure ≠ .exhausted resource := by
  unfold NativePath.ofBytes at refuses
  split at refuses
  · cases refuses
    simp [Failure.pathHoldsNul]
  · cases refuses

/-- Refusing parameters is not running out of anything. -/
theorem Kind.prepare_ne_exhausted {kind : Kind} {now : Moment} {params : kind.Params}
    {payload : kind.Payload} {failure : Failure}
    (refuses : kind.operation.prepare now params payload = .error failure) (resource : Resource) :
    failure ≠ .exhausted resource := by
  cases kind with
  | opening =>
    cases path : NativePath.ofBytes (OpenParams.path params) with
    | ok path' => simp [operation, Operation.opening, path, bind, Except.bind] at refuses
    | error failure' =>
        simp only [operation, Operation.opening, path, bind, Except.bind, Except.error.injEq]
          at refuses
        exact refuses ▸ NativePath.ofBytes_ne_exhausted path resource
  | status =>
    cases path : NativePath.ofBytes (StatusParams.start params).2 with
    | ok path' => simp [operation, Operation.status, path, bind, Except.bind] at refuses
    | error failure' =>
        simp only [operation, Operation.status, path, bind, Except.bind, Except.error.injEq]
          at refuses
        exact refuses ▸ NativePath.ofBytes_ne_exhausted path resource
  | _ => cases refuses

theorem checkResult_ne_exhausted {α : Type} (result : Int32) (value : UInt32 → α)
    (resource : Resource) : checkResult result value ≠ .error (.exhausted resource) := by
  unfold checkResult
  split <;> simp [Failure.ofResult]

/-- Being completed with an error is not running out of anything. -/
theorem Kind.translate_ne_exhausted {σ : Type} (kind : Kind) (calls : SocketCalls σ)
    (now : Instant) (result : Int32) (payload : kind.Payload) (system : σ) (resource : Resource) :
    (kind.operation.translate calls now result payload system).1 ≠
      .error (.exhausted resource) := by
  cases kind with
  | nop | close | accept | connect =>
      simp only [operation, Operation.nop, Operation.close, Operation.accept, Operation.connect]
      exact checkResult_ne_exhausted result _ resource
  | delay =>
      simp only [operation, Operation.delay]
      split <;> simp [Failure.ofResult]
  | guard =>
      simp only [operation, Operation.guard, Expiry.ofResult]
      split
      · simp
      · split <;> simp [Failure.ofResult]
  | socket =>
      cases checked : checkResult result descriptorOfResult with
      | error failure =>
          simp only [operation, Operation.socket, checked]
          exact fun told => checkResult_ne_exhausted result _ resource (checked.trans told)
      | ok socket =>
          simp only [operation, Operation.socket, checked]
          split <;> simp
  | listen =>
      cases checked : checkResult result descriptorOfResult with
      | error failure =>
          simp only [operation, Operation.listen, checked]
          intro told
          cases told
          exact checkResult_ne_exhausted result _ resource checked
      | ok socket =>
          simp only [operation, Operation.listen, checked]
          split
          · simp [Failure.noListenParameters]
          · split <;> simp
  | status =>
      cases checked : checkResult result fun _ => () with
      | error failure =>
          simp only [operation, Operation.status, checked, bind, Except.bind]
          intro told
          cases told
          exact checkResult_ne_exhausted result _ resource checked
      | ok done =>
          simp only [operation, Operation.status, checked, bind, Except.bind]
          split <;> simp [Failure.noStatusBlock]
  | _ => exact checkResult_ne_exhausted result _ resource

end CompletionEngine
