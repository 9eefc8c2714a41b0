import CompletionEngine.Failure

/-!
# Native paths

A path goes to the kernel as its bytes followed by a NUL byte, so it may not hold one itself.
-/

namespace CompletionEngine

/-- The bytes of a path without the NUL byte that ends it. -/
structure NativePath where
  bytes : List UInt8
  deriving DecidableEq

namespace NativePath

/-- The empty path. -/
def empty : NativePath := ⟨[]⟩

/-- The native path of some bytes, unless one of them is NUL. -/
def ofBytes (bytes : List UInt8) : Except Failure NativePath :=
  if bytes.contains 0 then .error .pathHoldsNul else .ok ⟨bytes⟩

/-- The length in memory, with the NUL byte at the end. -/
def nativeLength (path : NativePath) : Nat := path.bytes.length + 1

end NativePath

end CompletionEngine
