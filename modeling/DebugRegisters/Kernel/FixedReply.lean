import DebugRegisters.Kernel

/-!
# A kernel with fixed replies

A kernel that answers every query for its debug registers alike, and that can
do nothing else but take, or refuse, the single data breakpoint register. It
counts the queries and keeps the values written.
-/

set_option autoImplicit false

namespace DebugRegisters

structure FixedReplyKernel where
  architecture : Architecture
  reply : Except KernelError DebugInfo
  /-- The error of every write to the data breakpoint register, if they fail. -/
  legacyError : Option KernelError
  queries : Nat
  /-- The values written, oldest first, also those refused. -/
  legacyWrites : List UInt64

namespace FixedReplyKernel

instance : Kernel FixedReplyKernel where
  architecture := architecture
  debugInfo kernel _ := (kernel.reply, { kernel with queries := kernel.queries + 1 })
  readRegisters kernel _ _ := (.error .notSupported, kernel)
  writeRegisters kernel _ _ _ := (.error .notSupported, kernel)
  register kernel _ _ := (.error .notSupported, kernel)
  deregister kernel _ _ := (.error .notSupported, kernel)
  writeLegacy kernel _ value :=
    let answer := match kernel.legacyError with
      | none => .ok ()
      | some error => .error error
    (answer, { kernel with legacyWrites := kernel.legacyWrites ++ [value] })
  lastTrap kernel _ := (.error .notSupported, kernel)

end FixedReplyKernel

end DebugRegisters
