import Redline.Node.Store

/-!
# Creations

The producers of the Node attempt to create Events at a sink that is code from elsewhere: a creation is a call, answered
with any result.  What they ask for has the flags and the lifetime of `makeInput`, and the Node store takes it
(`validInput_of_body`).
-/

namespace Redline.Input

open Redline.Lib Redline.Wire

def producerFlags : UInt8 := 0
def producerLifetimeSeconds : UInt32 := 3600

inductive CreationResult
  | enqueued | queueFull | invalidEvent | storageFailure
  deriving DecidableEq

/-- Programs that may call the sink. -/
abbrev SinkM := Prog fun _ : Node.EventInput => CreationResult

structure Emission where
  attempted : Bool
  result : CreationResult
  deriving DecidableEq

def noEmission : Emission := ⟨false, .invalidEvent⟩

def makeInput (family : UInt8) : Node.EventInput := ⟨family, producerFlags, producerLifetimeSeconds, 0, emptyBody⟩

def create (input : Node.EventInput) : SinkM Emission := do
  let result ← Prog.lift input
  return ⟨true, result⟩

theorem returns_create {answers : Node.EventInput → CreationResult → Prop} {input : Node.EventInput}
    {ops : List Node.EventInput} {emission : Emission} (h : Prog.Returns answers (create input) ops emission) :
    ops = [input] ∧ emission.attempted = true := by
  obtain ⟨result, ops', -, hret, rfl⟩ := Prog.returns_lift_bind.1 h
  obtain ⟨rfl, rfl⟩ := Prog.returns_pure.1 hret
  exact ⟨rfl, rfl⟩

/-- The store takes an input of the producers when it takes its body. -/
theorem validInput_of_body {family bodyLength : UInt8} {body : Body} (hlength : bodyLength.toNat ≤ maxBodySize)
    (hfamily : isRegisteredFamily family = true) (hbody : isValidFamilyBody family body bodyLength = true)
    (htail : zeroTail body bodyLength = true) :
    Node.Store.validInput { makeInput family with bodyLength, body } = true := by
  have hlifetime : (minLifetimeSeconds ≤ producerLifetimeSeconds) ∧ (producerLifetimeSeconds ≤ maxLifetimeSeconds) := by
    decide
  have hflags : (producerFlags &&& ~~~allowedFlags == 0) = true := by decide
  simp [Node.Store.validInput, isValidContent, makeInput, hlength, hfamily, hbody, htail, hlifetime.1, hlifetime.2, hflags]

end Redline.Input
