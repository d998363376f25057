import Argon2Workbench.Context.Basic

namespace Argon2Workbench.Context

open Hash (littleEndian)
open Hash.Argon2 (Variant)

def pack (value : Nat) : Except PackError Bytes :=
  if value < twoTo 32 then .ok (littleEndian 4 value) else .error ⟨value⟩

def packField (field : Bytes) : Except PackError Bytes := do
  return (← pack field.length) ++ field

/-- The 64-byte digest of all inputs: six packed numbers, then every field behind its
packed length. -/
def prehash (context : Context) (variant : Variant) : Except PackError Bytes := do
  let numbers ← [context.lanes, context.outputLength, context.effectiveMemory,
    context.passes, Hash.Argon2.version, variant.code].mapM pack
  let fields ← [context.password, context.salt, context.secret.getD [],
    context.associated.getD []].mapM packField
  return Hash.Blake2b.digest 64 (numbers.flatten ++ fields.flatten)

def recordBar : String :=
  String.ofList (List.replicate 39 '=')

def recordField (name : String) (bytes : Bytes) : String :=
  s!"{name}[{bytes.length}]: {String.ofList bytes.spacedHex}"

def recordLines (context : Context) (variant : Variant) (digest : Bytes) : List String :=
  let raised := context.effectiveMemory
  [recordBar,
   s!"Argon2{variant.letter} version number {Hash.Argon2.version}",
   recordBar,
   s!"Memory: {context.memory} KiB, Iterations: {context.passes}, " ++
     s!"Parallelism: {context.lanes} lanes, Tag length: {context.outputLength} bytes"] ++
  (if raised = context.memory then []
   else [s!"Memory raised to {raised} KiB ({minBlocksPerLane} blocks per lane minimum)"]) ++
  [recordField "Password" context.password, recordField "Salt" context.salt] ++
  (context.secret.map (recordField "Secret")).toList ++
  (context.associated.map (recordField "Associated data")).toList ++
  [s!"Pre-hashing digest: {String.ofList digest.spacedHex}",
   s!"Tag: {String.ofList context.output.spacedHex}"]

def record (context : Context) (variant : Variant) : Except PackError String := do
  let digest ← context.prehash variant
  return String.join ((context.recordLines variant digest).map (· ++ "\n"))

end Argon2Workbench.Context
