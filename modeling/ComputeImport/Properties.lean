import ComputeImport.Text.Shape

/-!
# Properties of imported objects

Who releases an imported native object, and how an imported command queue behaves.
-/

namespace ComputeImport

open Text

/-- Who releases an imported native object. -/
inductive Ownership where
  /-- The caller keeps its reference, and the import never releases the object. -/
  | keep
  /-- The caller's reference passes to the import, which releases it at the end. -/
  | transfer
  deriving DecidableEq, Repr

namespace Ownership

/-- The ownership that a caller asks for by keeping its reference or not. -/
def ofKeep (keeps : Bool) : Ownership :=
  if keeps then keep else transfer

/-- Whether the wrapper owns the native object. -/
def ownsNative : Ownership → Bool
  | keep => false
  | transfer => true

/-- An ownership as inspection shows it. -/
def label : Ownership → String
  | keep => "Keep"
  | transfer => "Transfer"

end Ownership

/-- How a command queue is created. -/
structure QueueFlags where
  outOfOrder : Bool := false
  profiling : Bool := false
  deriving DecidableEq, Repr

/-- What a function table is told about a native queue that it wraps. -/
structure QueueSettings where
  ownsNative : Bool := false
  flags : QueueFlags := {}
  /-- The backend's own description of the queue, passed through unread. -/
  descriptor : Int32 := 0
  deriving DecidableEq, Repr

/-- What a caller asks of an imported queue. -/
structure QueueProperties where
  /-- Commands run in the order in which they are submitted. -/
  inOrder : Bool := false
  profiling : Bool := false
  /-- The compute engine to use; a native queue has chosen its own already. -/
  computeIndex : Option Nat := none
  deriving DecidableEq, Repr

namespace QueueProperties

/-- The flags of a queue with these properties. -/
def flags (properties : QueueProperties) : QueueFlags :=
  ⟨!properties.inOrder, properties.profiling⟩

/-- Queue properties as inspection shows them. -/
def shape (properties : QueueProperties) : Shape :=
  .record "QueueProperties"
    [("in_order", .flag properties.inOrder),
     ("enable_profiling", .flag properties.profiling),
     ("compute_index", .optional (properties.computeIndex.map .number))]

end QueueProperties

end ComputeImport
