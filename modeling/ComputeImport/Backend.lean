/-!
# Compute backends

The backends that a caller can name, the kinds that native platforms report about themselves, the
older numbering of those kinds, and what importing demands on each backend.
-/

namespace ComputeImport

/-- The kind that a native platform reports about itself. -/
inductive NativeKind where
  | unknown | levelZero | openCl | cuda | hip | nativeCpu
  deriving DecidableEq, Repr

namespace NativeKind

/-- The kind with a given number; numbers that stand for no kind are unknown. -/
def ofNumber : Nat → NativeKind
  | 1 => levelZero
  | 2 => openCl
  | 3 => cuda
  | 4 => hip
  | 5 => nativeCpu
  | _ => unknown

/-- The number that a platform reports for its kind. -/
def number : NativeKind → Nat
  | unknown => 0
  | levelZero => 1
  | openCl => 2
  | cuda => 3
  | hip => 4
  | nativeCpu => 5

/-- A kind as inspection shows it. -/
def label : NativeKind → String
  | unknown => "Unknown"
  | levelZero => "LevelZero"
  | openCl => "OpenCl"
  | cuda => "Cuda"
  | hip => "Hip"
  | nativeCpu => "NativeCpu"

/-- A kind is known by its number. -/
theorem ofNumber_number (kind : NativeKind) : ofNumber kind.number = kind := by
  cases kind <;> rfl

end NativeKind

/-- The kind in the older numbering, which still has an emulator of its own. -/
inductive LegacyKind where
  | unknown | levelZero | openCl | cuda | hip | esimd | nativeCpu
  deriving DecidableEq, Repr

namespace LegacyKind

/-- The kind with a given number in the older numbering, which has seven of them. -/
def ofNumber? : Nat → Option LegacyKind
  | 0 => some unknown
  | 1 => some levelZero
  | 2 => some openCl
  | 3 => some cuda
  | 4 => some hip
  | 5 => some esimd
  | 6 => some nativeCpu
  | _ => none

/-- A kind in the older numbering as inspection shows it. -/
def label : LegacyKind → String
  | unknown => "Unknown"
  | levelZero => "LevelZero"
  | openCl => "OpenCl"
  | cuda => "Cuda"
  | hip => "Hip"
  | esimd => "Esimd"
  | nativeCpu => "NativeCpu"

end LegacyKind

/-- What importing demands on a backend. -/
structure Demands where
  /-- Wrapping a native object takes no reference to the wrapper, and the importer takes one. -/
  needsRetain : Bool := false
  /-- A kernel can only be wrapped together with the program that it was created in. -/
  kernelNeedsProgram : Bool := false
  deriving DecidableEq, Repr

/-- A compute backend, as callers name it. -/
inductive Backend where
  | openCl | levelZero | cuda | hip | nativeCpu | esimdEmulator
  /-- No particular backend. -/
  | any
  deriving DecidableEq, Repr

namespace Backend

/-- The backends that have a function table, in the order in which they are listed. -/
def linked : List Backend :=
  [openCl, levelZero, cuda, hip]

/-- Whether the backend has a function table. -/
def isLinked (backend : Backend) : Bool :=
  linked.contains backend

/-- The backend of a native platform of some kind. -/
def ofNative : NativeKind → Backend
  | .levelZero => levelZero
  | .openCl => openCl
  | .cuda => cuda
  | .hip => hip
  | .nativeCpu => nativeCpu
  | .unknown => any

/-- The backend of a platform whose kind is reported in the older numbering. -/
def ofLegacy : LegacyKind → Backend
  | .unknown => any
  | .levelZero => levelZero
  | .openCl => openCl
  | .cuda => cuda
  | .hip => hip
  | .esimd => esimdEmulator
  | .nativeCpu => nativeCpu

/-- The kind that native platforms of a backend report. -/
def native : Backend → NativeKind
  | levelZero => .levelZero
  | openCl => .openCl
  | cuda => .cuda
  | hip => .hip
  | nativeCpu => .nativeCpu
  | esimdEmulator | any => .unknown

/-- Every kind is reported by the platforms of its backend. -/
theorem native_ofNative (kind : NativeKind) : (ofNative kind).native = kind := by
  cases kind <;> rfl

/-- Of all backends only the emulator cannot be told from the kind that its platforms report. -/
theorem ofNative_native_eq_iff (backend : Backend) :
    ofNative backend.native = backend ↔ backend ≠ esimdEmulator := by
  cases backend <;> decide

/-- What importing demands on a backend, unless the caller knows better. -/
def demands : Backend → Demands
  | openCl => ⟨true, false⟩
  | levelZero => ⟨false, true⟩
  | _ => ⟨false, false⟩

/-- A backend as messages call it. -/
def name : Backend → String
  | openCl => "opencl"
  | levelZero => "ext_oneapi_level_zero"
  | cuda => "ext_oneapi_cuda"
  | hip => "ext_oneapi_hip"
  | nativeCpu => "ext_oneapi_native_cpu"
  | esimdEmulator => "ext_intel_esimd_emulator"
  | any => "all"

/-- A backend as inspection shows it. -/
def label : Backend → String
  | openCl => "OpenCl"
  | levelZero => "LevelZero"
  | cuda => "Cuda"
  | hip => "Hip"
  | nativeCpu => "NativeCpu"
  | esimdEmulator => "EsimdEmulator"
  | any => "All"

end Backend

end ComputeImport
