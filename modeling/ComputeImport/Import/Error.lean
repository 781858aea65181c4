import ComputeImport.Backend
import ComputeImport.Native.Error
import ComputeImport.Stage

/-!
# Errors of imports

Why importing native objects, or putting the imported ones to use, fails.
-/

namespace ComputeImport

open Text

/-- Why an import, or the use of an imported object, failed. -/
inductive ImportError where
  /-- The backend has no function table, or none has been registered for it. -/
  | unsupportedBackend (backend : Backend)
  /-- The program is past the state that is asked for. -/
  | stateMismatch (discovered : Stage) (target : BundleState)
  /-- Taking the program further failed. -/
  | buildFailed (operation : BuildOperation) (device : DeviceHandle) (cause : NativeError)
  /-- A kernel was to be imported against a bundle that is not executable. -/
  | bundleNotExecutable (state : BundleState)
  /-- A kernel was to be imported with its program against a bundle of more or fewer images. -/
  | bundleShape (images : Nat)
  | invalidObject (reason : String)
  | invalidProperty (reason : String)
  | incompatibleBundles (reason : String)
  | registryInstalled
  /-- Any other native call failed. -/
  | native (cause : NativeError)
  deriving DecidableEq, Repr

namespace ImportError

/-- Whether the caller has to reckon with a program that was changed for some devices. -/
def mayHaveMutated : ImportError → Bool
  | buildFailed .. | stateMismatch .. => true
  | _ => false

/-- The native error behind the error. -/
def cause? : ImportError → Option NativeError
  | buildFailed _ _ cause | native cause => some cause
  | _ => none

/-- The error as a message. -/
def message : ImportError → String
  | unsupportedBackend backend => "unsupported backend: " ++ backend.name
  | stateMismatch discovered target =>
      "program and kernel_bundle state mismatch: program is " ++ discovered.text ++
        ", requested " ++ target.text
  | buildFailed operation device cause =>
      "program " ++ operation.text ++ " failed for " ++ device.text ++ ": " ++ cause.message
  | bundleNotExecutable state => "kernel_bundle must be executable, found " ++ state.text
  | bundleShape images =>
      "kernel_bundle must have single program image, found " ++ toString images
  | invalidObject reason => "invalid native object: " ++ reason
  | invalidProperty reason => "invalid property: " ++ reason
  | incompatibleBundles reason => "incompatible kernel bundles: " ++ reason
  | registryInstalled => "backend registry already installed"
  | native cause => "native call failed: " ++ cause.message

/-- The name of the error's kind, as inspection shows it. -/
def label : ImportError → String
  | unsupportedBackend _ => "UnsupportedBackend"
  | stateMismatch _ _ => "BuildStateMismatch"
  | buildFailed _ _ _ => "BuildFailed"
  | bundleNotExecutable _ => "BundleNotExecutable"
  | bundleShape _ => "InvalidBundleShape"
  | invalidObject _ => "InvalidNativeObject"
  | invalidProperty _ => "InvalidProperty"
  | incompatibleBundles _ => "IncompatibleBundles"
  | registryInstalled => "RegistryAlreadyInstalled"
  | native _ => "Native"

/-- The error under inspection. -/
def shape (error : ImportError) : Shape :=
  match error with
  | unsupportedBackend backend => .tuple error.label [.atom backend.label]
  | stateMismatch discovered target =>
      .record error.label
        [("discovered", .atom discovered.label), ("target", .atom target.label)]
  | buildFailed operation device cause =>
      .record error.label
        [("operation", .atom operation.label), ("device", device.shape), ("source", cause.shape)]
  | bundleNotExecutable state => .record error.label [("state", .atom state.label)]
  | bundleShape images => .record error.label [("images", .number images)]
  | invalidObject reason | invalidProperty reason | incompatibleBundles reason =>
      .tuple error.label [.text reason]
  | registryInstalled => .atom error.label
  | native cause => .tuple error.label [cause.shape]

end ImportError

end ComputeImport
