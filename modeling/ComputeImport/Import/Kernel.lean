import ComputeImport.Import.Objects

/-!
# Importing kernels

A native kernel is imported against an executable bundle.  Some backends create a kernel from its
program; there the bundle must consist of one image, whose program is handed to the native call.
-/

namespace ComputeImport

/-- The program that a kernel is wrapped together with: that of the only image of the bundle, on
backends that need it. -/
def kernelProgram? (provider : Provider) (bundle : KernelBundle) :
    ImportM (Option ProgramHandle) :=
  if provider.demands.kernelNeedsProgram then
    match bundle.images with
    | [image] => pure (some image.program.handle)
    | images => throw (.bundleShape images.length)
  else
    pure none

/-- Import a native kernel against an executable bundle. -/
def importKernel (registry : Registry) (context : Context) (bundle : KernelBundle)
    (handle : NativeHandle) (keeps : Bool) (backend : Backend) : ImportM Kernel := do
  notify (.entered (.importKernel handle keeps backend bundle.size))
  timed "import_kernel" do
    let provider ← registry.resolve backend
    if bundle.state ≠ .executable then
      throw (.bundleNotExecutable bundle.state)
    let program ← kernelProgram? provider bundle
    let ownership := Ownership.ofKeep keeps
    let wrapper ← native (provider.table.call
      (Simulator.kernelCreate handle context.handle program ownership.ownsNative))
    takeReferenceIfNeeded provider wrapper Simulator.kernelRetain Simulator.kernelRelease
    notify (.kernelImported wrapper program ownership)
    return { identity := ← freshIdentity, handle := wrapper, context, provider, bundle }

/-- Import a native kernel without a bundle of its own, and take it over from the caller. -/
def makeKernel (registry : Registry) (handle : NativeHandle) (context : Context)
    (backend : Backend) : ImportM Kernel :=
  importKernel registry context (.empty context .executable) handle false backend

end ComputeImport
