import ComputeImport.Native.Program
import ComputeImport.Native.Wrapping

/-!
# Calls by their entry points

A function table answers any call that names one of its entry points.
-/

namespace ComputeImport.Simulator

/-- Make a call, whichever it is. -/
def answer : Call → Native Answer
  | .platformCreate native => return .handle (← platformCreate native).id
  | .platformBackend platform => return .kind (← platformBackend platform)
  | .platformNative platform => return .native (← platformNative platform)
  | .deviceCreate native platform => return .handle (← deviceCreate native platform).id
  | .devicePlatform device => return .handle (← devicePlatform device).id
  | .deviceNative device => return .native (← deviceNative device)
  | .contextCreate native devices ownsNative =>
      return .handle (← contextCreate native devices ownsNative).id
  | .contextNative context => return .native (← contextNative context)
  | .contextRetain context => do contextRetain context; return .done
  | .contextRelease context => do contextRelease context; return .done
  | .queueCreate native context device settings =>
      return .handle (← queueCreate native context device settings).id
  | .queueDevice queue => return .handle (← queueDevice queue).id
  | .queueNative queue => do
      let (native, descriptor) ← queueNative queue
      return .queue native descriptor
  | .queueRetain queue => do queueRetain queue; return .done
  | .queueRelease queue => do queueRelease queue; return .done
  | .eventCreate native context ownsNative =>
      return .handle (← eventCreate native context ownsNative).id
  | .eventNative event => return .native (← eventNative event)
  | .eventRetain event => do eventRetain event; return .done
  | .eventRelease event => do eventRelease event; return .done
  | .programCreate native context ownsNative =>
      return .handle (← programCreate native context ownsNative).id
  | .programRetain program => do programRetain program; return .done
  | .programRelease program => do programRelease program; return .done
  | .programNumDevices program => return .count (← programNumDevices program)
  | .programDevices program => return .handles ((← programDevices program).map Handle.id)
  | .programBinaryType program device => return .stage (← programBinaryType program device)
  | .programKernelNames program => return .names (← programKernelNames program)
  | .programCompileFor program devices options => do
      programCompileFor program devices options; return .done
  | .programCompile context program options => do
      programCompile context program options; return .done
  | .programBuildFor program devices options => do
      programBuildFor program devices options; return .done
  | .programBuild context program options => do
      programBuild context program options; return .done
  | .programLinkFor context devices programs options =>
      return .handle (← programLinkFor context devices programs options).id
  | .programLink context programs options =>
      return .handle (← programLink context programs options).id
  | .kernelCreate native context program ownsNative =>
      return .handle (← kernelCreate native context program ownsNative).id
  | .kernelNative kernel => return .native (← kernelNative kernel)
  | .kernelRetain kernel => do kernelRetain kernel; return .done
  | .kernelRelease kernel => do kernelRelease kernel; return .done
  | .memNative mem device => return .native (← memNative mem device)

end ComputeImport.Simulator
