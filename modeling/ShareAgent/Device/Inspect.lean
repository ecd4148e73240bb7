import ShareAgent.Kernel

/-! # Looking at a device -/
namespace ShareAgent.Device

/-- Checks that the path names a block device. -/
def validate (device : Path) : HostTask Unit := do
  let status ← HostTask.call (fun e : SystemError => .invalidDevice device e.message)
    (KernelCall.fileStatus device).onKernel
  if status.kind ≠ .blockDevice then
    throw (.invalidDevice device ("expected a block device, found " ++ status.kind.text))

/-- The number of a device. -/
def number (device : Path) : HostTask Nat := do
  let status ← HostTask.system (KernelCall.fileStatus device).onKernel
  return status.deviceNumber

end ShareAgent.Device
