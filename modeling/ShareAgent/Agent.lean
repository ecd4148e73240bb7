import ShareAgent.Device.Growth
import ShareAgent.Device.Inspect
import ShareAgent.Device.Mapping
import ShareAgent.Export.Server
import ShareAgent.Share.Lifecycle

/-! # An agent on a real host

The steps of a share answered by the tools of the host it runs on. -/
namespace ShareAgent

/-- Answers a step with the operating system. -/
def HostCall.perform (s : Settings) : (call : HostCall) → OnKernel call.Answer
  | .isMountPoint path => (Mount.isMountPoint path).run
  | .mountInfo path => (Mount.info path).run
  | .mount device target => (Mount.mount device target s.commandTimeout).run
  | .unmount target => (Mount.unmount target).run
  | .validateDevice device => (Device.validate device).run
  | .deviceNumber device => (Device.number device).run
  | .diskFormat device => (Device.format device s.commandTimeout).run
  | .resizeFilesystem device mountPath => (Device.grow device mountPath s.commandTimeout).run
  | .resizeMapping volume engine passphrase =>
    (Device.resizeMapping volume engine passphrase s.commandTimeout).run
  | .createExport volume => ((Export.Server.ofSettings s).create volume).run
  | .deleteExport volume => ((Export.Server.ofSettings s).delete volume).run
  | .reload => (Export.Server.ofSettings s).reload.run
  | .serverRunning => (Export.Server.ofSettings s).isRunning
  | .listDirectory path =>
    (KernelCall.listDirectory path).onKernel.bind fun answer => .done (answer.map fun _ => ())
  | .run command => (KernelCall.run command).onKernel
  | .pause span => (KernelCall.pause span).onKernel

/-- Performs an operation on the host that the agent runs on. -/
def Share.performOnKernel (s : Share) (op : Operation) (state : ShareState) :
    OnKernel (Except ShareError Unit × ShareState) :=
  (s.perform op state).refine (HostCall.perform s.settings)

end ShareAgent
