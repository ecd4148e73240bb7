import ShareAgent.Kernel

/-! # The mapping of an encrypted volume -/
namespace ShareAgent.Device

/-- Grows the open mapping of a volume. The passphrase goes to the standard input of one command
and nowhere else. -/
def resizeMapping (volume : Text) (engine : DataEngine) (passphrase : Text) (timeout : Span) :
    HostTask Unit :=
  let name := Volume.mappingName volume engine
  ExceptT.mk <| .ask (.run ⟨"cryptsetup", ["status", name], none, timeout⟩) fun
    | .ok _ => .ask (.run ⟨"cryptsetup", ["resize", name], some passphrase, timeout⟩) fun
      | .ok _ => .done (.ok ())
      | .error e => .done (.error e)
    | .error (.commandFailed ..) =>
      .done (.error (.invalidDevice ⟨name⟩ "encrypted mapping is not open"))
    | .error e => .done (.error e)

end ShareAgent.Device
