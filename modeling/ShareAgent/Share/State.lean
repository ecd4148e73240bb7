import ShareAgent.Volume

/-! # What an agent remembers of its share -/
namespace ShareAgent

/-- The remembered state of the share. -/
inductive ShareState
  | unbound
  | unmounted
  | exported
  deriving DecidableEq, Repr, Inhabited

namespace ShareState

/-- The state of a fresh agent, which assumes nothing about the host. -/
def initial (v : Volume) : ShareState := if v.isBound then .unmounted else .unbound

/-- The share is known to be mounted and exported. -/
def isExported (s : ShareState) : Bool := s == .exported

/-- The name of a state. -/
def text : ShareState → Text
  | .unbound => "unbound"
  | .unmounted => "unmounted"
  | .exported => "mounted-exported"

end ShareState
end ShareAgent
