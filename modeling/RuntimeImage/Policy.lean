import RuntimeImage.Fault

/-!
What provisioning may do: fetch without checking digests, use the network, leave the package mirror
out. Modes are free texts; only the ones named here have an effect.
-/

namespace RuntimeImage

structure Policy where
  requireIntegrity : Bool := true
  networkMode : String := "online"
  mirrorMode : String := "always"
  deriving DecidableEq, Repr

namespace Policy

def networkModes : List String := ["online", "offline"]

def mirrorModes : List String := ["always", "on-demand"]

def checkNetwork (p : Policy) (operation : String) : Except Fault Unit :=
  if p.networkMode = "offline" then .error (.offline operation) else .ok ()

def requiresMirror (p : Policy) (hasPackages : Bool) : Bool :=
  p.mirrorMode = "always" || hasPackages

end Policy

end RuntimeImage
