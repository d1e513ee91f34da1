import PageBoot.Identity
import PageBoot.Journal
import PageBoot.Session.Registry

/-!
What the loaders of one page share: the session identity, drawn when it is first needed, the
registries of loaded resources, the count of modules, and claims that can be made only once.
-/

namespace PageBoot

/-- The state of a page with draws of type `σ` and observers of type `ω`. -/
structure PageState (σ ω : Type) where
  source : Identity.Source σ
  draws : σ
  scripts : Registry ω := { kind := .script }
  styles : Registry ω := { kind := .style }
  claimed : List Text := []
  /-- Empty until it is drawn. -/
  identity : Text := []
  modules : Nat := 0

namespace PageState

variable {σ ω : Type}

def hasIdentity (s : PageState σ ω) : Bool := !s.identity.isEmpty

/-- The session identity, drawn now if it was not drawn before. -/
def drawIdentity (s : PageState σ ω) : PageState σ ω :=
  if s.hasIdentity then s
  else
    let (identity, draws) := Identity.generate s.source s.draws
    { s with identity, draws }

def identityEntry : Journal.Entry :=
  { logger := "session", level := .debug, message := "session identity created" }

def nextModule (s : PageState σ ω) : Nat × PageState σ ω :=
  (s.modules + 1, { s with modules := s.modules + 1 })

/-- Claims a key; the flag says whether it was still free. -/
def claim (s : PageState σ ω) (key : Text) : Bool × PageState σ ω :=
  if s.claimed.contains key then (false, s) else (true, { s with claimed := s.claimed ++ [key] })

def registry (s : PageState σ ω) : ResourceKind → Registry ω
  | .script => s.scripts
  | .style => s.styles

def setRegistry (s : PageState σ ω) (r : Registry ω) : ResourceKind → PageState σ ω
  | .script => { s with scripts := r }
  | .style => { s with styles := r }

end PageState

end PageBoot
