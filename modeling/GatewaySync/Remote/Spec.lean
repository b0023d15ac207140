/-!
# What a Remote asks for

A Remote is a repository that users push to.  Its specification says who may push, where built
images go, what is applied before a build, and which containers are built.
-/

namespace GatewaySync

/-- A secret by name; which of its entries is meant does not matter. -/
structure SecretKeyRef where
  name : String
  key : Option String := none
deriving DecidableEq, Repr

structure Credentials where
  /-- The name of a docker registry secret. -/
  secretRef : Option String := none
  /-- The older form of the same reference. -/
  secretKeyRef : Option SecretKeyRef := none
deriving DecidableEq, Repr

structure Registry where
  /-- What the names of pushed images start with. -/
  url : String := ""
  credentials : Option Credentials := none
deriving DecidableEq, Repr

namespace Registry

/-- An empty registry counts as none. -/
def isDeclared (r : Registry) : Bool := !r.url.isEmpty || r.credentials.isSome

/-- The secret that holds the credentials: the direct reference, else the older form.  An empty
name is none. -/
def secretName? (r : Registry) : Option String := do
  let c ← r.credentials
  (c.secretRef.filter fun name => !name.isEmpty).or
    ((c.secretKeyRef.map SecretKeyRef.name).filter fun name => !name.isEmpty)

end Registry

structure HelmValue where
  name : String
  value : String
deriving DecidableEq, Repr

structure HelmRelease where
  release : String := ""
  values : List HelmValue := []
deriving DecidableEq, Repr

/-- What is applied before a build. -/
structure Manifests where
  path : String := ""
  helm : Option HelmRelease := none
deriving DecidableEq, Repr

structure BuildArg where
  name : String
  value : String
deriving DecidableEq, Repr

structure BuildContainer where
  name : String
  /-- The build context, relative to the repository. -/
  path : String := ""
  dockerfile : String := ""
  buildArgs : List BuildArg := []
deriving DecidableEq, Repr

/-- A Deployment whose containers are built on every push. -/
structure BuildTarget where
  name : String
  containers : List BuildContainer := []
deriving DecidableEq, Repr

structure RemoteSpec where
  /-- The SSH keys that may push. -/
  authorizedKeys : List String := []
  registry : Option Registry := none
  manifests : Option Manifests := none
  targets : List BuildTarget := []
deriving DecidableEq, Repr

/-- Where a Remote is reached, or why it is not. -/
structure RemoteStatus where
  url : String := ""
  description : String := ""
deriving DecidableEq, Repr

namespace RemoteStatus

def available (url : String) : RemoteStatus := ⟨url, ""⟩
def unavailable (description : String) : RemoteStatus := ⟨"", description⟩

end RemoteStatus

end GatewaySync
