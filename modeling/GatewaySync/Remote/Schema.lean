import GatewaySync.Schema

/-!
# The schemas of Remotes

What the API server checks of a Remote before the program sees it.  Properties stand in the order
of their names.
-/

namespace GatewaySync

open Schema

/-- A text that has to be there. -/
def Schema.needed (name : String) : String × Bool × Schema := (name, true, .text {})

/-- A text that counts as empty where it is missing. -/
def Schema.optionalText (name : String) (description : Option String) :
    String × Bool × Schema :=
  (name, false, .text { description, default := some (.str "") })

namespace SecretKeyRef

def schema : Schema :=
  .object
    { description := some "Legacy selector form; only the secret name is used"
      nullable := true }
    [("key", false, .text { nullable := true }), needed "name"]

end SecretKeyRef

namespace Credentials

def secretRefSchema : Schema :=
  .text {
    description := some ("Name of a \x60kubernetes.io/dockercfg\x60 or " ++
      "\x60kubernetes.io/dockerconfigjson\x60 secret")
    nullable := true }

def schema : Schema :=
  .object
    { description := some "Registry credentials, referenced by secret name"
      nullable := true }
    [("secretKeyRef", false, SecretKeyRef.schema), ("secretRef", false, secretRefSchema)]

end Credentials

namespace Registry

def schema : Schema :=
  .object
    { description := some "External registry that built images are pushed to"
      nullable := true }
    [("credentials", false, Credentials.schema),
      optionalText "url" (some "Registry prefix, e.g. \x60registry.harbor.io/library\x60")]

end Registry

namespace HelmRelease

def valueSchema : Schema := .object {} [needed "name", needed "value"]

def schema : Schema :=
  .object { nullable := true }
    [optionalText "release" none, ("values", false, .list {} valueSchema)]

end HelmRelease

namespace Manifests

def pathSchema : Schema :=
  .text { description := some "Directory of raw manifests inside the pushed repository" }

def schema : Schema :=
  .object
    { description := some "Kubernetes manifests applied by the gateway before building"
      nullable := true }
    [("helm", false, HelmRelease.schema), ("path", false, pathSchema)]

end Manifests

namespace BuildContainer

def argSchema : Schema :=
  .object { description := some "A single \x60--build-arg NAME=VALUE\x60" }
    [needed "name", needed "value"]

def schema : Schema :=
  .object {} [
    ("buildArgs", false, .list {} argSchema),
    optionalText "dockerfile" (some "Dockerfile location, relative to the repository root"),
    needed "name",
    optionalText "path" (some "Build context, relative to the repository root")]

end BuildContainer

namespace BuildTarget

def schema : Schema :=
  .object { description := some "A Deployment whose containers are rebuilt on every push" } [
    ("containers", false, .list { default := some (.arr []) } BuildContainer.schema),
    needed "name"]

end BuildTarget

namespace RemoteSpec

def keysSchema : Schema :=
  .list { description := some "SSH public keys allowed to push", default := some (.arr []) }
    (.text {})

def schema : Schema :=
  .object {} [
    ("authorizedKeys", false, keysSchema),
    ("deployments", false, .list { default := some (.arr []) } BuildTarget.schema),
    ("manifests", false, Manifests.schema),
    ("registry", false, Registry.schema)]

end RemoteSpec

namespace RemoteStatus

def schema : Schema :=
  .object
    { description := some ("Status written by the controller\n\n" ++
        "\x60remote_url_desc\x60 explains why \x60remote_url\x60 is empty.")
      nullable := true }
    [optionalText "remoteUrl" none, optionalText "remoteUrlDesc" none]

end RemoteStatus

namespace Remote

/-- Metadata are checked by the API server on its own. -/
def schema : Schema :=
  .object
    { title := some "Remote"
      description := some "Auto-generated derived type for RemoteSpec via \x60CustomResource\x60" }
    [("spec", true, RemoteSpec.schema), ("status", false, RemoteStatus.schema)]

end Remote

end GatewaySync
