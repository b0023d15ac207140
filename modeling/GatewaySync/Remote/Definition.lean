import GatewaySync.Remote.Schema

/-!
# The definition of Remotes

What is installed in a cluster so that it knows Remotes as a resource of its own.
-/

namespace GatewaySync.Remote

/-- A column that lists of Remotes show. -/
def column (name type path : String) : Json :=
  .obj [("jsonPath", .str path), ("name", .str name), ("type", .str type)]

def columns : List Json := [
  column "URL" "string" ".status.remoteUrl",
  column "Error" "string" ".status.remoteUrlDesc",
  column "Age" "date" ".metadata.creationTimestamp"]

def names : Json := .obj [
  ("categories", .arr []),
  ("kind", .str "Remote"),
  ("plural", .str "remotes"),
  ("shortNames", .arr []),
  ("singular", .str "remote")]

/-- The status is written apart from the rest. -/
def version : Json := .obj [
  ("additionalPrinterColumns", .arr columns),
  ("name", .str "v1alpha1"),
  ("schema", .obj [("openAPIV3Schema", schema.toJson)]),
  ("served", .bool true),
  ("storage", .bool true),
  ("subresources", .obj [("status", .obj [])])]

def definition : Json := .obj [
  ("apiVersion", .str "apiextensions.k8s.io/v1"),
  ("kind", .str "CustomResourceDefinition"),
  ("metadata", .obj [("name", .str "remotes.gitkube.sh")]),
  ("spec", .obj [
    ("group", .str "gitkube.sh"),
    ("names", names),
    ("scope", .str "Namespaced"),
    ("versions", .arr [version])])]

end GatewaySync.Remote
