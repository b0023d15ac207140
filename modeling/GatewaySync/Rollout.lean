import GatewaySync.Resource.Deployment
import GatewaySync.Text.Decimal

/-!
# Restarting the gateway

A Deployment rolls its pods when its pod template changes.  A restart therefore writes a new stamp
into the template, and beside it the hash of the document that the pods will start with, so that a
restart which did not happen can be told from one that did.
-/

namespace GatewaySync

namespace Rollout

/-- The annotation whose change rolls the pods. -/
def stampKey : String := "gitkube/lasteventtimestamp"

/-- The annotation that records the hash of the document. -/
def hashKey : String := "gitkube/remotes-hash"

/-- An integer as 64 signed bits hold it. -/
def wrap (n : Int) : Int := n.bmod 0x10000000000000000

/-- The stamp of a restart: the clock, or one more than a stamp that the clock has not passed.
Stamps have 64 bits, so after the greatest comes the least. -/
def nextStamp (previous : Option Int) (now : Int) : Int :=
  match previous with
  | some previous => if previous ≥ now then wrap (previous + 1) else now
  | none => now

end Rollout

namespace Deployment

def templateAnnotations? (d : Deployment) : Option Texts := do
  let metadata ← (← d.spec).template.metadata
  metadata.annotations

/-- The hash of the document that the pods were last rolled for. -/
def rolledFor? (d : Deployment) : Option String := do
  (← d.templateAnnotations?).get? Rollout.hashKey

/-- The stamp of the last restart, if it is one. -/
def previousStamp? (d : Deployment) : Option Int := do
  let text ← (← d.templateAnnotations?).get? Rollout.stampKey
  Text.Decimal.int64Of? text

/-- Changes the annotations of the pod template.  What is missing around them is created empty. -/
def mapTemplateAnnotations (d : Deployment) (f : Texts → Texts) : Deployment :=
  let spec := d.spec.getD {}
  let metadata := spec.template.metadata.getD {}
  let annotations := metadata.annotations.getD .empty
  { d with
    spec := some { spec with
      template := { spec.template with
        metadata := some { metadata with annotations := some (f annotations) } } } }

/-- The Deployment restarted at a time, for the document of a hash. -/
def restarted (d : Deployment) (hash : String) (now : Int) : Deployment :=
  let stamp := Rollout.nextStamp d.previousStamp? now
  d.mapTemplateAnnotations fun annotations =>
    (annotations.insert Rollout.stampKey (String.ofList (Text.Decimal.ofInt stamp))).insert
      Rollout.hashKey hash

end Deployment

end GatewaySync
