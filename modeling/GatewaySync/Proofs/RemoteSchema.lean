import GatewaySync.CommandLine
import GatewaySync.Json.Pointer
import GatewaySync.Proofs.JsonSchema
import GatewaySync.Proofs.RemoteJson

/-!
# The published schema and the format of Remotes

The schema is written down beside the types that it is about.  The two agree: whatever it admits is
read as a Remote, once the metadata are well-formed, and whatever is written of a Remote is
admitted.  So no object that the API server lets in can stop the controller from reading it, and
nothing that the controller writes is turned down for its form.
-/

namespace GatewaySync

open Json (Conforms Decoded decode decodeListWith decodeOptionWith)
open Json.RecordForm (errorOf)
open Schema

/-! ## The registry -/

namespace SecretKeyRef

theorem isRead_schema : schema.IsReadUnlessNull ofJson := by
  refine isReadUnlessNull_object fun members hmembers => ?_
  have hname : errorOf (form.read (.named members) "name" (decode : Json → Decoded String)) =
      none := hmembers.errorOf_read (.tail _ (.head _)) (isReadUnlessNull_text.isReadBy rfl)
  have hkey : errorOf (form.read (.named members) "key" (decode : Json → Decoded (Option String))) =
      none := hmembers.errorOf_read (.head _) isReadUnlessNull_text.option
  exact ⟨_, hmembers.finish_eq_ok
    (List.forall_mem_cons.2 ⟨hname, List.forall_mem_singleton.2 hkey⟩) (by decide) _⟩

theorem admits_schema : schema.Admits toJson := by
  intro r
  have hnames : ["name", "key"].Nodup := by decide
  refine conforms_ofMembers hnames
    (List.forall_mem_cons.2 ⟨?key, List.forall_mem_singleton.2 ?name⟩)
  case key => exact isWrittenIn_map (.tail _ (.head _)) admits_text
  case name => exact isWrittenIn_some (.head _) (admits_text _)

end SecretKeyRef

namespace Credentials

theorem isRead_schema : schema.IsReadUnlessNull ofJson := by
  refine isReadUnlessNull_object fun members hmembers => ?_
  have hsecretRef : errorOf (form.read (.named members) "secretRef"
      (decode : Json → Decoded (Option String))) = none :=
    hmembers.errorOf_read (.tail _ (.head _)) isReadUnlessNull_text.option
  have hsecretKeyRef : errorOf (form.read (.named members) "secretKeyRef"
      (decodeOptionWith SecretKeyRef.ofJson)) = none :=
    hmembers.errorOf_read (.head _) SecretKeyRef.isRead_schema.option
  exact ⟨_, hmembers.finish_eq_ok
    (List.forall_mem_cons.2 ⟨hsecretRef, List.forall_mem_singleton.2 hsecretKeyRef⟩) (by decide) _⟩

theorem admits_schema : schema.Admits toJson := by
  intro c
  have hnames : ["secretRef", "secretKeyRef"].Nodup := by decide
  refine conforms_ofMembers hnames
    (List.forall_mem_cons.2 ⟨?secretKeyRef, List.forall_mem_singleton.2 ?secretRef⟩)
  case secretKeyRef => exact isWrittenIn_map (.tail _ (.head _)) SecretKeyRef.admits_schema
  case secretRef => exact isWrittenIn_map (.head _) admits_text

end Credentials

namespace Registry

theorem isRead_schema : schema.IsReadUnlessNull ofJson := by
  refine isReadUnlessNull_object fun members hmembers => ?_
  have hurl : errorOf (form.read (.named members) "url" (decode : Json → Decoded String)) = none :=
    hmembers.errorOf_read (.tail _ (.head _)) (isReadUnlessNull_text.isReadBy rfl)
  have hcredentials : errorOf (form.read (.named members) "credentials"
      (decodeOptionWith Credentials.ofJson)) = none :=
    hmembers.errorOf_read (.head _) Credentials.isRead_schema.option
  exact ⟨_, hmembers.finish_eq_ok
    (List.forall_mem_cons.2 ⟨hurl, List.forall_mem_singleton.2 hcredentials⟩) (by decide) _⟩

theorem admits_schema : schema.Admits toJson := by
  intro r
  have hnames : ["url", "credentials"].Nodup := by decide
  refine conforms_ofMembers hnames
    (List.forall_mem_cons.2 ⟨?credentials, List.forall_mem_singleton.2 ?url⟩)
  case credentials => exact isWrittenIn_map (.tail _ (.head _)) Credentials.admits_schema
  case url => exact isWrittenIn_some (.head _) (admits_text _)

end Registry

/-! ## The manifests -/

namespace HelmValue

theorem isRead_schema : HelmRelease.valueSchema.IsReadUnlessNull ofJson := by
  refine isReadUnlessNull_object fun members hmembers => ?_
  have hname : errorOf (form.read (.named members) "name" (decode : Json → Decoded String)) =
      none := hmembers.errorOf_read (.head _) (isReadUnlessNull_text.isReadBy rfl)
  have hvalue : errorOf (form.read (.named members) "value" (decode : Json → Decoded String)) =
      none := hmembers.errorOf_read (.tail _ (.head _)) (isReadUnlessNull_text.isReadBy rfl)
  exact ⟨_, hmembers.finish_eq_ok
    (List.forall_mem_cons.2 ⟨hname, List.forall_mem_singleton.2 hvalue⟩) (by decide) _⟩

theorem admits_schema : HelmRelease.valueSchema.Admits toJson := by
  intro v
  have hnames : ["name", "value"].Nodup := by decide
  change Conforms _ (.ofMembers [("name", some (.str v.name)), ("value", some (.str v.value))])
  refine conforms_ofMembers hnames
    (List.forall_mem_cons.2 ⟨?name, List.forall_mem_singleton.2 ?value⟩)
  case name => exact isWrittenIn_some (.head _) (admits_text _)
  case value => exact isWrittenIn_some (.tail _ (.head _)) (admits_text _)

end HelmValue

namespace HelmRelease

theorem isRead_schema : schema.IsReadUnlessNull ofJson := by
  refine isReadUnlessNull_object fun members hmembers => ?_
  have hrelease : errorOf (form.read (.named members) "release" (decode : Json → Decoded String)) =
      none := hmembers.errorOf_read (.head _) (isReadUnlessNull_text.isReadBy rfl)
  have hvalues : errorOf (form.read (.named members) "values"
      (decodeListWith HelmValue.ofJson)) = none :=
    hmembers.errorOf_read (.tail _ (.head _))
      ((isReadUnlessNull_list (HelmValue.isRead_schema.isReadBy rfl)).isReadBy rfl)
  exact ⟨_, hmembers.finish_eq_ok
    (List.forall_mem_cons.2 ⟨hrelease, List.forall_mem_singleton.2 hvalues⟩) (by decide) _⟩

theorem admits_schema : schema.Admits toJson := by
  intro h
  have hnames : ["release", "values"].Nodup := by decide
  refine conforms_ofMembers hnames
    (List.forall_mem_cons.2 ⟨?release, List.forall_mem_singleton.2 ?values⟩)
  case release => exact isWrittenIn_some (.head _) (admits_text _)
  case values => exact isWrittenIn_ofNonEmpty (.tail _ (.head _)) HelmValue.admits_schema

end HelmRelease

namespace Manifests

theorem isRead_schema : schema.IsReadUnlessNull ofJson := by
  refine isReadUnlessNull_object fun members hmembers => ?_
  have hpath : errorOf (form.read (.named members) "path" (decode : Json → Decoded String)) =
      none := hmembers.errorOf_read (.tail _ (.head _)) (isReadUnlessNull_text.isReadBy rfl)
  have hhelm : errorOf (form.read (.named members) "helm"
      (decodeOptionWith HelmRelease.ofJson)) = none :=
    hmembers.errorOf_read (.head _) HelmRelease.isRead_schema.option
  exact ⟨_, hmembers.finish_eq_ok
    (List.forall_mem_cons.2 ⟨hpath, List.forall_mem_singleton.2 hhelm⟩) (by decide) _⟩

theorem admits_schema : schema.Admits toJson := by
  intro m
  have hnames : ["path", "helm"].Nodup := by decide
  refine conforms_ofMembers hnames
    (List.forall_mem_cons.2 ⟨?helm, List.forall_mem_singleton.2 ?path⟩)
  case helm => exact isWrittenIn_map (.tail _ (.head _)) HelmRelease.admits_schema
  case path => exact isWrittenIn_ofNonEmptyText (.head _)

end Manifests

/-! ## The builds -/

namespace BuildArg

theorem isRead_schema : BuildContainer.argSchema.IsReadUnlessNull ofJson := by
  refine isReadUnlessNull_object fun members hmembers => ?_
  have hname : errorOf (form.read (.named members) "name" (decode : Json → Decoded String)) =
      none := hmembers.errorOf_read (.head _) (isReadUnlessNull_text.isReadBy rfl)
  have hvalue : errorOf (form.read (.named members) "value" (decode : Json → Decoded String)) =
      none := hmembers.errorOf_read (.tail _ (.head _)) (isReadUnlessNull_text.isReadBy rfl)
  exact ⟨_, hmembers.finish_eq_ok
    (List.forall_mem_cons.2 ⟨hname, List.forall_mem_singleton.2 hvalue⟩) (by decide) _⟩

theorem admits_schema : BuildContainer.argSchema.Admits toJson := by
  intro a
  have hnames : ["name", "value"].Nodup := by decide
  change Conforms _ (.ofMembers [("name", some (.str a.name)), ("value", some (.str a.value))])
  refine conforms_ofMembers hnames
    (List.forall_mem_cons.2 ⟨?name, List.forall_mem_singleton.2 ?value⟩)
  case name => exact isWrittenIn_some (.head _) (admits_text _)
  case value => exact isWrittenIn_some (.tail _ (.head _)) (admits_text _)

end BuildArg

namespace BuildContainer

theorem isRead_schema : schema.IsReadUnlessNull ofJson := by
  refine isReadUnlessNull_object fun members hmembers => ?_
  have hname : errorOf (form.read (.named members) "name" (decode : Json → Decoded String)) =
      none :=
    hmembers.errorOf_read (.tail _ (.tail _ (.head _))) (isReadUnlessNull_text.isReadBy rfl)
  have hpath : errorOf (form.read (.named members) "path" (decode : Json → Decoded String)) =
      none :=
    hmembers.errorOf_read (.tail _ (.tail _ (.tail _ (.head _))))
      (isReadUnlessNull_text.isReadBy rfl)
  have hdockerfile : errorOf (form.read (.named members) "dockerfile"
      (decode : Json → Decoded String)) = none :=
    hmembers.errorOf_read (.tail _ (.head _)) (isReadUnlessNull_text.isReadBy rfl)
  have hbuildArgs : errorOf (form.read (.named members) "buildArgs"
      (decodeListWith BuildArg.ofJson)) = none :=
    hmembers.errorOf_read (.head _)
      ((isReadUnlessNull_list (BuildArg.isRead_schema.isReadBy rfl)).isReadBy rfl)
  exact ⟨_, hmembers.finish_eq_ok
    (List.forall_mem_cons.2 ⟨hname, List.forall_mem_cons.2 ⟨hpath, List.forall_mem_cons.2
      ⟨hdockerfile, List.forall_mem_singleton.2 hbuildArgs⟩⟩⟩) (by decide) _⟩

theorem admits_schema : schema.Admits toJson := by
  intro c
  have hnames : ["name", "path", "dockerfile", "buildArgs"].Nodup := by decide
  refine conforms_ofMembers hnames
    (List.forall_mem_cons.2 ⟨?buildArgs, List.forall_mem_cons.2 ⟨?dockerfile,
      List.forall_mem_cons.2 ⟨?name, List.forall_mem_singleton.2 ?path⟩⟩⟩)
  case buildArgs =>
    exact isWrittenIn_ofNonEmpty (.tail _ (.tail _ (.tail _ (.head _)))) BuildArg.admits_schema
  case dockerfile => exact isWrittenIn_some (.tail _ (.tail _ (.head _))) (admits_text _)
  case name => exact isWrittenIn_some (.head _) (admits_text _)
  case path => exact isWrittenIn_some (.tail _ (.head _)) (admits_text _)

end BuildContainer

namespace BuildTarget

theorem isRead_schema : schema.IsReadUnlessNull ofJson := by
  refine isReadUnlessNull_object fun members hmembers => ?_
  have hname : errorOf (form.read (.named members) "name" (decode : Json → Decoded String)) =
      none := hmembers.errorOf_read (.tail _ (.head _)) (isReadUnlessNull_text.isReadBy rfl)
  have hcontainers : errorOf (form.read (.named members) "containers"
      (decodeListWith BuildContainer.ofJson)) = none :=
    hmembers.errorOf_read (.head _)
      ((isReadUnlessNull_list (BuildContainer.isRead_schema.isReadBy rfl)).isReadBy rfl)
  exact ⟨_, hmembers.finish_eq_ok
    (List.forall_mem_cons.2 ⟨hname, List.forall_mem_singleton.2 hcontainers⟩) (by decide) _⟩

theorem admits_schema : schema.Admits toJson := by
  intro t
  have hnames : ["name", "containers"].Nodup := by decide
  change Conforms _ (.ofMembers [("name", some (.str t.name)),
    ("containers", some (.arr (t.containers.map BuildContainer.toJson)))])
  refine conforms_ofMembers hnames
    (List.forall_mem_cons.2 ⟨?containers, List.forall_mem_singleton.2 ?name⟩)
  case containers =>
    exact isWrittenIn_some (.tail _ (.head _)) (conforms_arr BuildContainer.admits_schema _)
  case name => exact isWrittenIn_some (.head _) (admits_text _)

end BuildTarget

/-! ## Remotes -/

namespace RemoteSpec

theorem isRead_schema : schema.IsReadUnlessNull ofJson := by
  refine isReadUnlessNull_object fun members hmembers => ?_
  have hkeys : errorOf (form.read (.named members) "authorizedKeys"
      (decode : Json → Decoded (List String))) = none :=
    hmembers.errorOf_read (.head _)
      ((isReadUnlessNull_list (isReadUnlessNull_text.isReadBy rfl)).isReadBy rfl)
  have hregistry : errorOf (form.read (.named members) "registry"
      (decodeOptionWith Registry.ofJson)) = none :=
    hmembers.errorOf_read (.tail _ (.tail _ (.tail _ (.head _)))) Registry.isRead_schema.option
  have hmanifests : errorOf (form.read (.named members) "manifests"
      (decodeOptionWith Manifests.ofJson)) = none :=
    hmembers.errorOf_read (.tail _ (.tail _ (.head _))) Manifests.isRead_schema.option
  have htargets : errorOf (form.read (.named members) "deployments"
      (decodeListWith BuildTarget.ofJson)) = none :=
    hmembers.errorOf_read (.tail _ (.head _))
      ((isReadUnlessNull_list (BuildTarget.isRead_schema.isReadBy rfl)).isReadBy rfl)
  exact ⟨_, hmembers.finish_eq_ok
    (List.forall_mem_cons.2 ⟨hkeys, List.forall_mem_cons.2 ⟨hregistry, List.forall_mem_cons.2
      ⟨hmanifests, List.forall_mem_singleton.2 htargets⟩⟩⟩) (by decide) _⟩

theorem admits_schema : schema.Admits toJson := by
  intro s
  have hnames : ["authorizedKeys", "registry", "manifests", "deployments"].Nodup := by decide
  refine conforms_ofMembers hnames
    (List.forall_mem_cons.2 ⟨?authorizedKeys, List.forall_mem_cons.2 ⟨?deployments,
      List.forall_mem_cons.2 ⟨?manifests, List.forall_mem_singleton.2 ?registry⟩⟩⟩)
  case authorizedKeys => exact isWrittenIn_some (.head _) (conforms_arr admits_text _)
  case deployments =>
    exact isWrittenIn_some (.tail _ (.tail _ (.tail _ (.head _))))
      (conforms_arr BuildTarget.admits_schema _)
  case manifests => exact isWrittenIn_map (.tail _ (.tail _ (.head _))) Manifests.admits_schema
  case registry => exact isWrittenIn_map (.tail _ (.head _)) Registry.admits_schema

end RemoteSpec

namespace RemoteStatus

theorem isRead_schema : schema.IsReadUnlessNull ofJson := by
  refine isReadUnlessNull_object fun members hmembers => ?_
  have hurl : errorOf (form.read (.named members) "remoteUrl" (decode : Json → Decoded String)) =
      none := hmembers.errorOf_read (.head _) (isReadUnlessNull_text.isReadBy rfl)
  have hdescription : errorOf (form.read (.named members) "remoteUrlDesc"
      (decode : Json → Decoded String)) = none :=
    hmembers.errorOf_read (.tail _ (.head _)) (isReadUnlessNull_text.isReadBy rfl)
  exact ⟨_, hmembers.finish_eq_ok
    (List.forall_mem_cons.2 ⟨hurl, List.forall_mem_singleton.2 hdescription⟩) (by decide) _⟩

theorem admits_schema : schema.Admits toJson := by
  intro s
  have hnames : ["remoteUrl", "remoteUrlDesc"].Nodup := by decide
  change Conforms _ (.ofMembers [("remoteUrl", some (.str s.url)),
    ("remoteUrlDesc", some (.str s.description))])
  refine conforms_ofMembers hnames
    (List.forall_mem_cons.2 ⟨?remoteUrl, List.forall_mem_singleton.2 ?remoteUrlDesc⟩)
  case remoteUrl => exact isWrittenIn_some (.head _) (admits_text _)
  case remoteUrlDesc => exact isWrittenIn_some (.tail _ (.head _)) (admits_text _)

end RemoteStatus

namespace Metadata

/-- Metadata as the API server hands them out: an object whose members have the types that are
documented for them, or are null. -/
structure IsWellFormed (members : List (String × Json)) : Prop where
  texts : ∀ name ∈ ["generateName", "name", "namespace", "resourceVersion", "uid"],
    ∀ j, (name, j) ∈ members → j = .null ∨ ∃ s, j = .str s
  generation : ∀ j, ("generation", j) ∈ members → j = .null ∨ ∃ g : Int64, j = .int g.toInt
  maps : ∀ name ∈ ["annotations", "labels"], ∀ j, (name, j) ∈ members →
    j = .null ∨ ∃ entries, j = .obj entries ∧ ∀ e ∈ entries, ∃ s, e.2 = .str s

section Fields

variable {α : Type} {members : List (String × Json)} {name : String}
variable {decodeField : Json → Decoded α}

theorem exists_optionalField_eq_ok
    (hfield : ∀ j, (name, j) ∈ members → j = .null ∨ ∃ a, decodeField j = .ok a) :
    ∃ value, Json.optionalField members name decodeField = .ok value := by
  have hmembers : ∀ m ∈ members.filter fun m => m.1 == name,
      ∃ value, decodeOptionWith decodeField m.2 = .ok value := by
    intro m hm
    obtain ⟨hm, hname⟩ := List.mem_filter.1 hm
    obtain hnull | ⟨a, ha⟩ := hfield m.2 (beq_iff_eq.1 hname ▸ hm)
    · exact ⟨none, by rw [hnull, decodeOptionWith]⟩
    · by_cases hnull : m.2 = .null
      · exact ⟨none, by rw [hnull, decodeOptionWith]⟩
      · refine ⟨some a, ?_⟩
        rw [decodeOptionWith, ha]
        · rfl
        · exact hnull
  obtain ⟨values, hvalues⟩ := Json.exists_mapM_eq_ok hmembers
  exact ⟨_, by rw [Json.optionalField, Json.membersNamed, hvalues]; rfl⟩

end Fields

theorem exists_ofJson_eq_ok {members : List (String × Json)} (hmembers : IsWellFormed members) :
    ∃ m, ofJson (.obj members) = .ok m := by
  have htext : ∀ name ∈ ["generateName", "name", "namespace", "resourceVersion", "uid"],
      ∃ value, Json.optionalField members name (decode : Json → Decoded String) = .ok value := by
    refine fun name hname => exists_optionalField_eq_ok fun j hj => ?_
    refine (hmembers.texts name hname j hj).imp_right (Exists.imp fun s heq => ?_)
    rw [heq]
    rfl
  have hmap : ∀ name ∈ ["annotations", "labels"],
      ∃ value, Json.optionalField members name (decode : Json → Decoded Texts) = .ok value := by
    refine fun name hname => exists_optionalField_eq_ok fun j hj => ?_
    obtain hnull | ⟨entries, rfl, hentries⟩ := hmembers.maps name hname j hj
    · exact .inl hnull
    · have hitems : ∀ e ∈ entries, ∃ entry : String × String,
          (do return (e.1, ← decode e.2) : Decoded (String × String)) = .ok entry := by
        intro e he
        obtain ⟨s, heq⟩ := hentries e he
        exact ⟨(e.1, s), by rw [heq]; rfl⟩
      obtain ⟨values, hvalues⟩ := Json.exists_mapM_eq_ok hitems
      refine .inr ⟨.ofList values, ?_⟩
      change Json.decodeMapWith decode (.obj entries) = _
      rw [Json.decodeMapWith, hvalues]
      rfl
  have hint64 : ∃ value, Json.optionalField members "generation" Json.decodeInt64 = .ok value := by
    refine exists_optionalField_eq_ok fun j hj => ?_
    refine (hmembers.generation j hj).imp_right (Exists.imp fun g heq => ?_)
    rw [heq, Json.decodeInt64_toInt]
  obtain ⟨annotations, hannotations⟩ := hmap "annotations" (by simp)
  obtain ⟨generateName, hgenerateName⟩ := htext "generateName" (by simp)
  obtain ⟨generation, hgeneration⟩ := hint64
  obtain ⟨labels, hlabels⟩ := hmap "labels" (by simp)
  obtain ⟨name, hname⟩ := htext "name" (by simp)
  obtain ⟨ns, hns⟩ := htext "namespace" (by simp)
  obtain ⟨resourceVersion, hresourceVersion⟩ := htext "resourceVersion" (by simp)
  obtain ⟨uid, huid⟩ := htext "uid" (by simp)
  exact ⟨⟨name, generateName, ns, resourceVersion, generation, uid, labels, annotations⟩,
    ofJson_eq_ok hannotations hgenerateName hgeneration hlabels hname hns hresourceVersion huid⟩

end Metadata

namespace Remote

/-- The one member that the schema leaves to the API server. -/
def HasWellFormedMetadata (j : Json) : Prop :=
  ∃ members metadata, j = .obj members ∧
    (members.filter fun m => m.1 == "metadata") = [("metadata", .obj metadata)] ∧
    Metadata.IsWellFormed metadata

theorem exists_ofJson_eq_ok {j : Json} (hconforms : Conforms schema.toJson j)
    (hmetadata : HasWellFormedMetadata j) : ∃ r, ofJson j = .ok r := by
  obtain ⟨members, metadata, rfl, hgiven, hwell⟩ := hmetadata
  obtain ⟨hnull, -⟩ | ⟨_, heq, hmembers⟩ := conforms_object_iff.1 hconforms
  · cases hnull
  obtain rfl := Json.obj.inj heq
  have hread : errorOf ((form (.named members)).read (.named members) "metadata"
      (decode : Json → Decoded Metadata)) = none := by
    obtain ⟨m, hm⟩ := Metadata.exists_ofJson_eq_ok hwell
    have hdecode : (decode (.obj metadata) : Decoded Metadata) = .ok m := hm
    simp only [Json.RecordForm.read, Json.RecordForm.given, hgiven, List.map_cons, List.map_nil,
      hdecode]
    rfl
  have hspec : errorOf ((form (.named members)).read (.named members) "spec" RemoteSpec.ofJson) =
      none := hmembers.errorOf_read (.head _) (RemoteSpec.isRead_schema.isReadBy rfl)
  have hstatus : errorOf ((form (.named members)).read (.named members) "status"
      (decodeOptionWith RemoteStatus.ofJson)) = none :=
    hmembers.errorOf_read (.tail _ (.head _)) RemoteStatus.isRead_schema.option
  refine ⟨_, Json.RecordForm.finish_named (List.forall_mem_cons.2 ⟨hread, List.forall_mem_cons.2
    ⟨hspec, List.forall_mem_singleton.2 hstatus⟩⟩) (List.forall_mem_cons.2 ⟨fun _ => ?metadata,
      List.forall_mem_cons.2 ⟨fun _ => ?spec, List.forall_mem_singleton.2 ?status⟩⟩) _⟩
  case metadata =>
    have hmem : ("metadata", .obj metadata) ∈ members.filter fun m => m.1 == "metadata" := by
      rw [hgiven]
      exact List.mem_singleton_self _
    exact List.mem_map_of_mem (List.mem_filter.1 hmem).1
  case spec => exact hmembers.required "spec" (by decide)
  case status =>
    intro hrequired
    cases hrequired

theorem admits_schema : schema.Admits toJson := by
  intro r
  have hnames : ["apiVersion", "kind", "metadata", "spec", "status"].Nodup := by decide
  refine conforms_ofMembers hnames
    (List.forall_mem_cons.2 ⟨?spec, List.forall_mem_singleton.2 ?status⟩)
  case spec =>
    exact isWrittenIn_some (.tail _ (.tail _ (.tail _ (.head _)))) (RemoteSpec.admits_schema _)
  case status =>
    exact isWrittenIn_map (.tail _ (.tail _ (.tail _ (.tail _ (.head _)))))
      RemoteStatus.admits_schema

theorem pointer?_definition :
    definition.pointer? "/spec/versions/0/schema/openAPIV3Schema" = some schema.toJson := rfl

/-- The definition that is printed holds a schema, and this schema admits nothing that cannot be
read, and everything that is written. -/
theorem published_schema_agrees :
    CommandLine.printDefinition.printed = definition.blockText ∧
      ∃ published,
        definition.pointer? "/spec/versions/0/schema/openAPIV3Schema" = some published ∧
        (∀ j, Conforms published j → HasWellFormedMetadata j → ∃ r, ofJson j = .ok r) ∧
        ∀ r : Remote, Conforms published r.toJson := by
  refine ⟨by rw [CommandLine.printDefinition], schema.toJson, pointer?_definition, ?read, ?written⟩
  case read => exact fun j => exists_ofJson_eq_ok
  case written => exact admits_schema

/-- A manifest with null in place of a registry and of labels, without lists that may be absent, and
with a member that is no property. -/
theorem published_schema_agrees_of_manifest :
    ∃ r, ofJson (.obj [
      ("kind", .str "Remote"),
      ("metadata", .obj [("name", .str "example"), ("generation", .int 2), ("labels", .null)]),
      ("spec", .obj [
        ("registry", .null),
        ("deployments", .arr [.obj [("name", .str "www"), ("replicas", .int 1)]])])]) = .ok r := by
  obtain ⟨-, published, hpublished, hread, -⟩ := published_schema_agrees
  obtain rfl := Option.some.inj (pointer?_definition.symm.trans hpublished)
  refine hread _ ?conforms ⟨_, _, rfl, rfl, ⟨?texts, ?generation, ?maps⟩⟩
  case conforms =>
    have htarget : Conforms BuildTarget.schema.toJson
        (.obj [("name", .str "www"), ("replicas", .int 1)]) := by
      refine conforms_object_iff.2 (.inr ⟨_, rfl, ⟨by decide, by decide, ?_⟩⟩)
      simp [needed, conforms_text_iff]
    have hspec : Conforms RemoteSpec.schema.toJson (.obj [
        ("registry", .null),
        ("deployments", .arr [.obj [("name", .str "www"), ("replicas", .int 1)]])]) := by
      refine conforms_object_iff.2 (.inr ⟨_, rfl, ⟨by decide, by decide, ?_⟩⟩)
      simp [conforms_list_iff, htarget, Registry.schema, conforms_null_iff, notes]
    refine conforms_object_iff.2 (.inr ⟨_, rfl, ⟨by decide, by decide, ?_⟩⟩)
    simpa using hspec
  case texts => simp
  case generation => simpa using ⟨2, rfl⟩
  case maps => simp

end Remote

end GatewaySync
