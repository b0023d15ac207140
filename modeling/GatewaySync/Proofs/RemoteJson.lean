import GatewaySync.Proofs.JsonRecords
import GatewaySync.Remote

/-!
# Remotes that are written and read back

A Remote is read back from what is written of it.  Each type decides for itself what it leaves out,
and its reader what a missing member stands for; an empty registry, empty manifests and empty
credentials are written, so they are never taken for absent ones.  The text is read back too, so
once a Remote has been read, from whatever form of it, writing and reading change nothing any more.
-/

namespace GatewaySync

open Json (Decoded IsTextual StandsFor decode decodeInt64 decodeListWith decodeListWith_map
  decodeMapWith_map decodeOptionWith isTextual_arr_map isTextual_of_mem_map
  isTextual_of_mem_ofNonEmpty isTextual_obj_map isTextual_ofMembers optionalField standsFor_map
  standsFor_ofNonEmpty)
open Json.RecordForm (reads_obj reads_ofMembers finish_named)

/-! ## The registry -/

namespace SecretKeyRef

theorem ofJson_toJson (r : SecretKeyRef) : ofJson r.toJson = .ok r := by
  have hnames : ["name", "key"].Nodup := by decide
  have hname : form.Reads r.toJson "name" decode "" r.name :=
    reads_ofMembers hnames (.head _) rfl
  have hkey : form.Reads r.toJson "key" decode none r.key :=
    reads_ofMembers hnames (.tail _ (.head _)) (standsFor_map (fun _ => rfl) nofun)
  change form.finish (.named _) _ _ = _
  rw [finish_named]
  · rw [(hname _ rfl).2, (hkey _ rfl).2]
  · exact List.forall_mem_cons.2 ⟨(hname _ rfl).1, List.forall_mem_singleton.2 (hkey _ rfl).1⟩
  · simp [form]

theorem isTextual_toJson (r : SecretKeyRef) : IsTextual 1 r.toJson := by
  refine isTextual_ofMembers (List.forall_mem_cons.2 ⟨?name, List.forall_mem_singleton.2 ?key⟩)
  case name => exact fun j hj => Option.some.inj hj ▸ .str r.name
  case key => exact fun j hj => isTextual_of_mem_map .str hj

end SecretKeyRef

namespace Credentials

theorem ofJson_toJson (c : Credentials) : ofJson c.toJson = .ok c := by
  have hnames : ["secretRef", "secretKeyRef"].Nodup := by decide
  have hsecretRef : form.Reads c.toJson "secretRef" decode none c.secretRef :=
    reads_ofMembers hnames (.head _) (standsFor_map (fun _ => rfl) nofun)
  have hsecretKeyRef : form.Reads c.toJson "secretKeyRef" (decodeOptionWith SecretKeyRef.ofJson)
      none c.secretKeyRef :=
    reads_ofMembers hnames (.tail _ (.head _)) (standsFor_map SecretKeyRef.ofJson_toJson nofun)
  change form.finish (.named _) _ _ = _
  rw [finish_named]
  · rw [(hsecretRef _ rfl).2, (hsecretKeyRef _ rfl).2]
  · exact List.forall_mem_cons.2
      ⟨(hsecretRef _ rfl).1, List.forall_mem_singleton.2 (hsecretKeyRef _ rfl).1⟩
  · simp [form]

theorem isTextual_toJson (c : Credentials) : IsTextual 2 c.toJson := by
  refine isTextual_ofMembers (List.forall_mem_cons.2
    ⟨?secretRef, List.forall_mem_singleton.2 ?secretKeyRef⟩)
  case secretRef => exact fun j hj => isTextual_of_mem_map .str hj
  case secretKeyRef => exact fun j hj => isTextual_of_mem_map SecretKeyRef.isTextual_toJson hj

end Credentials

namespace Registry

theorem ofJson_toJson (r : Registry) : ofJson r.toJson = .ok r := by
  have hnames : ["url", "credentials"].Nodup := by decide
  have hurl : form.Reads r.toJson "url" decode "" r.url := reads_ofMembers hnames (.head _) rfl
  have hcredentials : form.Reads r.toJson "credentials" (decodeOptionWith Credentials.ofJson)
      none r.credentials :=
    reads_ofMembers hnames (.tail _ (.head _)) (standsFor_map Credentials.ofJson_toJson nofun)
  change form.finish (.named _) _ _ = _
  rw [finish_named]
  · rw [(hurl _ rfl).2, (hcredentials _ rfl).2]
  · exact List.forall_mem_cons.2
      ⟨(hurl _ rfl).1, List.forall_mem_singleton.2 (hcredentials _ rfl).1⟩
  · simp [form]

theorem isTextual_toJson (r : Registry) : IsTextual 3 r.toJson := by
  refine isTextual_ofMembers (List.forall_mem_cons.2
    ⟨?url, List.forall_mem_singleton.2 ?credentials⟩)
  case url => exact fun j hj => Option.some.inj hj ▸ .str r.url
  case credentials => exact fun j hj => isTextual_of_mem_map Credentials.isTextual_toJson hj

end Registry

/-! ## The builds -/

namespace BuildContainer

theorem ofJson_toJson (c : BuildContainer) : ofJson c.toJson = .ok c := by
  have hnames : ["name", "path", "dockerfile", "buildArgs"].Nodup := by decide
  have hname : form.Reads c.toJson "name" decode "" c.name :=
    reads_ofMembers hnames (.head _) rfl
  have hpath : form.Reads c.toJson "path" decode "" c.path :=
    reads_ofMembers hnames (.tail _ (.head _)) rfl
  have hdockerfile : form.Reads c.toJson "dockerfile" decode "" c.dockerfile :=
    reads_ofMembers hnames (.tail _ (.tail _ (.head _))) rfl
  have hbuildArgs : form.Reads c.toJson "buildArgs" (decodeListWith BuildArg.ofJson) []
      c.buildArgs :=
    reads_ofMembers hnames (.tail _ (.tail _ (.tail _ (.head _))))
      (standsFor_ofNonEmpty fun a _ => a.ofJson_toJson)
  change form.finish (.named _) _ _ = _
  rw [finish_named]
  · rw [(hname _ rfl).2, (hpath _ rfl).2, (hdockerfile _ rfl).2, (hbuildArgs _ rfl).2]
  · exact List.forall_mem_cons.2 ⟨(hname _ rfl).1, List.forall_mem_cons.2
      ⟨(hpath _ rfl).1, List.forall_mem_cons.2
        ⟨(hdockerfile _ rfl).1, List.forall_mem_singleton.2 (hbuildArgs _ rfl).1⟩⟩⟩
  · simp [form]

theorem isTextual_toJson (c : BuildContainer) : IsTextual 3 c.toJson := by
  refine isTextual_ofMembers (List.forall_mem_cons.2 ⟨?name, List.forall_mem_cons.2
    ⟨?path, List.forall_mem_cons.2 ⟨?dockerfile, List.forall_mem_singleton.2 ?buildArgs⟩⟩⟩)
  case name => exact fun j hj => Option.some.inj hj ▸ .str c.name
  case path => exact fun j hj => Option.some.inj hj ▸ .str c.path
  case dockerfile => exact fun j hj => Option.some.inj hj ▸ .str c.dockerfile
  case buildArgs => exact fun j hj => isTextual_of_mem_ofNonEmpty BuildArg.isTextual_toJson hj

end BuildContainer

namespace BuildTarget

theorem ofJson_toJson (t : BuildTarget) : ofJson t.toJson = .ok t := by
  have hnames : ["name", "containers"].Nodup := by decide
  have hname : form.Reads t.toJson "name" decode "" t.name := reads_obj hnames (.head _) rfl
  have hcontainers : form.Reads t.toJson "containers" (decodeListWith BuildContainer.ofJson) []
      t.containers :=
    reads_obj hnames (.tail _ (.head _)) (decodeListWith_map fun c _ => c.ofJson_toJson)
  change form.finish (.named _) _ _ = _
  rw [finish_named]
  · rw [(hname _ rfl).2, (hcontainers _ rfl).2]
  · exact List.forall_mem_cons.2
      ⟨(hname _ rfl).1, List.forall_mem_singleton.2 (hcontainers _ rfl).1⟩
  · simp [form]

theorem isTextual_toJson (t : BuildTarget) : IsTextual 5 t.toJson :=
  .obj (List.forall_mem_cons.2 ⟨.str _, List.forall_mem_singleton.2
    (isTextual_arr_map BuildContainer.isTextual_toJson t.containers)⟩)

end BuildTarget

/-! ## Specification and status -/

namespace RemoteSpec

theorem ofJson_toJson (s : RemoteSpec) : ofJson s.toJson = .ok s := by
  have hnames : ["authorizedKeys", "registry", "manifests", "deployments"].Nodup := by decide
  have hkeys : form.Reads s.toJson "authorizedKeys" decode [] s.authorizedKeys :=
    reads_ofMembers hnames (.head _) (decodeListWith_map fun _ _ => rfl)
  have hregistry : form.Reads s.toJson "registry" (decodeOptionWith Registry.ofJson) none
      s.registry :=
    reads_ofMembers hnames (.tail _ (.head _)) (standsFor_map Registry.ofJson_toJson nofun)
  have hmanifests : form.Reads s.toJson "manifests" (decodeOptionWith Manifests.ofJson) none
      s.manifests :=
    reads_ofMembers hnames (.tail _ (.tail _ (.head _)))
      (standsFor_map Manifests.ofJson_toJson nofun)
  have htargets : form.Reads s.toJson "deployments" (decodeListWith BuildTarget.ofJson) []
      s.targets :=
    reads_ofMembers hnames (.tail _ (.tail _ (.tail _ (.head _))))
      (decodeListWith_map fun t _ => t.ofJson_toJson)
  change form.finish (.named _) _ _ = _
  rw [finish_named]
  · rw [(hkeys _ rfl).2, (hregistry _ rfl).2, (hmanifests _ rfl).2, (htargets _ rfl).2]
  · exact List.forall_mem_cons.2 ⟨(hkeys _ rfl).1, List.forall_mem_cons.2
      ⟨(hregistry _ rfl).1, List.forall_mem_cons.2
        ⟨(hmanifests _ rfl).1, List.forall_mem_singleton.2 (htargets _ rfl).1⟩⟩⟩
  · simp [form]

theorem isTextual_toJson (s : RemoteSpec) : IsTextual 7 s.toJson := by
  refine isTextual_ofMembers (List.forall_mem_cons.2 ⟨?keys, List.forall_mem_cons.2
    ⟨?registry, List.forall_mem_cons.2 ⟨?manifests, List.forall_mem_singleton.2 ?targets⟩⟩⟩)
  case keys =>
    exact fun j hj => Option.some.inj hj ▸ isTextual_arr_map .str s.authorizedKeys
  case registry =>
    exact fun j hj => (isTextual_of_mem_map Registry.isTextual_toJson hj).mono (by decide)
  case manifests =>
    exact fun j hj => (isTextual_of_mem_map Manifests.isTextual_toJson hj).mono (by decide)
  case targets =>
    exact fun j hj => Option.some.inj hj ▸ isTextual_arr_map BuildTarget.isTextual_toJson s.targets

end RemoteSpec

namespace RemoteStatus

theorem ofJson_toJson (s : RemoteStatus) : ofJson s.toJson = .ok s := by
  have hnames : ["remoteUrl", "remoteUrlDesc"].Nodup := by decide
  have hurl : form.Reads s.toJson "remoteUrl" decode "" s.url := reads_obj hnames (.head _) rfl
  have hdescription : form.Reads s.toJson "remoteUrlDesc" decode "" s.description :=
    reads_obj hnames (.tail _ (.head _)) rfl
  change form.finish (.named _) _ _ = _
  rw [finish_named]
  · rw [(hurl _ rfl).2, (hdescription _ rfl).2]
  · exact List.forall_mem_cons.2
      ⟨(hurl _ rfl).1, List.forall_mem_singleton.2 (hdescription _ rfl).1⟩
  · simp [form]

theorem isTextual_toJson (s : RemoteStatus) : IsTextual 1 s.toJson :=
  .obj (by simp [IsTextual.str])

end RemoteStatus

/-! ## Metadata -/

namespace Json

/-- A field of metadata is read from its member, or left out where it is absent. -/
theorem optionalField_ofMembers {α : Type} {decodeField : Json → Decoded α} {value : Option α}
    {members : List (String × Option Json)} (hnames : (members.map Prod.fst).Nodup) {name : String}
    {member? : Option Json} (hmem : (name, member?) ∈ members)
    (hstands : StandsFor (decodeOptionWith decodeField) none member? value) :
    optionalField (members.filterMap fun m => m.2.map (m.1, ·)) name decodeField = .ok value := by
  rw [optionalField, membersNamed, filter_filterMap hnames hmem]
  cases member? with
  | none =>
      obtain rfl := hstands
      rfl
  | some j =>
      have hread : decodeOptionWith decodeField j = .ok value := hstands
      rw [Option.toList_some, List.map_singleton, List.mapM_cons, hread]
      rfl

end Json

namespace Metadata

theorem ofJson_eq_ok {members : List (String × Json)} {m : Metadata}
    (hannotations : optionalField members "annotations" decode = .ok m.annotations)
    (hgenerateName : optionalField members "generateName" decode = .ok m.generateName)
    (hgeneration : optionalField members "generation" decodeInt64 = .ok m.generation)
    (hlabels : optionalField members "labels" decode = .ok m.labels)
    (hname : optionalField members "name" decode = .ok m.name)
    (hns : optionalField members "namespace" decode = .ok m.ns)
    (hresourceVersion : optionalField members "resourceVersion" decode = .ok m.resourceVersion)
    (huid : optionalField members "uid" decode = .ok m.uid) :
    ofJson (.obj members) = .ok m := by
  simp only [ofJson, Json.objectMembers, bind, Except.bind, hannotations, hgenerateName,
    hgeneration, hlabels, hname, hns, hresourceVersion, huid]
  rfl

theorem ofJson_toJson (m : Metadata) : ofJson m.toJson = .ok m := by
  have hnames : ["annotations", "generateName", "generation", "labels", "name", "namespace",
    "resourceVersion", "uid"].Nodup := by decide
  have htext : ∀ value : Option String,
      StandsFor (decodeOptionWith decode) none (value.map .str) value :=
    fun _ => standsFor_map (fun _ => rfl) nofun
  have htexts : ∀ value : Option Texts,
      StandsFor (decodeOptionWith decode) none (value.map Json.ofTexts) value :=
    fun _ => standsFor_map (fun _ => decodeMapWith_map fun _ _ => rfl) nofun
  have hinteger : StandsFor (decodeOptionWith decodeInt64) none
      (m.generation.map fun g => .int g.toInt) m.generation :=
    standsFor_map Json.decodeInt64_toInt nofun
  apply ofJson_eq_ok
  case hannotations =>
    exact Json.optionalField_ofMembers (by exact hnames) (by simp) (htexts m.annotations)
  case hgenerateName =>
    exact Json.optionalField_ofMembers (by exact hnames) (by simp) (htext m.generateName)
  case hgeneration =>
    exact Json.optionalField_ofMembers (by exact hnames) (by simp) hinteger
  case hlabels => exact Json.optionalField_ofMembers (by exact hnames) (by simp) (htexts m.labels)
  case hname => exact Json.optionalField_ofMembers (by exact hnames) (by simp) (htext m.name)
  case hns => exact Json.optionalField_ofMembers (by exact hnames) (by simp) (htext m.ns)
  case hresourceVersion =>
    exact Json.optionalField_ofMembers (by exact hnames) (by simp) (htext m.resourceVersion)
  case huid => exact Json.optionalField_ofMembers (by exact hnames) (by simp) (htext m.uid)

theorem isTextual_toJson (m : Metadata) : IsTextual 2 m.toJson := by
  have htext : ∀ value : Option String, ∀ j ∈ value.map Json.str, IsTextual 1 j :=
    fun _ _ hj => isTextual_of_mem_map .str hj
  have htexts : ∀ value : Option Texts, ∀ j ∈ value.map Json.ofTexts, IsTextual 1 j :=
    fun _ _ hj => isTextual_of_mem_map (isTextual_obj_map .str) hj
  have hinteger : ∀ j ∈ m.generation.map fun g => Json.int g.toInt, IsTextual 1 j := by
    refine fun j hj => isTextual_of_mem_map (fun g => .int ?_) hj
    exact decide_eq_true ⟨g.le_toInt, g.toInt_lt.le.trans (by decide)⟩
  exact isTextual_ofMembers (List.forall_mem_cons.2 ⟨htexts _, List.forall_mem_cons.2
    ⟨htext _, List.forall_mem_cons.2 ⟨hinteger, List.forall_mem_cons.2
      ⟨htexts _, List.forall_mem_cons.2 ⟨htext _, List.forall_mem_cons.2
        ⟨htext _, List.forall_mem_cons.2 ⟨htext _, List.forall_mem_singleton.2 (htext _)⟩⟩⟩⟩⟩⟩⟩)

end Metadata

/-! ## Remotes -/

namespace Remote

theorem ofJson_toJson (r : Remote) : ofJson r.toJson = .ok r := by
  have hnames : ["apiVersion", "kind", "metadata", "spec", "status"].Nodup := by decide
  have hmetadata : ∀ fs, (form fs).Reads r.toJson "metadata" decode {} r.metadata := fun fs =>
    reads_ofMembers hnames (.tail _ (.tail _ (.head _))) r.metadata.ofJson_toJson
  have hspec : ∀ fs, (form fs).Reads r.toJson "spec" RemoteSpec.ofJson {} r.spec := fun fs =>
    reads_ofMembers hnames (.tail _ (.tail _ (.tail _ (.head _)))) r.spec.ofJson_toJson
  have hstatus : ∀ fs, (form fs).Reads r.toJson "status" (decodeOptionWith RemoteStatus.ofJson)
      none r.status := fun fs =>
    reads_ofMembers hnames (.tail _ (.tail _ (.tail _ (.tail _ (.head _)))))
      (standsFor_map RemoteStatus.ofJson_toJson nofun)
  change (form _).finish (.named _) _ _ = _
  rw [finish_named]
  · rw [(hmetadata _ _ rfl).2, (hspec _ _ rfl).2, (hstatus _ _ rfl).2]
  · exact List.forall_mem_cons.2 ⟨(hmetadata _ _ rfl).1, List.forall_mem_cons.2
      ⟨(hspec _ _ rfl).1, List.forall_mem_singleton.2 (hstatus _ _ rfl).1⟩⟩
  · simp [form]

theorem isTextual_toJson (r : Remote) : IsTextual 8 r.toJson := by
  refine isTextual_ofMembers (List.forall_mem_cons.2 ⟨?apiVersion, List.forall_mem_cons.2
    ⟨?kind, List.forall_mem_cons.2 ⟨?metadata, List.forall_mem_cons.2
      ⟨?spec, List.forall_mem_singleton.2 ?status⟩⟩⟩⟩)
  case apiVersion => exact fun j hj => Option.some.inj hj ▸ .str _
  case kind => exact fun j hj => Option.some.inj hj ▸ .str _
  case metadata =>
    exact fun j hj => Option.some.inj hj ▸ r.metadata.isTextual_toJson.mono (by decide)
  case spec => exact fun j hj => Option.some.inj hj ▸ r.spec.isTextual_toJson
  case status =>
    exact fun j hj => (isTextual_of_mem_map RemoteStatus.isTextual_toJson hj).mono (by decide)

/-- The Remote that a text holds. -/
def ofText? (text : String) : Option Remote :=
  (Json.outline? text).bind fun j => (ofJson j).toOption

theorem ofText?_text (r : Remote) : ofText? r.toJson.text = some r := by
  rw [ofText?, Json.outline?_text r.isTextual_toJson, Option.bind_some, ofJson_toJson]
  rfl

theorem text_injective {a b : Remote} (hsame : a.toJson.text = b.toJson.text) : a = b := by
  have hread := congrArg ofText? hsame
  rw [ofText?_text, ofText?_text] at hread
  exact Option.some.inj hread

/-- Every Remote is read back as it was written, as a value and as a text, and no two Remotes are
written alike.  So what is read of any object is read again from what is then written, and is
written again alike. -/
theorem survives_writing :
    (∀ r : Remote, ofJson r.toJson = .ok r ∧ ofText? r.toJson.text = some r) ∧
      (∀ a b : Remote, a.toJson.text = b.toJson.text ↔ a = b) ∧
      (∀ j r, ofJson j = .ok r → ofJson r.toJson = ofJson j) ∧
      ∀ text r, ofText? text = some r → ofText? r.toJson.text = ofText? text ∧
        (ofText? r.toJson.text).map (fun again => again.toJson.text) = some r.toJson.text := by
  refine ⟨fun r => ⟨r.ofJson_toJson, r.ofText?_text⟩, fun a b => ⟨text_injective, ?same⟩,
    fun j r hread => ?value, fun text r hread => ?text⟩
  case same => exact fun heq => by rw [heq]
  case value => rw [hread, ofJson_toJson]
  case text =>
    rw [hread, ofText?_text]
    exact ⟨rfl, rfl⟩

/-- A specification that is given as an array, with an empty registry and null in place of
manifests, and a member that nobody asked for. -/
def arrayForm : Json := .obj [
  ("metadata", .obj [("generation", .int 3), ("uid", .null)]),
  ("spec", .arr [.arr [], .obj [], .null, .arr []]),
  ("note", .int 1)]

def arrayText : String :=
  "\x7b\"metadata\":\x7b\"generation\":3,\"uid\":null\x7d," ++
    "\"spec\":[[],\x7b\x7d,null,[]],\"note\":1\x7d"

def readOfArray : Remote := ⟨{ generation := some 3 }, { registry := some {} }, none⟩

theorem survives_writing_of_array :
    ofJson arrayForm = .ok readOfArray ∧ ofJson readOfArray.toJson = .ok readOfArray ∧
      ofText? arrayText = some readOfArray ∧
      ofText? readOfArray.toJson.text = some readOfArray := by
  obtain ⟨-, -, hvalue, htext⟩ := survives_writing
  have hreadValue : ofJson arrayForm = .ok readOfArray := rfl
  have hreadText : ofText? arrayText = some readOfArray := rfl
  exact ⟨hreadValue, (hvalue _ _ hreadValue).trans hreadValue, hreadText,
    (htext _ _ hreadText).1.trans hreadText⟩

end Remote

end GatewaySync
