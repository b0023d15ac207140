import GatewaySync.Proofs.JsonRecords
import GatewaySync.Proofs.Publish

/-!
# The document's text holds the document

The gateway learns of a change only by comparing texts, so two documents must
never have the same text.  They do not: the document is read back from its text,
whatever its keys and texts are made of and whichever parts are absent.  A stored
text is therefore taken for another one exactly when it stands for another
document, hashes of distinct texts being distinct.
-/

namespace GatewaySync.Document

open Json (Decoded IsTextual RecordForm decode decodeListWith decodeMapWith decodeOptionWith
  decodeListWith_map decodeMapWith_map decodeOptionWith_map isTextual_ofMembers isTextual_arr_map
  isTextual_obj_map isTextual_of_mem_map isTextual_getD_map)
open Json.RecordForm (errorOf valueOr reads_obj reads_ofMembers finish_named)

/-! ## Reading the document -/

namespace Container

def form : RecordForm := ⟨"Container", [("path", true), ("dockerfile", true), ("buildArgs", true)]⟩

def ofJson (j : Json) : Decoded Container := do
  let fs ← form.fieldsOf j
  let path : Decoded (Option String) := form.read fs "path" decode
  let dockerfile : Decoded (Option String) := form.read fs "dockerfile" decode
  let buildArgs := form.read fs "buildArgs" (decodeListWith BuildArg.ofJson)
  form.finish fs
    [("path", errorOf path), ("dockerfile", errorOf dockerfile), ("buildArgs", errorOf buildArgs)]
    { path := valueOr "" path, dockerfile := valueOr "" dockerfile,
      buildArgs := valueOr [] buildArgs }

theorem ofJson_toJson (c : Container) : ofJson (containerToJson c) = .ok c := by
  have hnames : ["path", "dockerfile", "buildArgs"].Nodup := by decide
  have hpath : form.Reads (containerToJson c) "path" decode "" c.path :=
    reads_obj hnames (.head _) rfl
  have hdockerfile : form.Reads (containerToJson c) "dockerfile" decode "" c.dockerfile :=
    reads_obj hnames (.tail _ (.head _)) rfl
  have hbuildArgs : form.Reads (containerToJson c) "buildArgs" (decodeListWith BuildArg.ofJson) []
      c.buildArgs :=
    reads_obj hnames (.tail _ (.tail _ (.head _)))
      (decodeListWith_map fun a _ => a.ofJson_toJson)
  change form.finish (.named _) _ _ = _
  rw [finish_named]
  · rw [(hpath _ rfl).2, (hdockerfile _ rfl).2, (hbuildArgs _ rfl).2]
  · exact List.forall_mem_cons.2 ⟨(hpath _ rfl).1, List.forall_mem_cons.2
      ⟨(hdockerfile _ rfl).1, List.forall_mem_singleton.2 (hbuildArgs _ rfl).1⟩⟩
  · simp [form]

end Container

namespace Registry

def form : RecordForm :=
  ⟨"Registry", [("prefix", true), ("dockercfg", false), ("dockerconfigjson", false)]⟩

def ofJson (j : Json) : Decoded Registry := do
  let fs ← form.fieldsOf j
  let imagePrefix : Decoded (Option String) := form.read fs "prefix" decode
  let dockercfg : Decoded (Option (Option String)) := form.read fs "dockercfg" decode
  let dockerconfigjson : Decoded (Option (Option String)) := form.read fs "dockerconfigjson" decode
  form.finish fs
    [("prefix", errorOf imagePrefix), ("dockercfg", errorOf dockercfg),
      ("dockerconfigjson", errorOf dockerconfigjson)]
    { imagePrefix := valueOr "" imagePrefix, dockercfg := valueOr none dockercfg,
      dockerconfigjson := valueOr none dockerconfigjson }

theorem ofJson_toJson (r : Registry) : ofJson (registryToJson r) = .ok r := by
  have hnames : ["prefix", "dockercfg", "dockerconfigjson"].Nodup := by decide
  have himage : form.Reads (registryToJson r) "prefix" decode "" r.imagePrefix :=
    reads_ofMembers hnames (.head _) rfl
  have hdockercfg : form.Reads (registryToJson r) "dockercfg" decode none r.dockercfg :=
    reads_ofMembers hnames (.tail _ (.head _)) (Json.standsFor_map (fun _ => rfl) nofun)
  have hdockerconfigjson :
      form.Reads (registryToJson r) "dockerconfigjson" decode none r.dockerconfigjson :=
    reads_ofMembers hnames (.tail _ (.tail _ (.head _)))
      (Json.standsFor_map (fun _ => rfl) nofun)
  change form.finish (.named _) _ _ = _
  rw [finish_named]
  · rw [(himage _ rfl).2, (hdockercfg _ rfl).2, (hdockerconfigjson _ rfl).2]
  · exact List.forall_mem_cons.2 ⟨(himage _ rfl).1, List.forall_mem_cons.2
      ⟨(hdockercfg _ rfl).1, List.forall_mem_singleton.2 (hdockerconfigjson _ rfl).1⟩⟩
  · simp [form]

end Registry

/-- The containers of one deployment, as they stand in an entry. -/
def containersToJson (containers : SortedMap String Container) : Json :=
  .obj (containers.toList.map fun c => (c.1, containerToJson c.2))

theorem decodeMapWith_containersToJson (containers : SortedMap String Container) :
    decodeMapWith Container.ofJson (containersToJson containers) = .ok containers :=
  decodeMapWith_map fun _ _ => Container.ofJson_toJson _

namespace Entry

def form : RecordForm :=
  ⟨"Entry", [("authorized-keys", true), ("manifests", false), ("registry", false),
    ("deployments", true)]⟩

def ofJson (j : Json) : Decoded Entry := do
  let fs ← form.fieldsOf j
  let authorizedKeys : Decoded (Option String) := form.read fs "authorized-keys" decode
  let manifests := form.read fs "manifests" (decodeOptionWith Manifests.ofJson)
  let registry := form.read fs "registry" (decodeOptionWith Registry.ofJson)
  let deployments := form.read fs "deployments" (decodeMapWith (decodeMapWith Container.ofJson))
  form.finish fs
    [("authorized-keys", errorOf authorizedKeys), ("manifests", errorOf manifests),
      ("registry", errorOf registry), ("deployments", errorOf deployments)]
    { authorizedKeys := valueOr "" authorizedKeys, manifests := valueOr none manifests,
      registry := valueOr none registry, deployments := valueOr .empty deployments }

theorem ofJson_toJson (e : Entry) : ofJson (entryToJson e) = .ok e := by
  have hnames : ["authorized-keys", "manifests", "registry", "deployments"].Nodup := by decide
  have hkeys : form.Reads (entryToJson e) "authorized-keys" decode "" e.authorizedKeys :=
    reads_obj hnames (.head _) rfl
  have hmanifests : form.Reads (entryToJson e) "manifests" (decodeOptionWith Manifests.ofJson)
      none e.manifests :=
    reads_obj hnames (.tail _ (.head _)) (decodeOptionWith_map Manifests.ofJson_toJson nofun)
  have hregistry : form.Reads (entryToJson e) "registry" (decodeOptionWith Registry.ofJson)
      none e.registry :=
    reads_obj hnames (.tail _ (.tail _ (.head _)))
      (decodeOptionWith_map Registry.ofJson_toJson nofun)
  have hdeployments : form.Reads (entryToJson e) "deployments"
      (decodeMapWith (decodeMapWith Container.ofJson)) .empty e.deployments :=
    reads_obj hnames (.tail _ (.tail _ (.tail _ (.head _))))
      (decodeMapWith_map fun _ _ => decodeMapWith_containersToJson _)
  change form.finish (.named _) _ _ = _
  rw [finish_named]
  · rw [(hkeys _ rfl).2, (hmanifests _ rfl).2, (hregistry _ rfl).2, (hdeployments _ rfl).2]
  · exact List.forall_mem_cons.2 ⟨(hkeys _ rfl).1, List.forall_mem_cons.2
      ⟨(hmanifests _ rfl).1, List.forall_mem_cons.2
        ⟨(hregistry _ rfl).1, List.forall_mem_singleton.2 (hdeployments _ rfl).1⟩⟩⟩
  · simp [form]

end Entry

def ofJson (j : Json) : Decoded Document := decodeMapWith Entry.ofJson j

theorem ofJson_toJson (d : Document) : ofJson d.toJson = .ok d :=
  decodeMapWith_map fun _ _ => Entry.ofJson_toJson _

/-! ## The form of the text -/

theorem isTextual_registry (r : Registry) : IsTextual 1 (registryToJson r) := by
  have htext : ∀ s : String, IsTextual 0 (.str s) := fun s => .str s
  refine isTextual_ofMembers (List.forall_mem_cons.2 ⟨?imagePrefix, List.forall_mem_cons.2
    ⟨?dockercfg, List.forall_mem_singleton.2 ?dockerconfigjson⟩⟩)
  case imagePrefix => exact fun j hj => Option.some.inj hj ▸ htext r.imagePrefix
  case dockercfg => exact fun j hj => isTextual_of_mem_map htext hj
  case dockerconfigjson => exact fun j hj => isTextual_of_mem_map htext hj

theorem isTextual_container (c : Container) : IsTextual 3 (containerToJson c) := by
  refine .obj (List.forall_mem_cons.2 ⟨.str _, List.forall_mem_cons.2 ⟨.str _,
    List.forall_mem_singleton.2 ?_⟩⟩)
  exact isTextual_arr_map BuildArg.isTextual_toJson c.buildArgs

theorem isTextual_entry (e : Entry) : IsTextual 6 (entryToJson e) := by
  have hcontainers : ∀ m : SortedMap String Container, IsTextual 4 (containersToJson m) :=
    isTextual_obj_map isTextual_container
  refine .obj (List.forall_mem_cons.2 ⟨.str _, List.forall_mem_cons.2 ⟨?manifests,
    List.forall_mem_cons.2 ⟨?registry, List.forall_mem_singleton.2 ?deployments⟩⟩⟩)
  case manifests =>
    exact isTextual_getD_map (fun m => m.isTextual_toJson.mono (by decide)) e.manifests
  case registry =>
    exact isTextual_getD_map (fun r => (isTextual_registry r).mono (by decide)) e.registry
  case deployments => exact isTextual_obj_map hcontainers e.deployments

theorem isTextual_toJson (d : Document) : IsTextual 7 d.toJson :=
  isTextual_obj_map isTextual_entry d

/-! ## The text holds the document -/

/-- The document that a text holds. -/
def ofText? (text : String) : Option Document :=
  (Json.Reader.whole? Json.Reader.maxDepth text).bind fun j => (ofJson j).toOption

theorem ofText?_render (d : Document) : ofText? d.render = some d := by
  have hdepth : IsTextual Json.Reader.maxDepth d.toJson := (isTextual_toJson d).mono (by decide)
  rw [ofText?, render, Json.Reader.whole?_text hdepth, Option.bind_some, ofJson_toJson]
  rfl

theorem render_injective : Function.Injective render := by
  intro a b hsame
  have hread := congrArg ofText? hsame
  rw [ofText?_render, ofText?_render] at hread
  exact Option.some.inj hread

/-- A ConfigMap that holds the text of one document differs from the text of
another one, provided that their hashes do. -/
theorem differs_render_iff {c : ConfigMap} {a b : Document} (hstored : stored? c = some a.render)
    (hcollision : contentHash a.render = contentHash b.render → a.render = b.render) :
    differs c b.render = true ↔ a ≠ b := by
  rw [← Bool.not_eq_false, not_iff_not, differs_eq_false_iff]
  constructor
  · rintro ⟨held, hheld, hhash⟩
    obtain rfl := Option.some.inj (hstored.symm.trans hheld)
    exact render_injective (hcollision hhash)
  · rintro rfl
    exact ⟨a.render, hstored, rfl⟩

theorem differs_of_stored?_eq_none {c : ConfigMap} (hstored : stored? c = none) (text : String) :
    differs c text = true := by
  rw [differs, hstored]
  rfl

/-- The text of a document is read back as that document, so that documents are
equal when their texts are, and a change is noticed exactly when there is one. -/
theorem text_tells_every_change :
    (∀ d : Document, ofText? d.render = some d) ∧
      (∀ a b : Document, a.render = b.render ↔ a = b) ∧
      (∀ (c : ConfigMap) (a b : Document), stored? c = some a.render →
        (contentHash a.render = contentHash b.render → a.render = b.render) →
        (differs c b.render = true ↔ a ≠ b)) ∧
      ∀ (c : ConfigMap) (text : String),
        (c.data = none ∨ ∃ data, c.data = some data ∧ data.get? dataKey = none) →
        differs c text = true := by
  refine ⟨ofText?_render, fun a b => render_injective.eq_iff,
    fun _ _ _ hstored hcollision => differs_render_iff hstored hcollision, ?_⟩
  intro c text habsent
  apply differs_of_stored?_eq_none
  rw [stored?]
  obtain hdata | ⟨data, hdata, hentry⟩ := habsent
  · rw [hdata]
    rfl
  · rw [hdata]
    exact hentry

/-- One Remote, whose name is in quotes and whose key ends a line. -/
def sample : Document :=
  .ofList [("\"a\"", {
    authorizedKeys := "k\n"
    manifests := none
    registry := none
    deployments := .empty })]

theorem text_tells_every_change_of_sample :
    ofText? sample.render = some sample ∧
      differs (putInto { metadata := {} } sample.render) (Document.render .empty) = true ∧
      differs { metadata := {}, data := some .empty } sample.render = true := by
  obtain ⟨hread, -, hdiffers, habsent⟩ := text_tells_every_change
  have hdistinct : contentHash sample.render ≠ contentHash (Document.render .empty) := by
    decide +kernel
  refine ⟨hread sample, ?_, habsent _ _ (.inr ⟨.empty, rfl, rfl⟩)⟩
  exact (hdiffers _ sample .empty (stored?_putInto _ _) fun hsame => absurd hsame hdistinct).2
    (by decide +kernel)

end GatewaySync.Document
