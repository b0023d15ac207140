import GatewaySync.Proofs.DocumentText
import GatewaySync.Proofs.Perform

/-!
# Which secrets reach the document

The document shows of a secret no more than one credential: the text of the entry
that the secret's type stands for.  It is the credential of a secret that a Remote
names, and that secret is in the Remote's own namespace.  Other namespaces, other
secrets, other types and other entries make no difference to the text, and no pass
ever looks them up.
-/

namespace GatewaySync

/-- What the secret of a registry holds. -/
inductive Credential where
  | dockercfg (text : String)
  | dockerconfigjson (text : String)
deriving DecidableEq, Repr

/-- The text of the entry that the secret's type stands for. -/
def Secret.credential? (s : Secret) : Option Credential :=
  if s.type = some "kubernetes.io/dockercfg" then
    (Document.secretText? s ".dockercfg").map .dockercfg
  else if s.type = some "kubernetes.io/dockerconfigjson" then
    (Document.secretText? s ".dockerconfigjson").map .dockerconfigjson
  else none

/-- The Remote declares a registry whose credentials are in the secret, and the
secret is one of the Remote's own namespace. -/
def Remote.NamesSecret (r : Remote) (name : NamespacedName) : Prop :=
  ∃ registry, r.spec.registry = some registry ∧ registry.isDeclared = true ∧
    registry.secretName? = some name.name ∧ name.ns = r.metadata.nsOrEmpty

namespace Document

theorem secretRef?_eq_some_iff {r : Remote} {name : NamespacedName} :
    secretRef? r = some name ↔ r.NamesSecret name := by
  obtain ⟨ns, secret⟩ := name
  have hdeclared : ∀ registry, declared? r = some registry ↔
      r.spec.registry = some registry ∧ registry.isDeclared = true := fun registry =>
    Option.filter_eq_some_iff
  simp only [secretRef?, Option.bind_eq_bind, Option.bind_eq_some_iff, hdeclared,
    Option.pure_def, Option.some.injEq, NamespacedName.mk.injEq, Remote.NamesSecret]
  constructor
  · rintro ⟨registry, ⟨hregistry, hdeclares⟩, _, hsecret, rfl, rfl⟩
    exact ⟨registry, hregistry, hdeclares, hsecret, rfl⟩
  · rintro ⟨registry, hregistry, hdeclares, hsecret, rfl⟩
    exact ⟨registry, ⟨hregistry, hdeclares⟩, secret, hsecret, rfl, rfl⟩

/-! ## The document as a function of the credentials -/

/-- The part of an entry that shows the registry and its credential. -/
def registryWith (r : GatewaySync.Registry) : Option Credential → Registry
  | none => { imagePrefix := r.url }
  | some (.dockercfg text) => { imagePrefix := r.url, dockercfg := some text }
  | some (.dockerconfigjson text) => { imagePrefix := r.url, dockerconfigjson := some text }

theorem registryWith_injective (r : GatewaySync.Registry) :
    Function.Injective (registryWith r) := by
  rintro (_ | _ | _) (_ | _ | _) heq <;> simp_all [registryWith]

theorem registryOf_eq (r : GatewaySync.Registry) (secret : Option Secret) :
    registryOf r secret = registryWith r (secret.bind Secret.credential?) := by
  cases secret with
  | none => rfl
  | some s =>
      rw [registryOf, Option.bind_some, Secret.credential?]
      split
      · cases secretText? s ".dockercfg" <;> rfl
      · split
        · cases secretText? s ".dockerconfigjson" <;> rfl
        · rfl

/-- The credential that a Remote's entry shows, were these the secrets. -/
def credentialOf? (secrets : NamespacedName → Option Secret) (r : Remote) : Option Credential :=
  ((secretRef? r).bind secrets).bind Secret.credential?

theorem entry_sourceOf (secrets : NamespacedName → Option Secret) (r : Remote) :
    (sourceOf secrets r).entry =
      { entryOf r none with
        registry := (declared? r).map fun d => registryWith d (credentialOf? secrets r) } := by
  simp only [sourceOf, Source.entry, entryOf, registryOf_eq, credentialOf?]

theorem credentialOf?_eq_of_agree {secrets secrets' : NamespacedName → Option Secret} {r : Remote}
    (hagree : ∀ name, r.NamesSecret name →
      (secrets name).bind Secret.credential? = (secrets' name).bind Secret.credential?) :
    credentialOf? secrets r = credentialOf? secrets' r := by
  rw [credentialOf?, credentialOf?]
  cases href : secretRef? r with
  | none => rfl
  | some name => exact hagree name (secretRef?_eq_some_iff.1 href)

theorem ofRemotes_eq_of_agree {secrets secrets' : NamespacedName → Option Secret}
    {remotes : List Remote}
    (hagree : ∀ r ∈ remotes, ∀ name, r.NamesSecret name →
      (secrets name).bind Secret.credential? = (secrets' name).bind Secret.credential?) :
    ofRemotes secrets remotes = ofRemotes secrets' remotes := by
  rw [ofRemotes_eq_ofList, ofRemotes_eq_ofList]
  congr 1
  apply List.map_congr_left
  intro r hr
  rw [entry_sourceOf, entry_sourceOf, credentialOf?_eq_of_agree (hagree r hr)]

/-- The entry of a Remote that stands alone shows its credential. -/
theorem credential_eq_of_ofRemotes_singleton {secrets secrets' : NamespacedName → Option Secret}
    {r : Remote} {name : NamespacedName} (hname : r.NamesSecret name)
    (hsame : ofRemotes secrets [r] = ofRemotes secrets' [r]) :
    (secrets name).bind Secret.credential? = (secrets' name).bind Secret.credential? := by
  have href := secretRef?_eq_some_iff.2 hname
  obtain ⟨registry, hregistry, hdeclares, -⟩ := hname
  have hdeclared : declared? r = some registry :=
    Option.filter_eq_some_iff.2 ⟨hregistry, hdeclares⟩
  have hentry : ∀ secrets : NamespacedName → Option Secret,
      (ofRemotes secrets [r]).get? r.qualifiedName = some (sourceOf secrets r).entry :=
    fun secrets => get?_ofRemotes secrets (List.nodup_singleton _) List.mem_cons_self
  have hentries := (hentry secrets).symm.trans (hsame ▸ hentry secrets')
  rw [entry_sourceOf, entry_sourceOf, hdeclared] at hentries
  have hregistries := congrArg Entry.registry (Option.some.inj hentries)
  have hcredential := registryWith_injective registry (Option.some.inj hregistries)
  rw [credentialOf?, credentialOf?, href] at hcredential
  exact hcredential

end Document

/-! ## What is looked up -/

namespace Pass

variable {α β : Type} {known : Remote → Prop}

/-- However the calls are answered, each secret that is looked up is named by one of
the known Remotes, as long as the cache shows no others. -/
def LooksUp (known : Remote → Prop) : Pass α → Prop
  | .done _ => True
  | .abort _ => True
  | .looking next => ∀ c : Cluster, (∀ r ∈ c.allCached Remote, known r) → LooksUp known (next c)
  | .reading name next =>
    (∃ r, known r ∧ r.NamesSecret name) ∧ ∀ found, LooksUp known (next found)
  | .writing _ next => LooksUp known next
  | .counting _ next => LooksUp known next

theorem LooksUp.bind {p : Pass α} {f : α → Pass β} (hp : p.LooksUp known)
    (hf : ∀ a, (f a).LooksUp known) : (p >>= f).LooksUp known := by
  change (p.andThen f).LooksUp known
  induction p with
  | done a => exact hf a
  | abort reason => exact trivial
  | looking next ih => exact fun c hc => ih c (hp c hc)
  | reading name next ih => exact ⟨hp.1, fun found => ih found (hp.2 found)⟩
  | writing write next ih => exact ih hp
  | counting series next ih => exact ih hp

theorem looksUp_gatewayObject (α : Type) [Stored α] (name : NamespacedName) :
    (gatewayObject α name).LooksUp known := by
  intro c _
  dsimp only [andThen]
  cases c.cached? α name <;> exact trivial

theorem looksUp_parseKey (key : String) : (parseKey key).LooksUp known := by
  rw [parseKey]
  cases NamespacedName.ofString? key <;> exact trivial

/-- The secrets are looked up one by one, each for a Remote that names it. -/
theorem looksUp_gather {remotes : List Remote} (hremotes : ∀ r ∈ remotes, known r) :
    (Document.gather readSecret remotes).LooksUp known := by
  rw [Document.gather]
  induction remotes with
  | nil => exact trivial
  | cons r rest ih =>
      have hfirst : (Document.gatherOne readSecret r).LooksUp known := by
        rw [Document.gatherOne]
        cases href : Document.secretRef? r with
        | none => exact trivial
        | some name =>
            exact ⟨⟨r, hremotes r List.mem_cons_self, Document.secretRef?_eq_some_iff.1 href⟩,
              fun _ => trivial⟩
      rw [List.mapM_cons]
      refine hfirst.bind fun _ => LooksUp.bind (ih fun r hr => ?_) fun _ => trivial
      exact hremotes r (List.mem_cons_of_mem _ hr)

theorem looksUp_publish (configMap : ConfigMap) (d : Deployment) (text : String) :
    (publish configMap d text).LooksUp known := by
  have hrestarts : ∀ restart written : Bool, ((do
      if restart then
        replaceDeployment (d.restarted (Document.contentHash text) (← look).clock)
        count .gatewayRestarts
      return written) : Pass Bool).LooksUp known := by
    intro restart written
    cases restart with
    | false => exact trivial
    | true => exact fun _ _ => trivial
  cases hdiffers : Document.differs configMap text with
  | false =>
      simp only [publish, hdiffers, Bool.false_or, Bool.false_eq_true, if_false]
      exact hrestarts _ false
  | true =>
      simp only [publish, hdiffers, Bool.true_or, if_true]
      exact hrestarts true true

theorem looksUp_syncDocument (s : Settings) : (syncDocument s).LooksUp known := by
  refine (looksUp_gatewayObject ConfigMap _).bind fun configMap => ?_
  refine (looksUp_gatewayObject Deployment _).bind fun d c hc => ?_
  exact (looksUp_gather hc).bind fun _ => looksUp_publish configMap d _

theorem looksUp_syncRemote (s : Settings) (key : String) : (syncRemote s key).LooksUp known := by
  refine (looksUp_parseKey key).bind fun name c _ => ?_
  cases hcached : c.cached? Remote name with
  | none =>
      simp only [andThen, hcached]
      exact trivial
  | some r =>
      simp only [andThen, hcached]
      refine (looksUp_syncDocument s).bind fun _ => ?_
      refine (looksUp_gatewayObject Service _).bind fun gateway => ?_
      by_cases hwrong : r.status ≠ some (r.statusBehind gateway)
      · rw [if_pos hwrong]
        exact trivial
      · rw [if_neg hwrong]
        exact trivial

/-- No pass of any handler looks up a secret but one that a cached Remote names. -/
theorem looksUp_sync (s : Settings) (h : Handler) (key : String) :
    (sync s h key).LooksUp known := by
  cases h with
  | remote => exact (looksUp_syncRemote s key).bind fun _ => trivial
  | configMap =>
      refine LooksUp.bind ((looksUp_parseKey key).bind fun name => ?_) fun _ => trivial
      by_cases hname : name = ⟨s.ns, s.configMap⟩
      · rw [if_pos hname]
        exact (looksUp_syncDocument s).bind fun _ => trivial
      · rw [if_neg hname]
        exact trivial
  | gateway => exact (looksUp_parseKey key).bind fun _ _ _ => trivial

end Pass

/-! ## Two stores of secrets -/

namespace Cluster

/-- What comes of rendering the document of some Remotes, were these the secrets. -/
def rendering (c : Cluster) (secrets : SortedMap NamespacedName Secret) (remotes : List Remote) :
    Except Abort String :=
  (perform { c with secrets }
    (Document.render <$> Document.build <$> Document.gather Pass.readSecret remotes)).1

theorem rendering_eq (c : Cluster) (secrets : SortedMap NamespacedName Secret)
    (remotes : List Remote) :
    c.rendering secrets remotes =
      match c.readFault? remotes with
      | none => .ok (Document.ofRemotes secrets.get? remotes).render
      | some fault => .error fault.abort := by
  obtain ⟨faults, -, -, hgather⟩ := perform_gather_eq { c with secrets } remotes
  have hfault : readFault? { c with secrets } remotes = c.readFault? remotes := rfl
  rw [hfault] at hgather
  rw [rendering, Functor.map_map, ← bind_pure_comp]
  cases hread : c.readFault? remotes with
  | none =>
      rw [hread] at hgather
      rw [perform_bind_ok hgather]
      rfl
  | some fault =>
      rw [hread] at hgather
      rw [perform_bind_error hgather]

theorem rendering_eq_of_agree (c : Cluster) {secrets secrets' : SortedMap NamespacedName Secret}
    {remotes : List Remote}
    (hagree : ∀ r ∈ remotes, ∀ name, r.NamesSecret name →
      (secrets.get? name).bind Secret.credential? =
        (secrets'.get? name).bind Secret.credential?) :
    c.rendering secrets remotes = c.rendering secrets' remotes := by
  rw [rendering_eq, rendering_eq, Document.ofRemotes_eq_of_agree hagree]

/-- Rendering the document comes to the same with any two stores of secrets that
agree on the credentials which the Remotes name.  So it does not matter what is
under other names, what else the named secrets hold, or which secret without a
credential is there; the credentials themselves do matter.  And no pass looks up a
secret under a name that is not in the namespace of the Remote that it is for. -/
theorem text_depends_on_credentials_only (c : Cluster) :
    (∀ (secrets secrets' : SortedMap NamespacedName Secret) (remotes : List Remote),
      (∀ r ∈ remotes, ∀ name, r.NamesSecret name →
        (secrets.get? name).bind Secret.credential? =
          (secrets'.get? name).bind Secret.credential?) →
      c.rendering secrets remotes = c.rendering secrets' remotes) ∧
    (∀ (secrets : SortedMap NamespacedName Secret) (remotes : List Remote)
        (name : NamespacedName) (s : Secret), (∀ r ∈ remotes, ¬r.NamesSecret name) →
      c.rendering (secrets.insert name s) remotes = c.rendering secrets remotes) ∧
    (∀ (secrets : SortedMap NamespacedName Secret) (remotes : List Remote)
        (name : NamespacedName) (s s' : Secret), s.credential? = s'.credential? →
      c.rendering (secrets.insert name s) remotes =
        c.rendering (secrets.insert name s') remotes) ∧
    (∀ (secrets : SortedMap NamespacedName Secret) (remotes : List Remote)
        (name : NamespacedName) (s : Secret), s.credential? = none →
      c.rendering (secrets.insert name s) remotes = c.rendering (secrets.erase name) remotes) ∧
    (∀ (secrets secrets' : SortedMap NamespacedName Secret) (r : Remote)
        (name : NamespacedName), c.readFault? [r] = none → r.NamesSecret name →
      c.rendering secrets [r] = c.rendering secrets' [r] →
        (secrets.get? name).bind Secret.credential? =
          (secrets'.get? name).bind Secret.credential?) ∧
    ∀ (known : Remote → Prop) (s : Settings) (h : Handler) (key : String),
      (Pass.sync s h key).LooksUp known := by
  refine ⟨fun _ _ _ hagree => c.rendering_eq_of_agree hagree, ?others, ?entries, ?types, ?exact,
    fun _ s h key => Pass.looksUp_sync s h key⟩
  case others =>
    intro secrets remotes name s hothers
    apply c.rendering_eq_of_agree
    rintro r hr name' hname
    rw [SortedMap.get?_insert, if_neg]
    rintro rfl
    exact hothers r hr hname
  case entries =>
    intro secrets remotes name s s' hsame
    apply c.rendering_eq_of_agree
    intro r _ name' _
    rw [SortedMap.get?_insert, SortedMap.get?_insert]
    split
    · exact hsame
    · rfl
  case types =>
    intro secrets remotes name s hnone
    apply c.rendering_eq_of_agree
    intro r _ name' _
    rw [SortedMap.get?_insert, SortedMap.get?_erase]
    split
    · exact hnone
    · rfl
  case exact =>
    intro secrets secrets' r name hreads hname hsame
    rw [rendering_eq, rendering_eq, hreads] at hsame
    exact Document.credential_eq_of_ofRemotes_singleton hname
      (Document.render_injective (Except.ok.inj hsame))

/-- Its registry names the secret `team/push` in the older form. -/
def pusher : Remote where
  metadata := { name := some "app", ns := some "team" }
  spec := {
    registry := some {
      url := "quay.io/team"
      credentials := some { secretRef := some "", secretKeyRef := some ⟨"push", none⟩ } } }

/-- A secret with a credential, and whatever else. -/
def pushSecret (more : List (String × Bytes)) : Secret where
  metadata := {}
  type := some "kubernetes.io/dockercfg"
  data := some (.ofList ((".dockercfg", [0x7b, 0xff, 0x7d]) :: more))

theorem text_depends_on_credentials_only_of_pusher :
    pusher.NamesSecret ⟨"team", "push"⟩ ∧
      rendering {} (.ofList [(⟨"team", "push"⟩, pushSecret [])]) [pusher] =
        rendering {} (.ofList [(⟨"team", "push"⟩, pushSecret [(".dockerconfigjson", [0x31])]),
          (⟨"other", "push"⟩, pushSecret [])]) [pusher] ∧
      rendering {} (.ofList [(⟨"team", "push"⟩, pushSecret [])]) [pusher] ≠
        rendering {} .empty [pusher] := by
  obtain ⟨hagree, -, -, -, hexact, -⟩ := text_depends_on_credentials_only {}
  have hnames : Document.secretRef? pusher = some ⟨"team", "push"⟩ := by decide +kernel
  have hpush := Document.secretRef?_eq_some_iff.1 hnames
  refine ⟨hpush, hagree _ _ _ ?_, fun hsame => ?_⟩
  · intro r hr name hname
    obtain rfl := List.mem_singleton.1 hr
    obtain rfl := Option.some.inj (hnames.symm.trans (Document.secretRef?_eq_some_iff.2 hname))
    decide +kernel
  · exact absurd (hexact _ _ _ _ rfl hpush hsame) (by decide +kernel)

end Cluster

end GatewaySync
