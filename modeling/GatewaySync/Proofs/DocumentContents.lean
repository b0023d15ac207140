import GatewaySync.Proofs.Course
import GatewaySync.Proofs.Credentials

/-!
# What the document says

The document, the build targets of a Remote and the containers of a target are maps
that are filled from lists, and of several elements of one name the last one stands.
So the document can be read off the list of the Remotes: it has an entry for each
name, which is that of the last Remote of this name and does not depend on anything
else.
-/

namespace GatewaySync

/-- The last element of a name in a list. -/
def IsLastNamed {α κ : Type} (name : α → κ) (key : κ) (l : List α) (a : α) : Prop :=
  name a = key ∧ ∃ before after, l = before ++ a :: after ∧ ∀ b ∈ after, name b ≠ key

section LastNamed

variable {α β κ : Type} {name : α → κ} {key : κ} {l : List α} {a : α}

theorem find?_reverse_eq_some_iff [DecidableEq κ] :
    (l.reverse.find? fun a => name a = key) = some a ↔ IsLastNamed name key l a := by
  rw [List.find?_eq_some_iff_append, IsLastNamed, decide_eq_true_eq]
  refine and_congr_right fun _ => ?_
  constructor
  · rintro ⟨after, before, hsplit, hafter⟩
    refine ⟨before.reverse, after.reverse, ?_, fun b hb => ?_⟩
    · simpa using congrArg List.reverse hsplit
    · simpa using hafter b (List.mem_reverse.1 hb)
  · rintro ⟨before, after, rfl, hafter⟩
    refine ⟨after.reverse, before.reverse, by simp, fun b hb => ?_⟩
    simpa using hafter b (List.mem_reverse.1 hb)

/-- A map that is filled from a list has the last element of each name. -/
theorem SortedMap.get?_ofList_map_eq_some_iff [Ord κ] [Std.TransOrd κ] [Std.LawfulEqOrd κ]
    [DecidableEq κ] {value : α → β} {b : β} :
    (SortedMap.ofList (l.map fun a => (name a, value a))).get? key = some b ↔
      ∃ a, IsLastNamed name key l a ∧ b = value a := by
  rw [get?_ofList, ← List.map_reverse, List.find?_map, Option.map_map, Option.map_eq_some_iff]
  exact exists_congr fun a => and_congr find?_reverse_eq_some_iff eq_comm

end LastNamed

namespace Document

/-- The name under which the entry of a Remote stands. -/
def Source.key (s : Source) : String := s.remote.qualifiedName

/-- The secret is the one that was found under the name that the Remote gives, if it
gives one. -/
def Source.IsReadIn (s : Source) (exchanges : List Exchange) : Prop :=
  (∀ ref, s.remote.NamesSecret ref → .read ref (.ok s.secret) ∈ exchanges) ∧
    ((∀ ref, ¬s.remote.NamesSecret ref) → s.secret = none)

/-- What a Remote asks for stands in the entry: its keys line by line, its manifests, a
registry if it declares one, and its build targets, each with the containers of the last
target of this name. -/
structure Entry.Describes (e : Entry) (r : Remote) : Prop where
  authorizedKeys : e.authorizedKeys.toList =
    ['\n'].intercalate (r.spec.authorizedKeys.map String.toList)
  manifests : e.manifests = r.spec.manifests
  registry : e.registry = none ↔ ∀ declared, r.spec.registry = some declared →
    declared.url = "" ∧ declared.credentials = none
  tags : ∀ tag, tag ∈ e.deployments.keys ↔
    ∃ t ∈ r.spec.targets, tag = r.metadata.nsOrEmpty ++ "." ++ t.name
  containers : ∀ tag containers, e.deployments.get? tag = some containers →
    ∃ t, IsLastNamed BuildTarget.name t.name r.spec.targets t ∧
      tag = r.metadata.nsOrEmpty ++ "." ++ t.name ∧
      (∀ name, name ∈ containers.keys ↔ name ∈ t.containers.map BuildContainer.name) ∧
      ∀ name container, containers.get? name = some container ↔
        ∃ b, IsLastNamed BuildContainer.name name t.containers b ∧
          container = ⟨b.path, b.dockerfile, b.buildArgs⟩

theorem targetTag_inj {ns : String} {t t' : BuildTarget} :
    targetTag ns t = targetTag ns t' ↔ t.name = t'.name :=
  String.append_right_inj (ns ++ ".")

/-- A Remote declares no registry if there is none or it is empty. -/
theorem declared?_eq_none_iff {r : Remote} :
    declared? r = none ↔ ∀ declared, r.spec.registry = some declared →
      declared.url = "" ∧ declared.credentials = none := by
  rw [declared?, Option.filter_eq_none_iff]
  refine forall_congr' fun declared => imp_congr_right fun _ => ?_
  rw [GatewaySync.Registry.isDeclared]
  simp

/-- The entry of a Remote describes it, whichever secret it is given. -/
theorem describes_entryOf (r : Remote) (secret : Option Secret) :
    (entryOf r secret).Describes r where
  authorizedKeys := String.toList_intercalate
  manifests := rfl
  registry := Option.map_eq_none_iff.trans declared?_eq_none_iff
  tags tag := by
    rw [entryOf, SortedMap.mem_keys_ofList_iff, List.map_map, List.mem_map]
    exact exists_congr fun t => and_congr_right fun _ => eq_comm
  containers tag containers hget := by
    rw [entryOf, SortedMap.get?_ofList_map_eq_some_iff] at hget
    obtain ⟨t, ⟨rfl, before, after, hsplit, hafter⟩, rfl⟩ := hget
    refine ⟨t, ⟨rfl, before, after, hsplit, fun t' ht' => ?_⟩, rfl, fun name => ?_, ?_⟩
    · exact fun hname => hafter t' ht' (targetTag_inj.2 hname)
    · rw [containersOf, SortedMap.mem_keys_ofList_iff, List.map_map]
      rfl
    · exact fun name container => SortedMap.get?_ofList_map_eq_some_iff

theorem get?_build_eq_some_iff {sources : List Source} {key : String} {e : Entry} :
    (build sources).get? key = some e ↔ ∃ s, IsLastNamed Source.key key sources s ∧ e = s.entry :=
  SortedMap.get?_ofList_map_eq_some_iff

theorem mem_keys_build_iff {sources : List Source} {key : String} :
    key ∈ (build sources).keys ↔
      key ∈ (sources.map Source.remote).map Remote.qualifiedName := by
  rw [build, SortedMap.mem_keys_ofList_iff, List.map_map, List.map_map]
  rfl

/-- The namespace, the specification and the secret are all that an entry is made from. -/
theorem Source.entry_eq {s s' : Source}
    (hns : s.remote.metadata.nsOrEmpty = s'.remote.metadata.nsOrEmpty)
    (hspec : s.remote.spec = s'.remote.spec) (hsecret : s.secret = s'.secret) :
    s.entry = s'.entry := by
  simp only [Source.entry, entryOf, declared?, hns, hspec, hsecret]

theorem isReadIn_of_gathers {remotes : List Remote} {exchanges : List Exchange}
    {sources : List Source} (hgathers : Pass.Gathers remotes exchanges sources) {s : Source}
    (hs : s ∈ sources) : s.IsReadIn exchanges := by
  constructor
  · intro ref hnames
    rw [hgathers.lookUps]
    refine List.mem_filterMap.2 ⟨s, hs, ?_⟩
    rw [Source.lookUp?, secretRef?_eq_some_iff.2 hnames, Option.map_some]
  · intro hnone
    apply hgathers.others s hs
    rw [Option.eq_none_iff_forall_ne_some]
    exact fun ref href => hnone ref (secretRef?_eq_some_iff.1 href)

/-- Where no secret fails to be read, the document is built, from the Remotes with the
secrets that they name.  Its keys are the qualified names of the Remotes, and the entry
of a key is that of the last Remote of this name, which it describes.  Two lists make the
same entry of a key if their last Remotes of this name have the same namespace,
specification and secret. -/
theorem build_describes_last (remotes : List Remote) :
    (∀ exchanges result,
      (build <$> gather Pass.readSecret remotes).Course exchanges result →
      (∀ x ∈ exchanges, x.hasFailed = false) →
      ∃ sources, Pass.Gathers remotes exchanges sources ∧ result = .ok (build sources)) ∧
    (∀ exchanges sources, Pass.Gathers remotes exchanges sources →
      (build <$> gather Pass.readSecret remotes).Course exchanges (.ok (build sources)) ∧
      (∀ key, key ∈ (build sources).keys ↔ key ∈ remotes.map Remote.qualifiedName) ∧
      (∀ key e, (build sources).get? key = some e ↔
        ∃ s, IsLastNamed Source.key key sources s ∧ e = s.entry) ∧
      ∀ s ∈ sources, s.entry.Describes s.remote ∧ s.IsReadIn exchanges) ∧
    ∀ sources sources' key s s', IsLastNamed Source.key key sources s →
      IsLastNamed Source.key key sources' s' →
      s.remote.metadata.nsOrEmpty = s'.remote.metadata.nsOrEmpty →
      s.remote.spec = s'.remote.spec → s.secret = s'.secret →
      (build sources).get? key = (build sources').get? key := by
  refine ⟨?_, ?_, ?_⟩
  · intro exchanges result hcourse hreads
    rw [← bind_pure_comp, Pass.course_bind_iff] at hcourse
    obtain ⟨reason, rfl, hgather⟩ | ⟨sources, before, after, rfl, hgather, hbuild⟩ := hcourse
    · obtain ⟨_, ref, rfl⟩ := Pass.course_gather_error hgather
      cases hreads (.read ref (.error reason)) (by simp)
    · obtain ⟨rfl, rfl⟩ := Pass.course_pure_iff.1 hbuild
      rw [List.append_nil]
      exact ⟨sources, Pass.course_gather_ok_iff.1 hgather, rfl⟩
  · intro exchanges sources hgathers
    refine ⟨?_, fun key => ?_, fun key e => get?_build_eq_some_iff, fun s hs => ?_⟩
    · rw [← bind_pure_comp, ← List.append_nil exchanges]
      exact (Pass.course_gather_ok_iff.2 hgathers).bind_of_ok (.done _)
    · rw [mem_keys_build_iff, hgathers.remotes]
    · exact ⟨describes_entryOf s.remote s.secret, isReadIn_of_gathers hgathers hs⟩
  · intro sources sources' key s s' hs hs' hns hspec hsecret
    rw [get?_build_eq_some_iff.2 ⟨s, hs, rfl⟩, get?_build_eq_some_iff.2 ⟨s', hs', rfl⟩,
      Source.entry_eq hns hspec hsecret]

/-- The Remote `a-b/c`. -/
def replaced : Source where
  remote := { metadata := { name := some "c", ns := some "a-b" },
              spec := { authorizedKeys := ["one"] } }

/-- The Remote `a/b-c`, with a build target declared twice and a secret that is not
found. -/
def replacing : Source where
  remote :=
    { metadata := { name := some "b-c", ns := some "a" },
      spec :=
        { authorizedKeys := ["two", "three"]
          registry := some { url := "registry/", credentials := some { secretRef := some "login" } }
          targets := [{ name := "www", containers := [{ name := "old" }] },
            { name := "www", containers := [{ name := "web", path := "first" },
              { name := "web", path := "last" }] }] } }

theorem build_describes_last_replacing :
    let exchanges := [.read ⟨"a", "login"⟩ (.ok none)]
    (build <$> gather Pass.readSecret [replaced.remote, replacing.remote]).Course exchanges
        (.ok (build [replaced, replacing])) ∧
      (∃ sources, Pass.Gathers [replaced.remote, replacing.remote] exchanges sources ∧
        build sources = build [replaced, replacing]) ∧
      (build [replaced, replacing]).get? "a-b-c" = some replacing.entry ∧
      (build [replaced, replacing]).get? "a-b-c" = (build [replacing]).get? "a-b-c" ∧
      replacing.entry.Describes replacing.remote := by
  obtain ⟨hread, hbuilds, hsame⟩ := build_describes_last [replaced.remote, replacing.remote]
  have hgathers : Pass.Gathers [replaced.remote, replacing.remote]
      [.read ⟨"a", "login"⟩ (.ok none)] [replaced, replacing] := by
    have hnone : secretRef? replaced.remote = none := by decide +kernel
    have hsome : secretRef? replacing.remote = some ⟨"a", "login"⟩ := by decide +kernel
    refine ⟨rfl, ?_, ?_⟩
    · simp only [List.filterMap_cons, Source.lookUp?, hnone, hsome]
      rfl
    · simp [replaced, replacing]
  have hlast : IsLastNamed Source.key "a-b-c" [replaced, replacing] replacing :=
    ⟨by decide +kernel, [replaced], [], rfl, by simp⟩
  have halone : IsLastNamed Source.key "a-b-c" [replacing] replacing :=
    ⟨by decide +kernel, [], [], rfl, by simp⟩
  obtain ⟨hcourse, -, hget, hdescribes⟩ := hbuilds _ _ hgathers
  obtain ⟨sources, hsources, hok⟩ := hread _ _ hcourse (by simp [Exchange.hasFailed])
  exact ⟨hcourse, ⟨sources, hsources, (Except.ok.inj hok).symm⟩,
    (hget _ _).2 ⟨replacing, hlast, rfl⟩, hsame _ _ _ _ _ hlast halone rfl rfl rfl,
    (hdescribes replacing (by simp)).1⟩

end Document

end GatewaySync
