import GatewaySync.Proofs.Perform

/-!
# Whether the document has every Remote

Building the document may lose a Remote to another one of the same qualified
name, and then the order in the cache decides which one stays.  This happens
exactly when two Remotes overlap.
-/

namespace GatewaySync.Document

/-- No two of the Remotes can be taken for each other by their qualified
names. -/
def NoOverlap (remotes : List Remote) : Prop :=
  remotes.Pairwise fun a b => ¬a.Overlaps b ∧ ¬b.Overlaps a

theorem nodup_qualifiedNames_iff {remotes : List Remote}
    (hdistinct : remotes.Pairwise fun a b => a.metadata.key ≠ b.metadata.key) :
    (remotes.map Remote.qualifiedName).Nodup ↔ NoOverlap remotes := by
  rw [List.Nodup, List.pairwise_map, NoOverlap]
  have hboth : ∀ {a b : Remote}, a.metadata.key ≠ b.metadata.key →
      (a.qualifiedName ≠ b.qualifiedName ↔ ¬a.Overlaps b ∧ ¬b.Overlaps a) := by
    intro a b hkey
    rw [ne_eq, Remote.qualifiedName_eq_iff]
    simp [hkey]
  constructor
  · intro hnames
    exact hdistinct.imp₂ (fun _ _ hkey hname => (hboth hkey).1 hname) hnames
  · intro hoverlap
    exact hdistinct.imp₂ (fun _ _ hkey hname => (hboth hkey).2 hname) hoverlap

/-- Where the secrets can be read, the document is built.  It has one entry for
every Remote exactly when no two of them overlap, and then every entry is its
Remote's own and the text does not depend on the order of the Remotes. -/
theorem keeps_every_remote_iff_noOverlap (c : Cluster) (remotes : List Remote)
    (hreads : c.Spares .readSecret)
    (hdistinct : remotes.Pairwise fun a b => a.metadata.key ≠ b.metadata.key) :
    (∀ order, (c.perform (build <$> gather Pass.readSecret order)).1 =
      .ok (ofRemotes c.secrets.get? order)) ∧
    ((ofRemotes c.secrets.get? remotes).size = remotes.length ↔ NoOverlap remotes) ∧
    (NoOverlap remotes →
      (∀ r ∈ remotes, (ofRemotes c.secrets.get? remotes).get? r.qualifiedName =
        some (entryOf r ((secretRef? r).bind c.secrets.get?))) ∧
      ∀ order, remotes.Perm order →
        (ofRemotes c.secrets.get? order).render =
          (ofRemotes c.secrets.get? remotes).render) := by
  refine ⟨?_, ?_, ?_⟩
  · intro order
    obtain ⟨faults, hgather, -⟩ := Cluster.perform_gather order hreads
    rw [Cluster.perform_map_ok build hgather]
    rfl
  · rw [size_ofRemotes_eq_iff, nodup_qualifiedNames_iff hdistinct]
  · intro hoverlap
    have hnames := (nodup_qualifiedNames_iff hdistinct).2 hoverlap
    constructor
    · intro r hr
      exact get?_ofRemotes _ hnames hr
    · intro order hperm
      rw [ofRemotes_eq_of_perm _ hnames hperm]

/-- The Remotes `a-b/c` and `a/b-d`. -/
def apart : List Remote :=
  [{ metadata := { name := some "c", ns := some "a-b" }, spec := {} },
    { metadata := { name := some "b-d", ns := some "a" }, spec := {} }]

theorem keeps_every_remote_apart :
    Cluster.Spares {} .readSecret ∧
      (apart.Pairwise fun a b => a.metadata.key ≠ b.metadata.key) ∧
      (ofRemotes (Cluster.secrets {}).get? apart).size = 2 ∧
      (ofRemotes (Cluster.secrets {}).get? apart.reverse).render =
        (ofRemotes (Cluster.secrets {}).get? apart).render := by
  have hreads : Cluster.Spares {} .readSecret := by
    intro fault hmem
    cases hmem
  have hdistinct : apart.Pairwise fun a b => a.metadata.key ≠ b.metadata.key := by
    decide
  have hoverlap : NoOverlap apart :=
    (nodup_qualifiedNames_iff hdistinct).1 (by decide)
  have hkeeps := keeps_every_remote_iff_noOverlap {} apart hreads hdistinct
  exact ⟨hreads, hdistinct, hkeeps.2.1.2 hoverlap,
    (hkeeps.2.2 hoverlap).2 _ (List.reverse_perm apart).symm⟩

/-- The Remotes `a-b/c` and `a/b-c`. -/
def overlapping : List Remote :=
  [{ metadata := { name := some "c", ns := some "a-b" },
     spec := { authorizedKeys := ["one"] } },
    { metadata := { name := some "b-c", ns := some "a" },
      spec := { authorizedKeys := ["two"] } }]

/-- Of two distinct Remotes one is lost, and the order decides which. -/
theorem overlapping_remote_lost :
    (overlapping.Pairwise fun a b => a.metadata.key ≠ b.metadata.key) ∧
      (ofRemotes (fun _ => none) overlapping).size = 1 ∧
      (ofRemotes (fun _ => none) overlapping).render ≠
        (ofRemotes (fun _ => none) overlapping.reverse).render := by
  refine ⟨?_, ?_, ?_⟩
  · decide
  · decide +kernel
  · decide +kernel

end GatewaySync.Document
