import GatewaySync.Document
import GatewaySync.Proofs.SortedMap

/-!
# The document as a function of the Remotes

Given the secrets, the document is a function of the list of Remotes.  Its
entries are filed under qualified names, which join namespace and name by a
dash.  Both may contain dashes themselves, so two Remotes can be filed under
one name; this module says exactly when, and what holds of the document when
it does not happen.
-/

namespace GatewaySync

namespace Remote

/-- The namespace of `b` goes on with a dash where that of `a` ends, and the
name of `a` makes up for it: `x/y-z` and `x-y/z`. -/
def Overlaps (a b : Remote) : Prop :=
  ∃ middle, b.metadata.nsOrEmpty = a.metadata.nsOrEmpty ++ "-" ++ middle ∧
    a.metadata.displayName = middle ++ "-" ++ b.metadata.displayName

/-- The qualified names of two Remotes are the same exactly when the Remotes
have the same namespace and name, or overlap. -/
theorem qualifiedName_eq_iff (a b : Remote) :
    a.qualifiedName = b.qualifiedName ↔
      a.metadata.key = b.metadata.key ∨ a.Overlaps b ∨ b.Overlaps a := by
  simp only [qualifiedName, Metadata.key, Overlaps, NamespacedName.mk.injEq]
  generalize a.metadata.nsOrEmpty = ns, a.metadata.displayName = name,
    b.metadata.nsOrEmpty = ns', b.metadata.displayName = name'
  constructor
  · intro heq
    have hchars : ns.toList ++ '-' :: name.toList = ns'.toList ++ '-' :: name'.toList := by
      simpa [String.append_assoc] using congrArg String.toList heq
    rcases List.append_eq_append_iff.1 hchars with ⟨gap, hns, hname⟩ | ⟨gap, hns, hname⟩
    · cases gap with
      | nil =>
          left
          simp only [List.append_nil, List.nil_append, List.cons.injEq, true_and]
            at hns hname
          exact ⟨String.toList_inj.1 hns.symm, String.toList_inj.1 hname⟩
      | cons dash middle =>
          right; left
          simp only [List.cons_append, List.cons.injEq] at hname
          obtain ⟨rfl, hname⟩ := hname
          refine ⟨String.ofList middle, ?_, ?_⟩
          · apply String.toList_inj.1
            simp [hns]
          · apply String.toList_inj.1
            simp [hname]
    · cases gap with
      | nil =>
          left
          simp only [List.append_nil, List.nil_append, List.cons.injEq, true_and]
            at hns hname
          exact ⟨String.toList_inj.1 hns, String.toList_inj.1 hname.symm⟩
      | cons dash middle =>
          right; right
          simp only [List.cons_append, List.cons.injEq] at hname
          obtain ⟨rfl, hname⟩ := hname
          refine ⟨String.ofList middle, ?_, ?_⟩
          · apply String.toList_inj.1
            simp [hns]
          · apply String.toList_inj.1
            simp [hname]
  · rintro (⟨rfl, rfl⟩ | ⟨middle, rfl, rfl⟩ | ⟨middle, rfl, rfl⟩)
    · rfl
    · simp only [String.append_assoc]
    · simp only [String.append_assoc]

end Remote

namespace Document

/-- A Remote with the secret that it refers to. -/
def sourceOf (secrets : NamespacedName → Option Secret) (r : Remote) : Source :=
  { remote := r, secret := (secretRef? r).bind secrets }

/-- The document of some Remotes. -/
def ofRemotes (secrets : NamespacedName → Option Secret) (remotes : List Remote) :
    Document :=
  build (remotes.map (sourceOf secrets))

variable (secrets : NamespacedName → Option Secret)

theorem ofRemotes_eq_ofList (remotes : List Remote) :
    ofRemotes secrets remotes =
      .ofList (remotes.map fun r => (r.qualifiedName, (sourceOf secrets r).entry)) := by
  rw [ofRemotes, build, List.map_map]
  rfl

/-- The document depends on the entries of the Remotes only, so a Remote may give
way to another one of its name and entry. -/
theorem ofRemotes_values_insert {remotes : SortedMap ObjectRef Remote} {ref : ObjectRef}
    {r old : Remote} (hold : remotes.get? ref = some old)
    (hname : r.qualifiedName = old.qualifiedName)
    (hentry : (sourceOf secrets r).entry = (sourceOf secrets old).entry) :
    ofRemotes secrets (remotes.insert ref r).values = ofRemotes secrets remotes.values := by
  rw [ofRemotes_eq_ofList, ofRemotes_eq_ofList,
    SortedMap.map_values_insert _ hold (by rw [hname, hentry])]

private theorem map_fst_entries (remotes : List Remote) :
    (remotes.map fun r => (r.qualifiedName, (sourceOf secrets r).entry)).map Prod.fst =
      remotes.map Remote.qualifiedName := by
  rw [List.map_map]
  rfl

/-- The document has an entry for every Remote exactly when the qualified names
are distinct. -/
theorem size_ofRemotes_eq_iff (remotes : List Remote) :
    (ofRemotes secrets remotes).size = remotes.length ↔
      (remotes.map Remote.qualifiedName).Nodup := by
  rw [ofRemotes_eq_ofList, ← map_fst_entries secrets, ← SortedMap.size_ofList_eq_iff,
    List.length_map]

theorem get?_ofRemotes {remotes : List Remote} {r : Remote}
    (hnames : (remotes.map Remote.qualifiedName).Nodup) (hr : r ∈ remotes) :
    (ofRemotes secrets remotes).get? r.qualifiedName =
      some (entryOf r ((secretRef? r).bind secrets)) := by
  rw [ofRemotes_eq_ofList, SortedMap.get?_ofList_eq_some_iff
    (by rw [map_fst_entries]; exact hnames)]
  exact List.mem_map.2 ⟨r, hr, rfl⟩

theorem ofRemotes_eq_of_perm {remotes order : List Remote}
    (hnames : (remotes.map Remote.qualifiedName).Nodup) (hperm : remotes.Perm order) :
    ofRemotes secrets order = ofRemotes secrets remotes := by
  rw [ofRemotes_eq_ofList, ofRemotes_eq_ofList]
  exact (SortedMap.ofList_eq_of_perm (by rw [map_fst_entries]; exact hnames)
    (hperm.map _)).symm

end Document

end GatewaySync
