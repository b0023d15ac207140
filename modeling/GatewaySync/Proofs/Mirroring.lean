import GatewaySync.Proofs.Amendments
import GatewaySync.Proofs.Notifications
import GatewaySync.Proofs.UnreadableSecrets

/-!
# Caches that agree with the server

The program is alone with the server: every cached object is the one that the
server holds, no call meets a fault, and every write is reported at once.  A
write of a cached object is then never refused, and afterwards the caches agree
with the server again.  Nothing is asked of the names of objects, and any of the
gateway's own objects may be missing.
-/

namespace GatewaySync

namespace Store

variable {α : Type} {store : Store α} {ref : ObjectRef} {a old : α}

/-- Whatever two objects have in common is found under every name after one has
taken the place of the other. -/
theorem map_find?_insert {β : Type} (f : α → β) (hold : store.get? ref = some old)
    (hsame : f a = f old) (name : ObjectRef) :
    (Store.find? (store.insert ref a) name).map f = (store.find? name).map f := by
  have hget := SortedMap.map_get?_insert f hold hsame
  simp only [find?, Option.map_or, hget]

variable [Cached α] {known : α → Prop}

/-- What a name stands for is filed under its own reference. -/
theorem Holds.get?_of_find? (hstore : store.Holds known) {name : ObjectRef}
    (hfind : store.find? name = some a) : store.get? (Cached.ref a) = some a := by
  rw [find?, Option.or_eq_some_iff] at hfind
  obtain hget | ⟨-, hget⟩ := hfind
  · rw [(hstore _ _ hget).1, hget]
  · rw [(hstore _ _ hget).1, hget]

/-- A name that stands for an object stands for the one that takes its place. -/
theorem Holds.find?_insert (hstore : store.Holds known) {name : ObjectRef}
    (hfind : store.find? name = some old) (href : Cached.ref a = Cached.ref old) :
    Store.find? (store.insert (Cached.ref a) a) name = some a := by
  have hold := hstore.get?_of_find? hfind
  rw [find?, Option.or_eq_some_iff] at hfind ⊢
  rw [SortedMap.get?_insert, SortedMap.get?_insert, href]
  obtain hget | ⟨hnone, hget⟩ := hfind
  · exact .inl (if_pos (hstore _ _ hget).1.symm)
  · refine .inr ⟨?_, if_pos (hstore _ _ hget).1.symm⟩
    rw [if_neg ?_, hnone]
    rintro rfl
    rw [hold] at hnone
    cases hnone

end Store

namespace Replica

variable {α : Type} [Cached α] {r : Replica α} {a old : α}

/-- Every cached object is filed under its own reference, and the server holds it
under its path. -/
def IsMirrored (r : Replica α) : Prop :=
  r.informer.store.Holds fun a => r.server.get? (Cached.key a).path = some a

theorem isMirrored_iff :
    r.IsMirrored ↔ ∀ entry ∈ r.informer.store.toList,
      Cached.ref entry.2 = entry.1 ∧ r.server.get? (Cached.key entry.2).path = some entry.2 := by
  constructor
  · intro hr entry hentry
    exact hr entry.1 entry.2 (SortedMap.get?_eq_some_iff.2 hentry)
  · intro hentries ref a hget
    exact hentries (ref, a) (SortedMap.get?_eq_some_iff.1 hget)

instance [DecidableEq α] (r : Replica α) : Decidable r.IsMirrored :=
  decidable_of_iff _ isMirrored_iff.symm

/-- A cached object gives way to another one of its name.  No other cached object
is held under the same path, since the server holds one object there. -/
theorem IsMirrored.take (hr : r.IsMirrored)
    (hold : r.informer.store.get? (Cached.ref old) = some old)
    (href : Cached.ref a = Cached.ref old) (hkey : Cached.key a = Cached.key old) :
    (r.take a).IsMirrored := by
  intro ref b hget
  change (r.informer.store.insert (Cached.ref a) a).get? ref = some b at hget
  change _ ∧ (r.server.insert (Cached.key a).path a).get? (Cached.key b).path = some b
  rw [SortedMap.get?_insert] at hget ⊢
  by_cases hplace : ref = Cached.ref a
  · rw [if_pos hplace] at hget
    obtain rfl := Option.some.inj hget
    exact ⟨hplace.symm, if_pos rfl⟩
  · rw [if_neg hplace] at hget
    obtain ⟨hfiled, hheld⟩ := hr ref b hget
    have hpath : (Cached.key b).path ≠ (Cached.key a).path := by
      intro hpath
      rw [hpath, hkey, (hr _ _ hold).2] at hheld
      obtain rfl := Option.some.inj hheld
      exact hplace (hfiled.symm.trans href.symm)
    exact ⟨hfiled, (if_neg hpath).trans hheld⟩

end Replica

namespace Cluster

/-- The caches of what passes write agree with the server, writes are reported at
once, and no call meets a fault. -/
structure IsMirrored (c : Cluster) : Prop where
  remotes : c.remotes.IsMirrored
  configMaps : c.configMaps.IsMirrored
  deployments : c.deployments.IsMirrored
  echoing : c.holding = false
  watching : ∀ kind, c.follows kind = true
  spares : ∀ call, c.Spares call

variable {c : Cluster}

theorem IsMirrored.facing (hc : c.IsMirrored) {faults : Call → List (Option Fault)}
    (hkeep : ∀ call, c.Spares call → (c.facing faults).Spares call) :
    (c.facing faults).IsMirrored :=
  { hc with spares := fun call => hkeep call (hc.spares call) }

/-- What a name stands for is filed under its own reference. -/
theorem get?_of_cached? {α : Type} [Stored α] (hr : (c.replica α).IsMirrored)
    {name : NamespacedName} {a : α} (hcached : c.cached? α name = some a) :
    (c.replica α).informer.store.get? (Cached.ref a) = some a :=
  hr.get?_of_find? hcached

/-- The server takes a cached object back, whatever was changed in it apart from
its metadata. -/
theorem attempt_of_isMirrored {α : Type} [Stored α] (hc : c.IsMirrored)
    (hr : (c.replica α).IsMirrored) {name : NamespacedName} {a old : α}
    (hcached : c.cached? α name = some old)
    (hmetadata : Cached.metadata a = Cached.metadata old) (call : Call) (write : α → Write) :
    ∃ faults, (c.facing faults).IsMirrored ∧
      c.attempt call a write = (.ok (), (c.facing faults).accept a write) := by
  obtain ⟨faults, hkeep, htaken⟩ := attempt_of_spares (hc.spares call) a write
  have hheld := (hr _ _ (get?_of_cached? hr hcached)).2
  have hrefusal : c.refusal? a = none := by
    refine refusal?_eq_none_iff.2 ⟨old, ?_, congrArg Metadata.resourceVersion hmetadata.symm⟩
    rw [show Cached.key a = Cached.key old from congrArg Metadata.key hmetadata]
    exact hheld
  rw [hrefusal] at htaken
  exact ⟨faults, hc.facing hkeep, htaken⟩

theorem replica_accept {α : Type} [Stored α] (hc : c.IsMirrored) (a : α) (write : α → Write) :
    (c.accept a write).replica α = (c.replica α).take (c.stamp a).1 := by
  rw [accept_of_echoing hc.echoing hc.watching]
  exact Stored.replica_setReplica _ _

/-- The cache shows the object that was taken, and agrees with the server again. -/
theorem cached?_accept {α : Type} [Stored α] (hc : c.IsMirrored) (hr : (c.replica α).IsMirrored)
    {name : NamespacedName} {a old : α} (hcached : c.cached? α name = some old)
    (hmetadata : Cached.metadata a = Cached.metadata old) (write : α → Write) :
    ((c.accept a write).replica α).IsMirrored ∧
      (c.accept a write).cached? α name = some (c.stamp a).1 := by
  have href : Cached.ref (c.stamp a).1 = Cached.ref old :=
    (Cached.ref_atVersion a _).trans (congrArg Metadata.ref hmetadata)
  have hkey : Cached.key (c.stamp a).1 = Cached.key old :=
    (Cached.key_atVersion a _).trans (congrArg Metadata.key hmetadata)
  rw [cached?, replica_accept hc]
  exact ⟨hr.take (get?_of_cached? hr hcached) href hkey, hr.find?_insert hcached href⟩

end Cluster

end GatewaySync
