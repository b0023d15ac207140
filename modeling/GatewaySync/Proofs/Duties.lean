import GatewaySync.Proofs.Publish
import Mathlib.Data.List.Perm.Basic
import Mathlib.Logic.Function.Basic

/-!
# What passes see to

Every pass sees to the gateway's document, to the status of one Remote, to both
or to nothing.  What is to be published depends on nothing that passes change,
and once it is published it stays so.  Seeing to two things therefore comes to
the same in either order, and seeing to one of them twice to the same as once,
also in the number of writes.
-/

namespace GatewaySync

/-- What a pass sees to. -/
inductive Duty where
  /-- The gateway holds the document and runs with it. -/
  | document
  /-- The Remote shows its address. -/
  | status (ref : ObjectRef)
deriving DecidableEq

/-- What passes read and none of them changes. -/
@[ext]
structure Backdrop where
  /-- The document of the cached Remotes. -/
  text : String
  /-- Where the Remote is filed that a name stands for. -/
  remote? : NamespacedName → Option ObjectRef
  /-- The status that a pass for the Remote comes to. -/
  status? : ObjectRef → Option RemoteStatus

/-- What passes change, without versions and stamps, and how often it was written. -/
@[ext]
structure Summary where
  /-- The gateway's ConfigMap without its metadata. -/
  configMap? : Option ConfigMap
  /-- The hash that the gateway's Deployment records. -/
  rolledFor? : Option (Option String)
  statuses : ObjectRef → Option (Option RemoteStatus)
  /-- The number of writes of each kind of object. -/
  written : Kind → Nat

namespace Summary

/-- The document is published, if the gateway's objects are there. -/
def publish (m : Summary) (text : String) : Summary :=
  match m.configMap?, m.rolledFor? with
  | some configMap, some recorded =>
    let hash := Document.contentHash text
    let changed := Document.differs configMap text
    let restarts := changed || recorded.any (· != hash)
    { m with
      configMap? := some (if changed then Document.putInto configMap text else configMap)
      rolledFor? := some (if restarts then some hash else recorded)
      written kind := m.written kind + (if changed ∧ kind = .configMap then 1 else 0) +
        if restarts ∧ kind = .deployment then 1 else 0 }
  | _, _ => m

/-- A Remote shows a status, if it is there. -/
def setStatus (m : Summary) (ref : ObjectRef) (status : RemoteStatus) : Summary :=
  { m with
    statuses := Function.update m.statuses ref ((m.statuses ref).map fun _ => some status)
    written kind := m.written kind +
      if (m.statuses ref).any (· != some status) ∧ kind = .remote then 1 else 0 }

/-- A duty is done. -/
def fulfil (b : Backdrop) (m : Summary) : Duty → Summary
  | .document => m.publish b.text
  | .status ref =>
    match b.status? ref with
    | some status => m.setStatus ref status
    | none => m

end Summary

/-- What a pass for a key sees to. -/
def Backdrop.duties (b : Backdrop) (s : Settings) : Handler × String → List Duty
  | (.remote, key) =>
    match (NamespacedName.ofString? key).bind b.remote? with
    | some ref => [.document, .status ref]
    | none => []
  | (.configMap, key) =>
    if NamespacedName.ofString? key = some ⟨s.ns, s.configMap⟩ then [.document] else []
  | (.gateway, _) => []

/-! ## Duties in any order -/

namespace Summary

variable {m : Summary}

theorem publish_publish (m : Summary) (text : String) :
    (m.publish text).publish text = m.publish text := by
  obtain ⟨configMap?, rolledFor?, statuses, written⟩ := m
  cases configMap? with
  | none => rfl
  | some configMap =>
      cases rolledFor? with
      | none => rfl
      | some recorded =>
          have hput : Document.differs (Document.putInto configMap text) text = false :=
            Document.differs_eq_false_iff.2 ⟨text, by simp, rfl⟩
          cases hdiffers : Document.differs configMap text with
          | true => simp [publish, hdiffers, hput]
          | false =>
              cases hany : recorded.any (· != Document.contentHash text) <;>
                simp [publish, hdiffers, hany]

/-- A Remote that shows the status already is left alone. -/
theorem setStatus_of_eq {m : Summary} {ref : ObjectRef} {status : RemoteStatus}
    (hshown : m.statuses ref = some (some status)) : m.setStatus ref status = m := by
  have hupdate : Function.update m.statuses ref (some (some status)) = m.statuses := by
    rw [← hshown, Function.update_eq_self]
  simp [setStatus, hshown, hupdate]

theorem setStatus_setStatus (m : Summary) (ref : ObjectRef) (status : RemoteStatus) :
    (m.setStatus ref status).setStatus ref status = m.setStatus ref status := by
  cases hold : m.statuses ref <;> simp [setStatus, hold]

theorem setStatus_comm (m : Summary) {ref ref' : ObjectRef} (hne : ref ≠ ref')
    (status status' : RemoteStatus) :
    (m.setStatus ref status).setStatus ref' status' =
      (m.setStatus ref' status').setStatus ref status := by
  simp only [setStatus, Function.update_of_ne hne, Function.update_of_ne hne.symm,
    Function.update_comm hne, Nat.add_right_comm]

/-- Publishing does not look at the statuses, and no status depends on it. -/
theorem setStatus_publish (m : Summary) (text : String) (ref : ObjectRef)
    (status : RemoteStatus) :
    (m.publish text).setStatus ref status = (m.setStatus ref status).publish text := by
  obtain ⟨configMap?, rolledFor?, statuses, written⟩ := m
  cases configMap? with
  | none => rfl
  | some configMap =>
      cases rolledFor? with
      | none => rfl
      | some recorded => simp [setStatus, publish, Nat.add_right_comm]

theorem fulfil_fulfil (b : Backdrop) (m : Summary) (duty : Duty) :
    (m.fulfil b duty).fulfil b duty = m.fulfil b duty := by
  cases duty with
  | document => exact m.publish_publish b.text
  | status ref =>
      cases hstatus : b.status? ref with
      | none => simp only [fulfil, hstatus]
      | some status => simp only [fulfil, hstatus, setStatus_setStatus]

theorem fulfil_status_publish (b : Backdrop) (m : Summary) (ref : ObjectRef) :
    (m.publish b.text).fulfil b (.status ref) = (m.fulfil b (.status ref)).publish b.text := by
  cases hstatus : b.status? ref with
  | none => simp only [fulfil, hstatus]
  | some status => simp only [fulfil, hstatus, setStatus_publish]

/-- Two duties may be done in either order. -/
theorem fulfil_comm (b : Backdrop) (m : Summary) (duty duty' : Duty) :
    (m.fulfil b duty).fulfil b duty' = (m.fulfil b duty').fulfil b duty := by
  cases duty with
  | document =>
      cases duty' with
      | document => rfl
      | status ref => exact fulfil_status_publish b m ref
  | status ref =>
      cases duty' with
      | document => exact (fulfil_status_publish b m ref).symm
      | status ref' =>
          by_cases href : ref = ref'
          · rw [href]
          · cases hstatus : b.status? ref with
            | none => simp only [fulfil, hstatus]
            | some status =>
                cases hstatus' : b.status? ref' with
                | none => simp only [fulfil, hstatus, hstatus']
                | some status' => simp only [fulfil, hstatus, hstatus', setStatus_comm m href]

/-- Duties come to the same in any order. -/
theorem foldl_fulfil_of_perm {duties duties' : List Duty} (hperm : duties.Perm duties')
    (b : Backdrop) (m : Summary) :
    duties.foldl (fulfil b) m = duties'.foldl (fulfil b) m :=
  hperm.foldl_eq' (fun duty _ duty' _ m => fulfil_comm b m duty duty') m

/-- A duty that was done stays done. -/
theorem fulfil_foldl_of_mem {duties : List Duty} {duty : Duty} (hduty : duty ∈ duties)
    (b : Backdrop) (m : Summary) :
    (duties.foldl (fulfil b) m).fulfil b duty = duties.foldl (fulfil b) m := by
  -- Among duties in any order it may as well have been the last.
  have hlast : duties.Perm (duties.erase duty ++ [duty]) :=
    (List.perm_cons_erase hduty).trans (List.perm_append_singleton _ _).symm
  rw [foldl_fulfil_of_perm hlast, List.foldl_append, List.foldl_cons, List.foldl_nil,
    fulfil_fulfil]

theorem foldl_fulfil_of_subset {duties more : List Duty} (hmore : more ⊆ duties)
    (b : Backdrop) (m : Summary) :
    more.foldl (fulfil b) (duties.foldl (fulfil b) m) = duties.foldl (fulfil b) m := by
  induction more with
  | nil => rfl
  | cons duty rest ih =>
      obtain ⟨hduty, hrest⟩ := List.cons_subset.1 hmore
      rw [List.foldl_cons, fulfil_foldl_of_mem hduty, ih hrest]

/-- Where publishing changes nothing, the document and the restart are in place. -/
theorem differs_eq_false_of_publish_eq {text : String} {configMap : ConfigMap}
    {recorded : Option String} (hsame : m.publish text = m)
    (hconfigMap : m.configMap? = some configMap) (hrecorded : m.rolledFor? = some recorded) :
    Document.differs configMap text = false ∧
      recorded.any (· != Document.contentHash text) = false := by
  have hwritten := fun kind => congrFun (congrArg Summary.written hsame) kind
  simp only [publish, hconfigMap, hrecorded] at hwritten
  cases hdiffers : Document.differs configMap text with
  | true => simpa [hdiffers] using hwritten .configMap
  | false =>
      cases hany : recorded.any (· != Document.contentHash text) with
      | true => simpa [hdiffers, hany] using hwritten .deployment
      | false => exact ⟨rfl, rfl⟩

theorem status_eq_of_setStatus_eq {ref : ObjectRef} {status : RemoteStatus}
    {shown : Option RemoteStatus} (hsame : m.setStatus ref status = m)
    (hshown : m.statuses ref = some shown) : shown = some status := by
  have hstatuses := congrFun (congrArg Summary.statuses hsame) ref
  simp only [setStatus, Function.update_self, hshown, Option.map_some] at hstatuses
  exact (Option.some.inj hstatuses).symm

end Summary

end GatewaySync
