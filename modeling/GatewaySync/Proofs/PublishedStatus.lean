import GatewaySync.Proofs.Counting
import GatewaySync.Proofs.GatewayAddress
import GatewaySync.Proofs.Mirroring

/-!
# The published status

Whatever becomes of the document, it is written without touching a Remote or a
Service.  So when a pass for a Remote has ended well, the server holds the Remote
with the gateway's address as the caches had it, or with the reason why there is
none, and the status was written exactly if the Remote showed another one.
-/

namespace GatewaySync

namespace Cluster

variable {c c' c'' : Cluster}

/-! ## What the document leaves alone -/

/-- Remotes and Services are as before, and no Remote was written. -/
structure LeavesRemotes (c c' : Cluster) : Prop where
  remotes : c'.remotes = c.remotes
  services : c'.services = c.services
  writes : ∃ ws, c'.writes = c.writes ++ ws ∧ ∀ w ∈ ws, w.kind ≠ .remote

theorem LeavesRemotes.trans (hfirst : c.LeavesRemotes c') (hsecond : c'.LeavesRemotes c'') :
    c.LeavesRemotes c'' := by
  obtain ⟨ws, hwrites, hkinds⟩ := hfirst.writes
  obtain ⟨ws', hwrites', hkinds'⟩ := hsecond.writes
  constructor
  case remotes => rw [hsecond.remotes, hfirst.remotes]
  case services => rw [hsecond.services, hfirst.services]
  case writes =>
    refine ⟨ws ++ ws', by rw [hwrites', hwrites, List.append_assoc], ?_⟩
    intro w hmem
    exact (List.mem_append.1 hmem).elim (hkinds w) (hkinds' w)

theorem leavesRemotes_of_same (hreplicas : c'.toReplicas = c.toReplicas)
    (hwrites : c'.writes = c.writes) : c.LeavesRemotes c' := by
  constructor
  case remotes => rw [hreplicas]
  case services => rw [hreplicas]
  case writes => exact ⟨[], hwrites.trans (List.append_nil _).symm, fun _ hmem => nomatch hmem⟩

/-- Writing an object of another kind leaves the Remotes alone. -/
theorem leavesRemotes_take {w : Write} (hkind : w.kind ≠ .remote) :
    c.LeavesRemotes (c.take w) := by
  constructor
  case remotes =>
    cases w with
    | configMap m => exact (c.frame_accept_configMap m).2.1
    | deployment d => exact (c.frame_accept_deployment d).1
    | status r => exact absurd rfl hkind
  case services => exact c.services_take w
  case writes =>
    refine ⟨_, c.writes_take w, ?_⟩
    intro w' hmem
    rw [List.mem_singleton.1 hmem]
    cases w <;> exact hkind

theorem leavesRemotes_submit {w : Write} (hkind : w.kind ≠ .remote) :
    c.LeavesRemotes (c.submit w).2 := by
  have hpast : c.LeavesRemotes (c.past w.call) := leavesRemotes_of_same rfl rfl
  obtain ⟨-, hsubmit⟩ | ⟨_, hsubmit, -⟩ := c.submit_cases_of_accepts w
  · rw [hsubmit]
    exact hpast.trans (leavesRemotes_take hkind)
  · rw [hsubmit]
    exact hpast

/-- A pass that may not write Remotes leaves them alone, however it ends. -/
theorem leavesRemotes_perform {α : Type} {good : α → Prop} {p : Pass α}
    (hp : p.Writes (fun _ => True) (fun w => w.kind ≠ .remote) good) (c : Cluster) :
    c.LeavesRemotes (c.perform p).2 := by
  induction p generalizing c with
  | done | abort => exact leavesRemotes_of_same rfl rfl
  | looking next ih => exact ih c (hp c trivial) c
  | reading secret next ih =>
      have hpast : c.LeavesRemotes (c.past .readSecret) := leavesRemotes_of_same rfl rfl
      rw [perform, fetch_eq]
      cases c.nextFault? .readSecret with
      | some fault => exact hpast
      | none => exact hpast.trans (ih _ (hp _) _)
  | writing write next ih =>
      have hsubmit := leavesRemotes_submit (c := c) hp.1
      rw [perform]
      cases hresult : c.submit write with
      | mk result c' =>
          rw [hresult] at hsubmit
          cases result with
          | ok _ => exact hsubmit.trans (ih hp.2 c')
          | error reason => exact hsubmit
  | counting series next ih =>
      have hcount : c.LeavesRemotes (c.count series) := leavesRemotes_of_same rfl rfl
      exact hcount.trans (ih hp _)

/-- Publishing the document leaves the Remotes alone, whether it succeeds or not. -/
theorem leavesRemotes_syncDocument (c : Cluster) (s : Settings) :
    c.LeavesRemotes (c.perform (Pass.syncDocument s)).2 := by
  have hallows : Pass.AllowsDocument (fun _ => True) (fun w => w.kind ≠ .remote) := by
    constructor
    case document => exact fun _ _ _ _ _ _ => nofun
    case restart => exact fun _ _ _ _ _ _ _ => nofun
  exact leavesRemotes_perform (Pass.writes_syncDocument hallows s) c

/-! ## The Remote's own status -/

section Sync

variable {s : Settings} {key : String} {name : NamespacedName} {r : Remote}

/-- A pass that ends well has published the document and found the gateway's Service,
and has then patched the status unless the Remote showed it already. -/
theorem exists_published (hkey : NamespacedName.ofString? key = some name)
    (hcached : c.cached? Remote name = some r)
    (hsync : c.perform (Pass.syncRemote s key) = (.ok (), c')) :
    ∃ published gateway, c.LeavesRemotes published ∧
      c.cached? Service ⟨s.ns, s.service⟩ = some gateway ∧
      let status := r.statusBehind gateway
      (r.status = some status ∧ c' = published ∨
        r.status ≠ some status ∧
          c' = ((published.past .patchStatus).accept { r with status := some status } .status).count
            (.statusUpdates name.ns name.name)) := by
  rw [perform_syncRemote_of_cached hkey hcached] at hsync
  obtain ⟨_, _, hdocument, hrest⟩ := exists_of_perform_bind_eq_ok hsync
  obtain ⟨gateway, published, hservice, hend⟩ := exists_of_perform_bind_eq_ok hrest
  obtain ⟨hgateway, rfl⟩ := cached?_of_perform_gatewayObject hservice
  have hleaves := c.leavesRemotes_syncDocument s
  rw [hdocument] at hleaves
  have hservices : published.replica Service = c.replica Service := hleaves.services
  rw [cached?_congr hservices] at hgateway
  refine ⟨published, gateway, hleaves, hgateway, ?_⟩
  dsimp only at hend ⊢
  split at hend
  case isFalse hright => exact .inl ⟨not_not.1 hright, (Prod.mk.inj hend).2.symm⟩
  case isTrue hwrong =>
    obtain ⟨_, patched, hpatch, hcount⟩ := exists_of_perform_bind_eq_ok hend
    rw [perform_patchStatus] at hpatch
    obtain rfl := of_attempt_eq_ok hpatch
    exact .inr ⟨hwrong, (Prod.mk.inj hcount).2.symm⟩

end Sync

/-- The object that was taken is held under its path. -/
theorem get?_accept {α : Type} [Stored α] (c : Cluster) (a : α) (write : α → Write) :
    ((c.accept a write).replica α).server.get? (Cached.key a).path = some (c.stamp a).1 := by
  obtain ⟨informer, _, _, htaken, -⟩ := c.exists_accept_eq a write
  have hkey : Cached.key (c.stamp a).1 = Cached.key a := Cached.key_atVersion a _
  have hreplica : (c.accept a write).replica α =
      { server := (c.replica α).server.insert (Cached.key a).path (c.stamp a).1, informer } := by
    rw [htaken, hkey]
    exact Stored.replica_setReplica _ _
  rw [hreplica, SortedMap.get?_insert, if_pos rfl]

end Cluster

/-! ## What the status says -/

section Status

variable {r : Remote} {gateway : Service}

theorem Exposure.Problem.message_ne_empty (problem : Exposure.Problem) : problem.message ≠ "" := by
  have hbegins : ∀ {first rest : String}, first ≠ "" → first ++ rest ≠ "" :=
    fun hfirst hempty => hfirst (String.append_eq_empty_iff.1 hempty).1
  cases problem with
  | unreachable | notReady | unknownAddress => decide +kernel
  | manualConfigRequired nodePort =>
      apply hbegins
      apply hbegins
      apply hbegins
      decide +kernel
  | unsupportedType type =>
      apply hbegins
      apply hbegins
      decide +kernel

theorem Remote.url_ne_empty (r : Remote) (address : String) : r.url address ≠ "" := by
  simp [Remote.url]

theorem Remote.statusBehind_of_isReachedAt {address : String}
    (hreached : gateway.IsReachedAt address) :
    r.statusBehind gateway = .available (r.url address) := by
  rw [Remote.statusBehind, Service.address_of_isReachedAt hreached]

theorem Remote.statusBehind_of_isHiddenBy {problem : Exposure.Problem}
    (hhidden : gateway.IsHiddenBy problem) :
    r.statusBehind gateway = .unavailable problem.message := by
  rw [Remote.statusBehind, Service.address_of_isHiddenBy hhidden]

/-- The status has a URL exactly where the gateway has an address, and else says why not. -/
theorem Remote.url_statusBehind_iff (r : Remote) (gateway : Service) :
    ((r.statusBehind gateway).url = "" ↔ (r.statusBehind gateway).description ≠ "") ∧
      ((r.statusBehind gateway).url ≠ "" ↔ ∃ address, gateway.IsReachedAt address) := by
  cases haddress : gateway.address with
  | ok address =>
      have hreached := Service.address_eq_ok_iff.1 haddress
      have hurl := r.url_ne_empty address
      rw [statusBehind_of_isReachedAt hreached, RemoteStatus.available]
      exact ⟨⟨fun hempty => absurd hempty hurl, fun hdescribed => absurd rfl hdescribed⟩,
        fun _ => ⟨address, hreached⟩, fun _ => hurl⟩
  | error problem =>
      have hhidden := Service.address_eq_error_iff.1 haddress
      have hnowhere : ¬∃ address, gateway.IsReachedAt address := by
        rintro ⟨address, hreached⟩
        cases haddress.symm.trans (Service.address_eq_ok_iff.2 hreached)
      rw [statusBehind_of_isHiddenBy hhidden, RemoteStatus.unavailable]
      exact ⟨⟨fun _ => problem.message_ne_empty, fun _ => rfl⟩,
        fun hurl => absurd rfl hurl, fun hreached => absurd hreached hnowhere⟩

end Status

namespace Pass

open Cluster

/-- A pass that ends well, for a cached Remote that the server holds as it is cached,
leaves it at the server with the gateway's address in its status.  Either the URL or the
description is empty, but not both.  There is a URL exactly if the gateway is reached
under an address, which is then part of it between the Remote's own namespace and name;
otherwise the description says why there is none.  A status is written exactly if the
Remote had none or another one. -/
theorem syncRemote_publishes_status {s : Settings} {c c' : Cluster} {key : String}
    {name : NamespacedName} {r : Remote} (hmirrored : c.remotes.IsMirrored)
    (hkey : NamespacedName.ofString? key = some name) (hcached : c.cached? Remote name = some r)
    (hsync : c.perform (syncRemote s key) = (.ok (), c')) :
    ∃ (gateway : Service) (stored : Remote) (status : RemoteStatus) (ws : List Write),
      c.cached? Service ⟨s.ns, s.service⟩ = some gateway ∧
      c'.remotes.server.get? r.metadata.key.path = some stored ∧ r.SameButStatus stored ∧
      stored.status = some status ∧
      (status.url = "" ↔ status.description ≠ "") ∧
      (status.url ≠ "" ↔ ∃ address, gateway.IsReachedAt address) ∧
      (∀ address, gateway.IsReachedAt address →
        let user := r.metadata.key.ns ++ "-" ++ r.metadata.key.name
        status.url = "ssh://" ++ user ++ "@" ++ address ++ "/~/git/" ++ user) ∧
      (∀ problem, gateway.IsHiddenBy problem → status.description = problem.message) ∧
      (r.metadata.ns ≠ none → r.metadata.key = name) ∧
      c'.writes = c.writes ++ ws ∧
      ws.filter (fun w => w.kind = .remote) =
        if r.status = some status then [] else [.status stored] := by
  obtain ⟨published, gateway, hleaves, hgateway, hcourse⟩ := exists_published hkey hcached hsync
  obtain ⟨ws, hwrites, hkinds⟩ := hleaves.writes
  have hnone : ws.filter (fun w => w.kind = .remote) = [] := by
    rw [List.filter_eq_nil_iff]
    exact fun w hmem hkind => hkinds w hmem (of_decide_eq_true hkind)
  obtain ⟨heither, hurl⟩ := r.url_statusBehind_iff gateway
  have haddress : ∀ address, gateway.IsReachedAt address →
      (r.statusBehind gateway).url = r.url address := by
    intro address hreached
    rw [Remote.statusBehind_of_isReachedAt hreached, RemoteStatus.available]
  have hreason : ∀ problem, gateway.IsHiddenBy problem →
      (r.statusBehind gateway).description = problem.message := by
    intro problem hhidden
    rw [Remote.statusBehind_of_isHiddenBy hhidden, RemoteStatus.unavailable]
  have hname : r.metadata.ns ≠ none → r.metadata.key = name :=
    (Remote.isNamed_of_find? hmirrored hcached).key_eq (NamespacedName.name_ne_of_ofString? hkey)
  obtain ⟨hright, rfl⟩ | ⟨hwrong, rfl⟩ := hcourse
  · have hheld := (hmirrored _ _ (get?_of_cached? (α := Remote) hmirrored hcached)).2
    rw [← hleaves.remotes] at hheld
    exact ⟨gateway, r, _, ws, hgateway, hheld, ⟨rfl, rfl⟩, hright, heither, hurl, haddress,
      hreason, hname, hwrites, by rw [if_pos hright, hnone]⟩
  · set r' : Remote := { r with status := some (r.statusBehind gateway) } with hr'
    have hheld := (published.past .patchStatus).get?_accept r' .status
    refine ⟨gateway, _, _, ws ++ [.status ((published.past .patchStatus).stamp r').1], hgateway,
      hheld, ⟨rfl, rfl⟩, rfl, heither, hurl, haddress, hreason, hname, ?written, ?patched⟩
    case written =>
      rw [Cluster.count, writes_accept, past, writes_facing, hwrites, List.append_assoc]
    case patched =>
      rw [if_neg hwrong, List.filter_append, hnone, List.nil_append]
      rfl

/-- The gateway behind a load balancer that has no IP but a host name. -/
def balancer : Service where
  metadata := ownMetadata "gitkubed"
  spec := some { type := some "LoadBalancer" }
  ingress := some [{ ip := some "", hostname := some "git.example.com" }]

/-- The neighbours, once the gateway is behind its load balancer. -/
def balanced : Cluster := neighbours.feed (.apply balancer)

theorem syncRemote_publishes_status_balanced :
    ∃ (after : Cluster) (stored : Remote) (status : RemoteStatus) (ws : List Write),
      balanced.perform (syncRemote {} "default/b") = (.ok (), after) ∧
      after.remotes.server.get? "default/b" = some stored ∧ stored.status = some status ∧
      status.url = "ssh://default-b@git.example.com/~/git/default-b" ∧
      after.writes = balanced.writes ++ ws ∧
      ws.filter (fun w => w.kind = .remote) = [.status stored] := by
  have hmirrored : balanced.remotes.IsMirrored := by decide +kernel
  have hkey : NamespacedName.ofString? "default/b" = some ⟨"default", "b"⟩ := by decide +kernel
  have hcached : balanced.cached? Remote ⟨"default", "b"⟩ = some (Cached.atVersion plain "5") := by
    decide +kernel
  have hservice : balanced.cached? Service ⟨"kube-system", "gitkubed"⟩ =
      some (Cached.atVersion balancer "6") := by decide +kernel
  have hok : (balanced.perform (syncRemote {} "default/b")).1 = .ok () := by decide +kernel
  have hsync : balanced.perform (syncRemote {} "default/b") =
      (.ok (), (balanced.perform (syncRemote {} "default/b")).2) := Prod.ext hok rfl
  obtain ⟨gateway, stored, status, ws, hgateway, hheld, -, hstatus, -, -, haddress, -, -, hwrites,
    hpatched⟩ := syncRemote_publishes_status hmirrored hkey hcached hsync
  obtain rfl : gateway = Cached.atVersion balancer "6" :=
    Option.some.inj (hgateway.symm.trans hservice)
  have hreached : Service.IsReachedAt (Cached.atVersion balancer "6") "git.example.com" :=
    .hostname rfl rfl (.inr rfl) ⟨rfl, by decide⟩
  exact ⟨_, stored, status, ws, hsync, hheld, hstatus, haddress _ hreached, hwrites, hpatched⟩

end Pass

end GatewaySync
