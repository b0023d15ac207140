import GatewaySync.Exposure

/-!
# Which Services have an address

A Service is reached under a name of its own, or under its load balancer's first
entry.  Every other Service is hidden for one of five reasons.  The two never go
together, and one of them is always the case.
-/

namespace GatewaySync

namespace Exposure

/-- The field is set and not empty. -/
def Says (field : Option String) (text : String) : Prop := field = some text ∧ text ≠ ""

/-- The field is not set, or empty. -/
def IsSilent (field : Option String) : Prop := field = none ∨ field = some ""

variable {field : Option String}

theorem nonEmpty?_eq_some_iff {text : String} : nonEmpty? field = some text ↔ Says field text := by
  simp [nonEmpty?, Says, Option.filter_eq_some_iff]

theorem nonEmpty?_eq_none_iff : nonEmpty? field = none ↔ IsSilent field := by
  cases field with
  | none => simp [nonEmpty?, IsSilent]
  | some text => simp [nonEmpty?, IsSilent]

end Exposure

namespace Service

open Exposure

/-- The type that a Service states. -/
def type? (s : Service) : Option String := s.spec.bind ServiceSpec.type

/-- Users reach the Service under an address. -/
inductive IsReachedAt (s : Service) : String → Prop where
  /-- The external name stands as it is, and is empty if it is not set. -/
  | externalName (htype : s.type? = some "ExternalName") :
      IsReachedAt s ((s.spec.bind ServiceSpec.externalName).getD "")
  | ip {entry : Ingress} {rest : List Ingress} {ip : String}
      (htype : s.type? = some "LoadBalancer") (hentries : s.ingress = some (entry :: rest))
      (hip : Says entry.ip ip) : IsReachedAt s ip
  | hostname {entry : Ingress} {rest : List Ingress} {hostname : String}
      (htype : s.type? = some "LoadBalancer") (hentries : s.ingress = some (entry :: rest))
      (hip : IsSilent entry.ip) (hhostname : Says entry.hostname hostname) :
      IsReachedAt s hostname

/-- Why users cannot reach the Service. -/
inductive IsHiddenBy (s : Service) : Problem → Prop where
  | unreachable (htype : s.type? = none ∨ s.type? = some "ClusterIP") :
      IsHiddenBy s .unreachable
  | notReady (htype : s.type? = some "LoadBalancer")
      (hentries : s.ingress = none ∨ s.ingress = some []) : IsHiddenBy s .notReady
  | unknownAddress {entry : Ingress} {rest : List Ingress}
      (htype : s.type? = some "LoadBalancer") (hentries : s.ingress = some (entry :: rest))
      (hip : IsSilent entry.ip) (hhostname : IsSilent entry.hostname) :
      IsHiddenBy s .unknownAddress
  | manualConfigRequired (htype : s.type? = some "NodePort") :
      IsHiddenBy s (.manualConfigRequired (firstNodePort? s))
  | unsupportedType {type : String} (htype : s.type? = some type)
      (hother : type ∉ ["ClusterIP", "ExternalName", "LoadBalancer", "NodePort"]) :
      IsHiddenBy s (.unsupportedType type)

variable {s : Service} {address : String} {problem : Problem}

/-- A load balancer is reached under its first entry, if there is one and it says where. -/
theorem exists_of_loadBalancer (htype : s.type? = some "LoadBalancer") :
    (∃ address, s.IsReachedAt address) ∨ ∃ problem, s.IsHiddenBy problem := by
  cases hentries : s.ingress with
  | none => exact .inr ⟨_, .notReady htype (.inl hentries)⟩
  | some entries =>
      cases entries with
      | nil => exact .inr ⟨_, .notReady htype (.inr hentries)⟩
      | cons entry rest =>
          cases hip : nonEmpty? entry.ip with
          | some ip => exact .inl ⟨_, .ip htype hentries (nonEmpty?_eq_some_iff.1 hip)⟩
          | none =>
              have hsilent := nonEmpty?_eq_none_iff.1 hip
              cases hhostname : nonEmpty? entry.hostname with
              | some hostname =>
                  have hsays := nonEmpty?_eq_some_iff.1 hhostname
                  exact .inl ⟨_, .hostname htype hentries hsilent hsays⟩
              | none =>
                  have hsilent' := nonEmpty?_eq_none_iff.1 hhostname
                  exact .inr ⟨_, .unknownAddress htype hentries hsilent hsilent'⟩

/-- One of the two is always the case. -/
theorem exists_isReachedAt_or_isHiddenBy (s : Service) :
    (∃ address, s.IsReachedAt address) ∨ ∃ problem, s.IsHiddenBy problem := by
  cases htype : s.type? with
  | none => exact .inr ⟨_, .unreachable (.inl htype)⟩
  | some type =>
      by_cases hknown : type ∈ ["ClusterIP", "ExternalName", "LoadBalancer", "NodePort"]
      case neg => exact .inr ⟨_, .unsupportedType htype hknown⟩
      case pos =>
        simp only [List.mem_cons, List.not_mem_nil, or_false] at hknown
        obtain rfl | rfl | rfl | rfl := hknown
        · exact .inr ⟨_, .unreachable (.inr htype)⟩
        · exact .inl ⟨_, .externalName htype⟩
        · exact exists_of_loadBalancer htype
        · exact .inr ⟨_, .manualConfigRequired htype⟩

theorem typeOf_of_type? {type : String} (htype : s.type? = some type) : typeOf s = type := by
  rw [typeOf, ← type?, htype, Option.getD_some]

/-- What a load balancer's first entry says decides its address. -/
theorem address_of_loadBalancer (htype : s.type? = some "LoadBalancer") :
    s.address = loadBalancerAddress s := by
  rw [Service.address, typeOf_of_type? htype]
  rfl

theorem address_of_isReachedAt (hreached : s.IsReachedAt address) : s.address = .ok address := by
  cases hreached with
  | externalName htype =>
      rw [Service.address, typeOf_of_type? htype]
      rfl
  | ip htype hentries hip =>
      rw [address_of_loadBalancer htype, loadBalancerAddress, hentries]
      simp [ingressAddress?, nonEmpty?_eq_some_iff.2 hip]
  | hostname htype hentries hip hhostname =>
      rw [address_of_loadBalancer htype, loadBalancerAddress, hentries]
      simp [ingressAddress?, nonEmpty?_eq_none_iff.2 hip, nonEmpty?_eq_some_iff.2 hhostname]

theorem address_of_isHiddenBy (hhidden : s.IsHiddenBy problem) : s.address = .error problem := by
  cases hhidden with
  | unreachable htype =>
      have hinside : typeOf s = "ClusterIP" := by
        obtain htype | htype := htype
        · rw [typeOf, ← type?, htype, Option.getD_none]
        · exact typeOf_of_type? htype
      rw [Service.address, hinside]
      rfl
  | notReady htype hentries =>
      rw [address_of_loadBalancer htype, loadBalancerAddress]
      obtain hentries | hentries := hentries <;> rw [hentries] <;> rfl
  | unknownAddress htype hentries hip hhostname =>
      rw [address_of_loadBalancer htype, loadBalancerAddress, hentries]
      simp [ingressAddress?, nonEmpty?_eq_none_iff.2 hip, nonEmpty?_eq_none_iff.2 hhostname]
  | manualConfigRequired htype =>
      rw [Service.address, typeOf_of_type? htype]
      rfl
  | unsupportedType htype hother =>
      simp only [List.mem_cons, List.not_mem_nil, or_false, not_or] at hother
      rw [Service.address, typeOf_of_type? htype]
      simp [hother]

theorem address_eq_ok_iff : s.address = .ok address ↔ s.IsReachedAt address := by
  constructor
  · intro haddress
    obtain ⟨other, hreached⟩ | ⟨problem, hhidden⟩ := s.exists_isReachedAt_or_isHiddenBy
    · obtain rfl : other = address :=
        Except.ok.inj ((address_of_isReachedAt hreached).symm.trans haddress)
      exact hreached
    · cases (address_of_isHiddenBy hhidden).symm.trans haddress
  · exact address_of_isReachedAt

theorem address_eq_error_iff : s.address = .error problem ↔ s.IsHiddenBy problem := by
  constructor
  · intro haddress
    obtain ⟨address, hreached⟩ | ⟨other, hhidden⟩ := s.exists_isReachedAt_or_isHiddenBy
    · cases (address_of_isReachedAt hreached).symm.trans haddress
    · obtain rfl : other = problem :=
        Except.error.inj ((address_of_isHiddenBy hhidden).symm.trans haddress)
      exact hhidden
  · exact address_of_isHiddenBy

end Service

end GatewaySync
