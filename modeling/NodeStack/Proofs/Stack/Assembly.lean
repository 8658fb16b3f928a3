import Mathlib.Data.List.Forall2
import Mathlib.Data.List.Nodup
import NodeStack.Proofs.Stack.Duty
import NodeStack.Settings.Check
import NodeStack.Stack.Assembly

/-!
# `NodeStack.Proofs.Stack.Assembly`: settings that pass their check make a stack

The check of the settings, the kinds of services, the names of containers and the registry are told
apart by names only, and have to agree about them.

* `checkNames_eq_ok`: names pass the check if they are known, and none comes twice.
* `firstRepeat_eq_some`, `firstRepeat_eq_none`: the name that a registry refuses.
* `isSome_kind?_iff`: the names that are known are those that have a kind.
* `containerName_injective`: services with different names have different containers.
* `byName?_of_get?`, `byContainer?_of_get?`: every service is found under its names.
* `stack_of_check`: settings that pass give a stack with their services, in their order.
-/

set_option autoImplicit false

namespace NodeStack

/-! ### Names that come once -/

namespace Settings

theorem checkNames_eq_ok {seen names : List String} :
    checkNames seen names = .ok () ↔
      (∀ name ∈ names, name ∈ knownServices ∧ name ∉ seen) ∧ names.Nodup := by
  induction names generalizing seen with
  | nil => simp [checkNames]
  | cons name rest ih =>
    rw [checkNames]
    by_cases hknown : name ∈ knownServices
    · by_cases hseen : name ∈ seen
      · simp [hknown, hseen]
      · rw [if_neg (by simpa using hknown), if_neg (by simpa using hseen), ih]
        rw [List.forall_mem_cons, List.nodup_cons]
        constructor
        · rintro ⟨hrest, hnodup⟩
          have hnew : name ∉ rest := fun hmem => (hrest name hmem).2 List.mem_cons_self
          exact ⟨⟨⟨hknown, hseen⟩, fun n hn =>
            ⟨(hrest n hn).1, fun hin => (hrest n hn).2 (List.mem_cons_of_mem _ hin)⟩⟩, hnew, hnodup⟩
        · rintro ⟨⟨-, hrest⟩, hnew, hnodup⟩
          refine ⟨fun n hn => ⟨(hrest n hn).1, fun hin => ?_⟩, hnodup⟩
          rcases List.mem_cons.mp hin with rfl | hin
          · exact hnew hn
          · exact (hrest n hn).2 hin
    · simp [hknown]

/-- The services of settings that pass are known, and none comes twice. -/
theorem names_of_check {s : Settings} (h : s.check = .ok ()) :
    (∀ entry ∈ s.services, entry.name ∈ knownServices) ∧ (s.services.map (·.name)).Nodup := by
  unfold check at h
  split at h
  · cases h
  split at h
  · cases h
  split at h
  · cases h
  obtain ⟨hknown, hnodup⟩ := checkNames_eq_ok.mp h
  exact ⟨fun entry he => (hknown _ (List.mem_map_of_mem he)).1, hnodup⟩

end Settings

namespace Stack

open Service (Kind)
open Settings (ServiceEntry knownServices)

theorem firstRepeatAfter_eq_some {seen names : List String} {name : String} :
    firstRepeatAfter seen names = some name ↔
      ∃ before after, names = before ++ name :: after ∧ before.Nodup ∧
        (∀ n ∈ before, n ∉ seen) ∧ (name ∈ seen ∨ name ∈ before) := by
  -- a name that was seen may come again at once; any other joins those that were seen
  induction names generalizing seen with
  | nil => simp [firstRepeatAfter]
  | cons first rest ih =>
    rw [firstRepeatAfter]
    split
    · next hseen =>
      constructor
      · rintro ⟨⟩
        exact ⟨[], rest, rfl, .nil, List.forall_mem_nil _, .inl hseen⟩
      · rintro ⟨before, after, he, -, hnew, -⟩
        cases before with
        | nil =>
          obtain ⟨rfl, -⟩ := List.cons.inj he
          rfl
        | cons n before =>
          obtain ⟨rfl, -⟩ := List.cons.inj he
          exact absurd hseen (hnew first List.mem_cons_self)
    · next hseen =>
      rw [ih]
      constructor
      · rintro ⟨before, after, rfl, hnodup, hnew, hrepeat⟩
        have hfirst : first ∉ before := fun hm => hnew first hm List.mem_cons_self
        refine ⟨first :: before, after, rfl, List.nodup_cons.mpr ⟨hfirst, hnodup⟩, ?_, ?_⟩
        · rintro n hn hin
          rcases List.mem_cons.mp hn with rfl | hn
          · exact hseen hin
          · exact hnew n hn (List.mem_cons_of_mem _ hin)
        · rcases hrepeat with hin | hin
          · rcases List.mem_cons.mp hin with rfl | hin
            · exact .inr List.mem_cons_self
            · exact .inl hin
          · exact .inr (List.mem_cons_of_mem _ hin)
      · rintro ⟨before, after, he, hnodup, hnew, hrepeat⟩
        cases before with
        | nil =>
          obtain ⟨rfl, -⟩ := List.cons.inj he
          rcases hrepeat with hin | hin
          · exact absurd hin hseen
          · cases hin
        | cons n before =>
          obtain ⟨rfl, rfl⟩ := List.cons.inj he
          obtain ⟨hfirst, hnodup⟩ := List.nodup_cons.mp hnodup
          refine ⟨before, after, rfl, hnodup, fun n hn hin => ?_, ?_⟩
          · rcases List.mem_cons.mp hin with rfl | hin
            · exact hfirst hn
            · exact hnew n (List.mem_cons_of_mem _ hn) hin
          · rcases hrepeat with hin | hin
            · exact .inl (List.mem_cons_of_mem _ hin)
            · rcases List.mem_cons.mp hin with rfl | hin
              · exact .inl List.mem_cons_self
              · exact .inr hin

/-- The first name to come again is the one that stands behind different names and is among them. -/
theorem firstRepeat_eq_some {names : List String} {name : String} :
    firstRepeat names = some name ↔
      ∃ before after, names = before ++ name :: after ∧ before.Nodup ∧ name ∈ before := by
  rw [firstRepeat, firstRepeatAfter_eq_some]
  simp

theorem firstRepeat_eq_none {names : List String} : firstRepeat names = none ↔ names.Nodup := by
  refine ⟨nodup_of_firstRepeat, fun hnodup => ?_⟩
  cases h : firstRepeat names with
  | none => rfl
  | some name =>
    obtain ⟨before, after, rfl, -, hmem⟩ := firstRepeat_eq_some.mp h
    exact absurd rfl ((List.nodup_append.mp hnodup).2.2 name hmem name List.mem_cons_self)

/-- A registry refuses services exactly for the name that is the first to come again. -/
theorem ofServices?_eq_error {services : List Service} {name : String} :
    Registry.ofServices? services = .error name ↔
      firstRepeat (services.map (·.name)) = some name := by
  unfold Registry.ofServices?
  split
  · next other h => rw [h, Except.error.injEq, Option.some.injEq]
  · next h => simp [h]

theorem ofServices?_of_nodup {services : List Service} (h : (services.map (·.name)).Nodup) :
    Registry.ofServices? services = .ok ⟨services, h⟩ := by
  unfold Registry.ofServices?
  split
  · next name hsome =>
    rw [firstRepeat_eq_none.mpr h] at hsome
    cases hsome
  · rfl

/-! ### What a registry finds -/

namespace Registry

variable {r : Registry} {i : Nat} {service : Service}

/-- A service is found under its name. -/
theorem byName?_of_get? (h : r.get? i = some service) : r.byName? service.name = some i := by
  obtain ⟨hi, rfl⟩ := List.getElem?_eq_some_iff.mp h
  rw [byName?, List.findIdx?_eq_some_iff_getElem]
  refine ⟨hi, by simp, fun j hj => ?_⟩
  -- a service before it with the same name would be the same service
  simp only [Bool.not_eq_true, beq_eq_false_iff_ne, ne_eq]
  intro he
  have hnames : (r.services.map (·.name))[j]? = (r.services.map (·.name))[i]? := by
    rw [List.getElem?_map, List.getElem?_map, List.getElem?_eq_getElem hi,
      List.getElem?_eq_getElem (Nat.lt_trans hj hi), Option.map_some, Option.map_some, he]
  have hlen : j < (r.services.map (·.name)).length := by
    rw [List.length_map]
    exact Nat.lt_trans hj hi
  exact Nat.ne_of_lt hj ((List.getElem?_inj hlen r.nodup).mp hnames)

theorem byName?_eq_none {name : String} (h : ∀ service ∈ r.services, service.name ≠ name) :
    r.byName? name = none := by
  rw [byName?, List.findIdx?_eq_none_iff]
  simpa using h

/-- A service is found under its container, if no other has that container. -/
theorem byContainer?_of_get? (hr : r.containers.Nodup) (h : r.get? i = some service) :
    r.byContainer? service.handle.container = some i := by
  cases hfound : r.byContainer? service.handle.container with
  | none => exact absurd rfl (byContainer?_eq_none hfound h)
  | some j =>
    obtain ⟨other, hother, hc⟩ := byContainer?_eq_some hfound
    rw [index_unique hr hother h hc]

theorem byContainer?_eq_none_of_ne {container : String}
    (h : ∀ service ∈ r.services, service.handle.container ≠ container) :
    r.byContainer? container = none := by
  cases hfound : r.byContainer? container with
  | none => rfl
  | some j =>
    obtain ⟨other, hother, hc⟩ := byContainer?_eq_some hfound
    exact absurd hc (h other (List.mem_of_getElem? hother))

end Registry

/-! ### Services of an entry -/

/-- The service is the one that an entry of the settings asks for. -/
structure Serves (s : Settings) (entry : ServiceEntry) (service : Service) : Prop where
  name : service.name = entry.name
  kind : kind? s entry.name = some service.kind
  handle : service.handle = ⟨containerName s.network entry.name, entry.disabled, entry.mode⟩

section
variable {s : Settings}

/-- The names that are known are those of services. -/
theorem isSome_kind?_iff {name : String} : (kind? s name).isSome ↔ name ∈ knownServices := by
  constructor
  · intro h
    by_contra hunknown
    simp only [knownServices, List.mem_cons, List.not_mem_nil, or_false, not_or] at hunknown
    simp [kind?, hunknown] at h
  · intro h
    simp only [knownServices, List.mem_cons, List.not_mem_nil, or_false] at h
    rcases h with rfl | rfl | rfl | rfl | rfl | rfl | rfl | rfl | rfl | rfl <;> rfl

theorem exists_serves {entry : ServiceEntry} (h : entry.name ∈ knownServices) :
    ∃ service, service? s entry = .ok service ∧ Serves s entry service := by
  obtain ⟨kind, hkind⟩ := Option.isSome_iff_exists.mp (isSome_kind?_iff (s := s).mpr h)
  exact ⟨_, by rw [service?, hkind], ⟨rfl, hkind, rfl⟩⟩

/-- Entries whose names are known all have their services. -/
theorem mapM_service?_of_known {entries : List ServiceEntry}
    (h : ∀ entry ∈ entries, entry.name ∈ knownServices) :
    ∃ services, entries.mapM (service? s) = .ok services ∧
      List.Forall₂ (Serves s) entries services := by
  induction entries with
  | nil => exact ⟨[], rfl, .nil⟩
  | cons entry rest ih =>
    obtain ⟨service, hservice, hserves⟩ := exists_serves (s := s) (h entry List.mem_cons_self)
    obtain ⟨services, hservices, hall⟩ := ih fun e he => h e (List.mem_cons_of_mem _ he)
    refine ⟨service :: services, ?_, .cons hserves hall⟩
    rw [List.mapM_cons, hservice, hservices]
    rfl

theorem names_of_serves {entries : List ServiceEntry} {services : List Service}
    (h : List.Forall₂ (Serves s) entries services) :
    services.map (·.name) = entries.map (·.name) := by
  induction h with
  | nil => rfl
  | cons hserves _ ih => rw [List.map_cons, List.map_cons, hserves.name, ih]

/-- Different services of a network have different containers. -/
theorem containerName_injective {network a b : String}
    (h : containerName network a = containerName network b) : a = b := by
  have hlist := congrArg String.toList h
  simp only [containerName, toString, String.toList_append, List.append_cancel_right_eq,
    List.append_cancel_left_eq] at hlist
  exact String.toList_inj.mp hlist

/-- The container of a service is named after it. -/
theorem containers_of_serves {entries : List ServiceEntry} {services : List Service}
    (h : List.Forall₂ (Serves s) entries services) :
    services.map (·.handle.container) = services.map (containerName s.network ·.name) := by
  induction h with
  | nil => rfl
  | cons hserves _ ih =>
    rw [List.map_cons, List.map_cons, ih, hserves.handle, hserves.name]

/-- With the proxy behind them, services that are known and come once still differ in their names,
and so do their containers. -/
theorem nodup_of_serves {entries : List ServiceEntry} {services : List Service}
    (hknown : ∀ entry ∈ entries, entry.name ∈ knownServices)
    (hnodup : (entries.map (·.name)).Nodup) (h : List.Forall₂ (Serves s) entries services) :
    ((services ++ [proxy s.network]).map (·.name)).Nodup ∧
      ((services ++ [proxy s.network]).map (·.handle.container)).Nodup := by
  have hnames : ((services ++ [proxy s.network]).map (·.name)).Nodup := by
    rw [List.map_append, names_of_serves h]
    refine List.nodup_append.mpr ⟨hnodup, List.nodup_singleton _, ?_⟩
    -- the proxy is not among the services that settings can name
    intro name hmem other hother he
    obtain ⟨entry, hentry, rfl⟩ := List.mem_map.mp hmem
    have hproxy : proxyName ∈ knownServices := by
      have := hknown entry hentry
      rwa [he, List.mem_singleton.mp hother] at this
    exact absurd hproxy (by decide)
  have hcontainers : (services ++ [proxy s.network]).map (·.handle.container) =
      ((services ++ [proxy s.network]).map (·.name)).map (containerName s.network) := by
    rw [List.map_append, containers_of_serves h, List.map_append, List.map_append, List.map_map]
    rfl
  exact ⟨hnames, hcontainers ▸ hnames.map fun _ _ => containerName_injective⟩

end

/-- Settings that pass their check make a stack: each configured service is there, in its place and
as it is configured, and the proxy is behind them. The registry takes them all. It finds each under
its own name and under that of its container, and nothing under any other.

A registry refuses services exactly when a name comes twice; it tells the name that is the first to
come again. -/
theorem stack_of_check :
    (∀ s : Settings, s.check = .ok () →
      ∃ services r, assemble? s = .ok (services ++ [proxy s.network]) ∧
        List.Forall₂ (Serves s) s.services services ∧
        Registry.ofServices? (services ++ [proxy s.network]) = .ok r ∧
        r.services = services ++ [proxy s.network] ∧
        (∀ i service, r.get? i = some service →
          r.byName? service.name = some i ∧ r.byContainer? service.handle.container = some i) ∧
        (∀ name, (∀ service ∈ r.services, service.name ≠ name) → r.byName? name = none) ∧
        (∀ container, (∀ service ∈ r.services, service.handle.container ≠ container) →
          r.byContainer? container = none)) ∧
    (∀ services : List Service,
      ((∃ r, Registry.ofServices? services = .ok r) ↔ (services.map (·.name)).Nodup) ∧
      ∀ name, Registry.ofServices? services = .error name ↔
        ∃ before after, services.map (·.name) = before ++ name :: after ∧ before.Nodup ∧
          name ∈ before) := by
  refine ⟨fun s h => ?_,
    fun services => ⟨⟨?_, fun h => ⟨_, ofServices?_of_nodup h⟩⟩, fun name => ?_⟩⟩
  · obtain ⟨hknown, hnodup⟩ := Settings.names_of_check h
    obtain ⟨services, hservices, hserves⟩ := mapM_service?_of_known (s := s) hknown
    obtain ⟨hnames, hcontainers⟩ := nodup_of_serves hknown hnodup hserves
    refine ⟨services, ⟨services ++ [proxy s.network], hnames⟩, ?_, hserves,
      ofServices?_of_nodup hnames, rfl, fun i service hi => ?_, ?_, ?_⟩
    · rw [assemble?, hservices]
      rfl
    · exact ⟨Registry.byName?_of_get? hi, Registry.byContainer?_of_get? hcontainers hi⟩
    · exact fun name => Registry.byName?_eq_none
    · exact fun container => Registry.byContainer?_eq_none_of_ne
  · rintro ⟨r, hr⟩
    unfold Registry.ofServices? at hr
    split at hr
    · cases hr
    · next hnone => exact firstRepeat_eq_none.mp hnone
  · rw [ofServices?_eq_error, firstRepeat_eq_some]

/-- Three services, out of the order in which they are known, one of them provided elsewhere. -/
def threeServices : Settings :=
  { Settings.standard with
    network := "simnet"
    services := [.named "webui", ⟨"geth", true, "light", Settings.Access.none⟩, .named "bitcoind"] }

theorem stack_of_check_three :
    threeServices.check = .ok () ∧
    ∃ services r, assemble? threeServices = .ok services ∧ Registry.ofServices? services = .ok r ∧
      services.map (·.name) = ["webui", "geth", "bitcoind", "proxy"] ∧
      r.byName? "geth" = some 1 ∧ r.byContainer? "simnet_bitcoind_1" = some 2 ∧
      r.byName? "lndbtc" = none ∧ Registry.ofServices? (services ++ services) = .error "webui" := by
  have hcheck : threeServices.check = .ok () := by
    have haddress : Settings.Address.isSocketAddress threeServices.bindAddress = true := by decide
    rw [Settings.check, haddress]
    rfl
  obtain ⟨services, r, hassemble, hserves, hr, hservices, hfound, hnone, -⟩ :=
    stack_of_check.1 threeServices hcheck
  match services, hserves with
  | [webui, geth, bitcoind], .cons hwebui (.cons hgeth (.cons hbitcoind .nil)) =>
    have hget : ∀ i : Nat, r.get? i = [webui, geth, bitcoind, proxy "simnet"][i]? := fun i => by
      rw [Registry.get?, hservices]
      rfl
    have hnames : r.services.map (·.name) = ["webui", "geth", "bitcoind", "proxy"] := by
      rw [hservices]
      show [webui.name, geth.name, bitcoind.name, proxyName] = _
      rw [hwebui.name, hgeth.name, hbitcoind.name]
      rfl
    refine ⟨hcheck, _, r, hassemble, hr, hservices ▸ hnames, ?_, ?_, hnone "lndbtc" ?_, ?_⟩
    · have := (hfound 1 geth (hget 1)).1
      rwa [hgeth.name] at this
    · have := (hfound 2 bitcoind (hget 2)).2
      rwa [hbitcoind.handle] at this
    · intro service hmem he
      have hname : "lndbtc" ∈ r.services.map (·.name) := he ▸ List.mem_map_of_mem hmem
      rw [hnames] at hname
      exact absurd hname (by decide)
    · refine ((stack_of_check.2 _).2 "webui").mpr
        ⟨["webui", "geth", "bitcoind", "proxy"], ["geth", "bitcoind", "proxy"], ?_, by decide,
          by decide⟩
      rw [List.map_append, ← hservices, hnames]

end Stack

end NodeStack
