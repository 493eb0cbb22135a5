import IoGateway.Foundation.Publication
import IoGateway.Gateway

/-! # The gauge of active connections

`add_link`, `remove_link` and `close_all_links` each end in `update_connections_metric`,
which reads the length of the registry under its lock and sets the gauge after the lock
is dropped.
-/

namespace IoGateway

/-- A call on the registry. What `remove_link` returns is its caller's. -/
inductive RegistryCall
  | addLink (ref : LinkRef)
  | removeLink (linkId : UInt16)
  | closeAllLinks
deriving DecidableEq

namespace Gateway

def updateRegistry (gateway : Gateway) : RegistryCall → Gateway
  | .addLink ref => gateway.addLink ref
  | .removeLink linkId => (gateway.removeLink linkId).2
  | .closeAllLinks => gateway.closeAllLinks

def linksLen (gateway : Gateway) : Nat := gateway.links.keys.card

/-- The gauge is an `f64`, which represents every length of the registry exactly. -/
theorem linksLen_le (gateway : Gateway) : gateway.linksLen ≤ 2 ^ 16 := by
  have bounded : ∀ linkId ∈ gateway.links.keys, linkId.toNat ∈ Finset.range (2 ^ 16) :=
    fun linkId _ => Finset.mem_range.mpr linkId.toNat_lt
  have distinct : Set.InjOn UInt16.toNat gateway.links.keys :=
    fun _ _ _ _ same => UInt16.toNat_inj.mp same
  have counted := Finset.card_le_card_of_injOn UInt16.toNat bounded distinct
  rwa [Finset.card_range] at counted

end Gateway

namespace ActiveConnections

/-- `set_active_connections`: nothing is set as long as the gauge is not registered. -/
def setActiveConnections (gauge : Option Nat) (count : Nat) : Option Nat :=
  gauge.map fun _ => count

/-- Each call updates the registry, and `update_connections_metric` reads and publishes. -/
def connectionsMetric : Publication Gateway RegistryCall Nat (Option Nat) where
  update := Gateway.updateRegistry
  read := Gateway.linksLen
  publish := setActiveConnections

abbrev State (Task : Type u) : Type u :=
  Publication.State Task Gateway RegistryCall Nat (Option Nat)

abbrev Action (Task : Type u) : Type u := Publication.Action Task RegistryCall

def system (Task : Type u) [DecidableEq Task] (gateway : Gateway) (gauge : Nat) :
    TransitionSystem (State Task) (Action Task) :=
  connectionsMetric.system gateway (some gauge)

variable {Task : Type u} [DecidableEq Task] {gateway : Gateway} {gauge : Nat}

theorem exists_gauge {state : State Task}
    (reachable : (system Task gateway gauge).Reachable state) :
    ∃ value, state.display = some value := by
  induction reachable with
  | refl => exact ⟨gauge, rfl⟩
  | step _ _ stepped induction =>
      rcases induction with ⟨value, set⟩
      cases Publication.transition_of_step stepped with
      | @publish task count holding =>
          refine ⟨count, ?_⟩
          change setActiveConnections _ count = some count
          rw [set]
          rfl
      | _ => exact ⟨value, set⟩

variable {steps : List (Publication.Step Task Gateway RegistryCall Nat (Option Nat))}
  {state : State Task}

/-- At rest, and after some call has completed, the gauge shows the length of the registry
exactly if the length that was written last had not changed since it was read. -/
theorem gauge_follows_iff
    (history : (system Task gateway gauge).History TransitionSystem.Always
      (system Task gateway gauge).start steps state)
    (rest : state.AtRest) (completed : ∃ step ∈ steps, step.action.publishes = true) :
    state.display = some state.value.linksLen ↔
      ∀ task read write, Publication.LastPublished steps task read write →
        read.before.value.linksLen = write.before.value.linksLen := by
  have shown : ∀ {task read write}, Publication.LastPublished steps task read write →
      state.value = write.before.value ∧ state.display = some read.before.value.linksLen := by
    intro task read write last
    rcases last.atRest history rest with ⟨value, display⟩
    rcases exists_gauge (last.reaches history) with ⟨earlier, set⟩
    refine ⟨value, display.trans ?_⟩
    rw [set]
    rfl
  constructor
  · intro follows task read write last
    rcases shown last with ⟨value, display⟩
    rw [display, value] at follows
    exact Option.some.inj follows
  · intro fresh
    rcases Publication.exists_lastPublished history completed with ⟨task, read, write, last⟩
    rcases shown last with ⟨value, display⟩
    rw [display, value, fresh task read write last]

def oneLink : Gateway := Gateway.new.updateLink 0 fun _ => Link.new 1

theorem exists_completed {actions : List (Action Bool)} {found : State Bool → Bool}
    (executed : ((system Bool oneLink 0).runChecked (fun _ _ => true)
      (system Bool oneLink 0).start actions).any
        (fun state => decide state.AtRest && found state) = true)
    (completed : actions.any Publication.Action.publishes = true) :
    ∃ steps state,
      (system Bool oneLink 0).History TransitionSystem.Always
        (system Bool oneLink 0).start steps state ∧
      state.AtRest ∧ (∃ step ∈ steps, step.action.publishes = true) ∧ found state = true := by
  rcases TransitionSystem.exists_history_of_runChecked executed with
    ⟨steps, state, history, taken, passed⟩
  rw [Bool.and_eq_true] at passed
  rcases List.any_eq_true.mp completed with ⟨action, member, publishes⟩
  rw [← taken] at member
  rcases List.mem_map.mp member with ⟨step, taken, rfl⟩
  exact ⟨steps, state, history.always, of_decide_eq_true passed.1, ⟨step, taken, publishes⟩,
    passed.2⟩

def linkAdded : List (Action Bool) :=
  [.begin true (.addLink 0), .update true, .read true, .publish true]

theorem gauge_follows_iff_linkAdded : ∃ steps state,
    (system Bool oneLink 0).History TransitionSystem.Always
      (system Bool oneLink 0).start steps state ∧
    state.AtRest ∧ state.display = some 1 ∧
    ∀ task read write, Publication.LastPublished steps task read write →
      read.before.value.linksLen = write.before.value.linksLen := by
  rcases @exists_completed linkAdded (fun state => decide (state.display = some 1) &&
      decide (state.display = some state.value.linksLen)) (by decide +kernel) rfl with
    ⟨steps, state, history, rest, completed, passed⟩
  rw [Bool.and_eq_true] at passed
  exact ⟨steps, state, history, rest, of_decide_eq_true passed.1,
    (gauge_follows_iff history rest completed).mp (of_decide_eq_true passed.2)⟩

/-- The link is added, and removed again before the length that was read is written. -/
def linkOvertaken : List (Action Bool) :=
  [.begin true (.addLink 0), .update true, .read true, .begin false (.removeLink 1),
    .update false, .read false, .publish false, .publish true]

theorem gauge_stale :
    ¬ ∀ (gateway : Gateway) (gauge : Nat)
      (steps : List (Publication.Step Bool Gateway RegistryCall Nat (Option Nat)))
      (state : State Bool),
      (system Bool gateway gauge).History TransitionSystem.Always
        (system Bool gateway gauge).start steps state →
      state.AtRest → (∃ step ∈ steps, step.action.publishes = true) →
      state.display = some state.value.linksLen := by
  intro claim
  rcases @exists_completed linkOvertaken
      (fun state => decide (state.display ≠ some state.value.linksLen))
      (by decide +kernel) rfl with
    ⟨steps, state, history, rest, completed, stale⟩
  exact of_decide_eq_true stale (claim _ _ steps state history rest completed)

end ActiveConnections

end IoGateway
