import IoGateway.Server.LinkIds

/-! # The identifiers that links carry

A link gets its identifier when it is created and keeps it when its task has
finished. As long as no identifier is drawn twice, it is that of no other link.
-/

namespace IoGateway

namespace Server

variable {zstd : Zstd} {server next : Server} {action : ServerAction}

/-- A link carries its task's identifier from its creation on, and zero before. -/
structure Identified (server : Server) : Prop where
  created : ∀ ref linkId, (server.app ref).linkId? = some linkId →
    ¬ (server.app ref).Unregistered → (server.shared.base.link ref).connectionId = linkId
  uncreated : ∀ ref, (server.app ref).Unregistered →
    (server.shared.base.link ref).connectionId = 0
  bound : ∀ ref, (server.shared.base.link ref).connectionId.toNat ≤ server.shared.base.allocated
  positive : ∀ ref linkId, (server.app ref).linkId? = some linkId → linkId ≠ 0
  sole : ∀ ref other linkId, (server.app ref).linkId? = some linkId →
    (server.shared.base.link other).connectionId = linkId → ref = other
  distinct : ∀ ref other, (server.shared.base.link ref).connectionId ≠ 0 →
    (server.shared.base.link ref).connectionId = (server.shared.base.link other).connectionId →
      ref = other

theorem identified_new : Identified Server.new where
  created := fun _ _ found => by cases found
  uncreated := fun _ _ => rfl
  bound := fun _ => Nat.le_refl _
  positive := fun _ _ found => by cases found
  sole := fun _ _ _ found => by cases found
  distinct := fun _ _ positive => absurd rfl positive

theorem Identified.draw {ref : LinkRef} (identified : Identified server)
    (counted : Counted server) (left : server.shared.base.allocated < linkIdSpace)
    (drawing : server.app ref = .handling .nextLinkId)
    (shared : next.shared = server.shared.updateBase server.shared.base.nextLinkId.2)
    (app : next.app = Function.update server.app ref
      (.handling (.pickClient server.shared.base.linkIdCounter))) : Identified next := by
  have links : next.shared.base.link = server.shared.base.link := by
    rw [shared]
    rfl
  have drawn := toNat_linkIdCounter counted left
  have before : ∀ other, (next.app other).Unregistered ↔ (server.app other).Unregistered := by
    intro other
    rw [app]
    by_cases equal : other = ref
    · rw [equal, Function.update_self, drawing]
      exact Iff.rfl
    · rw [Function.update_of_ne equal]
  constructor
  · intro other linkId found registered
    rw [links]
    rw [before] at registered
    rw [app] at found
    rcases linkId?_update found with ⟨equal, _⟩ | ⟨_, earlier⟩
    · rw [equal, drawing] at registered
      exact absurd trivial registered
    · exact identified.created other linkId earlier registered
  · intro other unregistered
    rw [links]
    exact identified.uncreated other ((before other).mp unregistered)
  · intro other
    rw [links]
    have allocated : next.shared.base.allocated = server.shared.base.allocated + 1 := by
      rw [shared]
      rfl
    rw [allocated]
    exact Nat.le_succ_of_le (identified.bound other)
  · intro other linkId found
    rw [app] at found
    rcases linkId?_update found with ⟨_, mine⟩ | ⟨_, earlier⟩
    · cases Option.some.inj mine
      intro zero
      rw [zero] at drawn
      cases drawn
    · exact identified.positive other linkId earlier
  · intro first second linkId found carried
    rw [app] at found
    rw [links] at carried
    rcases linkId?_update found with ⟨_, mine⟩ | ⟨_, earlier⟩
    · have old := identified.bound second
      cases Option.some.inj mine
      rw [carried] at old
      omega
    · exact identified.sole first second linkId earlier carried
  · intro first second
    rw [links]
    exact identified.distinct first second

theorem Identified.register {ref : LinkRef} {linkId : UInt16} {writer : ConnectionRef}
    {addr : SocketAddr} (identified : Identified server) (numbered : Numbered server)
    (registering : server.app ref = .handling (.addLink linkId writer addr))
    (shared : next.shared = server.shared.updateBase
      { server.shared.base with
        links := server.shared.base.links.insert linkId ref
        link := Function.update server.shared.base.link ref (Link.new linkId) })
    (app : next.app = Function.update server.app ref
      (.handling (.insertRoute linkId writer addr))) : Identified next := by
  have own : (server.app ref).linkId? = some linkId := by rw [registering]; rfl
  have allocated : next.shared.base.allocated = server.shared.base.allocated := by
    rw [shared]
    rfl
  have link : next.shared.base.link =
      Function.update server.shared.base.link ref (Link.new linkId) := by
    rw [shared]
    rfl
  constructor
  · intro other key found registered
    rw [app] at found registered
    rw [link]
    by_cases equal : other = ref
    · subst equal
      rw [Function.update_self] at found ⊢
      exact Option.some.inj found
    · rw [Function.update_of_ne equal] at found registered ⊢
      exact identified.created other key found registered
  · intro other unregistered
    rw [app] at unregistered
    rw [link]
    by_cases equal : other = ref
    · subst equal
      rw [Function.update_self] at unregistered
      exact unregistered.elim
    · rw [Function.update_of_ne equal] at unregistered ⊢
      exact identified.uncreated other unregistered
  · intro other
    rw [allocated, link]
    by_cases equal : other = ref
    · subst equal
      rw [Function.update_self]
      exact numbered.task other linkId own
    · rw [Function.update_of_ne equal]
      exact identified.bound other
  · intro other key found
    rw [app] at found
    rcases linkId?_update found with ⟨_, mine⟩ | ⟨_, earlier⟩
    · cases Option.some.inj mine
      exact identified.positive ref linkId own
    · exact identified.positive other key earlier
  · intro first second key found carried
    have before : (server.app first).linkId? = some key := by
      rw [app] at found
      rcases linkId?_update found with ⟨equal, mine⟩ | ⟨_, earlier⟩
      · rw [equal, own]
        exact mine
      · exact earlier
    rw [link] at carried
    by_cases equal : second = ref
    · subst equal
      rw [Function.update_self] at carried
      exact numbered.distinct first second key before (carried ▸ own)
    · rw [Function.update_of_ne equal] at carried
      exact identified.sole first second key before carried
  · intro first second positive same
    rw [link] at positive same
    by_cases mineFirst : first = ref
    · by_cases mineSecond : second = ref
      · rw [mineFirst, mineSecond]
      · rw [mineFirst, Function.update_self, Function.update_of_ne mineSecond] at same
        rw [mineFirst]
        exact identified.sole ref second linkId own same.symm
    · by_cases mineSecond : second = ref
      · rw [mineSecond, Function.update_self, Function.update_of_ne mineFirst] at same
        rw [mineSecond]
        exact (identified.sole ref first linkId own same).symm
      · rw [Function.update_of_ne mineFirst] at positive same
        rw [Function.update_of_ne mineSecond] at same
        exact identified.distinct first second positive same

theorem Identified.step (identified : Identified server) (numbered : Numbered server)
    (counted : Counted server) (slots : SlotsInOrder server)
    (permitted : LinkIdsLeft server action) (stepped : step zstd server action = some next) :
    Identified next := by
  cases registryStep_of_step stepped with
  | accept same app =>
      have vacant := slots.app server.appCount (Nat.le_refl _)
      have before : ∀ ref, (next.app ref).Unregistered ↔ (server.app ref).Unregistered := by
        intro ref
        rw [app]
        by_cases equal : ref = server.appCount
        · rw [equal, Function.update_self, vacant]
          exact Iff.rfl
        · rw [Function.update_of_ne equal]
      have earlier : ∀ {ref : LinkRef} {linkId : UInt16},
          (next.app ref).linkId? = some linkId → (server.app ref).linkId? = some linkId := by
        intro ref linkId found
        rw [app] at found
        rcases linkId?_update found with ⟨_, none⟩ | ⟨_, before⟩
        · cases none
        · exact before
      exact {
        created := fun ref linkId found registered => same ▸
          identified.created ref linkId (earlier found) (registered ∘ (before ref).mpr)
        uncreated := fun ref unregistered => same ▸
          identified.uncreated ref ((before ref).mp unregistered)
        bound := same ▸ identified.bound
        positive := fun ref linkId found => identified.positive ref linkId (earlier found)
        sole := fun ref other linkId found =>
          same ▸ identified.sole ref other linkId (earlier found)
        distinct := same ▸ identified.distinct }
  | draw ref input taken drawing shared app =>
      exact identified.draw counted (permitted (drawsLinkId_of_eq taken drawing)) drawing shared
        app
  | register ref linkId writer addr registering shared app =>
      exact identified.register numbered registering shared app
  | keep same shrink identifier registered unregistered =>
      exact {
        created := fun ref linkId found past => (same.connectionId ref).trans
          (identified.created ref linkId (identifier ref linkId found)
            (past ∘ unregistered ref linkId found))
        uncreated := fun ref open_ => (same.connectionId ref).trans
          (identified.uncreated ref (registered ref open_))
        bound := fun ref => by
          rw [same.connectionId, same.allocated]
          exact identified.bound ref
        positive := fun ref linkId found =>
          identified.positive ref linkId (identifier ref linkId found)
        sole := fun ref other linkId found carried =>
          identified.sole ref other linkId (identifier ref linkId found)
            ((same.connectionId other).symm.trans carried)
        distinct := fun ref other => by
          rw [same.connectionId, same.connectionId]
          exact identified.distinct ref other }

theorem identified_of_reachable (reachable : (system zstd).ReachableUnder LinkIdsLeft server) :
    Identified server :=
  reachable.invariant identified_new fun _ _ _ earlier identified permitted stepped =>
    identified.step (numbered_of_reachable earlier) (counted_of_reachable earlier.always)
      (slotsInOrder_of_reachable earlier.always) permitted stepped

end Server

end IoGateway
