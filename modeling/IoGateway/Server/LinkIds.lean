import IoGateway.Server.Registry

/-! # Freshness of link identifiers

`next_link_id` hands out the successors of a 16-bit counter that starts at one.
The identifiers are fresh exactly as long as the counter has not wrapped.
-/

namespace IoGateway

namespace Server

variable {zstd : Zstd} {server next : Server} {action : ServerAction}

/-- How many identifiers there are besides zero, which control packets use. -/
def linkIdSpace : Nat := 65535

def drawsLinkId (server : Server) : ServerAction → Bool
  | .app ref _ => server.app ref = .handling .nextLinkId
  | _ => false

def LinkIdsLeft (server : Server) (action : ServerAction) : Prop :=
  server.drawsLinkId action = true → server.shared.base.allocated < linkIdSpace

instance (server : Server) (action : ServerAction) : Decidable (LinkIdsLeft server action) :=
  inferInstanceAs (Decidable (_ → _))

theorem drawsLinkId_of_eq {ref : LinkRef} {input : Input} (taken : action = .app ref input)
    (drawing : server.app ref = .handling .nextLinkId) : server.drawsLinkId action = true := by
  rw [taken]
  exact decide_eq_true drawing

/-- An identifier other than zero that no registered link carries and no running
forwarding loop sends under. -/
structure FreshLinkId (server : Server) (linkId : UInt16) : Prop where
  ne_zero : linkId ≠ 0
  links : ∀ key ref, server.shared.base.links.lookup key = some ref →
    (server.shared.base.link ref).connectionId ≠ linkId
  exchanges : ∀ ref writer point, server.app ref ≠ .exchanging linkId writer point

/-! ## The counter -/

def Counted (server : Server) : Prop :=
  server.shared.base.linkIdCounter.toNat = (server.shared.base.allocated + 1) % 2 ^ 16

theorem Counted.step (counted : Counted server)
    (stepped : step zstd server action = some next) : Counted next := by
  unfold Counted at counted ⊢
  cases registryStep_of_step stepped with
  | accept same => rw [same]; exact counted
  | draw ref input taken drawing shared =>
      rw [shared]
      simp only [GatewayServer.updateBase, Gateway.nextLinkId, UInt16.toNat_add,
        UInt16.toNat_one, counted]
      omega
  | register ref linkId writer addr registering shared => rw [shared]; exact counted
  | keep same => rw [same.counter, same.allocated]; exact counted

theorem counted_of_reachable (reachable : (system zstd).Reachable server) : Counted server :=
  reachable.invariant rfl fun _ _ _ _ counted _ stepped => counted.step stepped

theorem allocated_le_of_step (stepped : step zstd server action = some next) :
    server.shared.base.allocated ≤ next.shared.base.allocated := by
  cases registryStep_of_step stepped with
  | accept same => rw [same]
  | draw ref input taken drawing shared =>
      rw [shared]
      exact Nat.le_succ _
  | register ref linkId writer addr registering shared => rw [shared]; exact Nat.le_refl _
  | keep same => rw [same.allocated]

/-! ## The identifiers in use -/

/-- Every identifier in use has been handed out, and no two tasks share one. -/
structure Numbered (server : Server) : Prop where
  bound : server.shared.base.allocated ≤ linkIdSpace
  task : ∀ ref linkId, (server.app ref).linkId? = some linkId →
    linkId.toNat ≤ server.shared.base.allocated
  distinct : ∀ ref other linkId, (server.app ref).linkId? = some linkId →
    (server.app other).linkId? = some linkId → ref = other
  link : ∀ linkId ref, server.shared.base.links.lookup linkId = some ref →
    linkId.toNat ≤ server.shared.base.allocated
  owner : ∀ linkId ref other, server.shared.base.links.lookup linkId = some ref →
    (server.app other).linkId? = some linkId → other = ref

theorem numbered_new : Numbered Server.new where
  bound := Nat.zero_le _
  task := fun _ _ found => by cases found
  distinct := fun _ _ _ found => by cases found
  link := fun _ _ found => by cases found
  owner := fun _ _ _ found => by cases found

/-- The identifier that is drawn next is the successor of all before it. -/
theorem toNat_linkIdCounter (counted : Counted server)
    (left : server.shared.base.allocated < linkIdSpace) :
    server.shared.base.linkIdCounter.toNat = server.shared.base.allocated + 1 := by
  unfold Counted at counted
  unfold linkIdSpace at left
  omega

theorem linkId?_update {ref other : LinkRef} {task : AppTask} {linkId : UInt16}
    (found : ((Function.update server.app ref task) other).linkId? = some linkId) :
    (other = ref ∧ task.linkId? = some linkId) ∨
      (other ≠ ref ∧ (server.app other).linkId? = some linkId) := by
  by_cases equal : other = ref
  · subst equal
    rw [Function.update_self] at found
    exact .inl ⟨rfl, found⟩
  · rw [Function.update_of_ne equal] at found
    exact .inr ⟨equal, found⟩

theorem Numbered.draw {ref : LinkRef} (numbered : Numbered server) (counted : Counted server)
    (left : server.shared.base.allocated < linkIdSpace)
    (shared : next.shared = server.shared.updateBase server.shared.base.nextLinkId.2)
    (app : next.app = Function.update server.app ref
      (.handling (.pickClient server.shared.base.linkIdCounter))) :
    Numbered next := by
  have drawn := toNat_linkIdCounter counted left
  have allocated : next.shared.base.allocated = server.shared.base.allocated + 1 := by
    rw [shared]
    rfl
  have links : next.shared.base.links = server.shared.base.links := by
    rw [shared]
    rfl
  have newer : ∀ {linkId : UInt16}, linkId.toNat ≤ server.shared.base.allocated →
      (AppTask.handling (.pickClient server.shared.base.linkIdCounter)).linkId? ≠
        some linkId := by
    intro linkId earlier equal
    cases Option.some.inj equal
    omega
  constructor
  · rw [allocated]
    exact left
  · intro other linkId found
    rw [app] at found
    rw [allocated]
    rcases linkId?_update found with ⟨_, mine⟩ | ⟨_, before⟩
    · cases Option.some.inj mine
      omega
    · have earlier := numbered.task other linkId before
      omega
  · intro first second linkId foundFirst foundSecond
    rw [app] at foundFirst foundSecond
    rcases linkId?_update foundFirst with ⟨equal, mine⟩ | ⟨_, before⟩
    · rcases linkId?_update foundSecond with ⟨same, _⟩ | ⟨_, other⟩
      · rw [equal, same]
      · exact absurd mine (newer (numbered.task second linkId other))
    · rcases linkId?_update foundSecond with ⟨_, mine⟩ | ⟨_, other⟩
      · exact absurd mine (newer (numbered.task first linkId before))
      · exact numbered.distinct first second linkId before other
  · intro linkId link found
    rw [links] at found
    have earlier := numbered.link linkId link found
    omega
  · intro linkId link other found task
    rw [links] at found
    rw [app] at task
    rcases linkId?_update task with ⟨_, mine⟩ | ⟨_, before⟩
    · exact absurd mine (newer (numbered.link linkId link found))
    · exact numbered.owner linkId link other found before

theorem Numbered.register {ref : LinkRef} {linkId : UInt16} {writer : ConnectionRef}
    {addr : SocketAddr} (numbered : Numbered server)
    (registering : server.app ref = .handling (.addLink linkId writer addr))
    (shared : next.shared = server.shared.updateBase
      { server.shared.base with
        links := server.shared.base.links.insert linkId ref
        link := Function.update server.shared.base.link ref (Link.new linkId) })
    (app : next.app = Function.update server.app ref
      (.handling (.insertRoute linkId writer addr))) :
    Numbered next := by
  have allocated : next.shared.base.allocated = server.shared.base.allocated := by
    rw [shared]
    rfl
  have own : (server.app ref).linkId? = some linkId := by rw [registering]; rfl
  have before : ∀ {other : LinkRef} {key : UInt16}, (next.app other).linkId? = some key →
      (server.app other).linkId? = some key := by
    intro other key found
    rw [app] at found
    rcases linkId?_update found with ⟨equal, mine⟩ | ⟨_, before⟩
    · rw [equal, own]
      exact mine
    · exact before
  have entries : ∀ {key : UInt16} {link : LinkRef},
      next.shared.base.links.lookup key = some link →
        (key = linkId ∧ ref = link) ∨ server.shared.base.links.lookup key = some link := by
    intro key link found
    simp only [shared, GatewayServer.updateBase, FiniteMap.lookup_insert] at found
    split at found
    · rename_i equal
      exact .inl ⟨equal, Option.some.inj found⟩
    · exact .inr found
  constructor
  · rw [allocated]
    exact numbered.bound
  · intro other key found
    rw [allocated]
    exact numbered.task other key (before found)
  · intro first second key foundFirst foundSecond
    exact numbered.distinct first second key (before foundFirst) (before foundSecond)
  · intro key link found
    rw [allocated]
    rcases entries found with ⟨equal, _⟩ | earlier
    · rw [equal]
      exact numbered.task ref linkId own
    · exact numbered.link key link earlier
  · intro key link other found task
    rcases entries found with ⟨equal, mine⟩ | earlier
    · rw [← mine]
      exact numbered.distinct other ref key (before task) (equal ▸ own)
    · exact numbered.owner key link other earlier (before task)

theorem Numbered.step (numbered : Numbered server) (counted : Counted server)
    (permitted : LinkIdsLeft server action)
    (stepped : step zstd server action = some next) : Numbered next := by
  cases registryStep_of_step stepped with
  | accept same app =>
      have before : ∀ {ref : LinkRef} {linkId : UInt16},
          (next.app ref).linkId? = some linkId → (server.app ref).linkId? = some linkId := by
        intro ref linkId found
        rw [app] at found
        rcases linkId?_update found with ⟨_, none⟩ | ⟨_, before⟩
        · cases none
        · exact before
      exact ⟨same ▸ numbered.bound,
        fun ref linkId found => same ▸ numbered.task ref linkId (before found),
        fun ref other linkId first second =>
          numbered.distinct ref other linkId (before first) (before second),
        fun linkId ref found => same ▸ numbered.link linkId ref (same ▸ found),
        fun linkId ref other found task =>
          numbered.owner linkId ref other (same ▸ found) (before task)⟩
  | draw ref input taken drawing shared app =>
      exact numbered.draw counted (permitted (drawsLinkId_of_eq taken drawing)) shared app
  | register ref linkId writer addr registering shared app =>
      exact numbered.register registering shared app
  | keep same shrink identifier =>
      exact ⟨same.allocated ▸ numbered.bound,
        fun ref linkId found => same.allocated ▸ numbered.task ref linkId (identifier _ _ found),
        fun ref other linkId first second =>
          numbered.distinct ref other linkId (identifier _ _ first) (identifier _ _ second),
        fun linkId ref found => same.allocated ▸ numbered.link linkId ref (shrink _ _ found),
        fun linkId ref other found task =>
          numbered.owner linkId ref other (shrink _ _ found) (identifier _ _ task)⟩

theorem numbered_of_reachable (reachable : (system zstd).ReachableUnder LinkIdsLeft server) :
    Numbered server :=
  reachable.invariant numbered_new fun _ _ _ earlier numbered permitted stepped =>
    numbered.step (counted_of_reachable earlier.always) permitted stepped

/-! ## Freshness -/

/-- The next identifier is fresh exactly when some are left. -/
theorem freshLinkId_iff (numbered : Numbered server) (counted : Counted server)
    (registered : Registered server) :
    FreshLinkId server server.shared.base.nextLinkId.1 ↔
      server.shared.base.allocated < linkIdSpace := by
  have bound := numbered.bound
  constructor
  · intro fresh
    by_contra exhausted
    apply fresh.ne_zero
    apply UInt16.toNat_inj.mp
    have wrapped : server.shared.base.linkIdCounter.toNat = 0 := by
      unfold Counted at counted
      unfold linkIdSpace at bound exhausted
      omega
    exact wrapped
  · intro left
    have drawn : server.shared.base.nextLinkId.1.toNat = server.shared.base.allocated + 1 :=
      toNat_linkIdCounter counted left
    constructor
    · intro zero
      rw [zero] at drawn
      cases drawn
    · intro key ref found equal
      have earlier := numbered.link key ref found
      rw [← registered.key key ref found, equal] at earlier
      omega
    · intro ref writer point equal
      have earlier := numbered.task ref server.shared.base.nextLinkId.1 (by rw [equal]; rfl)
      omega

theorem lookup_of_addLink (numbered : Numbered server) (registered : Registered server)
    {ref : LinkRef} {linkId : UInt16} {writer : ConnectionRef} {addr : SocketAddr}
    (registering : server.app ref = .handling (.addLink linkId writer addr)) :
    server.shared.base.links.lookup linkId = none := by
  cases found : server.shared.base.links.lookup linkId with
  | none => rfl
  | some other =>
      have own := numbered.owner linkId other ref found (by rw [registering]; rfl)
      have past := registered.task linkId other found
      rw [← own, registering] at past
      exact absurd trivial past

/-- The identifier has been handed out, and to no task but one. -/
structure SoleUser (user : LinkRef) (linkId : UInt16) (server : Server) : Prop where
  drawn : linkId.toNat ≤ server.shared.base.allocated
  sole : ∀ ref, (server.app ref).linkId? = some linkId → ref = user

theorem SoleUser.step {user : LinkRef} {linkId : UInt16} (soleUser : SoleUser user linkId server)
    (counted : Counted server) (permitted : LinkIdsLeft server action)
    (stepped : step zstd server action = some next) : SoleUser user linkId next := by
  refine ⟨Nat.le_trans soleUser.drawn (allocated_le_of_step stepped), ?_⟩
  intro ref found
  cases registryStep_of_step stepped with
  | accept same app =>
      rw [app] at found
      rcases linkId?_update found with ⟨_, none⟩ | ⟨_, before⟩
      · cases none
      · exact soleUser.sole ref before
  | draw drawer input taken drawing shared app =>
      rw [app] at found
      rcases linkId?_update found with ⟨_, mine⟩ | ⟨_, before⟩
      · have drawn := toNat_linkIdCounter counted (permitted (drawsLinkId_of_eq taken drawing))
        have earlier := soleUser.drawn
        cases Option.some.inj mine
        omega
      · exact soleUser.sole ref before
  | register added drawn writer addr registering shared app =>
      rw [app] at found
      rcases linkId?_update found with ⟨equal, mine⟩ | ⟨_, before⟩
      · apply soleUser.sole
        rw [equal, registering]
        exact mine
      · exact soleUser.sole ref before
  | keep same shrink identifier => exact soleUser.sole ref (identifier ref linkId found)

/-- An identifier that one task has been given is given to no other task in the
rest of the run. -/
theorem sole_user_of_reaches {later : Server}
    (reachable : (system zstd).ReachableUnder LinkIdsLeft server)
    (reaches : (system zstd).Reaches LinkIdsLeft server later) {ref other : LinkRef}
    {linkId : UInt16} (first : (server.app ref).linkId? = some linkId)
    (second : (later.app other).linkId? = some linkId) : other = ref := by
  have numbered := numbered_of_reachable reachable
  have kept : SoleUser ref linkId later := by
    clear second
    induction reaches with
    | refl => exact ⟨numbered.task ref linkId first,
        fun user found => numbered.distinct user ref linkId found first⟩
    | step earlier permitted stepped induction =>
        exact induction.step (counted_of_reachable (reachable.trans earlier).always) permitted
          stepped
  exact kept.sole other second

/-- In every run that draws identifiers only while some are left, the next one is
fresh exactly when one is left, no link replaces another in the registry, and
no two forwarding loops ever run under one identifier. -/
theorem next_link_id_fresh_iff (zstd : Zstd) (server : Server)
    (reachable : (system zstd).ReachableUnder LinkIdsLeft server) :
    (FreshLinkId server server.shared.base.nextLinkId.1 ↔
        server.shared.base.allocated < linkIdSpace) ∧
      (∀ ref linkId writer addr, server.app ref = .handling (.addLink linkId writer addr) →
        server.shared.base.links.lookup linkId = none) ∧
      ∀ later, (system zstd).Reaches LinkIdsLeft server later →
        ∀ ref other linkId writer otherWriter point otherPoint,
          server.app ref = .exchanging linkId writer point →
          later.app other = .exchanging linkId otherWriter otherPoint → other = ref := by
  have numbered := numbered_of_reachable reachable
  have registered := registered_of_reachable reachable.always
  refine ⟨freshLinkId_iff numbered (counted_of_reachable reachable.always) registered, ?_, ?_⟩
  · intro ref linkId writer addr registering
    exact lookup_of_addLink numbered registered registering
  · intro later reaches ref other linkId writer otherWriter point otherPoint first second
    exact sole_user_of_reaches reachable reaches (by rw [first]; rfl) (by rw [second]; rfl)

theorem next_link_id_fresh_iff_oneOpenLink :
    ∃ server, server.shared.base.links.lookup 1 = some 0 ∧
      (FreshLinkId server server.shared.base.nextLinkId.1 ↔
        server.shared.base.allocated < linkIdSpace) := by
  have executed : ((system .runLength).runChecked (fun server action => LinkIdsLeft server action)
      .new oneOpenLink).any (fun server => server.shared.base.links.lookup 1 = some 0) =
        true := by decide +kernel
  rcases TransitionSystem.exists_reaches_of_runChecked executed with ⟨server, reaches, found⟩
  have reachable : (system .runLength).ReachableUnder LinkIdsLeft server :=
    reaches.mono fun _ _ passed => of_decide_eq_true passed
  exact ⟨server, of_decide_eq_true found,
    (next_link_id_fresh_iff .runLength server reachable).1⟩

/-! ## What happens when the counter wraps -/

theorem exists_drawn_one (reachable : (system zstd).Reachable server) :
    ∃ later, (system zstd).Reachable later ∧
      later.shared.base.allocated = server.shared.base.allocated + 1 ∧
      later.shared.base.links = server.shared.base.links := by
  have accepted : (system zstd).step server .acceptApp = some { server with
      app := Function.update server.app server.appCount (.handling .nextLinkId)
      appCount := server.appCount + 1 } := rfl
  have drawn : (system zstd).step { server with
      app := Function.update server.app server.appCount (.handling .nextLinkId)
      appCount := server.appCount + 1 } (.app server.appCount .go) = some { server with
        shared := server.shared.updateBase server.shared.base.nextLinkId.2
        app := Function.update
          (Function.update server.app server.appCount (.handling .nextLinkId)) server.appCount
          (.handling (.pickClient server.shared.base.nextLinkId.1))
        appCount := server.appCount + 1 } := by
    simp [system, step, AppTask.usesSessions, GatewayServer.appStep,
      GatewayServer.handleAppConnection]
  exact ⟨_, .step (.step reachable trivial accepted) trivial drawn, rfl, rfl⟩

theorem exists_drawn (reachable : (system zstd).Reachable server) (count : Nat) :
    ∃ later, (system zstd).Reachable later ∧
      later.shared.base.allocated = server.shared.base.allocated + count ∧
      later.shared.base.links = server.shared.base.links := by
  induction count with
  | zero => exact ⟨server, reachable, rfl, rfl⟩
  | succ count induction =>
      rcases induction with ⟨middle, reached, allocated, links⟩
      rcases exists_drawn_one reached with ⟨later, further, one, after⟩
      exact ⟨later, further, by omega, after.trans links⟩

theorem exists_oneOpenLink :
    ∃ server, (system .runLength).Reachable server ∧
      server.shared.base.allocated = 1 ∧ server.shared.base.links.lookup 1 = some 0 := by
  have executed : ((system .runLength).runChecked (fun _ _ => true) .new oneOpenLink).any
      (fun server => server.shared.base.allocated = 1 ∧
        server.shared.base.links.lookup 1 = some 0) = true := by decide +kernel
  rcases TransitionSystem.exists_reaches_of_runChecked executed with ⟨server, reaches, found⟩
  exact ⟨server, reaches.always, of_decide_eq_true found⟩

/-- The 65537th application is given the identifier of the first, whose link is
still registered. -/
theorem next_link_id_reused :
    ¬ ∀ server ref, (system .runLength).Reachable server →
      server.app ref = .handling .nextLinkId →
        FreshLinkId server server.shared.base.nextLinkId.1 := by
  intro fresh
  rcases exists_oneOpenLink with ⟨first, reachable, allocated, found⟩
  rcases exists_drawn reachable 65535 with ⟨wrapped, reached, count, links⟩
  rw [allocated] at count
  have accepted : (system .runLength).step wrapped .acceptApp = some { wrapped with
      app := Function.update wrapped.app wrapped.appCount (.handling .nextLinkId)
      appCount := wrapped.appCount + 1 } := rfl
  have drawing := fresh _ wrapped.appCount (.step reached trivial accepted)
    (Function.update_self ..)
  have counted := counted_of_reachable reached
  have drawn : wrapped.shared.base.linkIdCounter = 1 := by
    apply UInt16.toNat_inj.mp
    rw [counted, count]
    rfl
  have live : wrapped.shared.base.links.lookup 1 = some 0 := by rw [links, found]
  have carried := (registered_of_reachable reached).key 1 0 live
  exact drawing.links 1 0 live (carried.trans drawn.symm)

end Server

end IoGateway
