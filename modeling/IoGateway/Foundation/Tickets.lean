import Mathlib.Data.List.Nodup
import Mathlib.Logic.Function.Basic

/-! # Tickets from a counter

Parties draw numbered tickets from one counter. A party holds its ticket until it uses it at
one of several sites or loses it. No ticket is then ever used twice, at the same site or at
different ones.
-/

namespace IoGateway

structure Tickets (Holder : Type u) (Site : Type v) where
  counter : Nat
  held : Holder → Option Nat
  used : Site → List Nat

namespace Tickets

variable {Holder : Type u} {Site : Type v}

def new : Tickets Holder Site := ⟨0, fun _ => none, fun _ => []⟩

inductive Step [DecidableEq Holder] [DecidableEq Site] (before after : Tickets Holder Site) :
    Prop
  | quiet (counter : before.counter ≤ after.counter)
      (held : ∀ holder, after.held holder = before.held holder ∨ after.held holder = none)
      (used : after.used = before.used)
  | drawn {holder : Holder} (counter : after.counter = before.counter + 1)
      (held : after.held = Function.update before.held holder (some (before.counter + 1)))
      (used : after.used = before.used)
  | used {holder : Holder} {ticket : Nat} {site : Site}
      (holding : before.held holder = some ticket) (counter : after.counter = before.counter)
      (held : after.held = Function.update before.held holder none)
      (used : after.used = Function.update before.used site (before.used site ++ [ticket]))

/-- Every ticket is somewhere at most once, and comes from the counter. -/
structure Unique (tickets : Tickets Holder Site) : Prop where
  drawn : ∀ holder ticket, tickets.held holder = some ticket →
    0 < ticket ∧ ticket ≤ tickets.counter
  issued : ∀ site, ∀ ticket ∈ tickets.used site, 0 < ticket ∧ ticket ≤ tickets.counter
  alone : ∀ holder other ticket, tickets.held holder = some ticket →
    tickets.held other = some ticket → holder = other
  unused : ∀ holder ticket, tickets.held holder = some ticket →
    ∀ site, ticket ∉ tickets.used site
  once : ∀ site, (tickets.used site).Nodup
  apart : ∀ site other, site ≠ other → List.Disjoint (tickets.used site) (tickets.used other)

theorem unique_new : (new : Tickets Holder Site).Unique where
  drawn := fun _ _ held => by cases held
  issued := fun _ _ member => by cases member
  alone := fun _ _ _ held => by cases held
  unused := fun _ _ held => by cases held
  once := fun _ => List.nodup_nil
  apart := fun _ _ _ => List.disjoint_nil_left _

variable {before after : Tickets Holder Site}

theorem Unique.quiet (unique : before.Unique) (counter : before.counter ≤ after.counter)
    (held : ∀ holder, after.held holder = before.held holder ∨ after.held holder = none)
    (used : after.used = before.used) : after.Unique := by
  have earlier : ∀ {holder ticket}, after.held holder = some ticket →
      before.held holder = some ticket := by
    intro holder ticket now
    rcases held holder with same | lost
    · rwa [same] at now
    · rw [lost] at now
      cases now
  refine ⟨?_, ?_, ?_, ?_, used ▸ unique.once, used ▸ unique.apart⟩
  · intro holder ticket now
    rcases unique.drawn holder ticket (earlier now) with ⟨positive, bound⟩
    exact ⟨positive, Nat.le_trans bound counter⟩
  · intro site ticket member
    rcases unique.issued site ticket (used ▸ member) with ⟨positive, bound⟩
    exact ⟨positive, Nat.le_trans bound counter⟩
  · exact fun holder other ticket now too => unique.alone _ _ _ (earlier now) (earlier too)
  · exact fun holder ticket now site => used ▸ unique.unused _ _ (earlier now) site

theorem Unique.drawing [DecidableEq Holder] (unique : before.Unique) {holder : Holder}
    (counter : after.counter = before.counter + 1)
    (held : after.held = Function.update before.held holder (some (before.counter + 1)))
    (used : after.used = before.used) : after.Unique := by
  have split : ∀ {other ticket}, after.held other = some ticket →
      (other = holder ∧ ticket = before.counter + 1) ∨
        (other ≠ holder ∧ before.held other = some ticket) := by
    intro other ticket now
    rw [held] at now
    by_cases own : other = holder
    · subst own
      rw [Function.update_self] at now
      exact .inl ⟨rfl, (Option.some.inj now).symm⟩
    · rw [Function.update_of_ne own] at now
      exact .inr ⟨own, now⟩
  have fresh : ∀ {other}, before.held other ≠ some (before.counter + 1) := by
    intro other now
    have bound := (unique.drawn _ _ now).2
    omega
  refine ⟨?_, ?_, ?_, ?_, used ▸ unique.once, used ▸ unique.apart⟩
  · intro other ticket now
    rcases split now with ⟨_, rfl⟩ | ⟨_, now⟩
    · omega
    · rcases unique.drawn _ _ now with ⟨positive, bound⟩
      omega
  · intro site ticket member
    rcases unique.issued site ticket (used ▸ member) with ⟨positive, bound⟩
    omega
  · intro one other ticket now too
    rcases split now with ⟨rfl, rfl⟩ | ⟨_, now⟩ <;> rcases split too with ⟨rfl, equal⟩ | ⟨_, too⟩
    · rfl
    · exact absurd too fresh
    · subst equal
      exact absurd now fresh
    · exact unique.alone _ _ _ now too
  · intro other ticket now site member
    rw [used] at member
    rcases split now with ⟨_, rfl⟩ | ⟨_, now⟩
    · have bound := (unique.issued _ _ member).2
      omega
    · exact unique.unused _ _ now site member

theorem Unique.using [DecidableEq Holder] [DecidableEq Site] (unique : before.Unique)
    {holder : Holder} {ticket : Nat} {site : Site}
    (holding : before.held holder = some ticket) (counter : after.counter = before.counter)
    (held : after.held = Function.update before.held holder none)
    (used : after.used = Function.update before.used site (before.used site ++ [ticket])) :
    after.Unique := by
  have earlier : ∀ {other value}, after.held other = some value →
      other ≠ holder ∧ before.held other = some value := by
    intro other value now
    rw [held] at now
    by_cases own : other = holder
    · rw [own, Function.update_self] at now
      cases now
    · rw [Function.update_of_ne own] at now
      exact ⟨own, now⟩
  have split : ∀ {place value}, value ∈ after.used place →
      value ∈ before.used place ∨ (place = site ∧ value = ticket) := by
    intro place value member
    rw [used] at member
    by_cases own : place = site
    · subst own
      rw [Function.update_self, List.mem_append, List.mem_singleton] at member
      exact member.imp id fun equal => ⟨rfl, equal⟩
    · rw [Function.update_of_ne own] at member
      exact .inl member
  have unspent := unique.unused _ _ holding
  refine ⟨?_, ?_, ?_, ?_, ?_, ?_⟩
  · intro other value now
    rw [counter]
    exact unique.drawn _ _ (earlier now).2
  · intro place value member
    rw [counter]
    rcases split member with member | ⟨_, rfl⟩
    · exact unique.issued _ _ member
    · exact unique.drawn _ _ holding
  · exact fun one other value now too => unique.alone _ _ _ (earlier now).2 (earlier too).2
  · intro other value now place member
    rcases earlier now with ⟨different, now⟩
    rcases split member with member | ⟨_, rfl⟩
    · exact unique.unused _ _ now place member
    · exact different (unique.alone _ _ _ now holding)
  · intro place
    rw [used]
    by_cases own : place = site
    · subst own
      rw [Function.update_self]
      exact List.Nodup.append (unique.once place) (List.nodup_singleton _)
        (List.disjoint_singleton.mpr (unspent place))
    · rw [Function.update_of_ne own]
      exact unique.once place
  · intro place other different value here there
    rcases split here with here | ⟨rfl, rfl⟩ <;> rcases split there with there | ⟨rfl, equal⟩
    · exact unique.apart _ _ different here there
    · exact unspent place (equal ▸ here)
    · exact unspent other there
    · exact different rfl

theorem Unique.step [DecidableEq Holder] [DecidableEq Site] (unique : before.Unique)
    (stepped : Step before after) : after.Unique := by
  cases stepped with
  | quiet counter held used => exact unique.quiet counter held used
  | drawn counter held used => exact unique.drawing counter held used
  | used holding counter held used => exact unique.using holding counter held used

end Tickets

end IoGateway
