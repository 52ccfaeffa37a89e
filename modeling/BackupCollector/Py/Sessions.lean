/-
# Sessions taken in turn

Callers log in to one server, send requests, several at a time, and log out.  They share ONE
session, which a logout ends for all of them, so they have to take turns.  `Turns` is a server that
is used in turn.  One session is open at a time, a session ends only when its requests have, and a
failed login opens none.

`SessionLaw` says the same of a history, without the notion of a turn: of what happened in which
order, that sessions neither overlap nor leak.  It is what one would check in a log.  That a
history which was taken in turns meets it (`sessionLaw`) is the result of this library, and a
program then has to show only that its steps are turns.

A history is a list of events, oldest first, and `Next` is one more event; so the induction of a
program runs at the end of the list, and `snoc_iff` is its rule.  What an open session looked like
from its login on is recovered from there (`active_began`).

Logins, requests and logouts may fail, and a failure is an event as well.  Whether a server honours
a logout is not in a history.
-/
import Mathlib.Data.List.Induction

namespace Py.Sessions

/-! ## 1. What happens

Each event has a caller, and a request a name besides. -/

/-- What happens in sessions: `c` is the caller, `n` the request. -/
inductive Event (ρ ν : Type) where
  | loginAttempt (c : ρ)
  | loggedIn (c : ρ)
  | loginFailed (c : ρ)
  | requestStart (c : ρ) (n : ν)
  | requestEnd (c : ρ) (n : ν)
  | logoutAttempt (c : ρ)
  | logoutEnd (c : ρ)
deriving DecidableEq

section Events

variable {ρ ν : Type}

namespace Event

def caller : Event ρ ν → ρ
  | .loginAttempt c | .loggedIn c | .loginFailed c | .requestStart c _ | .requestEnd c _ | .logoutAttempt c
  | .logoutEnd c => c

def isRequest : Event ρ ν → Bool
  | .requestStart _ _ | .requestEnd _ _ => true
  | _ => false

def isLogin : Event ρ ν → Bool
  | .loginAttempt _ => true
  | _ => false

def isLogout : Event ρ ν → Bool
  | .logoutAttempt _ => true
  | _ => false

/-- A request of the caller. -/
def IsRequestOf (c : ρ) (e : Event ρ ν) : Prop := e.isRequest = true ∧ e.caller = c

end Event

/-- Sessions neither overlap nor leak. -/
structure SessionLaw (h : List (Event ρ ν)) : Prop where
  /-- Before an endpoint's request there is a login of the same caller that succeeded, and nothing
  but requests of that caller in between. -/
  within : ∀ a e b, h = a ++ e :: b → e.isRequest = true →
    ∃ a₁ a₂, a = a₁ ++ .loggedIn e.caller :: a₂ ∧ ∀ x ∈ a₂, x.IsRequestOf e.caller
  /-- A request that starts has ended when its caller logs out. -/
  ended : ∀ a m b c n, h = a ++ .requestStart c n :: (m ++ .logoutAttempt c :: b) → .logoutAttempt c ∉ m →
    .requestEnd c n ∈ m
  /-- From a login to the logout of its caller everything is of that caller. -/
  apart : ∀ a m b c, h = a ++ .loggedIn c :: (m ++ b) → .logoutAttempt c ∉ m → ∀ e ∈ m, e.caller = c
  /-- Between a login and the next login attempt there is one logout attempt, of the same caller. -/
  loggedOut : ∀ a m b c e, h = a ++ .loggedIn c :: (m ++ e :: b) → e.isLogin = true → (∀ x ∈ m, x.isLogin = false) →
    m.filter Event.isLogout = [.logoutAttempt c]

/-! ## 2. Turns

A turn is nobody's, or it is a caller's, logging in, active with its requests in flight, or logging
out. -/

/-- Whose turn it is, with the requests in flight. -/
inductive Turn (ρ ν : Type) where
  | free
  | loggingIn (c : ρ)
  | active (c : ρ) (inFlight : List ν)
  | closing (c : ρ)

variable [BEq ν]

/-- One event. -/
inductive Next : Turn ρ ν → Event ρ ν → Turn ρ ν → Prop
  | loginAttempt (c : ρ) : Next .free (.loginAttempt c) (.loggingIn c)
  | loggedIn (c : ρ) : Next (.loggingIn c) (.loggedIn c) (.active c [])
  | loginFailed (c : ρ) : Next (.loggingIn c) (.loginFailed c) .free
  | requestStart (c : ρ) (inFlight : List ν) (n : ν) :
      Next (.active c inFlight) (.requestStart c n) (.active c (n :: inFlight))
  | requestEnd (c : ρ) {inFlight : List ν} {n : ν} (hn : n ∈ inFlight) :
      Next (.active c inFlight) (.requestEnd c n) (.active c (inFlight.erase n))
  | logoutAttempt (c : ρ) : Next (.active c []) (.logoutAttempt c) (.closing c)
  | logoutEnd (c : ρ) : Next (.closing c) (.logoutEnd c) .free

/-- A list of events, taken in turns. -/
inductive Turns (t : Turn ρ ν) : List (Event ρ ν) → Turn ρ ν → Prop
  | start : Turns t [] t
  | next {h : List (Event ρ ν)} {m t' : Turn ρ ν} {e : Event ρ ν} : Turns t h m → Next m e t' → Turns t (h ++ [e]) t'

namespace Turns

variable {t t' : Turn ρ ν} {h a b m : List (Event ρ ν)} {c : ρ} {inFlight : List ν}

theorem nil_iff : Turns t [] t' ↔ t' = t := by
  constructor
  · intro hturns
    generalize hnil : ([] : List (Event ρ ν)) = h at hturns
    cases hturns with
    | start => rfl
    | next => simp at hnil
  · rintro rfl
    exact .start

theorem snoc_iff {e : Event ρ ν} : Turns t (h ++ [e]) t' ↔ ∃ m, Turns t h m ∧ Next m e t' := by
  constructor
  · intro hturns
    generalize hsnoc : h ++ [e] = h' at hturns
    cases hturns with
    | start => simp at hsnoc
    | next hturns hnext =>
      obtain ⟨rfl, hlast⟩ := List.append_inj' hsnoc rfl
      obtain rfl := List.singleton_inj.mp hlast
      exact ⟨_, hturns, hnext⟩
  · rintro ⟨m, hturns, hnext⟩
    exact .next hturns hnext

/-- A history splits where it is cut. -/
theorem append_iff : Turns t (a ++ b) t' ↔ ∃ m, Turns t a m ∧ Turns m b t' := by
  induction b using List.reverseRecOn generalizing t' with
  | nil => simp [nil_iff]
  | append_singleton b e ih =>
    rw [← List.append_assoc, snoc_iff]
    constructor
    · rintro ⟨m, hturns, hnext⟩
      obtain ⟨k, hk, hm⟩ := ih.mp hturns
      exact ⟨k, hk, .next hm hnext⟩
    · rintro ⟨k, hk, hm⟩
      obtain ⟨m, hb, hnext⟩ := snoc_iff.mp hm
      exact ⟨m, ih.mpr ⟨k, hk, hb⟩, hnext⟩

theorem cons_iff {e : Event ρ ν} : Turns t (e :: b) t' ↔ ∃ m, Next t e m ∧ Turns m b t' := by
  rw [← List.singleton_append, append_iff]
  constructor
  · rintro ⟨m, hone, hb⟩
    obtain ⟨k, hk, hnext⟩ := snoc_iff.mp (show Turns t ([] ++ [e]) m from hone)
    obtain rfl := nil_iff.mp hk
    exact ⟨m, hnext, hb⟩
  · rintro ⟨m, hnext, hb⟩
    exact ⟨m, .next .start hnext, hb⟩

/-! ## 3. What a history taken in turns looks like

From the end of a history back to the login of its open session. -/

/-- An open session began with a login, and had nothing but its own requests since. -/
theorem active_began (hturns : Turns .free h (.active c inFlight)) :
    ∃ a₁ a₂, h = a₁ ++ .loggedIn c :: a₂ ∧ ∀ x ∈ a₂, x.IsRequestOf c := by
  induction h using List.reverseRecOn generalizing inFlight with
  | nil => cases nil_iff.mp hturns
  | append_singleton h e ih =>
    obtain ⟨m, hm, hnext⟩ := snoc_iff.mp hturns
    have hrequest {f : List ν} (hm : Turns .free h (.active c f)) (he : e.IsRequestOf c) :
        ∃ a₁ a₂, h ++ [e] = a₁ ++ .loggedIn c :: a₂ ∧ ∀ x ∈ a₂, x.IsRequestOf c := by
      obtain ⟨a₁, a₂, rfl, hown⟩ := ih hm
      refine ⟨a₁, a₂ ++ [e], by simp, fun x hx => ?_⟩
      rcases List.mem_append.mp hx with hx | hx
      · exact hown x hx
      · exact List.mem_singleton.mp hx ▸ he
    cases hnext with
    | loggedIn => exact ⟨h, [], rfl, by simp⟩
    | requestStart => exact hrequest hm ⟨rfl, rfl⟩
    | requestEnd => exact hrequest hm ⟨rfl, rfl⟩

/-- Until its caller logs out, a session stays open, its events are its own, and a request in
flight stays in flight until it ends. -/
theorem active_stays [LawfulBEq ν] (hturns : Turns (.active c inFlight) m t) (hopen : .logoutAttempt c ∉ m) :
    ∃ later, t = .active c later ∧ (∀ e ∈ m, e.caller = c) ∧ ∀ n ∈ inFlight, .requestEnd c n ∉ m → n ∈ later := by
  induction m using List.reverseRecOn generalizing t with
  | nil => exact ⟨inFlight, nil_iff.mp hturns, by simp, fun n hn _ => hn⟩
  | append_singleton m e ih =>
    obtain ⟨k, hk, hnext⟩ := snoc_iff.mp hturns
    simp only [List.mem_append, List.mem_singleton, not_or] at hopen
    obtain ⟨later, rfl, hown, hkept⟩ := ih hk hopen.1
    have hcaller : e.caller = c → ∀ x ∈ m ++ [e], x.caller = c := by
      intro he x hx
      rcases List.mem_append.mp hx with hx | hx
      · exact hown x hx
      · exact List.mem_singleton.mp hx ▸ he
    cases hnext with
    | requestStart _ _ n =>
      refine ⟨n :: later, rfl, hcaller rfl, fun l hl hnot => ?_⟩
      exact List.mem_cons_of_mem n (hkept l hl fun hmem => hnot (List.mem_append_left _ hmem))
    | @requestEnd _ _ n hn =>
      refine ⟨later.erase n, rfl, hcaller rfl, fun l hl hnot => ?_⟩
      simp only [List.mem_append, List.mem_singleton, Event.requestEnd.injEq, true_and, not_or] at hnot
      exact (List.mem_erase_of_ne hnot.2).mpr (hkept l hl hnot.1)
    | logoutAttempt => exact absurd rfl hopen.2

/-- From a login on, until the next login attempt: the session is open and no logout was attempted,
or one was, by its caller. -/
theorem logouts (hturns : Turns (.active c inFlight) m t) (hquiet : ∀ x ∈ m, x.isLogin = false) :
    ((∃ later, t = .active c later) ∧ m.filter Event.isLogout = []) ∨
      ((t = .closing c ∨ t = .free) ∧ m.filter Event.isLogout = [.logoutAttempt c]) := by
  induction m using List.reverseRecOn generalizing t with
  | nil => exact .inl ⟨⟨inFlight, nil_iff.mp hturns⟩, rfl⟩
  | append_singleton m e ih =>
    obtain ⟨k, hk, hnext⟩ := snoc_iff.mp hturns
    have he : e.isLogin = false := hquiet e (by simp)
    have hm := ih hk fun x hx => hquiet x (List.mem_append_left [e] hx)
    rw [List.filter_append]
    rcases hm with ⟨⟨later, rfl⟩, hnone⟩ | ⟨rfl | rfl, hone⟩
    · rw [hnone]
      cases hnext with
      | requestStart _ _ n => exact .inl ⟨⟨n :: later, rfl⟩, rfl⟩
      | @requestEnd _ _ n => exact .inl ⟨⟨later.erase n, rfl⟩, rfl⟩
      | logoutAttempt => exact .inr ⟨.inl rfl, rfl⟩
    · rw [hone]
      cases hnext with
      | logoutEnd => exact .inr ⟨.inr rfl, rfl⟩
    · cases hnext with
      | loginAttempt => cases he

/-- What follows a login in a history taken in turns. -/
theorem of_loggedIn (hturns : Turns t (a ++ .loggedIn c :: b) t') : Turns (.active c []) b t' := by
  obtain ⟨k, -, hk⟩ := append_iff.mp hturns
  obtain ⟨m, hnext, hb⟩ := cons_iff.mp hk
  cases hnext
  exact hb

/-- **A history taken in turns meets the law.** -/
theorem sessionLaw [LawfulBEq ν] (hturns : Turns .free h t) : SessionLaw h where
  within := by
    rintro a e b rfl he
    obtain ⟨k, hk, hb⟩ := append_iff.mp hturns
    obtain ⟨m, hnext, -⟩ := cons_iff.mp hb
    cases hnext with
    | requestStart => exact active_began hk
    | requestEnd => exact active_began hk
    | _ => cases he
  ended := by
    rintro a m b c n rfl hopen
    obtain ⟨k, hk, hb⟩ := append_iff.mp hturns
    obtain ⟨s, hnext, hb⟩ := cons_iff.mp hb
    obtain ⟨l, hm, hb⟩ := append_iff.mp hb
    obtain ⟨s', hlast, -⟩ := cons_iff.mp hb
    cases hnext with
    | requestStart _ inFlight =>
      obtain ⟨later, rfl, -, hkept⟩ := active_stays hm hopen
      by_contra hnot
      have hn := hkept n List.mem_cons_self hnot
      cases hlast
      cases hn
  apart := by
    rintro a m b c rfl hopen
    obtain ⟨k, hm, -⟩ := append_iff.mp (of_loggedIn hturns)
    obtain ⟨-, -, hown, -⟩ := active_stays hm hopen
    exact hown
  loggedOut := by
    rintro a m b c e rfl he hquiet
    obtain ⟨k, hm, hb⟩ := append_iff.mp (of_loggedIn hturns)
    obtain ⟨s, hnext, -⟩ := cons_iff.mp hb
    rcases logouts hm hquiet with ⟨⟨later, rfl⟩, -⟩ | ⟨-, hone⟩
    · cases hnext <;> cases he
    · exact hone

end Turns

end Events

end Py.Sessions
