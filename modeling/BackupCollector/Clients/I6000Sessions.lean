/-
# Concurrent calls on one i6000 client

Any number of `fetch_payloads` calls share a client, its session lock and the semaphore of its
requests.  The library has ONE session, and a call that logs out while another is fetching would
take it from under it.  The lock is there to prevent this, and the module proves that it does:
however the calls interleave, logins and logouts alternate, requests with credentials are made
between them, and a call that has ended after a login has attempted its logout
(`sessions_neither_overlap_nor_leak`).

A step is what happens between two awaits of one call or of one of its requests; calls and requests
interleave only there, in any order.  Any await can fail or be cancelled, and cancellation is the
case that makes this hard: a call may be cancelled while it queues for the lock, in the middle of
its login, among its requests, or in its logout.

The invariant is `InTurn`.  The history of the client reads as a sequence of turns, the turn is
that of the call that has the lock, and nobody's when no call has it.  The lock itself is that of
`Py/LockUsers`, whose invariant is used by name: a call in one of its holding phases is the owner.
A step either moves a call that does not have the lock, and the turn stays; or it is by the call
that has it, and the turn goes on.

A client without credentials takes no sessions, and the lock only serialises its calls.  Whether a
logout that was attempted reached the library is not known to the client.
-/
import BackupCollector.Clients.Rest
import BackupCollector.Py.LockUsers
import BackupCollector.Py.Sessions
import Mathlib.Logic.Relation

namespace BackupCollector.I6000

open Py Sessions

/-! ## 1. The state

The phases of a call name the await it stands at.  The history is what the client asked of the
library. -/

/-- Where a `fetch_payloads` call is. -/
inductive FetchPhase where
  | idle
  /-- in `acquire`, in the queue of the session lock -/
  | queued
  /-- in the request of `_login` -/
  | loggingIn
  /-- in `gather`: the names whose request has not started, those whose request is in flight, and
  whether the call was cancelled -/
  | fetching (waiting inFlight : List Str) (cancelled : Bool)
  /-- in the request of `_logout` -/
  | loggingOut
  | finished

/-- The call has the session lock. -/
def FetchPhase.Holding : FetchPhase → Prop
  | .loggingIn | .fetching _ _ _ | .loggingOut => True
  | _ => False

/-- What the calls of a client read: its configuration, and the class each call is for. -/
structure ClientSetup (ρ : Type) where
  config : CollectorConfig
  classOf : ρ → Option CollectionClass

/-- `config.username and config.password` -/
def hasCredentials (c : CollectorConfig) : Bool := given c.username && given c.password

/-- The names `fetch_named` makes a request for. -/
def ClientSetup.names {ρ : Type} (u : ClientSetup ρ) (c : ρ) : List Str :=
  Dict.keys (endpointsForClass (u.config.endpointsOr defaultEndpoints) (u.classOf c))

/-- One client: `permits` is the value of the semaphore, `history` what happened, oldest first. -/
structure ClientState (ρ : Type) where
  permits : Nat
  lock : AsyncLock ρ := {}
  phase : ρ → FetchPhase := fun _ => .idle
  history : List (Event ρ Str) := []

/-- A new client. -/
def ClientState.initial {ρ : Type} (u : ClientSetup ρ) : ClientState ρ := { permits := u.config.restMaxConcurrency.toNat }

/-! ## 2. The steps

One constructor for every way from one await to the next, failures and cancellations included. -/

section Steps

variable {ρ : Type} [DecidableEq ρ]

namespace ClientState

def setPhase (s : ClientState ρ) (c : ρ) (p : FetchPhase) : ClientState ρ := { s with phase := Function.update s.phase c p }

def happened (s : ClientState ρ) (e : Event ρ Str) : ClientState ρ := { s with history := s.history ++ [e] }

/-- The call has the lock: it logs in, or fetches at once when there are no credentials. -/
def enter (u : ClientSetup ρ) (s : ClientState ρ) (c : ρ) : ClientState ρ :=
  if hasCredentials u.config then (s.setPhase c .loggingIn).happened (.loginAttempt c)
  else s.setPhase c (.fetching (u.names c) [] false)

/-- The end of `async with`. -/
def leave (s : ClientState ρ) (c : ρ) : ClientState ρ := { s.setPhase c .finished with lock := s.lock.release }

/-- The `finally` of a call whose `gather` is over. -/
def gathered (u : ClientSetup ρ) (s : ClientState ρ) (c : ρ) : ClientState ρ :=
  if hasCredentials u.config then (s.setPhase c .loggingOut).happened (.logoutAttempt c) else s.leave c

end ClientState

/-- One step of one client, from one await to the next.  Every constructor names the phase it
leaves; whether a request succeeds is free, and so is when a call is cancelled. -/
inductive FetchStep (u : ClientSetup ρ) (s : ClientState ρ) : ClientState ρ → Prop where
  | acquire {c : ρ} (hp : s.phase c = .idle) (hf : s.lock.Free) :
      FetchStep u s (({ s with lock := s.lock.hold } : ClientState ρ).enter u c)
  | enqueue {c : ρ} (hp : s.phase c = .idle) (hf : ¬ s.lock.Free) :
      FetchStep u s { s.setPhase c .queued with lock := s.lock.enqueue c }
  | resume {c : ρ} (hp : s.phase c = .queued) (hw : (c, .woken) ∈ s.lock.waiters) :
      FetchStep u s (({ s with lock := s.lock.grant c } : ClientState ρ).enter u c)
  | cancelWaiter {c : ρ} (hp : s.phase c = .queued) (hw : (c, .pending) ∈ s.lock.waiters) :
      FetchStep u s { s with lock := s.lock.cancel c }
  | giveUp {c : ρ} (hp : s.phase c = .queued) (hw : (c, .cancelled) ∈ s.lock.waiters ∨ (c, .woken) ∈ s.lock.waiters) :
      FetchStep u s { s.setPhase c .finished with lock := s.lock.giveUp c }
  | loggedIn {c : ρ} (hp : s.phase c = .loggingIn) :
      FetchStep u s ((s.setPhase c (.fetching (u.names c) [] false)).happened (.loggedIn c))
  -- `_login` raises: the `try` is not reached
  | loginFailed {c : ρ} (hp : s.phase c = .loggingIn) : FetchStep u s ((s.leave c).happened (.loginFailed c))
  -- the semaphore admits one more request; which of the waiting ones is left open
  | requestStart {c : ρ} {waiting inFlight : List Str} {n : Str} (hp : s.phase c = .fetching waiting inFlight false)
      (hn : n ∈ waiting) (hpermits : 0 < s.permits) :
      FetchStep u s (({ s with permits := s.permits - 1 } : ClientState ρ).setPhase c
        (.fetching (waiting.erase n) (n :: inFlight) false) |>.happened (.requestStart c n))
  -- the request returns, raises or is cancelled
  | requestEnd {c : ρ} {waiting inFlight : List Str} {cancelled : Bool} {n : Str}
      (hp : s.phase c = .fetching waiting inFlight cancelled) (hn : n ∈ inFlight) :
      FetchStep u s (({ s with permits := s.permits + 1 } : ClientState ρ).setPhase c
        (.fetching waiting (inFlight.erase n) cancelled) |>.happened (.requestEnd c n))
  -- a child of `gather` is cancelled before its request starts
  | dropped {c : ρ} {waiting inFlight : List Str} {cancelled : Bool} {n : Str}
      (hp : s.phase c = .fetching waiting inFlight cancelled) (hn : n ∈ waiting) :
      FetchStep u s (s.setPhase c (.fetching (waiting.erase n) inFlight cancelled))
  -- a cancelled call cancels its children, and waits for them
  | cancel {c : ρ} {waiting inFlight : List Str} {cancelled : Bool} (hp : s.phase c = .fetching waiting inFlight cancelled) :
      FetchStep u s (s.setPhase c (.fetching waiting inFlight true))
  -- `gather` is over when all its children are; the payloads are returned, or the cancellation raised
  | gathered {c : ρ} {cancelled : Bool} (hp : s.phase c = .fetching [] [] cancelled) : FetchStep u s (s.gathered u c)
  -- the logout returns, raises or is cancelled
  | loggedOut {c : ρ} (hp : s.phase c = .loggingOut) : FetchStep u s ((s.leave c).happened (.logoutEnd c))

/-! ## 3. The calls take their sessions in turn

Each kind of step is one lemma; the induction over a run comes last. -/

/-- The phase of a call whose turn it is. -/
inductive Shows (c : ρ) : FetchPhase → Turn ρ Str → Prop
  | loggingIn : Shows c .loggingIn (.loggingIn c)
  | fetching (waiting inFlight : List Str) (cancelled : Bool) :
      Shows c (.fetching waiting inFlight cancelled) (.active c inFlight)
  | loggingOut : Shows c .loggingOut (.closing c)

/-- The state and the turn agree: the history led to the turn, it is the turn of the call that has
the lock, and nobody's when no call has it. -/
structure InTurn (s : ClientState ρ) (t : Turn ρ Str) : Prop where
  users : LockUsers (· = .queued) FetchPhase.Holding s.lock s.phase
  turns : Turns .free s.history t
  shows : ∀ c, (s.phase c).Holding → Shows c (s.phase c) t
  nobody : (∀ c, ¬ (s.phase c).Holding) → t = .free

theorem queued_not_holding {p : FetchPhase} (h : p.Holding) : p ≠ .queued := by
  rintro rfl
  exact h

omit [DecidableEq ρ] in
theorem Shows.holding {c : ρ} {p : FetchPhase} {t : Turn ρ Str} (h : Shows c p t) : p.Holding := by
  cases h <;> trivial

omit [DecidableEq ρ] in
/-- The turn of the call that has the lock. -/
theorem inTurn_of_holder {s : ClientState ρ} {t : Turn ρ Str} {c : ρ}
    (users : LockUsers (· = .queued) FetchPhase.Holding s.lock s.phase) (turns : Turns .free s.history t)
    (hc : (s.phase c).Holding) (hshows : Shows c (s.phase c) t) : InTurn s t where
  users := users
  turns := turns
  shows d hd := by
    obtain rfl := users.one c d hc hd
    exact hshows
  nobody h := absurd hc (h c)

omit [DecidableEq ρ] in
/-- Nobody's turn. -/
theorem inTurn_of_nobody {s : ClientState ρ} (users : LockUsers (· = .queued) FetchPhase.Holding s.lock s.phase)
    (turns : Turns .free s.history .free) (hl : s.lock.locked = false) : InTurn s .free where
  users := users
  turns := turns
  shows c hc := absurd hc (users.not_holding hl c)
  nobody _ := rfl

namespace InTurn

variable {u : ClientSetup ρ} {s s' : ClientState ρ} {t : Turn ρ Str} {c : ρ}

omit [DecidableEq ρ] in
theorem start (u : ClientSetup ρ) : InTurn (.initial u) (.free : Turn ρ Str) :=
  inTurn_of_nobody (LockUsers.start fun _ => ⟨(fun h => nomatch h), id⟩) .start rfl

omit [DecidableEq ρ] in
theorem shows_of (h : InTurn s t) {p : FetchPhase} (hp : s.phase c = p) (hc : p.Holding) : Shows c p t := by
  subst hp
  exact h.shows c hc

omit [DecidableEq ρ] in
/-- While the lock is not held it is nobody's turn. -/
theorem free (h : InTurn s t) (hl : s.lock.locked = false) : t = .free := h.nobody (h.users.not_holding hl)

/-- A call that does not have the lock moves. -/
theorem move (h : InTurn s t) {lock' : AsyncLock ρ} {p : FetchPhase} (hc : ¬ (s.phase c).Holding) (hp : ¬ p.Holding)
    (users : LockUsers (· = .queued) FetchPhase.Holding lock' (Function.update s.phase c p)) :
    InTurn { s.setPhase c p with lock := lock' } t where
  users := users
  turns := h.turns
  shows d hd := by
    have hne : d ≠ c := by
      rintro rfl
      exact hp (by simpa [ClientState.setPhase] using hd)
    simp only [ClientState.setPhase, Function.update_of_ne hne] at hd ⊢
    exact h.shows d hd
  nobody hnone := by
    refine h.nobody fun d hd => ?_
    by_cases hdc : d = c
    · exact hc (hdc ▸ hd)
    · exact hnone d (by simpa [ClientState.setPhase, Function.update_of_ne hdc] using hd)

/-- The call that has the lock goes on. -/
theorem goOn (h : InTurn s t) {p p' : FetchPhase} {history : List (Event ρ Str)} {t' : Turn ρ Str} (hp : s.phase c = p)
    (hc : p.Holding) (turns : Turns .free history t') (hshows : Shows c p' t') (permits : Nat) :
    InTurn { permits := permits, lock := s.lock, phase := Function.update s.phase c p', history := history } t' := by
  subst hp
  have users := h.users.goOn hc (queued_not_holding hc) hshows.holding (queued_not_holding hshows.holding)
  exact inTurn_of_holder (c := c) users turns (by simpa using hshows.holding) (by simpa using hshows)

/-- A call takes the lock and logs in. -/
theorem enter (h : InTurn s t) (hl : s.lock.locked = false) (hcred : hasCredentials u.config = true) {lock' : AsyncLock ρ}
    (users : LockUsers (· = .queued) FetchPhase.Holding lock' (Function.update s.phase c .loggingIn)) :
    InTurn (({ s with lock := lock' } : ClientState ρ).enter u c) (.loggingIn c) := by
  have hturns : Turns .free (s.history ++ [.loginAttempt c]) (.loggingIn c) :=
    .next (h.free hl ▸ h.turns) (.loginAttempt c)
  unfold ClientState.enter
  rw [if_pos hcred]
  refine inTurn_of_holder (c := c) users hturns ?_ ?_
  · simp [ClientState.happened, ClientState.setPhase, FetchPhase.Holding]
  · simpa [ClientState.happened, ClientState.setPhase] using Shows.loggingIn

/-- The call that has the lock ends. -/
theorem leave (h : InTurn s t) {p : FetchPhase} {e : Event ρ Str} (hp : s.phase c = p) (hc : p.Holding) (hnext : Next t e .free) :
    InTurn ((s.leave c).happened e) .free := by
  subst hp
  have users := h.users.release (p := .finished) hc (queued_not_holding hc) id (fun hq => nomatch hq)
  exact inTurn_of_nobody users (.next h.turns hnext) (AsyncLock.release_locked s.lock)

/-- **Every step of a client with credentials is in turn.** -/
theorem step (h : InTurn s t) (hcred : hasCredentials u.config = true) (hstep : FetchStep u s s') : ∃ t', InTurn s' t' := by
  cases hstep with
  | @acquire c hp hf =>
    refine ⟨_, h.enter hf.1 hcred ?_⟩
    exact h.users.hold hf (by simp [hp]) trivial (fun hq => nomatch hq)
  | @enqueue c hp hf =>
    refine ⟨t, h.move (by simp [hp, FetchPhase.Holding]) id ?_⟩
    exact h.users.enqueue (by simp [hp, FetchPhase.Holding]) (by simp [hp]) id rfl
  | @resume c hp hw =>
    refine ⟨_, h.enter (h.users.ordered.woken c hw).1 hcred ?_⟩
    exact h.users.grant hw trivial (fun hq => nomatch hq)
  | @cancelWaiter c hp hw => exact ⟨t, h.users.cancel c, h.turns, h.shows, h.nobody⟩
  | @giveUp c hp hw =>
    refine ⟨t, h.move (by simp [hp, FetchPhase.Holding]) id ?_⟩
    exact h.users.giveUp (by simp [hp, FetchPhase.Holding]) id (fun hq => nomatch hq)
  | @loggedIn c hp =>
    cases h.shows_of hp trivial
    exact ⟨_, h.goOn hp trivial (.next h.turns (.loggedIn c)) (.fetching _ [] false) s.permits⟩
  | @loginFailed c hp =>
    cases h.shows_of hp trivial
    exact ⟨_, h.leave hp trivial (.loginFailed c)⟩
  | @requestStart c waiting inFlight n hp hn hpermits =>
    cases h.shows_of hp trivial
    exact ⟨_, h.goOn hp trivial (.next h.turns (.requestStart c inFlight n)) (.fetching _ _ false) (s.permits - 1)⟩
  | @requestEnd c waiting inFlight cancelled n hp hn =>
    cases h.shows_of hp trivial
    exact ⟨_, h.goOn hp trivial (.next h.turns (.requestEnd c hn)) (.fetching _ _ cancelled) (s.permits + 1)⟩
  | @dropped c waiting inFlight cancelled n hp hn =>
    cases h.shows_of hp trivial
    exact ⟨_, h.goOn hp trivial h.turns (.fetching _ _ cancelled) s.permits⟩
  | @cancel c waiting inFlight cancelled hp =>
    cases h.shows_of hp trivial
    exact ⟨_, h.goOn hp trivial h.turns (.fetching _ _ true) s.permits⟩
  | @gathered c cancelled hp =>
    cases h.shows_of hp trivial
    unfold ClientState.gathered
    rw [if_pos hcred]
    exact ⟨_, h.goOn hp trivial (.next h.turns (.logoutAttempt c)) .loggingOut s.permits⟩
  | @loggedOut c hp =>
    cases h.shows_of hp trivial
    exact ⟨_, h.leave hp trivial (.logoutEnd c)⟩

end InTurn

/-- In every state that calls with credentials reach, sessions have been taken in turn. -/
theorem inTurn_of_reachable {u : ClientSetup ρ} (hcred : hasCredentials u.config = true) {s : ClientState ρ}
    (h : Relation.ReflTransGen (FetchStep u) (.initial u) s) : ∃ t, InTurn s t := by
  induction h with
  | refl => exact ⟨_, InTurn.start u⟩
  | tail _ hstep ih =>
    obtain ⟨t, ht⟩ := ih
    exact ht.step hcred hstep

/-! ## 4. Sessions neither overlap nor leak

What the turn of a state says about its history is the claim about sessions. -/

/-- A call that has ended has attempted one logout since its login, if it logged in. -/
def LoggedOut (s : ClientState ρ) : Prop :=
  ∀ a m c, s.history = a ++ .loggedIn c :: m → (∀ x ∈ m, x.isLogin = false) → s.phase c = .finished →
    m.filter Event.isLogout = [.logoutAttempt c]

omit [DecidableEq ρ] in
theorem InTurn.loggedOut {s : ClientState ρ} {t : Turn ρ Str} (h : InTurn s t) : LoggedOut s := by
  intro a m c hhistory hquiet hfinished
  have hturns := h.turns
  rw [hhistory] at hturns
  rcases (Turns.of_loggedIn hturns).logouts hquiet with ⟨⟨later, rfl⟩, -⟩ | ⟨-, hone⟩
  · -- the session is open, so its call has the lock and has not ended
    have hsome : ∃ d, (s.phase d).Holding := by
      by_contra hnone
      cases h.nobody (not_exists.mp hnone)
    obtain ⟨d, hd⟩ := hsome
    have hshows := h.shows d hd
    generalize hp : s.phase d = p at hshows
    cases hshows
    rw [hfinished] at hp
    cases hp
  · exact hone

/-- **However calls with credentials interleave, sessions neither overlap nor leak.**  In every
state reached the history obeys the law of sessions, and a call that has ended is logged out. -/
theorem sessions_neither_overlap_nor_leak {u : ClientSetup ρ} (hcred : hasCredentials u.config = true) {s : ClientState ρ}
    (h : Relation.ReflTransGen (FetchStep u) (.initial u) s) : SessionLaw s.history ∧ LoggedOut s := by
  obtain ⟨t, ht⟩ := inTurn_of_reachable hcred h
  exact ⟨ht.turns.sessionLaw, ht.loggedOut⟩

/-- A library with one endpoint. -/
def tapeLibrary : ClientSetup Bool where
  config := {
    name := "i6000_core"
    type := "i6000"
    protocol := "rest"
    enabled := true
    baseUrl := some "https://i6000.example"
    username := some "monitor"
    password := some "secret"
    endpoints := [("status", .str "aml/physicalLibrary/status")] }
  classOf _ := none

/-- A call is cancelled after its request started, while another one queues: it logs out. -/
theorem sessions_neither_overlap_nor_leak_cancelled :
    hasCredentials tapeLibrary.config = true ∧
      ∃ s, Relation.ReflTransGen (FetchStep tapeLibrary) (.initial tapeLibrary) s ∧
        s.history = [.loginAttempt true, .loggedIn true, .requestStart true "status", .requestEnd true "status",
          .logoutAttempt true, .logoutEnd true] ∧ SessionLaw s.history ∧ LoggedOut s := by
  have hcred : hasCredentials tapeLibrary.config = true := by decide
  have hrun : ∃ s, Relation.ReflTransGen (FetchStep tapeLibrary) (.initial tapeLibrary) s ∧
      s.history = [.loginAttempt true, .loggedIn true, .requestStart true "status", .requestEnd true "status",
        .logoutAttempt true, .logoutEnd true] := by
    refine ⟨_, .tail (.tail (.tail (.tail (.tail (.tail (.tail (.tail .refl
      (.acquire (c := true) rfl (by decide))) (.enqueue (c := false) rfl ?_)) (.loggedIn (c := true) rfl))
      (.requestStart (c := true) (n := "status") rfl ?_ ?_)) (.cancel (c := true) rfl))
      (.requestEnd (c := true) (n := "status") rfl ?_)) (.gathered (c := true) rfl)) (.loggedOut (c := true) rfl), rfl⟩
    all_goals decide
  obtain ⟨s, hreach, hhistory⟩ := hrun
  exact ⟨hcred, s, hreach, hhistory, sessions_neither_overlap_nor_leak hcred hreach⟩

end Steps

end BackupCollector.I6000
