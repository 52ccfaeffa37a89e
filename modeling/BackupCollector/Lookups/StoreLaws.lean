/-
# The laws of the lookup store

What holds over any sequence of commits, whoever makes them and with whatever documents.  A commit
is atomic, and what is stored under a key only moves forward: its candidate count never falls and
its start never changes.

Two guards of the store do less than their names say, and the laws are stated with what they really
do.

* The terminal status of an execution is guarded, but against ONE value only: a document that is
  not blocked replaces `success` by any status other than `running`.  `terminal_stays_iff` says
  when a run keeps every terminal status, which is exactly when no successful call carries a status
  over one that the guard does not look at.
* A blocked document never replaces an execution, not even its own with news of it: the stored
  fields stay, and the incoming ones are filed as conflicting (`blocked_execution_frozen`).  So an
  execution that ends while its action is blocked stays running in the store.

All laws come from `commit_cases` and two principles for runs: a property of single documents that
accepted ones have holds of the whole store, and a preorder that accepted documents respect relates
what is stored to whatever is stored later.

The store is that of one process; two writers are told apart by the version, and the one with the
old version raises.
-/
import BackupCollector.Lookups.Commit

namespace BackupCollector

open Py

/-! ## 1. Fields of a stored document

What a field of a stored document says of the document that came. -/

/-- The stored document of a key, when a field of it is set. -/
theorem storedDocument_of_field {documents : Dict Str Obj} {key name : Str} {old : Obj} {v : Json}
    (h : Dict.get? documents key = some old) (hv : Dict.get? old name = some v) :
    storedDocument documents key = some old := by
  have hne : old.isEmpty = false := by
    cases old with
    | nil => cases hv
    | cons p d => rfl
  unfold storedDocument
  rw [h]
  simp [hne]

theorem get?_of_storedDocument {documents : Dict Str Obj} {key : Str} {old : Obj}
    (h : storedDocument documents key = some old) : Dict.get? documents key = some old := by
  unfold storedDocument at h
  exact (Option.eq_some_of_filter_eq_some h)

/-- A field that is neither the audit list nor part of the execution is stored as it came. -/
theorem StoredAs.get? {old : Option Obj} {incoming new : Obj} (h : StoredAs old incoming new) {name : Str}
    (hname : name ∉ lit "candidate_evidence" :: executionFields) :
    Dict.get? new name = Dict.get? incoming name := by
  cases h with
  | asGiven hsame _ => rw [hsame]
  | frozen previous _ _ hfrozen => exact hfrozen.rest name hname

section Laws

variable [Unicode]

/-! ## 2. Over a run

The two principles. -/

theorem InMemoryLookupStore.run_append (s : InMemoryLookupStore) (xs ys : List Commit) :
    s.run (xs ++ ys) = (s.run xs).run ys := List.foldl_append

theorem InMemoryLookupStore.run_concat (s : InMemoryLookupStore) (xs : List Commit) (c : Commit) :
    s.run (xs ++ [c]) = ((s.run xs).commit c).1 := by
  rw [InMemoryLookupStore.run_append]
  rfl

/-- What stands under a key after a call: what stood there, or an accepted document. -/
theorem commit_get? (s : InMemoryLookupStore) (c : Commit) (key : Str) :
    Dict.get? (s.commit c).1.documents key = Dict.get? s.documents key ∨
    ∃ incoming new, (s.commit c).2.isOk = true ∧ Dict.get? c.batch.entries key = some incoming ∧
      Dict.get? (s.commit c).1.documents key = some new ∧ Accepted s.documents key incoming new := by
  rcases commit_cases s c with ⟨e, he⟩ | ⟨documents, -, hreplacement, hcommit⟩
  · rw [he]
    exact Or.inl rfl
  · rw [hcommit]
    have hread := Batch.replacement_eq_ok hreplacement key
    cases hget : Dict.get? c.batch.entries key with
    | none =>
      rw [hget] at hread
      exact Or.inl hread
    | some incoming =>
      rw [hget] at hread
      obtain ⟨new, hnew, haccepted⟩ := hread
      exact Or.inr ⟨incoming, new, rfl, rfl, hnew, haccepted⟩

/-- A property of single documents that every accepted one has holds of the whole store. -/
theorem run_documents {P : Str → Obj → Prop}
    (hstep : ∀ (documents : Dict Str Obj) (c : Commit) key incoming new,
      Dict.get? c.batch.entries key = some incoming → Accepted documents key incoming new → P key new)
    (calls : List Commit) (key : Str) (d : Obj)
    (h : Dict.get? (InMemoryLookupStore.run {} calls).documents key = some d) : P key d := by
  induction calls using List.reverseRecOn generalizing d with
  | nil => cases h
  | append_singleton calls c ih =>
    rw [InMemoryLookupStore.run_concat] at h
    rcases commit_get? (InMemoryLookupStore.run {} calls) c key with hsame | ⟨incoming, new, -, hin, hnew, haccepted⟩
    · exact ih d (hsame ▸ h)
    · rw [hnew] at h
      obtain rfl := Option.some.inj h
      exact hstep _ c key incoming new hin haccepted

/-- A preorder on documents that every accepted document respects relates what is stored under
a key to whatever is stored there later. -/
theorem run_monotone {R : Obj → Obj → Prop} (hrefl : ∀ d, R d d) (htrans : ∀ a b c, R a b → R b c → R a c)
    (hstep : ∀ (documents : Dict Str Obj) (c : Commit) key old incoming new,
      Dict.get? documents key = some old → Dict.get? c.batch.entries key = some incoming →
      Accepted documents key incoming new → R old new)
    (s : InMemoryLookupStore) (later : List Commit) (key : Str) (old : Obj)
    (h : Dict.get? s.documents key = some old) :
    ∃ new, Dict.get? (s.run later).documents key = some new ∧ R old new := by
  induction later using List.reverseRecOn with
  | nil => exact ⟨old, h, hrefl old⟩
  | append_singleton later c ih =>
    obtain ⟨mid, hmid, hold⟩ := ih
    rw [InMemoryLookupStore.run_concat]
    rcases commit_get? (s.run later) c key with hsame | ⟨incoming, new, -, hin, hnew, haccepted⟩
    · exact ⟨mid, hsame.trans hmid, hold⟩
    · exact ⟨new, hnew, htrans old mid new hold (hstep _ c key mid incoming new hmid hin haccepted)⟩

/-! ## 3. What a commit guarantees

Soundness of single documents, and progress of what stands under a key. -/

/-- A call that raises changes nothing; one that succeeds installs its batch and checkpoint under
the next version, and only against the current one. -/
structure CommitAtomic (s : InMemoryLookupStore) (c : Commit) : Prop where
  raises : ∀ e, (s.commit c).2 = .error e → (s.commit c).1 = s
  succeeds : ∀ v, (s.commit c).2 = .ok v →
    v = s.version + 1 ∧ (s.commit c).1.version = s.version + 1 ∧
    (s.commit c).1.checkpoint = some c.checkpoint ∧
    (∀ key ∈ Dict.keys c.batch.entries, (Dict.get? (s.commit c).1.documents key).isSome = true) ∧
    ∀ key ∉ Dict.keys c.batch.entries, Dict.get? (s.commit c).1.documents key = Dict.get? s.documents key
  stale : c.expectedVersion ≠ s.version → (s.commit c).2.isOk = false

theorem commit_atomic (s : InMemoryLookupStore) (c : Commit) : CommitAtomic s c := by
  rcases commit_cases s c with ⟨e, he⟩ | ⟨documents, hversion, hreplacement, hcommit⟩
  · refine ⟨fun _ _ => by rw [he], fun v hv => ?_, fun _ => by rw [he]; rfl⟩
    rw [he] at hv
    cases hv
  · refine ⟨fun e he => ?_, fun v hv => ?_, fun hstale => absurd hversion hstale⟩
    · rw [hcommit] at he
      cases he
    · rw [hcommit] at hv ⊢
      refine ⟨(Except.ok.inj hv).symm, rfl, rfl, fun key hkey => ?_, fun key hkey => ?_⟩
      · have hread := Batch.replacement_eq_ok hreplacement key
        obtain ⟨incoming, hin⟩ := Option.isSome_iff_exists.mp (Dict.get?_isSome_iff.mpr hkey)
        rw [hin] at hread
        obtain ⟨new, hnew, -⟩ := hread
        exact Option.isSome_iff_exists.mpr ⟨new, hnew⟩
      · have hread := Batch.replacement_eq_ok hreplacement key
        have hnone : Dict.get? c.batch.entries key = none :=
          Option.not_isSome_iff_eq_none.mp fun hsome => hkey (Dict.get?_isSome_iff.mp hsome)
        rw [hnone] at hread
        exact hread

/-- A stored document stands under its own key, and has public names only when it is resolved
and verified with one candidate. -/
structure SoundDocument (key : Str) (d : Obj) : Prop where
  identity : IdentityOf key d
  names : (∃ name ∈ publicNames, ∃ v, Dict.get? d name = some v ∧ v ≠ .null) →
    Dict.get? d "mapping_status" = some (.str "resolved") ∧
    Dict.get? d "verification_status" = some (.str "verified") ∧
    Dict.get? d "candidate_count" = some (.int 1) ∧
    ∀ name ∈ publicNames, ∃ s : Str, s ≠ [] ∧ Dict.get? d name = some (.str s)

omit [Unicode] in
/-- The count of a document of a batch is the integer it compares as. -/
theorem Batch.candidateCount_eq {batch : Batch} {key : Str} {d : Obj} (h : Dict.get? batch.entries key = some d)
    {n : Int} (hn : candidateCount d = .ok n) : Dict.get? d "candidate_count" = some (.int n) := by
  unfold candidateCount at hn
  obtain ⟨v, hv, hn⟩ := bind_eq_ok.mp hn
  obtain ⟨m, rfl⟩ := batch.count_int _ (Dict.mem_of_get? h) v (field_eq_ok.mp hv)
  rw [← Except.ok.inj hn]
  exact field_eq_ok.mp hv

omit [Unicode] in
theorem candidateCount_of_int {d : Obj} {n : Int} (h : Dict.get? d "candidate_count" = some (.int n)) :
    candidateCount d = .ok n := by
  unfold candidateCount
  rw [field_eq_ok.mpr h]
  rfl

theorem Accepted.sound {documents : Dict Str Obj} {c : Commit} {key : Str} {incoming new : Obj}
    (hin : Dict.get? c.batch.entries key = some incoming) (h : Accepted documents key incoming new) :
    SoundDocument key new := by
  have hget : ∀ {name : Str}, name ∉ lit "candidate_evidence" :: executionFields →
      Dict.get? new name = Dict.get? incoming name := fun hname => h.stored.get? hname
  obtain ⟨hrun, source, jobId, s, id, hsource, hs, hjob, hid, hkey⟩ := h.identity
  refine ⟨⟨?_, source, jobId, s, id, ?_, hs, ?_, hid, hkey⟩, ?_⟩
  · rw [hget (by decide), hrun]
  · rw [hget (by decide), hsource]
  · rw [hget (by decide), hjob]
  · rintro ⟨name, hname, v, hv, hne⟩
    have hpublic : ∀ n ∈ publicNames, Dict.get? new n = Dict.get? incoming n := fun n hn =>
      hget (by
        revert n
        decide)
    rw [hpublic name hname] at hv
    obtain ⟨hmapping, hverification, ⟨count, hcount, hone⟩, hnames⟩ := h.names ⟨name, hname, v, hv, hne⟩
    obtain ⟨n, rfl⟩ := c.batch.count_int _ (Dict.mem_of_get? hin) count hcount
    obtain rfl : n = 1 := Json.pyEq_int.mp hone
    refine ⟨?_, ?_, ?_, fun n hn => ?_⟩
    · rw [hget (by decide), hmapping]
    · rw [hget (by decide), hverification]
    · rw [hget (by decide), hcount]
    · rw [hpublic n hn]
      exact hnames n hn

/-- Whatever is stored after a run is sound. -/
theorem run_sound (calls : List Commit) (key : Str) (d : Obj)
    (h : Dict.get? (InMemoryLookupStore.run {} calls).documents key = some d) : SoundDocument key d :=
  run_documents (fun _ _ _ _ _ hin h => h.sound hin) calls key d h

/-- What only moves forward under a key: the candidate count, and a start once it is set. -/
structure Grows (old new : Obj) : Prop where
  count : ∀ n : Int, Dict.get? old "candidate_count" = some (.int n) →
    ∃ m : Int, n ≤ m ∧ Dict.get? new "candidate_count" = some (.int m)
  start : ∀ v, Dict.get? old "action_start_time" = some v → v.truthy = true →
    ∃ w, Dict.get? new "action_start_time" = some w ∧ (w = v ∨ Json.pyEq w v = true)

omit [Unicode] in
theorem Grows.refl (d : Obj) : Grows d d :=
  ⟨fun n h => ⟨n, le_refl n, h⟩, fun v h _ => ⟨v, h, Or.inl rfl⟩⟩

omit [Unicode] in
theorem Grows.trans {a b c : Obj} (hab : Grows a b) (hbc : Grows b c) : Grows a c := by
  refine ⟨fun n hn => ?_, fun v hv htruthy => ?_⟩
  · obtain ⟨m, hnm, hm⟩ := hab.count n hn
    obtain ⟨k, hmk, hk⟩ := hbc.count m hm
    exact ⟨k, hnm.trans hmk, hk⟩
  · obtain ⟨w, hw, hwv⟩ := hab.start v hv htruthy
    have hw' : w.truthy = true := by
      rcases hwv with rfl | hwv
      · exact htruthy
      · rw [Json.truthy_of_pyEq hwv, htruthy]
    obtain ⟨u, hu, huw⟩ := hbc.start w hw hw'
    refine ⟨u, hu, ?_⟩
    rcases hwv with rfl | hwv
    · exact huw
    · rcases huw with rfl | huw
      · exact Or.inr hwv
      · exact Or.inr (Json.pyEq_trans huw hwv)

theorem Accepted.grows {documents : Dict Str Obj} {c : Commit} {key : Str} {old incoming new : Obj}
    (hold : Dict.get? documents key = some old) (hin : Dict.get? c.batch.entries key = some incoming)
    (h : Accepted documents key incoming new) : Grows old new := by
  refine ⟨fun n hn => ?_, fun v hv htruthy => ?_⟩
  · obtain ⟨n', m, hn', hm, hle⟩ := (h.continues old (storedDocument_of_field hold hn)).count
    rw [candidateCount_of_int hn] at hn'
    obtain rfl := Except.ok.inj hn'
    refine ⟨m, hle, ?_⟩
    rw [h.stored.get? (by decide)]
    exact Batch.candidateCount_eq hin hm
  · have hstored := storedDocument_of_field hold hv
    have hstart := (h.continues old hstored).start v hv htruthy
    cases h.stored with
    | asGiven hsame hopen =>
      rcases hopen with hnone | hopen
      · rw [hnone] at hstored
        cases hstored
      · obtain ⟨w, hw, hwv⟩ := hstart.resolve_left hopen
        rw [hsame]
        exact ⟨w, hw, Or.inr hwv⟩
    | frozen previous hprevious _ hfrozen =>
      obtain rfl : old = previous := Option.some.inj (hstored.symm.trans hprevious)
      exact ⟨v, (hfrozen.kept "action_start_time" (by decide)).trans hv, Or.inl rfl⟩

/-- **After any sequence of calls**, the next one is atomic, every stored document is sound, and
whatever comes later only moves it forward.  Nothing is assumed of the calls.  Forward means the
candidate count and the start; the status is the subject of the next section. -/
theorem commit_store_invariant (calls : List Commit) :
    (∀ c, CommitAtomic (InMemoryLookupStore.run {} calls) c) ∧
    (∀ key d, Dict.get? (InMemoryLookupStore.run {} calls).documents key = some d → SoundDocument key d) ∧
    ∀ later key old, Dict.get? (InMemoryLookupStore.run {} calls).documents key = some old →
      ∃ new, Dict.get? (InMemoryLookupStore.run {} (calls ++ later)).documents key = some new ∧ Grows old new := by
  refine ⟨commit_atomic _, run_sound calls, fun later key old hold => ?_⟩
  rw [InMemoryLookupStore.run_append]
  exact run_monotone Grows.refl (fun _ _ _ => Grows.trans) (fun _ _ _ _ _ _ hold hin h => h.grows hold hin)
    _ later key old hold

/-! ## 4. The status of an execution

The guard over the status, and what it lets through. -/

/-- The stored execution has ended. -/
def Terminal (d : Obj) : Prop := ∃ v ∈ storedTerminal.map Json.str, Dict.get? d "action_status" = some v

/-- A call carries no status over a terminal one that the guard does not look at: every document
for such a key is blocked, or its status is terminal or `running`. -/
def CarriesGuardedStatus (documents : Dict Str Obj) (c : Commit) : Prop :=
  ∀ key old incoming, Dict.get? documents key = some old → Terminal old →
    Dict.get? c.batch.entries key = some incoming →
    Blocked incoming ∨ ∀ v, Dict.get? incoming "action_status" = some v →
      v ∈ storedTerminal.map Json.str ∨ v = .str "running"

omit [Unicode] in
theorem Terminal.stored {documents : Dict Str Obj} {key : Str} {old : Obj} (h : Terminal old)
    (hold : Dict.get? documents key = some old) : storedDocument documents key = some old := by
  obtain ⟨v, -, hv⟩ := h
  exact storedDocument_of_field hold hv

/-- An accepted document leaves a terminal status terminal exactly when it is blocked or brings a
terminal one itself. -/
theorem Accepted.terminal_iff {documents : Dict Str Obj} {key : Str} {old incoming new : Obj}
    (hold : Dict.get? documents key = some old) (hterminal : Terminal old)
    (h : Accepted documents key incoming new) : Terminal new ↔ Blocked incoming ∨ Terminal incoming := by
  have hstored := hterminal.stored hold
  cases h.stored with
  | asGiven hsame hopen =>
    have hopen' : ¬ Blocked incoming := hopen.resolve_left fun hnone => by
      rw [hnone] at hstored
      cases hstored
    rw [hsame, or_iff_right hopen']
  | frozen previous hprevious hblocked hfrozen =>
    obtain rfl : old = previous := Option.some.inj (hstored.symm.trans hprevious)
    refine ⟨fun _ => Or.inl hblocked, fun _ => ?_⟩
    unfold Terminal
    rw [hfrozen.kept "action_status" (by decide)]
    exact hterminal

/-- A document that is accepted over a terminal one and not blocked has a status, and it is not
`running`. -/
theorem Accepted.status_guarded {documents : Dict Str Obj} {key : Str} {old incoming new : Obj}
    (hold : Dict.get? documents key = some old) (hterminal : Terminal old)
    (h : Accepted documents key incoming new) :
    (Blocked incoming ∨ Terminal incoming) ↔
      (Blocked incoming ∨ ∀ v, Dict.get? incoming "action_status" = some v →
        v ∈ storedTerminal.map Json.str ∨ v = .str "running") := by
  obtain ⟨v, hv, hstatus⟩ := id hterminal
  constructor
  · rintro (hblocked | ⟨w, hw, hget⟩)
    · exact Or.inl hblocked
    · refine Or.inr fun u hu => Or.inl ?_
      obtain rfl : w = u := Option.some.inj (hget.symm.trans hu)
      exact hw
  · rintro (hblocked | hall)
    · exact Or.inl hblocked
    · rcases (h.continues old (hterminal.stored hold)).status v hv hstatus with hblocked | ⟨w, hw, hne⟩
      · exact Or.inl hblocked
      · exact Or.inr ⟨w, (hall w hw).resolve_right hne, hw⟩

/-- **In a run, every terminal status stays terminal exactly when no successful call carries an
unguarded status over one.**  A call that raises carries nothing, and a blocked document does not
count, since it leaves the status as it is. -/
theorem terminal_stays_iff (calls : List Commit) :
    (∀ pre c post, calls = pre ++ c :: post → ((InMemoryLookupStore.run {} pre).commit c).2.isOk = true →
      CarriesGuardedStatus (InMemoryLookupStore.run {} pre).documents c) ↔
    ∀ pre mid post key old, calls = pre ++ mid ++ post →
      Dict.get? (InMemoryLookupStore.run {} pre).documents key = some old → Terminal old →
      ∃ new, Dict.get? (InMemoryLookupStore.run {} (pre ++ mid)).documents key = some new ∧ Terminal new := by
  constructor
  · intro hguarded pre mid post key old hcalls hold hterminal
    induction mid using List.reverseRecOn generalizing post with
    | nil =>
      rw [List.append_nil]
      exact ⟨old, hold, hterminal⟩
    | append_singleton mid c ih =>
      obtain ⟨d, hd, hdterminal⟩ := ih (c :: post) (by simp [hcalls])
      rw [← List.append_assoc, InMemoryLookupStore.run_concat]
      rcases commit_get? (InMemoryLookupStore.run {} (pre ++ mid)) c key with
        hsame | ⟨incoming, new, hok, hin, hnew, haccepted⟩
      · exact ⟨d, hsame.trans hd, hdterminal⟩
      · refine ⟨new, hnew, ?_⟩
        rw [haccepted.terminal_iff hd hdterminal, haccepted.status_guarded hd hdterminal]
        exact hguarded (pre ++ mid) c post (by simp [hcalls]) hok key d incoming hd hdterminal hin
  · intro hstays pre c post hcalls hok key old incoming hold hterminal hin
    obtain ⟨new, hnew, hnewTerminal⟩ := hstays pre [c] post key old (by simp [hcalls]) hold hterminal
    rw [InMemoryLookupStore.run_concat] at hnew
    obtain ⟨documents, -, hreplacement, hcommit⟩ :=
      (commit_cases (InMemoryLookupStore.run {} pre) c).resolve_left fun ⟨e, he⟩ => by
        rw [he] at hok
        cases hok
    rw [hcommit] at hnew
    have hread := Batch.replacement_eq_ok hreplacement key
    rw [hin] at hread
    obtain ⟨new', hnew', haccepted⟩ := hread
    obtain rfl : new' = new := Option.some.inj (hnew'.symm.trans hnew)
    exact (haccepted.status_guarded hold hterminal).mp ((haccepted.terminal_iff hold hterminal).mp hnewTerminal)

/-! ## 5. Blocked documents

A blocked document over a stored one. -/

/-- **A blocked document freezes the execution.**  A successful call stores a document that is not
blocked as it came.  A blocked one over a stored one leaves the stored execution as it was, its own
execution or another's, and files the incoming one.  Where nothing is stored yet, a blocked
document is stored as it came. -/
theorem blocked_execution_frozen (calls : List Commit) (c : Commit)
    (hok : ((InMemoryLookupStore.run {} calls).commit c).2.isOk = true) (key : Str) (old incoming : Obj)
    (hold : Dict.get? (InMemoryLookupStore.run {} calls).documents key = some old)
    (hin : Dict.get? c.batch.entries key = some incoming) :
    ∃ new, Dict.get? (InMemoryLookupStore.run {} (calls ++ [c])).documents key = some new ∧
      (¬ Blocked incoming → new = incoming) ∧
      (Blocked incoming → Frozen old incoming new) := by
  have hrunKey := (run_sound calls key old hold).identity.runKey
  have hstored := storedDocument_of_field hold hrunKey
  rw [InMemoryLookupStore.run_concat]
  obtain ⟨documents, -, hreplacement, hcommit⟩ :=
    (commit_cases (InMemoryLookupStore.run {} calls) c).resolve_left fun ⟨e, he⟩ => by
      rw [he] at hok
      cases hok
  rw [hcommit]
  have hread := Batch.replacement_eq_ok hreplacement key
  rw [hin] at hread
  obtain ⟨new, hnew, haccepted⟩ := hread
  refine ⟨new, hnew, ?_⟩
  cases haccepted.stored with
  | asGiven hsame hopen =>
    have hopen' : ¬ Blocked incoming := hopen.resolve_left fun hnone => by
      rw [hnone] at hstored
      cases hstored
    exact ⟨fun _ => hsame, fun hblocked => absurd hblocked hopen'⟩
  | frozen previous hprevious hblocked hfrozen =>
    obtain rfl : old = previous := Option.some.inj (hstored.symm.trans hprevious)
    exact ⟨fun hopen => absurd hblocked hopen, fun _ => hfrozen⟩

end Laws

/-! ## 6. One key

Two calls for one action, which the laws of the last two sections are about. -/

section OneKey

attribute [local instance] Unicode.ascii

/-- A batch of one document. -/
def Batch.single (key : Str) (document : Obj) (n : Int)
    (h : Dict.get? document "candidate_count" = some (.int n)) : Batch where
  entries := [(key, document)]
  nodup := List.nodup_singleton key
  count_int := by
    intro p hp v hv
    obtain rfl := List.mem_singleton.mp hp
    exact ⟨n, Option.some.inj (hv.symm.trans h)⟩

/-- A document of the action 7 of the source `core` that names no policy. -/
def actionDocument (status verification : Str) (finish : Json) : Obj := [
  ("action_run_key", .str "core:7"),
  ("source_networker", .str "core"),
  ("action_job_id", .str "7"),
  ("action_job_type", .str "backup action job"),
  ("action_status", .str status),
  ("action_workflow_run_key", .null),
  ("policy_name", .null),
  ("workflow_name", .null),
  ("protection_group", .null),
  ("mapping_status", .str "unresolved"),
  ("verification_status", .str verification),
  ("candidate_count", .int 0),
  ("candidate_fingerprint", .str "4f53cda18c2baa0c0354bb5f9a3ecbe5"),
  ("action_start_time", .str "2026-01-01T00:00:00+00:00"),
  ("action_end_time", finish),
  ("candidate_evidence", .obj [("items", .arr []), ("truncated", .bool false), ("coverage_proof", .str "")])]

/-- A call that commits one document of the action. -/
def actionCommit (version : Int) (status verification : Str) (finish : Json) : Commit where
  batch := Batch.single "core:7" (actionDocument status verification finish) 0 rfl
  expectedVersion := version
  checkpoint := ⟨"cursor", "generation"⟩

/-- A stored field of the action. -/
def storedField (s : InMemoryLookupStore) (name : Str) : Option Json :=
  (Dict.get? s.documents "core:7").bind fun d => Dict.get? d name

def noon : Json := .str "2026-01-01T12:00:00+00:00"

/-- `unknown` replaces `success`. -/
theorem unknown_replaces_success :
    let ended := InMemoryLookupStore.run {} [actionCommit 0 "success" "provisional" noon]
    let after := ended.commit (actionCommit 1 "unknown" "provisional" noon)
    storedField ended "action_status" = some (.str "success") ∧ after.2.isOk = true ∧
      storedField after.1 "action_status" = some (.str "unknown") := by
  decide +kernel

/-- A blocked document of the same execution, now ended, leaves the stored one running. -/
theorem blocked_end_not_stored :
    let running := InMemoryLookupStore.run {} [actionCommit 0 "running" "provisional" .null]
    let after := running.commit (actionCommit 1 "success" "blocked" noon)
    storedField running "action_start_time" = some (.str "2026-01-01T00:00:00+00:00") ∧
      Dict.get? (actionDocument "success" "blocked" noon) "action_start_time" =
        some (.str "2026-01-01T00:00:00+00:00") ∧
      Dict.get? (actionDocument "success" "blocked" noon) "action_status" = some (.str "success") ∧
      after.2.isOk = true ∧ storedField after.1 "action_status" = some (.str "running") := by
  decide +kernel

/-- The two calls just made. -/
theorem blocked_execution_frozen_action :
    ∃ new, Dict.get? (InMemoryLookupStore.run {}
        ([actionCommit 0 "running" "provisional" .null] ++ [actionCommit 1 "success" "blocked" noon])).documents "core:7" =
          some new ∧
      (¬ Blocked (actionDocument "success" "blocked" noon) → new = actionDocument "success" "blocked" noon) ∧
      (Blocked (actionDocument "success" "blocked" noon) →
        Frozen (actionDocument "running" "provisional" .null) (actionDocument "success" "blocked" noon) new) :=
  blocked_execution_frozen [actionCommit 0 "running" "provisional" .null] (actionCommit 1 "success" "blocked" noon)
    (by decide +kernel) "core:7" _ _ (by decide +kernel) (by decide +kernel)

end OneKey

end BackupCollector
