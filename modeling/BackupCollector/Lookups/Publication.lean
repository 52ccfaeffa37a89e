/-
# What a published name rests on

A document publishes the names of an action when its verdict is verified: one candidate, and no
reason, blocking or pending.  Each gate is a reason that is not there, and the facts below are read
off the empty sets of reasons: the execution, its attestation, its records, and the hits that were
read.

The program's code is a list of `if … reasons.add(…)`, and this module is its contrapositive, gate
by gate.  `VerifiedBy` collects what a verified verdict was verified with; it is what a reader
would want a published name to rest on, and it does not mention reasons.

* A terminal action with its workflow, and no contradiction among the copies (`SoundExecution`).
* An attestation for this action whose window contains it, complete (`Attested`).
* Records that can be found again and were observed in time (`SoundRecord`).
* No hit of the source that went unread, or could not be attributed (section 5).

A verdict is about what the ledger holds.  What of the hits that were handed over is IN the ledger
is the concern of `PublishedNames`, which starts from here.  The run of section 6 is used by the
examples of several modules.
-/
import BackupCollector.Lookups.Growth

namespace BackupCollector

open Py

/-! ## 1. A verified verdict

Verified and published are the same, since there is always a name to publish. -/

theorem verified_iff {v : Verdict} :
    v.verification = lit "verified" ↔ v.blocked = ∅ ∧ v.pending = ∅ ∧ v.mapping = lit "resolved" := by
  unfold Verdict.verification
  rcases Finset.eq_empty_or_nonempty v.blocked with hb | hb
  · rw [if_neg (Finset.not_nonempty_iff_eq_empty.mpr hb)]
    rcases Finset.eq_empty_or_nonempty v.pending with hp | hp
    · rw [if_neg (Finset.not_nonempty_iff_eq_empty.mpr hp)]
      by_cases hm : v.mapping = lit "resolved"
      · simp [hb, hp, hm]
      · rw [if_neg hm]
        exact ⟨fun h => absurd h (by decide), fun h => absurd h.2.2 hm⟩
    · rw [if_pos hp]
      exact ⟨fun h => absurd h (by decide), fun h => absurd h.2.1 hp.ne_empty⟩
  · rw [if_pos hb]
    exact ⟨fun h => absurd h (by decide), fun h => absurd h.1 hb.ne_empty⟩

theorem candidates_of_resolved {v : Verdict} (h : v.mapping = lit "resolved") : ∃ c, v.candidates = {c} := by
  unfold Verdict.mapping at h
  split at h
  · exact absurd h (by decide)
  · rename_i hcard
    split at h
    · rename_i hne
      exact Finset.card_eq_one.mp (le_antisymm (not_lt.mp hcard) (Finset.card_pos.mpr hne))
    · split at h
      · exact absurd h (by decide)
      · exact absurd h (by decide)

/-- What publishes is verified, and publishes its only candidate. -/
theorem published_eq_some {v : Verdict} {names : Candidate} (h : v.published = some names) :
    v.mapping = lit "resolved" ∧ v.verification = lit "verified" ∧ v.candidates = {names} := by
  unfold Verdict.published at h
  split at h
  · rename_i hpub
    obtain ⟨c, hc⟩ := candidates_of_resolved hpub.1
    have hmem : names ∈ v.candidates := mem_sorted.mp (List.mem_of_head? h)
    rw [hc] at hmem
    exact ⟨hpub.1, hpub.2, by rw [hc, Finset.mem_singleton.mp hmem]⟩
  · cases h

/-! ## 2. The execution

The copies of the action and of its workflow, and the checks between them. -/

/-- The execution a document was verified with: a terminal action, its workflow, and no
contradiction among the copies of the action or with its workflow. -/
structure SoundExecution (jobs : JobTable) (key : ActionKey) (action : Job) : Prop where
  selected : (selectJob (jobs.copies key)).1 = some action
  terminal : action.isTerminal = true
  kind : action.kind = actionType
  dated : action.start.isSome = true ∧ action.finish.isSome = true ∧ action.observedAt.isSome = true
  workflow : ∃ root w, action.root = some root ∧ (selectJob (jobs.copies (action.source, root))).1 = some w ∧
    w.kind = lit "workflow job" ∧ (∃ t u, w.start = some t ∧ action.start = some u ∧ t ≤ u) ∧
    ∀ t, w.finish = some t → ∃ u, action.finish = some u ∧ u ≤ t
  copies : ∀ j ∈ jobs.copies key, j.start = action.start ∧ j.kind = action.kind ∧ j.parent = action.parent ∧
    j.root = action.root
  saves : saveChecks key action jobs = ∅

theorem ite_singleton_eq_empty {p : Prop} [Decidable p] {r : Str} (h : (if p then ({r} : Finset Str) else ∅) = ∅) :
    ¬ p := fun hp => Finset.singleton_ne_empty r ((if_pos hp).symm.trans h)

theorem agree_of_not_disagree {α : Type} [DecidableEq α] {f : Job → α} {jobs : List Job} (h : ¬ disagree f jobs = true)
    {a b : Job} (ha : a ∈ jobs) (hb : b ∈ jobs) : f a = f b := by
  by_contra hne
  exact h (disagree_iff.mpr ⟨a, ha, b, hb, hne⟩)

/-- Copies without a contradiction agree on what makes them one execution. -/
theorem copies_agree {jobs : List Job} (h : copyConflicts jobs = ∅) {a b : Job} (ha : a ∈ jobs) (hb : b ∈ jobs) :
    a.start = b.start ∧ a.kind = b.kind ∧ a.parent = b.parent ∧ a.root = b.root := by
  unfold copyConflicts at h
  obtain ⟨h, -⟩ := Finset.union_eq_empty.mp h
  obtain ⟨hreuse, hhierarchy⟩ := Finset.union_eq_empty.mp h
  have hreuse := ite_singleton_eq_empty hreuse
  rw [Bool.or_eq_true, not_or] at hreuse
  have hpair := Prod.mk.inj (agree_of_not_disagree (ite_singleton_eq_empty hhierarchy) ha hb)
  exact ⟨agree_of_not_disagree hreuse.1 ha hb, agree_of_not_disagree hreuse.2 ha hb, hpair.1, hpair.2⟩

/-- A selected copy whose times hold together is dated. -/
theorem dated_of_validTimes {j : Job} (h : invalidTimes j = false) :
    j.start.isSome = true ∧ j.observedAt.isSome = true ∧ (j.isTerminal = true → j.finish.isSome = true) := by
  unfold invalidTimes at h
  simp only [Bool.or_eq_false_iff, Bool.and_eq_false_iff] at h
  obtain ⟨⟨⟨⟨⟨⟨hstart, hobserved⟩, -⟩, -⟩, hfinish⟩, -⟩, -⟩ := h
  refine ⟨by simpa using hstart, by simpa using hobserved, fun hterminal => ?_⟩
  rcases hfinish with hfinish | hfinish
  · rw [hterminal] at hfinish
    cases hfinish
  · simpa using hfinish

theorem selectJob_clean {jobs : List Job} {j : Job} (h : (selectJob jobs).1 = some j) (hnone : (selectJob jobs).2 = ∅) :
    copyConflicts jobs = ∅ ∧ invalidTimes j = false := by
  rw [selectJob_some_snd h] at hnone
  obtain ⟨hconflicts, htimes⟩ := Finset.union_eq_empty.mp hnone
  exact ⟨hconflicts, Bool.eq_false_iff.mpr (ite_singleton_eq_empty htimes)⟩

theorem not_before {a b : Instant} (h : ¬ beforeInstant (some a) (some b) = true) : b ≤ a := by
  unfold beforeInstant at h
  exact Nat.le_of_not_lt fun hlt => h (decide_eq_true hlt)

/-- A workflow check that finds nothing has found the workflow around the action. -/
theorem workflow_of_clean {action : Job} {jobs : JobTable} (hblocked : (workflowCheck action jobs).1 = ∅)
    (hpending : (workflowCheck action jobs).2 = ∅) {start finish : Instant} (hstart : action.start = some start)
    (hfinish : action.finish = some finish) :
    ∃ root w, action.root = some root ∧ (selectJob (jobs.copies (action.source, root))).1 = some w ∧
      w.kind = lit "workflow job" ∧ (∃ t u, w.start = some t ∧ action.start = some u ∧ t ≤ u) ∧
      ∀ t, w.finish = some t → ∃ u, action.finish = some u ∧ u ≤ t := by
  unfold workflowCheck at hblocked hpending
  cases hroot : action.root with
  | none =>
    rw [hroot] at hpending
    exact absurd hpending (Finset.singleton_ne_empty _)
  | some root =>
    rw [hroot] at hblocked hpending
    dsimp only at hblocked hpending
    cases hx : selectJob (jobs.copies (action.source, root)) with
    | mk workflow conflicts =>
      rw [hx] at hblocked hpending
      cases workflow with
      | none => exact absurd hpending (Finset.singleton_ne_empty _)
      | some w =>
        have hsel : (selectJob (jobs.copies (action.source, root))).1 = some w := congrArg Prod.fst hx
        obtain ⟨hconflicts, hworkflow⟩ := Finset.union_eq_empty.mp hblocked
        have hclean := selectJob_clean hsel ((congrArg Prod.snd hx).trans hconflicts)
        obtain ⟨hwstart, -, -⟩ := dated_of_validTimes hclean.2
        obtain ⟨t, ht⟩ := Option.isSome_iff_exists.mp hwstart
        unfold workflowConflicts at hworkflow
        obtain ⟨hworkflow, hend⟩ := Finset.union_eq_empty.mp hworkflow
        obtain ⟨hkind, hbegin⟩ := Finset.union_eq_empty.mp hworkflow
        have hbegin := ite_singleton_eq_empty hbegin
        have hend := ite_singleton_eq_empty hend
        rw [hstart, ht] at hbegin
        refine ⟨root, w, rfl, hsel, not_not.mp (ite_singleton_eq_empty hkind), ⟨t, start, ht, hstart, not_before hbegin⟩,
          fun u hu => ⟨finish, hfinish, ?_⟩⟩
        rw [hu, hfinish] at hend
        exact not_before hend

/-- An execution check that finds nothing has found a sound execution. -/
theorem execution_of_clean {key : ActionKey} {jobs : JobTable} (hblocked : (executionCheck key jobs).2.1 = ∅)
    (hpending : (executionCheck key jobs).2.2 = ∅) :
    ∃ action, (executionCheck key jobs).1 = some action ∧ SoundExecution jobs key action := by
  cases hsel : (selectJob (jobs.copies key)).1 with
  | none =>
    rw [executionCheck_none hsel] at hpending
    exact absurd hpending (Finset.singleton_ne_empty _)
  | some action =>
    rw [executionCheck_some hsel] at hblocked hpending ⊢
    obtain ⟨hblocked, hsaves⟩ := Finset.union_eq_empty.mp hblocked
    obtain ⟨hblocked, hworkflow⟩ := Finset.union_eq_empty.mp hblocked
    obtain ⟨hreasons, hkind⟩ := Finset.union_eq_empty.mp hblocked
    obtain ⟨hterminal, hworkflow'⟩ := Finset.union_eq_empty.mp hpending
    obtain ⟨hconflicts, htimes⟩ := selectJob_clean hsel hreasons
    have hterminal : action.isTerminal = true := by
      by_contra hnot
      rw [if_neg hnot] at hterminal
      exact absurd hterminal (Finset.singleton_ne_empty _)
    obtain ⟨hstart, hobserved, hfinish⟩ := dated_of_validTimes htimes
    obtain ⟨start, hstart'⟩ := Option.isSome_iff_exists.mp hstart
    obtain ⟨finish, hfinish'⟩ := Option.isSome_iff_exists.mp (hfinish hterminal)
    exact ⟨action, rfl, {
      selected := hsel
      terminal := hterminal
      kind := not_not.mp (ite_singleton_eq_empty hkind)
      dated := ⟨hstart, hfinish hterminal, hobserved⟩
      workflow := workflow_of_clean hworkflow hworkflow' hstart' hfinish'
      copies := fun j hj => copies_agree hconflicts hj (selectJob_some hsel).2
      saves := hsaves }⟩

/-! ## 3. What is verified

What a verified verdict rests on, in one structure. -/

section Runs

variable [Unicode]

/-- The attestation an action was verified with: supplied for the key, complete, and with a window
that contains the action. -/
structure Attested (c : Coverage) (action : Job) : Prop where
  suffix : c.suffixReviewed = true
  whole : c.partialPoll = false
  gapless : c.queryWindowGap = false
  complete : c.jobsComplete = true ∧ c.backupsComplete = true
  proof : Str.strip c.proofReference ≠ []
  window : ∃ opened closed start finish, c.start = some opened ∧ c.finish = some closed ∧ action.start = some start ∧
    action.finish = some finish ∧ opened.utc ≤ start.us ∧ start ≤ finish ∧ (finish.us : Int) ≤ closed.utc

/-- A record an action was verified with: it was observed by the time of the synchronisation, its
raw document can be found again, and its two times lie within the action, in order. -/
structure SoundRecord (e : Evidence) (action : Job) (synced : Datetime) : Prop where
  observed : ∃ t, e.observedAt = some t ∧ (t.us : Int) ≤ synced.utc
  reference : hasRawReference e = true
  times : ∃ saved completed, apiTimestamp e.saveTime = some saved ∧ apiTimestamp e.completionTime = some completed ∧
    saved ≤ completed ∧ (∀ start, action.start = some start → start ≤ saved) ∧
    ∀ finish, action.finish = some finish → completed ≤ finish

omit [Unicode] in
theorem reasonIf_eq_empty {c : Bool} {r : Str} : reasonIf c r = ∅ ↔ c = false := by
  unfold reasonIf
  cases c <;> simp

theorem attested_of_complete {c : Coverage} {action : Job}
    (h : c.completeFor action.start action.finish = true) (hsuffix : c.suffixReviewed = true) : Attested c action := by
  unfold Coverage.completeFor at h
  cases hopened : c.start with
  | none => simp [hopened] at h
  | some opened =>
    cases hclosed : c.finish with
    | none => simp [hopened, hclosed] at h
    | some closed =>
      cases hstart : action.start with
      | none => simp [hopened, hclosed, hstart] at h
      | some start =>
        cases hfinish : action.finish with
        | none => simp [hopened, hclosed, hstart, hfinish] at h
        | some finish =>
          rw [hopened, hclosed, hstart, hfinish] at h
          simp only [Bool.and_eq_true, Bool.not_eq_true', decide_eq_true_eq, List.isEmpty_eq_false_iff] at h
          obtain ⟨⟨⟨⟨⟨⟨⟨hjobs, hbackups⟩, hincomplete⟩, hgap⟩, hproof⟩, hbegin⟩, horder⟩, hend⟩ := h
          exact ⟨hsuffix, hincomplete, hgap, ⟨hjobs, hbackups⟩, hproof,
            ⟨opened, closed, start, finish, hopened, hclosed, hstart, hfinish, hbegin, horder, hend⟩⟩

omit [Unicode] in
theorem notAfter_of_false {synced : Datetime} {t : Instant} (h : observedAfter synced (some t) = false) :
    (t.us : Int) ≤ synced.utc := by
  unfold observedAfter at h
  exact not_lt.mp (of_decide_eq_false h)

theorem soundRecord_of {e : Evidence} {action : Job} {synced : Datetime} (hdated : e.observedAt.isSome = true)
    (hreference : hasRawReference e = true) (hconfirmed : timeUnconfirmed e = false)
    (hsynced : observedAfter synced e.observedAt = false)
    (htime : timeConflict action.start action.finish e = false) : SoundRecord e action synced := by
  obtain ⟨t, ht⟩ := Option.isSome_iff_exists.mp hdated
  unfold timeConflict at htime
  rw [hconfirmed] at htime
  unfold timeUnconfirmed at hconfirmed
  rw [Bool.or_eq_false_iff] at hconfirmed
  cases hsaved : apiTimestamp e.saveTime with
  | none =>
    rw [hsaved] at hconfirmed
    exact absurd hconfirmed.1 (by decide)
  | some saved =>
    cases hcompleted : apiTimestamp e.completionTime with
    | none =>
      rw [hcompleted] at hconfirmed
      exact absurd hconfirmed.2 (by decide)
    | some completed =>
      rw [hsaved, hcompleted] at htime
      simp only [Bool.not_false, Bool.true_and, Bool.or_eq_false_iff] at htime
      obtain ⟨⟨horder, hbegin⟩, hend⟩ := htime
      refine ⟨⟨t, ht, notAfter_of_false (ht ▸ hsynced)⟩, hreference,
        ⟨saved, completed, hsaved, hcompleted, not_before (by simp [horder]), fun start hstart => ?_, fun finish hfinish => ?_⟩⟩
      · rw [hstart] at hbegin
        exact not_before (by simp [hbegin])
      · rw [hfinish] at hend
        exact not_before (by simp [hend])

/-- What a verified verdict was verified with: its execution, its attestation, its records, and no
mark against its source or against all of them. -/
structure VerifiedBy (b : Builder) (key : ActionKey) (synced : Datetime) (action : Job) (c : Coverage) : Prop where
  execution : SoundExecution b.jobs key action
  attested : Attested c action
  records : b.records key ≠ [] ∧ ∀ e ∈ b.records key, SoundRecord e action synced
  observed : ∀ t, action.observedAt = some t → (t.us : Int) ≤ synced.utc
  unblocked : b.blockedOf key = ∅
  attributed : b.unknownSourceErrors = false
  complete : key.1 ∉ b.incompleteSources

theorem verifiedBy {b : Builder} {key : ActionKey} {synced : Datetime} {coverage : Option Coverage}
    (h : (b.verdict key synced coverage).verification = lit "verified") :
    ∃ action c, (b.verdict key synced coverage).action = some action ∧ coverage = some c ∧
      VerifiedBy b key synced action c := by
  obtain ⟨hblocked, hpending, -⟩ := verified_iff.mp h
  unfold Builder.verdict at hblocked hpending ⊢
  have hclean := @execution_of_clean key b.jobs
  cases hx : executionCheck key b.jobs with
  | mk action rest =>
    obtain ⟨blocked, pending⟩ := rest
    rw [hx] at hblocked hpending hclean
    dsimp only at hblocked hpending hclean ⊢
    obtain ⟨hblocked, htimes⟩ := Finset.union_eq_empty.mp hblocked
    obtain ⟨hblocked, hledger⟩ := Finset.union_eq_empty.mp hblocked
    obtain ⟨hpending, hreasons⟩ := Finset.union_eq_empty.mp hpending
    obtain ⟨a, rfl, hexecution⟩ := hclean hblocked hpending
    unfold Builder.pendingReasons at hreasons
    simp only [Finset.union_eq_empty, reasonIf_eq_empty, Option.bind_some, Bool.or_eq_false_iff] at hreasons htimes
    obtain ⟨⟨⟨⟨⟨⟨⟨⟨⟨hunknown, hincomplete, -⟩, -⟩, hdated⟩, hreference⟩, hsuffix⟩, hconfirmed⟩, hrecords, haction⟩,
      hcomplete⟩, hnone⟩ := hreasons
    cases coverage with
    | none => simp at hcomplete
    | some c =>
      simp only [Option.any_some, Bool.not_eq_false'] at hcomplete hsuffix
      rw [List.any_eq_false] at hdated hreference hconfirmed hrecords htimes
      refine ⟨a, c, rfl, rfl, {
        execution := hexecution
        attested := attested_of_complete hcomplete hsuffix
        records := ⟨by simpa using hnone, fun e he => ?_⟩
        observed := fun t ht => notAfter_of_false (ht ▸ haction)
        unblocked := hledger
        attributed := hunknown
        complete := by simpa using hincomplete }⟩
      refine soundRecord_of (by simpa [Option.isSome_iff_ne_none] using hdated e he) (by simpa using hreference e he)
        (by simpa using hconfirmed e he) (by simpa using hrecords e he) (by simpa using htimes e he)

end Runs

/-! ## 4. The marks a hit must leave

A hit that could not be used leaves a mark, and a verified verdict has none; so there was no such
hit. -/

section Hits

variable [Unicode] [Hashlib]

theorem unattributed_mem_marks {hit : Json} (h : rawSource hit = none) : .unattributed ∈ (rawMarks hit).items := by
  obtain ⟨i, hx, hsource, -⟩ := extractRaw_unattributed h
  rw [rawMarks_items hx]
  refine List.mem_append_left _ (List.mem_append_right _ (List.mem_flatMap.mpr ⟨i, List.mem_singleton_self i, ?_⟩))
  unfold Issue.marks
  rw [hsource]
  exact List.mem_singleton_self _

theorem incomplete_mem_marks {hit : Json} {x : Extraction} (hx : extractRaw hit = .ok x) :
    .incomplete x.incompleteSources ∈ (rawMarks hit).items := by
  rw [rawMarks_items hx]
  exact List.mem_append_left _ (List.mem_append_left _ (List.mem_append_right _ (List.mem_singleton_self _)))

theorem blocked_mem_marks {hit : Json} {x : Extraction} (hx : extractRaw hit = .ok x) {i : Issue} (hi : i ∈ x.issues)
    {source : Source} (hsource : i.source = some source) {actionId : Str} (haction : i.actionId = some actionId) :
    .blocked (source, actionId) "invalid_backup_evidence" ∈ (rawMarks hit).items := by
  rw [rawMarks_items hx]
  refine List.mem_append_left _ (List.mem_append_right _ (List.mem_flatMap.mpr ⟨i, hi, ?_⟩))
  unfold Issue.marks
  rw [hsource, haction]
  exact List.mem_singleton_self _

omit [Hashlib] in
theorem copy_mem_marks {hit : Json} {j : Job} (h : readJob hit = .ok j) : .copy j ∈ (jobMarks hit).items := by
  unfold jobMarks
  rw [h]
  exact List.mem_cons_self

omit [Hashlib] in
theorem unread_mem_marks {hit : Json} {e : Err} (h : readJob hit = .error e) :
    .unattributed ∈ (jobMarks hit).items := by
  unfold jobMarks
  rw [h]
  exact List.mem_cons_of_mem _ List.mem_cons_self

omit [Unicode] [Hashlib] in
/-- A RAW hit whose `collection_status` is a list or an object: asking whether it is one of the
two bad ones raises a `TypeError`, before the hit has left a mark. -/
def UnhashableStatus (hit : Json) : Prop :=
  ∃ document reference payload, unwrap hit = .ok (document, reference) ∧
    Obj.get document "payload" = .obj payload ∧ Obj.get document "ok" ≠ .bool false ∧
    (Obj.get payload "collection_status").hashable = false

omit [Unicode] [Hashlib] in
theorem UnhashableStatus.not_whole {hit : Json} (h : UnhashableStatus hit) : ¬ WholeHit hit := by
  obtain ⟨document, reference, payload, hu, hp, hok, hstatus⟩ := h
  rintro ⟨document', reference', payload', response, hu', hp', hincomplete, -⟩
  obtain ⟨rfl, rfl⟩ := Prod.mk.inj (Except.ok.inj (hu.symm.trans hu'))
  obtain rfl := Json.obj.inj (hp.symm.trans hp')
  unfold isPartialCollection at hincomplete
  rw [if_neg hok] at hincomplete
  dsimp only at hincomplete
  rw [hstatus] at hincomplete
  cases hincomplete

omit [Hashlib] in
/-- An attributed hit raises in the extraction for no other reason. -/
theorem extractRaw_isOk {hit : Json} {source : Source} (h : rawSource hit = some source) (hok : ¬ UnhashableStatus hit) :
    ∃ x, extractRaw hit = .ok x := by
  obtain ⟨document, reference, hu, hs⟩ := rawSource_eq_some h
  by_cases hp : ∃ payload, Obj.get document "payload" = .obj payload
  · obtain ⟨payload, hp⟩ := hp
    have hfound : ∃ found, isPartialCollection document payload = .ok found := by
      unfold isPartialCollection
      split
      · exact ⟨_, rfl⟩
      · rename_i hnot
        cases hhash : (Obj.get payload "collection_status").hashable with
        | true =>
          dsimp only
          rw [hhash]
          exact ⟨_, rfl⟩
        | false => exact absurd ⟨document, reference, payload, hu, hp, hnot, hhash⟩ hok
    obtain ⟨found, hfound⟩ := hfound
    rw [extractRaw_payload hu hs hp, hfound]
    exact ⟨_, rfl⟩
  · obtain ⟨heq, -⟩ := extractRaw_noPayload hu hs fun payload h => hp ⟨payload, h⟩
    exact ⟨_, heq⟩

end Hits

/-! ## 5. Published names

From marks to hits.  A copy in the ledger need not be of the hit that was fed last, but it is equal
to what that hit brought. -/

section Documents

variable [Unicode] [Hashlib]

omit [Unicode] [Hashlib] in
/-- A document publishes a name. -/
def Publishes (d : Obj) : Prop :=
  ∃ field ∈ [lit "policy_name", lit "workflow_name", lit "protection_group"], ∃ name,
    Dict.get? d field = some name ∧ name ≠ .null

omit [Unicode] in
theorem Verdict.Shown.published {v : Verdict} {key : ActionKey} {limit : Nat} {d : Obj} (h : v.Shown key limit d)
    (hpub : Publishes d) : ∃ names, v.published = some names := by
  refine Option.ne_none_iff_exists'.mp fun hnone => ?_
  obtain ⟨hpolicy, hworkflow, hgroup⟩ := h.unpublished hnone
  obtain ⟨field, hfield, name, hname, hne⟩ := hpub
  simp only [List.mem_cons, List.not_mem_nil, or_false] at hfield
  rcases hfield with rfl | rfl | rfl
  · exact hne (Option.some.inj (hname.symm.trans hpolicy))
  · exact hne (Option.some.inj (hname.symm.trans hworkflow))
  · exact hne (Option.some.inj (hname.symm.trans hgroup))

omit [Hashlib] in
/-- The attestation of a key was supplied, for the key. -/
theorem mem_of_attestationOf {coverage : List Coverage} {key : ActionKey} {c : Coverage}
    (h : Builder.attestationOf coverage key = some c) : c ∈ coverage ∧ c.key = key := by
  unfold Builder.attestationOf at h
  exact ⟨List.mem_of_find?_eq_some h, by simpa using List.find?_some h⟩

/-- Without the mark of an unattributed input, every hit was attributed and every job read. -/
theorem attributed_of_run {calls : List LookupCall} (h : (Builder.run {} calls).unknownSourceErrors = false) :
    (∀ hit, .raw hit ∈ fedHits calls → (rawSource hit).isSome = true) ∧
      ∀ hit, .job hit ∈ fedHits calls → (readJob hit).isOk = true := by
  have hnot : .unattributed ∉ hitMarks (fedHits calls) := by
    intro hm
    have htrue := (Builder.unknownSourceErrors_marks _).mpr hm
    rw [← run_eq, h] at htrue
    cases htrue
  constructor
  · intro hit hhit
    cases hs : rawSource hit with
    | some s => rfl
    | none => exact absurd (mem_hitMarks.mpr ⟨_, hhit, unattributed_mem_marks hs⟩) hnot
  · intro hit hhit
    cases hj : readJob hit with
    | ok j => rfl
    | error e => exact absurd (mem_hitMarks.mpr ⟨_, hhit, unread_mem_marks hj⟩) hnot

/-- In a source that is not incomplete, every RAW hit that was extracted is whole. -/
theorem whole_of_run {calls : List LookupCall} {source : Source}
    (h : source ∉ (Builder.run {} calls).incompleteSources) {hit : Json} (hhit : .raw hit ∈ fedHits calls)
    (hs : rawSource hit = some source) {x : Extraction} (hx : extractRaw hit = .ok x) : WholeHit hit := by
  refine (extractRaw_attributed hs hx).whole fun hin => h ?_
  rw [run_eq]
  exact (Builder.mem_incompleteSources_marks _ _).mpr
    ⟨_, mem_hitMarks.mpr ⟨_, hhit, incomplete_mem_marks hx⟩, hin⟩

/-- A copy that was fed stands in the ledger, its hit aside. -/
theorem copy_of_run {calls : List LookupCall} {hit : Json} {j : Job} (hhit : .job hit ∈ fedHits calls)
    (hj : readJob hit = .ok j) : ∃ j' ∈ (Builder.run {} calls).jobs.copies j.key, j'.core = j.core := by
  rw [run_eq]
  exact (Builder.mem_copies_core _ _ _).mpr ⟨j, mem_hitMarks.mpr ⟨_, hhit, copy_mem_marks hj⟩, rfl, rfl⟩

end Documents

/-! ## 6. One published action -/

section OneAction

attribute [local instance] Unicode.ascii Hashlib.hashlib

/-- A successful job of the source `core`, on the first of January 2026. -/
def jobHit (id kind root start finish : Str) : Json := .obj [
  ("_index", .str "nw-ops-job-runs-2026-01"),
  ("_id", .str id),
  ("_source", .obj [
    ("source_networker", .str "core"),
    ("document_type", .str "job-run"),
    ("observed_at", .str "2026-01-01T03:30:00+00:00"),
    ("payload", .obj [
      ("job_id", .str id),
      ("type", .str kind),
      ("status_normalized", .str "success"),
      ("root_parent_job_id", .str root),
      ("start_time", .str (lit "2026-01-01T" ++ start ++ lit ":00+00:00")),
      ("end_time", .str (lit "2026-01-01T" ++ finish ++ lit ":00+00:00"))])])]

/-- The action 7 and its workflow 5. -/
def goldJobs : List Json :=
  [jobHit "7" "backup action job" "5" "00:30" "02:30", jobHit "5" "workflow job" "5" "00:00" "03:00"]

/-- The attestation of the action 7. -/
def goldCoverage : Coverage where
  source := "core"
  actionId := .str "7"
  start := some (hourOf 0 (by decide))
  finish := some (hourOf 3 (by decide))
  jobsComplete := true
  backupsComplete := true
  suffixReviewed := true
  proofReference := "ticket-1"
  key := (⟨"core", core_known⟩, "7")
  source_valid := by decide +kernel
  id_valid := by decide +kernel
  start_aware d hd := by
    obtain rfl := Option.mem_some.mp hd
    rfl
  finish_aware d hd := by
    obtain rfl := Option.mem_some.mp hd
    rfl

def goldCalls : List LookupCall := [.addRaw [goldRaw], .addJobs goldJobs]

/-- The document of the action 7 that a run built. -/
def goldDocument (calls : List LookupCall) : Except Err (Dict Str Obj) :=
  (Builder.run {} calls).build (hourOf 4 (by decide)) [goldCoverage] "g" 20

def namesGold (d : Obj) : Bool := decide (Dict.get? d (lit "policy_name") = some (.str "Gold"))

theorem publishes_of_namesGold {d : Obj} (h : namesGold d = true) : Publishes d :=
  ⟨lit "policy_name", List.mem_cons_self, _, of_decide_eq_true h, by decide⟩

/-- A RAW document whose `collection_status` is a list. -/
def listStatusRaw : Json := .obj [("_source", .obj [
  ("source_networker", .str "core"),
  ("payload", .obj [("collection_status", .arr [.str "partial"]), ("raw", .obj [("backups", .arr [])])])])]

/-- A RAW document of the source `chnl` with a list for a `collection_status`. -/
def chnlListStatusRaw : Json := .obj [("_source", .obj [
  ("source_networker", .str "chnl"),
  ("payload", .obj [("collection_status", .arr [.str "partial"]), ("raw", .obj [("backups", .arr [])])])])]

end OneAction

end BackupCollector
