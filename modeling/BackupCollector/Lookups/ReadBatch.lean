/-
# Reading a batch

`ElasticsearchReadAdapter.scan` opens a point in time and asks for page after page, each search
carrying the sort of the last hit of the page before, until a page is empty.  A batch is returned
only when every page came back whole and the last one empty, within the page budget; the point in
time is closed once, under the last id the transport announced.

The transport is a parameter: what it answers may depend on all the searches it has got, and it may
answer anything, or raise, at any of them.  So the main statement is about an adversary.  WHATEVER
it answers, a batch that is returned is a complete read of what it answered, and every other read
raises (`read_batch_complete_or_raises`).  There is no third outcome, in particular no short batch.

Against an honest transport more can be said.  `Snapshot` is a transport that serves a list of hits
in the order of distinct sort keys; from it the batch is that list, if the page budget reaches one
page past it, and the read raises otherwise.  That the keys are distinct is needed: a cursor points
behind a key, and hits of the same key would be skipped.

The proof follows the loop with the log of the searches and their answers as its only state.
Section 3 says what a scan did from any state on, with the raising runs included; the rest is read
off.  That the last page is asked for although it is empty is why five hits in pages of two take
four pages.
-/
import BackupCollector.Lookups.Commit
import BackupCollector.Py.Gen

namespace BackupCollector

open Py

/-! ## 1. The adapter

The pieces of `scan`, each with what it raises. -/

/-- The arguments of a search. -/
structure SearchRequest where
  pitId : Json
  query : Json
  size : Nat
  searchAfter : Option (List Json)
  keepAlive : Str := "1m"
  sort : List Str := ["_shard_doc"]
  trackTotalHits : Bool := false
  allowPartialSearchResults : Bool := false

/-- `ReadTransport`: `search` is given all the searches so far and answers the last one. -/
structure ReadTransport where
  openPointInTime : List Json → Except Err Json
  search : List SearchRequest → Except Err Json
  closePointInTime : Json → Except Err Unit

/-- `ElasticsearchReadAdapter`, with its read bounds. -/
structure ElasticsearchReadAdapter where
  transport : ReadTransport
  pageSize : Nat := 100
  maxPages : Nat := 1000
  pageSize_pos : 1 ≤ pageSize := by decide
  pageSize_le : pageSize ≤ 1000 := by decide
  maxPages_pos : 1 ≤ maxPages := by decide

/-- `IncompleteRead(msg)` -/
def incompleteRead (msg : Str) : Err := ⟨.runtimeError, msg⟩

def attributeError : Err := ⟨.attributeError, "object has no attribute 'get'"⟩

/-- The index names of `scan`, without their month. -/
def indexStems : List Str :=
  ["nw-ops-raw-core", "nw-ops-raw-chnl", "nw-ops-raw-info", "nw-core-job-run", "nw-chnl-job-run", "nw-info-job-run",
    "nw-unmapped-job-run"]

/-- `-[0-9]{4}-(?:0[1-9]|1[0-2])` -/
def isIndexMonth : Str → Bool
  | [dash, a, b, c, d, dash', m, n] =>
    decide ([dash] = lit "-") && [a, b, c, d].all isAsciiDigit && decide ([dash'] = lit "-") &&
      (decide ([m] = lit "0") && isAsciiDigit n && decide ([n] ≠ lit "0") ||
        decide ([m] = lit "1") && [lit "0", lit "1", lit "2"].contains [n])
  | _ => false

/-- `re.fullmatch(pattern, i)` for a text `i`. -/
def isMonthlyIndex : Json → Bool
  | .str i => indexStems.any fun stem => stem.isPrefixOf i && isIndexMonth (i.drop stem.length)
  | _ => false

/-- `d.get("_shards", {}).get("failed", 0)`, as a condition. -/
def shardsFailed (d : Obj) : Except Err Bool :=
  match Dict.get? d "_shards" with
  | none => .ok false
  | some (.obj shards) => .ok (Obj.get shards "failed").truthy
  | some _ => .error attributeError

/-- The hits of a response that is neither partial nor timed out. -/
def pageHits (response : Obj) : Except Err (List Json) := do
  if (Obj.get response "timed_out").truthy then .error (incompleteRead "partial_or_timed_out_search")
  else if ← shardsFailed response then .error (incompleteRead "partial_or_timed_out_search")
  else if (Obj.get response "terminated_early").truthy then .error (incompleteRead "partial_or_timed_out_search")
  else match ← subscript (← field response "hits") "hits" with
    | .arr hits => return hits
    | _ => .error (incompleteRead "malformed_hits")

/-- The sort of a hit, when it is a list. -/
def sortOf : Json → Option (List Json)
  | .obj hit =>
    match Obj.get hit "sort" with
    | .arr sort => some sort
    | _ => none
  | _ => none

/-- `hits[-1].get("sort")`, when it is a list. -/
def cursorOf (hits : List Json) : Option (List Json) := hits.getLast?.bind sortOf

/-- The cursor of the next search. -/
def pageCursor (hits : List Json) (after : Option (List Json)) : Except Err (List Json) :=
  match hits.getLast? with
  | some (.obj _) =>
    match cursorOf hits with
    | some sort =>
      if sort.isEmpty || after.any (fun a => Json.pyEq (.arr sort) (.arr a)) then
        .error (incompleteRead "missing_or_repeated_page_cursor")
      else .ok sort
    | none => .error (incompleteRead "missing_or_repeated_page_cursor")
  | _ => .error attributeError

/-- A hit is yielded when its source is a dictionary. -/
def yieldHit (hit : Json) : Gen Json :=
  match hit with
  | .obj h =>
    match Obj.get h "_source" with
    | .obj _ => .yield hit
    | _ => .raise (incompleteRead "source_unavailable")
  | _ => .raise attributeError

/-- Where a scan stands: the id of the point in time, the cursor, and what was asked and answered. -/
structure ScanState where
  pitId : Json
  after : Option (List Json) := none
  exchanges : List (SearchRequest × Except Err Json) := []

namespace ElasticsearchReadAdapter

variable (a : ElasticsearchReadAdapter)

/-- The next search of a scan. -/
def request (query : Json) (st : ScanState) : SearchRequest where
  pitId := st.pitId
  query := query
  size := a.pageSize
  searchAfter := st.after

/-- The pages of `scan`, within the budget that is left. -/
def scanPages (query : Json) : Nat → ScanState → Gen Json × ScanState
  | 0, st => (.raise (incompleteRead "page_budget_exhausted"), st)
  | budget + 1, st =>
    let request := a.request query st
    let response := a.transport.search (st.exchanges.map Prod.fst ++ [request])
    let asked : ScanState := { st with exchanges := st.exchanges ++ [(request, response)] }
    match response with
    | .error e => (.raise e, asked)
    | .ok (.obj r) =>
      let answered : ScanState := { asked with pitId := (Dict.get? r "pit_id").getD st.pitId }
      match pageHits r with
      | .error e => (.raise e, answered)
      | .ok [] => (.empty, answered)
      | .ok (hit :: hits) =>
        match pageCursor (hit :: hits) st.after with
        | .error e => (.raise e, answered)
        | .ok next =>
          let page := Gen.each yieldHit (hit :: hits)
          match page.err with
          | some e => (⟨page.items, some e⟩, answered)
          | none =>
            let (rest, final) := scanPages query budget { answered with after := some next }
            (⟨page.items ++ rest.items, rest.err⟩, final)
    | .ok _ => (.raise attributeError, asked)

/-- What a read did with its transport: the searches with their answers, and the ids it closed. -/
structure ReadLog where
  exchanges : List (SearchRequest × Except Err Json) := []
  closed : List Json := []

/-- The part of `scan` in its `try`. -/
def scanOpened (query : Json) (opened : Obj) (pitId : Json) : Gen Json × ScanState :=
  match shardsFailed opened with
  | .error e => (.raise e, { pitId := pitId })
  | .ok true => (.raise (incompleteRead "partial_pit_open"), { pitId := pitId })
  | .ok false => a.scanPages query a.maxPages { pitId := pitId }

/-- `read_batch`: the hits, or the exception that ends the scan or the closing of it. -/
def readBatch (indices : List Json) (query : Json) : Except Err (List Json) × ReadLog :=
  if indices.isEmpty || !indices.all isMonthlyIndex then
    (.error (valueError "explicit_monthly_raw_or_job_run_indices_required"), {})
  else
    match a.transport.openPointInTime indices with
    | .error e => (.error e, {})
    | .ok (.obj opened) =>
      match Dict.get? opened "id" with
      | none => (.error ⟨.keyError, "id"⟩, {})
      | some pitId =>
        let (scanned, st) := a.scanOpened query opened pitId
        (match a.transport.closePointInTime st.pitId, scanned.err with
          | .error e, _ => .error e
          | .ok _, some e => .error e
          | .ok _, none => .ok scanned.items, { exchanges := st.exchanges, closed := [st.pitId] })
    | .ok _ => (.error ⟨.typeError, "indices must be integers or not subscriptable"⟩, {})

end ElasticsearchReadAdapter

/-! ## 2. A complete read

What a page is, what a read that is complete is, and what the readers of a response accept. -/

/-- The answer is a page with these hits: not timed out, not terminated early, no failed shards. -/
def PageOf (answer : Except Err Json) (hits : List Json) : Prop :=
  ∃ r, answer = .ok (.obj r) ∧ (Obj.get r "timed_out").truthy = false ∧ shardsFailed r = .ok false ∧
    (Obj.get r "terminated_early").truthy = false ∧
    ∃ h, Dict.get? r "hits" = some (.obj h) ∧ Dict.get? h "hits" = some (.arr hits)

/-- The hit is a dictionary with a dictionary under `_source`. -/
def HasSource (hit : Json) : Prop :=
  ∃ h source, hit = .obj h ∧ Obj.get h "_source" = .obj source

/-- The exchanges that follow a cursor are these pages, none of them empty, and then an empty one. -/
structure CompleteRead (after : Option (List Json)) (exchanges : List (SearchRequest × Except Err Json))
    (pages : List (List Json)) : Prop where
  answers : List.Forall₂ (fun x hits => PageOf x.2 hits) exchanges (pages ++ [[]])
  nonempty : ∀ page ∈ pages, page ≠ []
  cursors : exchanges.map (fun x => x.1.searchAfter) = after :: pages.map cursorOf
  sources : ∀ page ∈ pages, ∀ hit ∈ page, HasSource hit

/-- The last id of the point in time that was announced. -/
def announced (pitId : Json) (exchanges : List (SearchRequest × Except Err Json)) : Json :=
  exchanges.foldl (fun id x =>
    match x.2 with
    | .ok (.obj r) => (Dict.get? r "pit_id").getD id
    | _ => id) pitId

/-- Every answer is the transport's answer to the searches up to it. -/
def Answered (t : ReadTransport) (exchanges : List (SearchRequest × Except Err Json)) : Prop :=
  ∀ sent x later, exchanges = sent ++ x :: later → x.2 = t.search (sent.map Prod.fst ++ [x.1])

theorem subscript_field_eq_ok {d : Obj} {name inner : Str} {v : Json} :
    (field d name >>= fun outer => subscript outer inner) = .ok v ↔
      ∃ h, Dict.get? d name = some (.obj h) ∧ Dict.get? h inner = some v := by
  constructor
  · intro h
    obtain ⟨outer, houter, h⟩ := bind_eq_ok.mp h
    cases outer with
    | obj o => exact ⟨o, field_eq_ok.mp houter, field_eq_ok.mp h⟩
    | _ => cases h
  · rintro ⟨o, ho, hv⟩
    exact bind_eq_ok.mpr ⟨.obj o, field_eq_ok.mpr ho, field_eq_ok.mpr hv⟩

/-- The hits of a response are read exactly when it is a page. -/
theorem pageHits_eq_ok {r : Obj} {hits : List Json} : pageHits r = .ok hits ↔ PageOf (.ok (.obj r)) hits := by
  unfold pageHits
  constructor
  · intro h
    split at h
    · cases h
    · rename_i htimed
      obtain ⟨failed, hfailed, h⟩ := bind_eq_ok.mp h
      cases failed with
      | true => cases h
      | false =>
        rw [if_neg Bool.false_ne_true] at h
        split at h
        · cases h
        · rename_i hterminated
          obtain ⟨outer, houter, h⟩ := bind_eq_ok.mp h
          obtain ⟨inner, hinner, h⟩ := bind_eq_ok.mp h
          cases inner with
          | arr xs =>
            obtain rfl := Except.ok.inj h
            exact ⟨r, rfl, Bool.eq_false_iff.mpr htimed, hfailed, Bool.eq_false_iff.mpr hterminated,
              subscript_field_eq_ok.mp (bind_eq_ok.mpr ⟨outer, houter, hinner⟩)⟩
          | _ => cases h
  · rintro ⟨r', hr, htimed, hfailed, hterminated, hhits⟩
    cases hr
    obtain ⟨outer, houter, hinner⟩ := bind_eq_ok.mp (subscript_field_eq_ok.mpr hhits)
    rw [htimed, hfailed, hterminated, houter]
    dsimp only [bind, Except.bind]
    rw [hinner]
    rfl

/-- The sources of a page are all dictionaries when its hits are yielded. -/
theorem yieldHit_err {hit : Json} : (yieldHit hit).err = none ↔ HasSource hit := by
  unfold yieldHit HasSource
  constructor
  · intro h
    split at h
    · split at h
      · rename_i source hsource
        exact ⟨_, source, rfl, hsource⟩
      · cases h
    · cases h
  · rintro ⟨h, source, rfl, hsource⟩
    dsimp only
    rw [hsource]
    rfl

theorem yieldHit_items {hit : Json} (h : HasSource hit) : (yieldHit hit).items = [hit] := by
  obtain ⟨h, source, rfl, hsource⟩ := h
  unfold yieldHit
  dsimp only
  rw [hsource]
  rfl

/-- A page whose sources are dictionaries is yielded as it is. -/
theorem each_yieldHit {hits : List Json} (h : ∀ hit ∈ hits, HasSource hit) : Gen.each yieldHit hits = ⟨hits, none⟩ := by
  rw [Gen.each_of_ok (fun hit hhit => yieldHit_err.mpr (h hit hhit))]
  congr 1
  rw [List.flatMap_congr (fun hit hhit => yieldHit_items (h hit hhit))]
  exact List.flatMap_singleton' hits

/-- The cursor of a page is the sort of its last hit, and moves on. -/
theorem pageCursor_eq_ok {hits : List Json} {after : Option (List Json)} {next : List Json}
    (h : pageCursor hits after = .ok next) : cursorOf hits = some next := by
  unfold pageCursor at h
  split at h
  · split at h
    · rename_i sort hsort
      split at h
      · cases h
      · rw [hsort, Except.ok.inj h]
    · cases h
  · cases h

/-! ## 3. What a scan does

An invariant of the loop, from any point of it to its end. -/

/-- What a scan did from a state on: its exchanges, the id it ends with, and the pages of a scan
that does not raise. -/
structure ScannedFrom (t : ReadTransport) (budget : Nat) (st : ScanState) (scanned : Gen Json) (final : ScanState) : Prop where
  made : ∃ new, final.exchanges = st.exchanges ++ new ∧ new.length ≤ budget ∧ final.pitId = announced st.pitId new ∧
    (scanned.err = none → ∃ pages, CompleteRead st.after new pages ∧ scanned.items = pages.flatten)
  answered : Answered t st.exchanges → Answered t final.exchanges

/-- One more exchange, answered by the transport. -/
theorem Answered.snoc {t : ReadTransport} {exchanges : List (SearchRequest × Except Err Json)} (h : Answered t exchanges)
    {request : SearchRequest} {answer : Except Err Json} (hx : answer = t.search (exchanges.map Prod.fst ++ [request])) :
    Answered t (exchanges ++ [(request, answer)]) := by
  intro sent x later heq
  rcases List.eq_nil_or_concat later with rfl | ⟨later, y, rfl⟩
  · obtain ⟨rfl, hsame⟩ := List.append_inj' heq rfl
    cases hsame
    exact hx
  · refine h sent x later ?_
    rw [List.concat_eq_append, ← List.cons_append, ← List.append_assoc] at heq
    exact (List.append_inj' heq rfl).1

/-- A scan that raises at its next exchange. -/
theorem ScannedFrom.stopped {t : ReadTransport} {budget : Nat} {st final : ScanState} {scanned : Gen Json}
    {request : SearchRequest} {answer : Except Err Json} (hx : answer = t.search (st.exchanges.map Prod.fst ++ [request]))
    (hexchanges : final.exchanges = st.exchanges ++ [(request, answer)])
    (hpit : final.pitId = announced st.pitId [(request, answer)])
    (hpages : scanned.err = none → ∃ pages, CompleteRead st.after [(request, answer)] pages ∧ scanned.items = pages.flatten) :
    ScannedFrom t (budget + 1) st scanned final where
  made := ⟨_, hexchanges, Nat.succ_le_succ (Nat.zero_le _), hpit, hpages⟩
  answered h := by
    rw [hexchanges]
    exact h.snoc hx

/-- A page before a complete read from its cursor. -/
theorem CompleteRead.cons {after : Option (List Json)} {x : SearchRequest × Except Err Json} {hit : Json} {hits next : List Json}
    {exchanges : List (SearchRequest × Except Err Json)} {pages : List (List Json)}
    (h : CompleteRead (some next) exchanges pages) (hpage : PageOf x.2 (hit :: hits)) (hcursor : cursorOf (hit :: hits) = some next)
    (hsources : ∀ y ∈ hit :: hits, HasSource y) (hafter : x.1.searchAfter = after) :
    CompleteRead after (x :: exchanges) ((hit :: hits) :: pages) where
  answers := List.Forall₂.cons hpage h.answers
  nonempty page hmem := by
    rcases List.mem_cons.mp hmem with rfl | hmem
    · exact List.cons_ne_nil hit hits
    · exact h.nonempty page hmem
  cursors := by
    rw [List.map_cons, h.cursors, List.map_cons, hcursor, hafter]
  sources page hmem := by
    rcases List.mem_cons.mp hmem with rfl | hmem
    · exact hsources
    · exact h.sources page hmem

namespace ElasticsearchReadAdapter

variable (a : ElasticsearchReadAdapter)

theorem scanPages_spec (query : Json) : ∀ (budget : Nat) (st : ScanState),
    ScannedFrom a.transport budget st (a.scanPages query budget st).1 (a.scanPages query budget st).2 := by
  intro budget
  induction budget with
  | zero =>
    intro st
    exact ⟨⟨[], (List.append_nil _).symm, le_refl 0, rfl, fun h => nomatch h⟩, fun h => h⟩
  | succ budget ih =>
    intro st
    unfold scanPages
    dsimp only
    cases hanswer : a.transport.search (st.exchanges.map Prod.fst ++ [a.request query st]) with
    | error e => exact .stopped hanswer.symm rfl rfl (fun h => nomatch h)
    | ok response =>
      cases response with
      | obj r =>
        dsimp only
        cases hhits : pageHits r with
        | error e => exact .stopped hanswer.symm rfl rfl (fun h => nomatch h)
        | ok hits =>
          have hpage := pageHits_eq_ok.mp hhits
          cases hits with
          | nil =>
            refine .stopped hanswer.symm rfl rfl (fun _ => ⟨[], ⟨?_, ?_, rfl, ?_⟩, rfl⟩)
            · exact List.Forall₂.cons hpage List.Forall₂.nil
            · intro page hmem
              cases hmem
            · intro page hmem
              cases hmem
          | cons hit hits =>
            dsimp only
            cases hcursor : pageCursor (hit :: hits) st.after with
            | error e => exact .stopped hanswer.symm rfl rfl (fun h => nomatch h)
            | ok next =>
              dsimp only
              cases herr : (Gen.each yieldHit (hit :: hits)).err with
              | some e => exact .stopped hanswer.symm rfl rfl (fun h => nomatch h)
              | none =>
                have hsources : ∀ x ∈ hit :: hits, HasSource x := fun x hx => yieldHit_err.mp (Gen.err_of_each herr x hx)
                obtain ⟨⟨new, hnew, hlength, hpit, hpages⟩, hanswered⟩ := ih
                  { pitId := (Dict.get? r "pit_id").getD st.pitId, after := some next
                    exchanges := st.exchanges ++ [(a.request query st, .ok (.obj r))] }
                refine ⟨⟨(a.request query st, .ok (.obj r)) :: new, ?_, Nat.succ_le_succ hlength, hpit, fun hnone => ?_⟩,
                  fun h => hanswered (h.snoc hanswer.symm)⟩
                · exact hnew.trans (List.append_assoc _ _ _)
                · obtain ⟨pages, hcomplete, hitems⟩ := hpages hnone
                  refine ⟨(hit :: hits) :: pages, hcomplete.cons hpage (pageCursor_eq_ok hcursor) hsources rfl, ?_⟩
                  rw [each_yieldHit hsources, List.flatten_cons, hitems]
      | _ => exact .stopped hanswer.symm rfl rfl (fun h => nomatch h)

end ElasticsearchReadAdapter

/-! ## 4. A snapshot

The same loop, against a transport with a list of hits in it. -/

/-- The hits of a snapshot after a cursor, at most `size`. -/
def pageAfter (docs : List Json) (after : Option (List Json)) (size : Nat) : List Json :=
  match after with
  | none => docs.take size
  | some key => ((docs.dropWhile fun d => decide (sortOf d ≠ some key)).drop 1).take size

/-- The transport serves a point in time with these hits, in the order of their sort keys, which
are distinct as Python compares them. -/
structure Snapshot (t : ReadTransport) (indices : List Json) (docs : List Json) : Prop where
  opens : ∃ opened pitId, t.openPointInTime indices = .ok (.obj opened) ∧ Dict.get? opened "id" = some pitId ∧
    shardsFailed opened = .ok false
  pages : ∀ sent request, PageOf (t.search (sent ++ [request])) (pageAfter docs request.searchAfter request.size)
  closes : ∀ pitId, t.closePointInTime pitId = .ok ()
  sources : ∀ d ∈ docs, HasSource d
  sorted : ∀ d ∈ docs, ∃ k keys, sortOf d = some (k :: keys)
  distinct : docs.Pairwise fun d e => ∀ k l, sortOf d = some k → sortOf e = some l → Json.canon (.arr k) ≠ Json.canon (.arr l)

theorem cursorOf_concat (hits : List Json) (d : Json) : cursorOf (hits ++ [d]) = sortOf d := by
  unfold cursorOf
  rw [List.getLast?_concat]
  rfl

theorem cursorOf_append {xs ys : List Json} (h : ys ≠ []) : cursorOf (xs ++ ys) = cursorOf ys := by
  unfold cursorOf
  rw [List.getLast?_append_of_ne_nil xs h]

/-- After what has been read comes the rest. -/
theorem pageAfter_rest {docs done rest : List Json} (hdocs : docs = done ++ rest)
    (hsorted : ∀ d ∈ docs, ∃ k keys, sortOf d = some (k :: keys))
    (hdistinct : docs.Pairwise fun d e => ∀ k l, sortOf d = some k → sortOf e = some l → Json.canon (.arr k) ≠ Json.canon (.arr l))
    (size : Nat) : pageAfter docs (cursorOf done) size = rest.take size := by
  rcases List.eq_nil_or_concat done with rfl | ⟨before, d, hdone⟩
  · rw [hdocs]
    rfl
  · rw [List.concat_eq_append] at hdone
    subst hdone
    rw [List.append_assoc] at hdocs
    obtain ⟨k, keys, hkey⟩ := hsorted d (by rw [hdocs]; simp)
    have hbefore : ∀ x ∈ before, decide (sortOf x ≠ some (k :: keys)) = true := by
      intro x hx
      refine decide_eq_true (fun hsame => ?_)
      rw [hdocs] at hdistinct
      have hne := (List.pairwise_append.mp hdistinct).2.2 x hx d (by simp) (k :: keys) (k :: keys) hsame hkey
      exact hne rfl
    rw [cursorOf_concat, hkey]
    unfold pageAfter
    dsimp only
    rw [hdocs, List.dropWhile_append_of_pos hbefore, List.singleton_append, List.dropWhile_cons_of_neg (by simp [hkey])]
    rfl

/-- The number of pages it takes to read the rest. -/
theorem pages_succ {n size : Nat} (hsize : 1 ≤ size) (hn : 0 < n) :
    (n + size - 1) / size = ((n - size) + size - 1) / size + 1 := by
  rcases Nat.lt_or_ge n size with hlt | hge
  · have hlast : (n - size) + size - 1 = size - 1 := by omega
    have hfirst : n + size - 1 = (n - 1) + size := by omega
    rw [hlast, hfirst, Nat.add_div_right _ hsize, Nat.div_eq_of_lt (by omega), Nat.div_eq_of_lt (by omega)]
  · have hsplit : n + size - 1 = ((n - size) + size - 1) + size := by omega
    rw [hsplit, Nat.add_div_right _ hsize]

namespace ElasticsearchReadAdapter

variable (a : ElasticsearchReadAdapter)

/-- The cursor of a page of a snapshot moves on. -/
theorem pageCursor_snapshot {indices docs done page later : List Json} (h : Snapshot a.transport indices docs)
    (hdocs : docs = done ++ (page ++ later)) (hpage : page ≠ []) :
    ∃ next, cursorOf page = some next ∧ pageCursor page (cursorOf done) = .ok next := by
  obtain ⟨before, d, hconcat⟩ := (List.eq_nil_or_concat page).resolve_left hpage
  rw [List.concat_eq_append] at hconcat
  subst hconcat
  have hd : d ∈ docs := by
    rw [hdocs]
    simp
  obtain ⟨k, keys, hkey⟩ := h.sorted d hd
  obtain ⟨hit, source, rfl, -⟩ := h.sources d hd
  have hcursor := (cursorOf_concat before (.obj hit)).trans hkey
  refine ⟨k :: keys, hcursor, ?_⟩
  unfold pageCursor
  rw [List.getLast?_concat]
  dsimp only
  rw [hcursor]
  dsimp only
  have hmoved : (cursorOf done).any (fun old => Json.pyEq (.arr (k :: keys)) (.arr old)) = false := by
    rcases List.eq_nil_or_concat done with rfl | ⟨earlier, e, hdone⟩
    · rfl
    · rw [List.concat_eq_append] at hdone
      subst hdone
      have he : e ∈ docs := by
        rw [hdocs]
        simp
      obtain ⟨l, lkeys, hl⟩ := h.sorted e he
      rw [cursorOf_concat, hl]
      refine Bool.eq_false_iff.mpr (fun heq => ?_)
      have hdistinct := h.distinct
      rw [hdocs] at hdistinct
      exact (List.pairwise_append.mp hdistinct).2.2 e (by simp) (.obj hit) (by simp) (l :: lkeys) (k :: keys) hl hkey
        (Json.pyEq_iff.mp heq).1.symm
  rw [hmoved]
  rfl

/-- From what has been read of a snapshot on, the rest is yielded when the budget reaches past it,
and the scan raises when it does not. -/
theorem scanPages_snapshot {indices docs : List Json} (h : Snapshot a.transport indices docs) (query : Json) :
    ∀ (budget : Nat) (st : ScanState) (done rest : List Json), docs = done ++ rest → st.after = cursorOf done →
      ((rest.length + a.pageSize - 1) / a.pageSize + 1 ≤ budget → (a.scanPages query budget st).1 = ⟨rest, none⟩) ∧
      (budget < (rest.length + a.pageSize - 1) / a.pageSize + 1 → (a.scanPages query budget st).1.err ≠ none) := by
  intro budget
  induction budget with
  | zero =>
    intro st done rest _ _
    exact ⟨fun hle => absurd hle (Nat.not_succ_le_zero _), fun _ hnone => nomatch hnone⟩
  | succ budget ih =>
    intro st done rest hdocs hafter
    have hpage := h.pages (st.exchanges.map Prod.fst) (a.request query st)
    have hhits : pageAfter docs (a.request query st).searchAfter (a.request query st).size = rest.take a.pageSize := by
      show pageAfter docs st.after a.pageSize = rest.take a.pageSize
      rw [hafter]
      exact pageAfter_rest hdocs h.sorted h.distinct a.pageSize
    rw [hhits] at hpage
    obtain ⟨r, hanswer, hwhole⟩ := hpage
    have hread := pageHits_eq_ok.mpr ⟨r, rfl, hwhole⟩
    unfold scanPages
    dsimp only
    rw [hanswer]
    dsimp only
    rw [hread]
    rcases List.eq_nil_or_concat rest with rfl | ⟨front, last, hrest⟩
    · -- nothing is left: the page is empty
      rw [List.take_nil]
      refine ⟨fun _ => rfl, fun hlt => absurd hlt (not_lt.mpr ?_)⟩
      rw [List.length_nil, Nat.zero_add, Nat.div_eq_of_lt (Nat.sub_lt a.pageSize_pos Nat.one_pos)]
      exact Nat.succ_le_succ (Nat.zero_le _)
    · have hlength : 0 < rest.length := by
        rw [hrest, List.concat_eq_append, List.length_append]
        exact Nat.succ_pos _
      have hnonempty : rest.take a.pageSize ≠ [] := by
        intro hnil
        have hzero := congrArg List.length hnil
        rw [List.length_take, List.length_nil] at hzero
        have hsize := a.pageSize_pos
        omega
      have hsplit : docs = done ++ (rest.take a.pageSize ++ rest.drop a.pageSize) := by
        rw [List.take_append_drop]
        exact hdocs
      obtain ⟨next, hcursor, hmoved⟩ := a.pageCursor_snapshot h hsplit hnonempty
      have hsources : ∀ x ∈ rest.take a.pageSize, HasSource x := by
        intro x hx
        refine h.sources x ?_
        rw [hdocs]
        exact List.mem_append_right _ (List.mem_of_mem_take hx)
      have hyield := each_yieldHit hsources
      obtain ⟨hit, hits, hcons⟩ := List.exists_cons_of_ne_nil hnonempty
      have hnext := ih { pitId := (Dict.get? r "pit_id").getD st.pitId, after := some next
                         exchanges := st.exchanges ++ [(a.request query st, .ok (.obj r))] }
        (done ++ rest.take a.pageSize) (rest.drop a.pageSize) (by rw [List.append_assoc]; exact hsplit)
        (by rw [cursorOf_append hnonempty]; exact hcursor.symm)
      rw [List.length_drop] at hnext
      rw [pages_succ a.pageSize_pos hlength, hcons]
      rw [hcons, ← hafter] at hmoved
      rw [hcons] at hyield
      dsimp only
      rw [hmoved]
      dsimp only
      rw [hyield]
      dsimp only
      constructor
      · intro hle
        rw [hnext.1 (Nat.le_of_succ_le_succ hle)]
        dsimp only
        rw [← hcons, List.take_append_drop]
      · intro hlt
        exact hnext.2 (Nat.lt_of_succ_lt_succ hlt)

/-! ## 5. The batch

The point in time around the scan: it is opened before, and closed whatever the scan did. -/

theorem scanOpened_spec (query : Json) (opened : Obj) (pitId : Json) :
    ScannedFrom a.transport a.maxPages { pitId := pitId } (a.scanOpened query opened pitId).1
      (a.scanOpened query opened pitId).2 := by
  unfold scanOpened
  cases shardsFailed opened with
  | error e => exact ⟨⟨[], rfl, Nat.zero_le _, rfl, fun h => nomatch h⟩, fun h => h⟩
  | ok failed =>
    cases failed with
    | true => exact ⟨⟨[], rfl, Nat.zero_le _, rfl, fun h => nomatch h⟩, fun h => h⟩
    | false => exact a.scanPages_spec query a.maxPages { pitId := pitId }

/-- What a read of the indices is: complete, with the point in time closed once, or an exception. -/
structure ReadsWhole (indices : List Json) (query : Json) : Prop where
  /-- a returned list is the pages of a complete read, within the budget -/
  complete : ∀ hits, (a.readBatch indices query).1 = .ok hits →
    ∃ pages, CompleteRead none (a.readBatch indices query).2.exchanges pages ∧ pages.length + 1 ≤ a.maxPages ∧
      hits = pages.flatten
  answered : Answered a.transport (a.readBatch indices query).2.exchanges
  /-- an id that opening returned is closed once, under the last id announced -/
  closed : ∀ opened pitId, a.transport.openPointInTime indices = .ok (.obj opened) → Dict.get? opened "id" = some pitId →
    (a.readBatch indices query).2.closed = [announced pitId (a.readBatch indices query).2.exchanges]
  /-- a snapshot is read whole when the budget reaches past it -/
  snapshot : ∀ docs, Snapshot a.transport indices docs →
    ((docs.length + a.pageSize - 1) / a.pageSize + 1 ≤ a.maxPages → (a.readBatch indices query).1 = .ok docs) ∧
    (a.maxPages < (docs.length + a.pageSize - 1) / a.pageSize + 1 → (a.readBatch indices query).1.isOk = false)

/-- A read of valid indices, once the point in time has an id. -/
theorem readBatch_opened {indices : List Json} {query : Json} {opened : Obj} {pitId : Json}
    (hvalid : (indices.isEmpty || !indices.all isMonthlyIndex) = false)
    (hopen : a.transport.openPointInTime indices = .ok (.obj opened)) (hid : Dict.get? opened "id" = some pitId) :
    a.readBatch indices query =
      (match a.transport.closePointInTime (a.scanOpened query opened pitId).2.pitId, (a.scanOpened query opened pitId).1.err with
        | .error e, _ => .error e
        | .ok _, some e => .error e
        | .ok _, none => .ok (a.scanOpened query opened pitId).1.items,
        { exchanges := (a.scanOpened query opened pitId).2.exchanges
          closed := [(a.scanOpened query opened pitId).2.pitId] }) := by
  unfold readBatch
  rw [hvalid, hopen]
  dsimp only
  rw [hid]
  rfl

/-- Without an id, nothing is asked and nothing returned. -/
theorem readBatch_unopened {indices : List Json} {query : Json}
    (hnone : ∀ opened pitId, a.transport.openPointInTime indices = .ok (.obj opened) → Dict.get? opened "id" ≠ some pitId) :
    (a.readBatch indices query).1.isOk = false ∧ (a.readBatch indices query).2 = {} := by
  unfold readBatch
  split
  · exact ⟨rfl, rfl⟩
  · cases hopen : a.transport.openPointInTime indices with
    | error e => exact ⟨rfl, rfl⟩
    | ok opened =>
      cases opened with
      | obj o =>
        dsimp only
        cases hid : Dict.get? o "id" with
        | none => exact ⟨rfl, rfl⟩
        | some pitId => exact absurd hid (hnone o pitId hopen)
      | _ => exact ⟨rfl, rfl⟩

/-- **Every batch read is complete or raises, whatever the transport answers.**  The batch is that
of valid indices; for others nothing is asked.  Closing may raise too, and then nothing is
returned. -/
theorem read_batch_complete_or_raises (indices : List Json) (query : Json) (hindices : indices ≠ [])
    (hmonthly : ∀ i ∈ indices, isMonthlyIndex i = true) : a.ReadsWhole indices query := by
  have hvalid : (indices.isEmpty || !indices.all isMonthlyIndex) = false := by
    rw [List.all_eq_true.mpr hmonthly]
    cases indices with
    | nil => exact absurd rfl hindices
    | cons i rest => rfl
  by_cases hid : ∃ opened pitId, a.transport.openPointInTime indices = .ok (.obj opened) ∧ Dict.get? opened "id" = some pitId
  · obtain ⟨opened, pitId, hopen, hid⟩ := hid
    obtain ⟨⟨new, hnew, hlength, hpit, hpages⟩, hanswered⟩ := a.scanOpened_spec query opened pitId
    have hbatch := @readBatch_opened a indices query opened pitId hvalid hopen hid
    have hexchanges : (a.readBatch indices query).2.exchanges = new := by
      rw [hbatch]
      exact hnew
    constructor
    · intro hits hok
      have hscanned : (a.scanOpened query opened pitId).1.err = none ∧ (a.scanOpened query opened pitId).1.items = hits := by
        rw [hbatch] at hok
        dsimp only at hok
        split at hok
        · cases hok
        · cases hok
        · rename_i hnone
          exact ⟨hnone, Except.ok.inj hok⟩
      obtain ⟨pages, hcomplete, hitems⟩ := hpages hscanned.1
      rw [hexchanges]
      refine ⟨pages, hcomplete, ?_, hscanned.2.symm.trans hitems⟩
      have hcount := hcomplete.answers.length_eq
      rw [List.length_append, List.length_singleton] at hcount
      omega
    · rw [hexchanges]
      have hall := hanswered (fun sent x later heq => absurd heq (by simp))
      rw [hnew] at hall
      exact hall
    · intro opened' pitId' hopen' hid'
      rw [hopen] at hopen'
      cases hopen'
      rw [hid] at hid'
      cases hid'
      rw [hexchanges, hbatch, ← hpit]
    · intro docs hsnapshot
      obtain ⟨opened', pitId', hopen', hid', hwhole⟩ := hsnapshot.opens
      rw [hopen] at hopen'
      cases hopen'
      have hscan : a.scanOpened query opened pitId = a.scanPages query a.maxPages { pitId := pitId } := by
        unfold scanOpened
        rw [hwhole]
      have hread := a.scanPages_snapshot hsnapshot query a.maxPages { pitId := pitId } [] docs rfl rfl
      rw [hbatch, hsnapshot.closes, hscan]
      constructor
      · intro hle
        rw [hread.1 hle]
      · intro hlt
        cases herr : (a.scanPages query a.maxPages { pitId := pitId }).1.err with
        | none => exact absurd herr (hread.2 hlt)
        | some e => rfl
  · obtain ⟨hraises, hnothing⟩ := @readBatch_unopened a indices query
      (fun opened pitId hopen hid' => hid ⟨opened, pitId, hopen, hid'⟩)
    constructor
    · intro hits hok
      rw [hok] at hraises
      cases hraises
    · rw [hnothing]
      intro sent x later heq
      simp at heq
    · intro opened pitId hopen hid'
      exact absurd ⟨opened, pitId, hopen, hid'⟩ hid
    · intro docs hsnapshot
      obtain ⟨opened, pitId, hopen, hid', -⟩ := hsnapshot.opens
      exact absurd ⟨opened, pitId, hopen, hid'⟩ hid

end ElasticsearchReadAdapter

/-- A transport that serves a point in time. -/
def snapshotTransport (docs : List Json) : ReadTransport where
  openPointInTime _ := .ok (.obj [("id", .str "pit-1")])
  search sent :=
    match sent.getLast? with
    | some request => .ok (.obj [("hits", .obj [("hits", .arr (pageAfter docs request.searchAfter request.size))])])
    | none => .error ⟨.other, "no search"⟩
  closePointInTime _ := .ok ()

theorem snapshotTransport_snapshot {docs indices : List Json} (hsources : ∀ d ∈ docs, HasSource d)
    (hsorted : ∀ d ∈ docs, ∃ k keys, sortOf d = some (k :: keys))
    (hdistinct : docs.Pairwise fun d e => ∀ k l, sortOf d = some k → sortOf e = some l → Json.canon (.arr k) ≠ Json.canon (.arr l)) :
    Snapshot (snapshotTransport docs) indices docs where
  opens := ⟨_, _, rfl, rfl, rfl⟩
  pages sent request := by
    unfold snapshotTransport
    dsimp only
    rw [List.getLast?_concat]
    exact ⟨_, rfl, rfl, rfl, rfl, _, rfl, rfl⟩
  closes _ := rfl
  sources := hsources
  sorted := hsorted
  distinct := hdistinct

/-- A raw hit with its sort key. -/
def coreHit (n : Int) : Json := .obj [("sort", .arr [.int n]), ("_source", .obj [])]

/-- Five hits of the core source. -/
def coreHits : List Json := [1, 2, 3, 4, 5].map coreHit

theorem coreHits_snapshot (indices : List Json) : Snapshot (snapshotTransport coreHits) indices coreHits := by
  have hkeys : [1, 2, 3, 4, 5].Pairwise fun m n : Int => Json.canon (.arr [.int m]) ≠ Json.canon (.arr [.int n]) := by decide
  refine snapshotTransport_snapshot (fun d hd => ?_) (fun d hd => ?_) (List.pairwise_map.mpr (hkeys.imp ?_))
  · obtain ⟨n, -, rfl⟩ := List.mem_map.mp hd
    exact ⟨_, _, rfl, rfl⟩
  · obtain ⟨n, -, rfl⟩ := List.mem_map.mp hd
    exact ⟨_, _, rfl⟩
  · intro m n hne k l hk hl
    obtain rfl : [Json.int m] = k := Option.some.inj hk
    obtain rfl : [Json.int n] = l := Option.some.inj hl
    exact hne

/-- In pages of two, five hits are read with a budget of four pages, the last of them empty, and a
budget of three raises. -/
theorem read_batch_complete_or_raises_core :
    (({ transport := snapshotTransport coreHits, pageSize := 2, maxPages := 4 } : ElasticsearchReadAdapter).readBatch
        [.str "nw-ops-raw-core-2026-11"] (.obj [])).1 = .ok coreHits ∧
      (({ transport := snapshotTransport coreHits, pageSize := 2, maxPages := 3 } : ElasticsearchReadAdapter).readBatch
        [.str "nw-ops-raw-core-2026-11"] (.obj [])).1.isOk = false := by
  have hmonthly : ∀ i ∈ [Json.str "nw-ops-raw-core-2026-11"], isMonthlyIndex i = true := by
    intro i hi
    rw [List.mem_singleton.mp hi]
    decide +kernel
  have hpages := ElasticsearchReadAdapter.read_batch_complete_or_raises
    { transport := snapshotTransport coreHits, pageSize := 2, maxPages := 4 } _ (.obj []) (List.cons_ne_nil _ _) hmonthly
  have hshort := ElasticsearchReadAdapter.read_batch_complete_or_raises
    { transport := snapshotTransport coreHits, pageSize := 2, maxPages := 3 } _ (.obj []) (List.cons_ne_nil _ _) hmonthly
  exact ⟨(hpages.snapshot coreHits (coreHits_snapshot _)).1 (by decide), (hshort.snapshot coreHits (coreHits_snapshot _)).2 (by decide)⟩

end BackupCollector
