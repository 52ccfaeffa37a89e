/-
# When a loaded collector runs

A collector runs when `skip_reason` has nothing to say.  For a collector that was loaded from an
entry of the document and that `build_collector` accepts, this module says what that is
(`loaded_ready_iff`): it is enabled, every number its schedules give is in range, and what its kind
needs is filled in.

The checks are written as a list of reasons, the first of which is reported.  What holds when NO
reason applies is a conjunction, and that is how it is stated here: `Ready` has one structure for
each kind of collector, with a field for each thing that is needed.  The proof is a lemma for a
check that gives nothing (`guard_eq_none`), used once for each.

Two layers look for what is unfilled, and they divide the work.  The loader has already made
nothing of a placeholder in an optional text, so there only presence counts; that it has is a field
of `FilledTexts`.  The identifiers, endpoints and commands are taken as they stand, and for them
the walk of `has_unfilled_values` has to find nothing, however deep (`hasUnfilledValues_iff`).

A placeholder in a field that the kind does not use keeps no collector from running, and the
example is one.  Whether a file is there is a parameter; it is asked for the CA of a NetWorker
server only.  That the device answers is another matter.
-/
import BackupCollector.Collectors.Base
import BackupCollector.Core.Edits
import BackupCollector.Core.Schedules

namespace BackupCollector

open Py

/-! ## 1. Nothing unfilled, at any depth

The walk goes through lists and mappings; the statement is about the values inside, wherever they
stand. -/

/-- `Within w v`: `w` is `v`, or stands somewhere in it. -/
inductive Within (w : Json) : Json → Prop where
  | self : Within w w
  | item {x : Json} {xs : List Json} : x ∈ xs → Within w x → Within w (.arr xs)
  | entry {k : Str} {x : Json} {d : List (Str × Json)} : (k, x) ∈ d → Within w x → Within w (.obj d)

/-- Nothing in a value is missing or a placeholder, at any depth.  A number, a truth value and an
empty list are filled in. -/
def Filled (v : Json) : Prop := ∀ w, Within w v → w ≠ .null ∧ ∀ s, w = .str s → isUnfilledPlaceholder s = false

theorem filled_arr {xs : List Json} : Filled (.arr xs) ↔ ∀ x ∈ xs, Filled x := by
  constructor
  · intro h x hx w hw
    exact h w (.item hx hw)
  · intro h w hw
    cases hw with
    | self => exact ⟨by simp, by simp⟩
    | item hx hw => exact h _ hx w hw

theorem filled_obj {d : List (Str × Json)} : Filled (.obj d) ↔ ∀ p ∈ d, Filled p.2 := by
  constructor
  · intro h p hp w hw
    exact h w (.entry hp hw)
  · intro h w hw
    cases hw with
    | self => exact ⟨by simp, by simp⟩
    | entry hx hw => exact h _ hx w hw

theorem filled_str {s : Str} : Filled (.str s) ↔ isUnfilledPlaceholder s = false := by
  constructor
  · intro h
    exact (h _ .self).2 s rfl
  · intro h w hw
    cases hw with
    | self => exact ⟨by simp, fun t ht => by rw [← Json.str.inj ht]; exact h⟩

theorem not_filled_null : ¬ Filled .null := fun h => (h _ .self).1 rfl

/-- A value without parts. -/
theorem filled_of_scalar {v : Json} (hnull : v ≠ .null) (hstr : ∀ s, v ≠ .str s) (harr : ∀ xs, v ≠ .arr xs)
    (hobj : ∀ d, v ≠ .obj d) : Filled v := by
  intro w hw
  cases hw with
  | self => exact ⟨hnull, fun s hs => absurd hs (hstr s)⟩
  | item _ _ => exact absurd rfl (harr _)
  | entry _ _ => exact absurd rfl (hobj _)

mutual

/-- `has_unfilled_values` finds what is unfilled, at any depth. -/
theorem hasUnfilledValues_iff : ∀ v : Json, hasUnfilledValues v = false ↔ Filled v
  | .null => by simp [hasUnfilledValues, not_filled_null]
  | .str s => by rw [hasUnfilledValues, filled_str]
  | .arr xs => by rw [hasUnfilledValues, filled_arr, anyUnfilled_iff xs]
  | .obj d => by rw [hasUnfilledValues, filled_obj, anyUnfilledEntry_iff d]
  | .bool b => by simp [hasUnfilledValues, filled_of_scalar]
  | .int n => by simp [hasUnfilledValues, filled_of_scalar]
  | .float f => by simp [hasUnfilledValues, filled_of_scalar]

theorem anyUnfilled_iff : ∀ xs : List Json, anyUnfilled xs = false ↔ ∀ x ∈ xs, Filled x
  | [] => by simp [anyUnfilled]
  | x :: xs => by simp [anyUnfilled, hasUnfilledValues_iff x, anyUnfilled_iff xs]

theorem anyUnfilledEntry_iff : ∀ d : List (Str × Json), anyUnfilledEntry d = false ↔ ∀ p ∈ d, Filled p.2
  | [] => by simp [anyUnfilledEntry]
  | (k, v) :: d => by
    rw [anyUnfilledEntry, Bool.or_eq_false_iff, hasUnfilledValues_iff v, anyUnfilledEntry_iff d, List.forall_mem_cons]

end

/-! ## 2. Optional texts

What the loader keeps of an optional text is never empty and never a placeholder. -/

/-- A text that is there is filled in. -/
def FilledText (text : Option Str) : Prop := ∀ s, text = some s → isUnfilledPlaceholder s = false

theorem filled_optional {text : Option Str} (h : FilledText text) : Filled (optional text) ↔ text.isSome = true := by
  cases text with
  | none => simp [optional, Json.ofOption, not_filled_null]
  | some s => simp [optional, Json.ofOption, filled_str, h s rfl]

theorem given_iff {text : Option Str} (h : FilledText text) : given text = true ↔ text.isSome = true := by
  cases text with
  | none => simp [given, optional, Json.ofOption, Json.truthy]
  | some s =>
    have hne : s ≠ [] := by
      rintro rfl
      exact absurd (h [] rfl) (by decide)
    simp [given, optional, Json.ofOption, Json.truthy, hne]

/-- The optional texts of a configuration are filled in where they are there.  It holds of every
configuration that was loaded, and saves the checks from looking for placeholders. -/
structure FilledTexts (c : CollectorConfig) : Prop where
  host : FilledText c.host
  community : FilledText c.community
  baseUrl : FilledText c.baseUrl
  endpoint : FilledText c.endpoint
  token : FilledText c.token
  username : FilledText c.username
  password : FilledText c.password
  caCerts : FilledText c.caCerts
  sshKeyPath : FilledText c.sshKeyPath
  sshKnownHostsPath : FilledText c.sshKnownHostsPath
  jumpHost : FilledText c.jumpHost
  jumpUsername : FilledText c.jumpUsername
  jumpSshKeyPath : FilledText c.jumpSshKeyPath
  sourceNetworker : FilledText c.sourceNetworker

section Loaded

variable [Unicode] {readText : Str → Except Err Str}

theorem optionalText_filled {v : Json} {text : Option Str} (h : optionalText v = .ok text) : FilledText text := by
  intro s hs
  subst hs
  cases v with
  | null => cases h
  | _ =>
    obtain ⟨t, -, h⟩ := bind_eq_ok.mp h
    have hs : (if isUnfilledPlaceholder (Str.strip t) = true then none else some (Str.strip t)) = some s :=
      Except.ok.inj h
    split_ifs at hs with hunfilled
    rw [← Option.some.inj hs]
    exact Bool.eq_false_iff.mpr hunfilled

theorem optionalSecret_filled {raw : Obj} {key : Str} {text : Option Str} (h : optionalSecret readText raw key = .ok text) :
    FilledText text := by
  unfold optionalSecret at h
  obtain ⟨value, hvalue, h⟩ := bind_eq_ok.mp h
  cases value with
  | some s =>
    rw [← Except.ok.inj h]
    exact optionalText_filled hvalue
  | none =>
    obtain ⟨path, -, h⟩ := bind_eq_ok.mp h
    cases path with
    | none =>
      rw [← Except.ok.inj h]
      intro s hs
      cases hs
    | some file =>
      obtain ⟨content, -, h⟩ := bind_eq_ok.mp h
      exact optionalText_filled h

theorem Loaded.filledTexts {raw : Obj} {c : CollectorConfig} (h : Loaded readText raw c) : FilledTexts c where
  host := optionalText_filled h.host
  community := optionalSecret_filled h.community
  baseUrl := optionalText_filled h.baseUrl
  endpoint := optionalText_filled h.endpoint
  token := optionalSecret_filled h.token
  username := optionalSecret_filled h.username
  password := optionalSecret_filled h.password
  caCerts := optionalText_filled h.caCerts
  sshKeyPath := optionalText_filled h.sshKeyPath
  sshKnownHostsPath := optionalText_filled h.sshKnownHostsPath
  jumpHost := optionalText_filled h.jumpHost
  jumpUsername := optionalText_filled h.jumpUsername
  jumpSshKeyPath := optionalText_filled h.jumpSshKeyPath
  sourceNetworker := optionalText_filled h.sourceNetworker

end Loaded

/-! ## 3. What each kind of collector needs

One structure for each kind, with what it needs and not with the order in which it is checked. -/

/-- The limits every REST collector has to keep. -/
structure RestLimits (c : CollectorConfig) : Prop where
  concurrency : 0 < c.restMaxConcurrency
  spacing : ¬ c.restRequestSpacingSeconds < 0

/-- A Data Domain is walked: a host, a community, and identifiers to ask for. -/
structure SnmpReady (c : CollectorConfig) : Prop where
  host : c.host.isSome = true
  community : c.community.isSome = true
  oids : Filled (.obj c.oids)
  walkOids : Filled (.obj c.walkOids)
  asked : c.oids ≠ [] ∨ c.walkOids ≠ []

/-- A library is logged into, and asked for its endpoints: it has a user and a password, and an
endpoint or a mapping of them. -/
structure I6000Ready (c : CollectorConfig) : Prop extends RestLimits c where
  baseUrl : c.baseUrl.isSome = true
  username : c.username.isSome = true
  password : c.password.isSome = true
  endpoints : Filled (.obj c.endpoints)
  asked : c.endpoint.isSome = true ∨ c.endpoints ≠ []

/-- A NetWorker server has three windows, a source that is known, and a CA file that is there
when it is used. -/
structure NetworkerReady [Unicode] (isFile : Str → Bool) (c : CollectorConfig) : Prop extends RestLimits c where
  window : 0 < c.networkerQueryWindowMinutes
  jobsWindow : 0 < c.networkerJobsQueryWindowMinutes
  backupsWindow : 0 < c.networkerBackupsQueryWindowMinutes
  source : ∃ source, validateSourceNetworker (optional c.sourceNetworker) = .ok source
  caCerts : c.verifyTls = true → ∀ path, c.caCerts = some path → isFile path = true
  baseUrl : c.baseUrl.isSome = true
  username : c.username.isSome = true
  password : c.password.isSome = true
  endpoints : Filled (.obj c.endpoints)

/-- An appliance takes a token, or a user and a password. -/
structure ZfsReady (c : CollectorConfig) : Prop extends RestLimits c where
  credentials : c.token.isSome = true ∨ c.username.isSome = true ∧ c.password.isSome = true
  baseUrl : c.baseUrl.isSome = true
  endpoints : Filled (.obj c.endpoints)

/-- A DXi is commanded over SSH, by password or key; through a jump host only by key. -/
structure CliReady (c : CollectorConfig) : Prop where
  credentials : c.password.isSome = true ∨ c.sshKeyPath.isSome = true
  host : c.host.isSome = true
  username : c.username.isSome = true
  commands : Filled (.obj c.commands)
  asked : c.commands ≠ []
  jump : c.jumpHost.isSome = true → c.jumpUsername.isSome = true ∧ c.sshKnownHostsPath.isSome = true ∧
    (c.jumpSshKeyPath.isSome = true ∨ c.sshKeyPath.isSome = true)

/-- What the collector of a kind needs. -/
def Ready [Unicode] (isFile : Str → Bool) (c : CollectorConfig) : CollectorKind → Prop
  | .ddSnmp => SnmpReady c
  | .dxiCli => CliReady c
  | .i6000Rest => I6000Ready c
  | .networkerRest => NetworkerReady isFile c
  | .zfsRest => ZfsReady c

/-! ## 4. Each check, and what it asks for

The structures of the last section against the checks of the source, one kind at a time. -/

/-- A check that gives the first reason it meets gives none when it meets none. -/
theorem guard_eq_none {p : Prop} [Decidable p] {reason : Str} {rest : Option Str} :
    (if p then some reason else rest) = none ↔ ¬ p ∧ rest = none := by
  by_cases hp : p
  · simp [hp]
  · simp [hp]

/-- A check that is made in one case only. -/
theorem when_eq_none {p : Prop} [Decidable p] {check : Option Str} :
    (if p then check else none) = none ↔ (p → check = none) := by
  by_cases hp : p
  · simp [hp]
  · simp [hp]

/-- The entries of a mapping are filled in when each of them is. -/
theorem not_unfilled_obj {d : Obj} : ¬ hasUnfilledValues (.obj d) = true ↔ ∀ p ∈ d, Filled p.2 := by
  rw [Bool.not_eq_true, hasUnfilledValues_iff, filled_obj]

theorem unfilled_optional {text : Option Str} (h : FilledText text) :
    hasUnfilledValues (optional text) = true ↔ ¬ text.isSome = true := by
  rw [← filled_optional h, ← hasUnfilledValues_iff, Bool.not_eq_false]

theorem not_given_iff {text : Option Str} (h : FilledText text) : (!given text) = true ↔ ¬ text.isSome = true := by
  rw [Bool.not_eq_true', ← Bool.not_eq_true, given_iff h]

theorem isEmpty_iff {d : Obj} : d.isEmpty = true ↔ ¬ d ≠ [] := by
  rw [List.isEmpty_iff, not_not]

theorem snmp_ready {c : CollectorConfig} (ht : FilledTexts c) : c.snmpSkipReason = none ↔ SnmpReady c := by
  simp only [CollectorConfig.snmpSkipReason, guard_eq_none, not_unfilled_obj, List.forall_mem_cons,
    filled_optional ht.host, filled_optional ht.community, Bool.and_eq_true, isEmpty_iff, not_and_or, not_not]
  constructor
  · rintro ⟨⟨hhost, hcommunity, hoids, hwalk, -⟩, hasked, -⟩
    exact ⟨hhost, hcommunity, hoids, hwalk, hasked⟩
  · intro h
    exact ⟨⟨h.host, h.community, h.oids, h.walkOids, by simp⟩, h.asked, trivial⟩

theorem cli_ready {c : CollectorConfig} (ht : FilledTexts c) : c.sshSkipReason = none ↔ CliReady c := by
  simp only [CollectorConfig.sshSkipReason, ↓guard_eq_none, when_eq_none, not_unfilled_obj, unfilled_optional ht.password,
    unfilled_optional ht.sshKeyPath, List.forall_mem_cons, filled_optional ht.host, filled_optional ht.username,
    filled_optional ht.jumpHost, filled_optional ht.jumpUsername, filled_optional ht.sshKnownHostsPath, Bool.and_eq_true,
    isEmpty_iff, not_given_iff ht.password, not_given_iff ht.sshKeyPath, not_given_iff ht.jumpSshKeyPath,
    given_iff ht.jumpHost, not_and_or, not_not]
  constructor
  · rintro ⟨hcredentials, ⟨hhost, husername, hcommands, -⟩, -, hasked, hjump⟩
    refine ⟨hcredentials, hhost, husername, hcommands, hasked, ?_⟩
    intro hjumps
    obtain ⟨⟨-, huser, hknown, -⟩, hkey, -⟩ := hjump hjumps
    exact ⟨huser, hknown, hkey⟩
  · intro h
    refine ⟨h.credentials, ⟨h.host, h.username, h.commands, by simp⟩, h.credentials, h.asked, ?_⟩
    intro hjumps
    obtain ⟨huser, hknown, hkey⟩ := h.jump hjumps
    exact ⟨⟨hjumps, huser, hknown, by simp⟩, hkey, trivial⟩

/-- A source that is known is there. -/
theorem isSome_of_validated [Unicode] {text : Option Str} {source : Source}
    (h : validateSourceNetworker (optional text) = .ok source) : text.isSome = true := by
  cases text with
  | some s => rfl
  | none =>
    have hunknown : ¬ ([] : Str) ∈ sourceNames := by decide
    unfold validateSourceNetworker at h
    extract_lets value at h
    have hvalue : ¬ value ∈ sourceNames := hunknown
    rw [dif_neg hvalue] at h
    cases h

section Rest

variable [Unicode] (isFile : Str → Bool)

/-- What `_rest_skip_reason` asks by type, before it looks for unfilled values. -/
def typeSkipReason (c : CollectorConfig) : Option Str :=
  if c.type = lit "Networker" then c.networkerSkipReason isFile
  else if c.type = lit "ZFS" ∧ !given c.token ∧ !(given c.username && given c.password) then
    some (lit "REST config requires token or username/password")
  else none

variable {isFile}

/-- The checks every REST collector goes through, with those of its type in the middle. -/
theorem rest_ready {c : CollectorConfig} : c.restSkipReason isFile = none ↔
    RestLimits c ∧ typeSkipReason isFile c = none ∧ (∀ p ∈ c.restRequired, Filled p.2) ∧
      ¬ (c.type ≠ lit "Networker" ∧ c.type ≠ lit "ZFS" ∧ !given c.endpoint ∧ c.endpoints.isEmpty) := by
  have hlimits : RestLimits c ↔ ¬ c.restMaxConcurrency ≤ 0 ∧ ¬ c.restRequestSpacingSeconds < 0 := by
    rw [Int.not_le]
    exact ⟨fun h => ⟨h.concurrency, h.spacing⟩, fun h => ⟨h.1, h.2⟩⟩
  unfold CollectorConfig.restSkipReason
  dsimp only
  rw [guard_eq_none, guard_eq_none, hlimits, and_assoc, ← typeSkipReason]
  cases typeSkipReason isFile c with
  | some reason => simp
  | none => simp only [guard_eq_none, not_unfilled_obj, true_and, and_true]

theorem i6000_ready {c : CollectorConfig} (ht : FilledTexts c) (htype : c.type = lit "i6000") :
    c.restSkipReason isFile = none ↔ I6000Ready c := by
  have hnetworker : ¬ c.type = lit "Networker" := by rw [htype]; decide
  have hzfs : ¬ c.type = lit "ZFS" := by rw [htype]; decide
  have htyped : typeSkipReason isFile c = none := by
    rw [typeSkipReason, if_neg hnetworker, if_neg fun h => hzfs h.1]
  simp only [rest_ready, htyped, CollectorConfig.restRequired, if_pos htype, List.forall_mem_cons,
    filled_optional ht.baseUrl, filled_optional ht.username, filled_optional ht.password, not_given_iff ht.endpoint,
    isEmpty_iff, not_and_or, not_not, true_and]
  constructor
  · rintro ⟨hlimits, ⟨hbase, huser, hpassword, hendpoints, -⟩, hasked⟩
    exact { hlimits with
      baseUrl := hbase, username := huser, password := hpassword, endpoints := hendpoints
      asked := (hasked.resolve_left hnetworker).resolve_left hzfs }
  · intro h
    exact ⟨h.toRestLimits, ⟨h.baseUrl, h.username, h.password, h.endpoints, by simp⟩, Or.inr (Or.inr h.asked)⟩

omit [Unicode] in
/-- The endpoints are looked at when there are any, and an empty mapping has nothing unfilled. -/
theorem filled_endpoints {c : CollectorConfig} :
    (∀ p ∈ (if c.endpoints.isEmpty = true then [] else [(lit "endpoints", Json.obj c.endpoints)] : List (Str × Json)),
      Filled p.2) ↔ Filled (.obj c.endpoints) := by
  by_cases hempty : c.endpoints.isEmpty = true
  · rw [if_pos hempty, List.isEmpty_iff.mp hempty, filled_obj]
  · rw [if_neg hempty]
    simp

theorem zfs_ready {c : CollectorConfig} (ht : FilledTexts c) (htype : c.type = lit "ZFS") :
    c.restSkipReason isFile = none ↔ ZfsReady c := by
  have hnetworker : ¬ c.type = lit "Networker" := by rw [htype]; decide
  have hi6000 : ¬ c.type = lit "i6000" := by rw [htype]; decide
  have htyped : typeSkipReason isFile c = none ↔
      c.token.isSome = true ∨ c.username.isSome = true ∧ c.password.isSome = true := by
    rw [typeSkipReason, if_neg hnetworker, guard_eq_none, not_given_iff ht.token]
    simp [htype, given_iff ht.username, given_iff ht.password, or_iff_not_imp_left]
  have hrequired : (∀ p ∈ c.restRequired, Filled p.2) ↔ c.baseUrl.isSome = true ∧ Filled (.obj c.endpoints) := by
    rw [CollectorConfig.restRequired, if_neg hi6000, if_neg hnetworker, if_pos htype, List.forall_mem_cons,
      filled_optional ht.baseUrl, filled_endpoints]
  rw [rest_ready, htyped, hrequired]
  constructor
  · rintro ⟨hlimits, hcredentials, ⟨hbase, hendpoints⟩, -⟩
    exact { hlimits with credentials := hcredentials, baseUrl := hbase, endpoints := hendpoints }
  · intro h
    exact ⟨h.toRestLimits, h.credentials, ⟨h.baseUrl, h.endpoints⟩, fun hother => hother.2.1 htype⟩

/-- The checks of a NetWorker server: its windows, its source, and the CA file that is used. -/
theorem networker_checks {c : CollectorConfig} (ht : FilledTexts c) : c.networkerSkipReason isFile = none ↔
    0 < c.networkerQueryWindowMinutes ∧ 0 < c.networkerJobsQueryWindowMinutes ∧
      0 < c.networkerBackupsQueryWindowMinutes ∧
      (∃ source, validateSourceNetworker (optional c.sourceNetworker) = .ok source) ∧
      (c.verifyTls = true → ∀ path, c.caCerts = some path → isFile path = true) := by
  unfold CollectorConfig.networkerSkipReason
  rw [guard_eq_none, guard_eq_none, guard_eq_none, Int.not_le, Int.not_le, Int.not_le]
  cases validateSourceNetworker (optional c.sourceNetworker) with
  | error e => simp
  | ok source =>
    cases hca : c.caCerts with
    | none => simp
    | some path =>
      have hne : path ≠ [] := by
        rintro rfl
        exact absurd (ht.caCerts [] hca) (by decide)
      simp [hne]

theorem networker_ready {c : CollectorConfig} (ht : FilledTexts c) (htype : c.type = lit "Networker") :
    c.restSkipReason isFile = none ↔ NetworkerReady isFile c := by
  have hi6000 : ¬ c.type = lit "i6000" := by rw [htype]; decide
  have hrequired : (∀ p ∈ c.restRequired, Filled p.2) ↔ c.baseUrl.isSome = true ∧ Filled (.obj c.endpoints) ∧
      c.sourceNetworker.isSome = true ∧ c.username.isSome = true ∧ c.password.isSome = true := by
    rw [CollectorConfig.restRequired, if_neg hi6000, if_pos htype, List.forall_mem_cons, filled_optional ht.baseUrl]
    simp only [List.append_eq, List.forall_mem_append, filled_endpoints, List.forall_mem_cons,
      filled_optional ht.sourceNetworker, filled_optional ht.username, filled_optional ht.password, List.not_mem_nil, false_imp_iff, implies_true, and_true]
  have htyped : typeSkipReason isFile c = c.networkerSkipReason isFile := by
    rw [typeSkipReason, if_pos htype]
  rw [rest_ready, htyped, networker_checks ht, hrequired]
  constructor
  · rintro ⟨hlimits, ⟨hwindow, hjobs, hbackups, hsource, hca⟩, ⟨hbase, hendpoints, -, huser, hpassword⟩, -⟩
    exact { hlimits with
      window := hwindow, jobsWindow := hjobs, backupsWindow := hbackups, source := hsource, caCerts := hca
      baseUrl := hbase, username := huser, password := hpassword, endpoints := hendpoints }
  · intro h
    refine ⟨h.toRestLimits, ⟨h.window, h.jobsWindow, h.backupsWindow, h.source, h.caCerts⟩,
      ⟨h.baseUrl, h.endpoints, ?_, h.username, h.password⟩, fun hother => hother.1 htype⟩
    obtain ⟨source, hsource⟩ := h.source
    exact isSome_of_validated hsource

/-! ## 5. The collectors of a document

The kinds put together, and the loader in front of them: the conditions are on the entry of the
document. -/

/-- The reasons a collector gives before it looks at its protocol. -/
theorem skipReason_iff {c : CollectorConfig} : c.skipReason isFile = .ok none ↔
    c.enabled = true ∧ ∃ schedules, c.effectiveSchedules = .ok schedules ∧
      CollectorConfig.schedulesSkipReason schedules = none ∧
      (if c.protocol = lit "snmp" then c.snmpSkipReason
        else if c.protocol = lit "rest" then c.restSkipReason isFile
        else if c.protocol = lit "ssh" ∨ c.protocol = lit "cli" then c.sshSkipReason
        else some (lit "unsupported protocol: " ++ c.protocol)) = none := by
  unfold CollectorConfig.skipReason
  cases c.enabled with
  | false => simp
  | true =>
    rw [if_neg (by decide), bind_eq_ok]
    simp only [true_and]
    apply exists_congr
    intro schedules
    apply and_congr_right
    intro _
    cases CollectorConfig.schedulesSkipReason schedules with
    | some reason => simp [pure, Except.pure]
    | none => simp [pure, Except.pure]

omit [Unicode] in
theorem schedulesSkipReason_iff {schedules : List (CollectionClass × ScheduleConfig)} :
    CollectorConfig.schedulesSkipReason schedules = none ↔ ∀ p ∈ schedules, p.2.skipReason = none := by
  refine ⟨CollectorConfig.schedulesSkipReason_eq_none, ?_⟩
  intro h
  induction schedules with
  | nil => rfl
  | cons p schedules ih =>
    obtain ⟨hfirst, hrest⟩ := List.forall_mem_cons.mp h
    rw [CollectorConfig.schedulesSkipReason, hfirst]
    exact ih hrest

/-- The reasons of its kind. -/
theorem protocol_ready {c : CollectorConfig} {kind : CollectorKind} (ht : FilledTexts c) (hkind : buildCollector c = .ok kind) :
    (if c.protocol = lit "snmp" then c.snmpSkipReason
      else if c.protocol = lit "rest" then c.restSkipReason isFile
      else if c.protocol = lit "ssh" ∨ c.protocol = lit "cli" then c.sshSkipReason
      else some (lit "unsupported protocol: " ++ c.protocol)) = none ↔ Ready isFile c kind := by
  obtain ⟨htype, hprotocol⟩ := buildCollector_eq_ok hkind
  have hrestSnmp : ¬ lit "rest" = lit "snmp" := by decide
  have hcliSnmp : ¬ lit "cli" = lit "snmp" := by decide
  have hcliRest : ¬ lit "cli" = lit "rest" := by decide
  cases kind with
  | ddSnmp =>
    have hsnmp : c.protocol = lit "snmp" := hprotocol
    rw [hsnmp, if_pos rfl]
    exact snmp_ready ht
  | dxiCli =>
    have hcli : c.protocol = lit "cli" := hprotocol
    rw [hcli, if_neg hcliSnmp, if_neg hcliRest, if_pos (Or.inr rfl)]
    exact cli_ready ht
  | i6000Rest =>
    have hrest : c.protocol = lit "rest" := hprotocol
    rw [hrest, if_neg hrestSnmp, if_pos rfl]
    exact i6000_ready ht htype
  | networkerRest =>
    have hrest : c.protocol = lit "rest" := hprotocol
    rw [hrest, if_neg hrestSnmp, if_pos rfl]
    exact networker_ready ht htype
  | zfsRest =>
    have hrest : c.protocol = lit "rest" := hprotocol
    rw [hrest, if_neg hrestSnmp, if_pos rfl]
    exact zfs_ready ht htype

/-- **A collector that was loaded and built runs exactly when it is enabled, every number its
schedules give is in range, and what its kind needs is filled in.**  A number that a schedule
leaves to its default is in range by itself. -/
theorem loaded_ready_iff {readText : Str → Except Err Str} {raw : Obj} {c : CollectorConfig} {kind : CollectorKind}
    (h : parseCollector readText raw = .ok c) (hkind : buildCollector c = .ok kind) :
    c.skipReason isFile = .ok none ↔
      c.enabled = true ∧
      (∃ schedules, c.effectiveSchedules = .ok schedules ∧
        ∀ collectionClass s, (collectionClass, s) ∈ schedules → GivenInRange (numbersOf raw collectionClass) s) ∧
      Ready isFile c kind := by
  obtain ⟨schedules, hschedules, -, -, hvalid⟩ := loaded_schedules h
  have ht : FilledTexts c := (parseCollector_iff_loaded.mp h).filledTexts
  have hrange : CollectorConfig.schedulesSkipReason schedules = none ↔
      ∀ collectionClass s, (collectionClass, s) ∈ schedules → GivenInRange (numbersOf raw collectionClass) s := by
    rw [schedulesSkipReason_iff, Prod.forall]
    exact forall_congr' fun collectionClass => forall_congr' fun s => forall_congr' fun hs => hvalid collectionClass s hs
  rw [skipReason_iff, protocol_ready ht hkind, hschedules]
  simp only [Except.ok.injEq, exists_eq_left', hrange]

end Rest

section Dxi

attribute [local instance] Unicode.ascii

/-- The DXi entry runs, with a placeholder for a jump host that is not used. -/
theorem loaded_ready_iff_dxi : ∃ c, parseCollector dxiFiles dxiEntry = .ok c ∧ buildCollector c = .ok .dxiCli ∧
    c.enabled = true ∧ Ready (fun _ => false) c .dxiCli := by
  have hrun : (do
      let c ← parseCollector dxiFiles dxiEntry
      let kind ← buildCollector c
      let reason ← c.skipReason fun _ => false
      return (kind, reason)) = .ok (CollectorKind.dxiCli, none) := by decide +kernel
  obtain ⟨c, hc, hrun⟩ := bind_eq_ok.mp hrun
  obtain ⟨kind, hkind, hrun⟩ := bind_eq_ok.mp hrun
  obtain ⟨reason, hreason, hrun⟩ := bind_eq_ok.mp hrun
  obtain ⟨rfl, rfl⟩ := Prod.mk.inj (Except.ok.inj hrun)
  obtain ⟨henabled, -, hready⟩ := (loaded_ready_iff hc hkind).mp hreason
  exact ⟨c, hc, hkind, henabled, hready⟩

end Dxi

end BackupCollector
