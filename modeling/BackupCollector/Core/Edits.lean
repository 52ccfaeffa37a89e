/-
# Filling in a template

A deployment starts from a template that names every key an entry can have and fills in none of
them.  It is filled in step by step: a placeholder is put where nothing stood, what is left open
is deleted, a secret is moved out of the document into a file.  Whoever makes such an edit takes
for granted that the collector stays the same, and the loader is written so that it does:

* an optional text reaches the configuration through `_optional` alone, to which a missing key,
  an empty text and a placeholder are the same (`parseCollector_congr`);
* a secret that is given in the document and one that is read from a file end in the same place.

`parseCollector_edited` is the whole of it: any chain of such edits loads the same configuration,
or raises the same error.  The error is part of the statement on purpose.  A chain that only kept
configurations could turn an entry that does not load into one that loads.

Not covered: an edit of any other key, where a missing value and an empty one differ, and a file
that is changed after it was named.
-/
import BackupCollector.Core.Loader
import Mathlib.Logic.Relation

namespace BackupCollector

open Py

section Edits

variable [Unicode] {readText : Str → Except Err Str}

/-! ## 1. What an entry is read for

An optional text reaches the configuration through `optionalText` alone, and a secret through
`optionalSecret` alone. -/

/-- The keys of the optional texts. -/
def textKeys : List Str := [
  "host", "base_url", "endpoint", "ca_certs", "ssh_key_path", "ssh_known_hosts_path", "jump_host", "jump_username",
  "jump_ssh_key_path", "source_networker"]

/-- The keys of the secrets. -/
def secretKeys : List Str := ["community", "token", "username", "password"]

/-- The keys whose values a template may leave unfilled. -/
def optionalKeys : List Str := textKeys ++ secretKeys ++ secretKeys.map (· ++ lit "_file")

omit [Unicode] in
theorem getOr_congr {d d' : Obj} {key : Str} (h : Dict.get? d key = Dict.get? d' key) (default : Json) :
    getOr d key default = getOr d' key default := by
  rw [getOr, h, getOr]

omit [Unicode] in
theorem get_congr {d d' : Obj} {key : Str} (h : Dict.get? d key = Dict.get? d' key) : Obj.get d key = Obj.get d' key := by
  rw [Obj.get, h, Obj.get]

omit [Unicode] in
theorem requiredText_congr {d d' : Obj} {key : Str} (h : Dict.get? d key = Dict.get? d' key) :
    requiredText d key = requiredText d' key := by
  rw [requiredText, h, requiredText]

theorem optionalInteger_congr {d d' : Obj} {key : Str} (h : Dict.get? d key = Dict.get? d' key) :
    optionalInteger d key = optionalInteger d' key := by
  rw [optionalInteger, get_congr h, optionalInteger]

theorem parseSchedule_congr {d d' : Obj} (h : Dict.get? d "schedule" = Dict.get? d' "schedule")
    (hsecond : Dict.get? d "schedule_second" = Dict.get? d' "schedule_second") (targetType : Str) :
    parseSchedule d targetType = parseSchedule d' targetType := by
  unfold parseSchedule
  rw [h, hsecond]

/-- Entries that agree outside the optional keys, and whose optional texts and secrets come to
the same, load the same configuration. -/
theorem parseCollector_congr {raw raw' : Obj} (hplain : ∀ k, k ∉ optionalKeys → Dict.get? raw k = Dict.get? raw' k)
    (htexts : ∀ k ∈ textKeys, optionalText (Obj.get raw k) = optionalText (Obj.get raw' k))
    (hsecrets : ∀ k ∈ secretKeys, optionalSecret readText raw k = optionalSecret readText raw' k) :
    parseCollector readText raw = parseCollector readText raw' := by
  have hor : ∀ k, k ∉ optionalKeys → ∀ default, getOr raw k default = getOr raw' k default := fun k hk =>
    getOr_congr (hplain k hk)
  have hrequired : ∀ k, k ∉ optionalKeys → requiredText raw k = requiredText raw' k := fun k hk =>
    requiredText_congr (hplain k hk)
  have hinteger : ∀ k, k ∉ optionalKeys → optionalInteger raw k = optionalInteger raw' k := fun k hk =>
    optionalInteger_congr (hplain k hk)
  have hschedule : ∀ targetType, parseSchedule raw targetType = parseSchedule raw' targetType :=
    parseSchedule_congr (hplain _ (by decide)) (hplain _ (by decide))
  have hrest : Obj.get raw "rest" = Obj.get raw' "rest" := get_congr (hplain _ (by decide))
  unfold parseCollector
  simp (disch := decide) only [hor, hrequired, hinteger, hschedule, hrest, htexts, hsecrets]

/-! ## 2. Editing an entry

A template is filled in step by step: a placeholder is put where nothing stood, what is left
unfilled is deleted, a secret is moved into a file.  None of these edits changes what is
loaded. -/

/-- `_optional` makes nothing of it. -/
def isUnfilled (v : Json) : Bool :=
  match optionalText v with
  | .ok none => true
  | _ => false

theorem isUnfilled_iff {v : Json} : isUnfilled v = true ↔ optionalText v = .ok none := by
  unfold isUnfilled
  cases optionalText v with
  | error e => simp
  | ok text => cases text <;> simp

/-- An optional entry that is left unfilled. -/
def unfilledEntry (p : Str × Json) : Bool := decide (p.1 ∈ optionalKeys) && isUnfilled p.2

/-- The entry without what it leaves unfilled. -/
def filledOnly (raw : Obj) : Obj := raw.filter fun p => !unfilledEntry p

/-- A secret moved into the file at `path`. -/
def intoFile (raw : Obj) (key path : Str) : Obj := Dict.set (Dict.set raw key .null) (key ++ lit "_file") (.str path)

/-- One edit of an entry: deleting what is unfilled, leaving a key unfilled in another way, or
moving a secret into a file.  None of them changes what the entry says. -/
inductive Edit (readText : Str → Except Err Str) : Obj → Obj → Prop where
  /-- everything that is left unfilled is deleted -/
  | fillOnly (raw : Obj) : Edit readText raw (filledOnly raw)
  /-- a key that was left unfilled is left unfilled in another way -/
  | blank (raw : Obj) (key : Str) (v : Json) (optional : key ∈ optionalKeys)
      (unfilled : optionalText (Obj.get raw key) = .ok none) (stays : optionalText v = .ok none) :
      Edit readText raw (Dict.set raw key v)
  /-- a secret is moved into a file that holds it, blanks around it allowed -/
  | intoFile (raw : Obj) (key path file text secret : Str) (known : key ∈ secretKeys)
      (given : optionalText (Obj.get raw key) = .ok (some secret)) (named : optionalText (.str path) = .ok (some file))
      (read : readText file = .ok text) (same : optionalText (.str text) = .ok (some secret)) :
      Edit readText raw (intoFile raw key path)

theorem get?_filledOnly {raw : Obj} (hnodup : (Dict.keys raw).Nodup) (key : Str) :
    Dict.get? (filledOnly raw) key = (Dict.get? raw key).filter fun v => !unfilledEntry (key, v) :=
  Dict.get?_filter hnodup _ key

/-- The optional text of every key is what it was. -/
theorem optionalText_filledOnly {raw : Obj} (hnodup : (Dict.keys raw).Nodup) (key : Str) :
    optionalText (Obj.get (filledOnly raw) key) = optionalText (Obj.get raw key) := by
  unfold Obj.get
  rw [get?_filledOnly hnodup]
  cases hv : Dict.get? raw key with
  | none => rfl
  | some v =>
    by_cases hunfilled : unfilledEntry (key, v) = true
    · have hnone : optionalText v = .ok none := isUnfilled_iff.mp (Bool.and_eq_true_iff.mp hunfilled).2
      simp only [Option.filter, hunfilled, Bool.not_true, Option.getD_some, hnone]
      rfl
    · simp [Option.filter, hunfilled]

/-- Where every optional text comes to the same, so does every secret. -/
theorem optionalSecret_congr {raw raw' : Obj} {key : Str}
    (h : ∀ k, optionalText (Obj.get raw k) = optionalText (Obj.get raw' k)) :
    optionalSecret readText raw key = optionalSecret readText raw' key := by
  unfold optionalSecret
  rw [h, h]

theorem parseCollector_filledOnly {raw : Obj} (hnodup : (Dict.keys raw).Nodup) :
    parseCollector readText (filledOnly raw) = parseCollector readText raw := by
  apply parseCollector_congr
  · intro k hk
    rw [get?_filledOnly hnodup]
    cases Dict.get? raw k with
    | none => rfl
    | some v => simp [Option.filter, unfilledEntry, hk]
  · intro k _
    exact optionalText_filledOnly hnodup k
  · intro k _
    exact optionalSecret_congr (optionalText_filledOnly hnodup)

theorem parseCollector_blank {raw : Obj} {key : Str} {v : Json} (hkey : key ∈ optionalKeys)
    (hunfilled : optionalText (Obj.get raw key) = .ok none) (hstays : optionalText v = .ok none) :
    parseCollector readText (Dict.set raw key v) = parseCollector readText raw := by
  have htext : ∀ k, optionalText (Obj.get (Dict.set raw key v) k) = optionalText (Obj.get raw k) := by
    intro k
    rw [Obj.get_set]
    by_cases hk : key = k
    · subst hk
      rw [if_pos rfl, hstays, hunfilled]
    · rw [if_neg hk]
  apply parseCollector_congr
  · intro k hk
    exact Dict.get?_set_ne raw v fun h => hk (h ▸ hkey)
  · intro k _
    exact htext k
  · intro k _
    exact optionalSecret_congr htext

omit [Unicode] in
/-- The key of a secret's file is optional, and neither a text nor a secret. -/
theorem fileKey {key : Str} (hkey : key ∈ secretKeys) :
    key ++ lit "_file" ∈ optionalKeys ∧ key ++ lit "_file" ∉ textKeys ∧ key ++ lit "_file" ∉ secretKeys := by
  revert key
  decide

omit [Unicode] in
/-- A secret's key is optional and no text. -/
theorem secretKey {key : Str} (hkey : key ∈ secretKeys) : key ∈ optionalKeys ∧ key ∉ textKeys := by
  revert key
  decide

omit [Unicode] in
/-- Two secrets have two files. -/
theorem fileKey_injective {key other : Str} (h : key ++ lit "_file" = other ++ lit "_file") : key = other :=
  List.append_cancel_right h

omit [Unicode] in
theorem get_intoFile {raw : Obj} {key path k : Str} (hfile : key ++ lit "_file" ≠ k) (hkey : key ≠ k) :
    Dict.get? (intoFile raw key path) k = Dict.get? raw k := by
  unfold intoFile
  rw [Dict.get?_set_ne _ _ hfile, Dict.get?_set_ne _ _ hkey]

theorem parseCollector_intoFile {raw : Obj} {key path file text secret : Str} (hkey : key ∈ secretKeys)
    (hgiven : optionalText (Obj.get raw key) = .ok (some secret)) (hnamed : optionalText (.str path) = .ok (some file))
    (hread : readText file = .ok text) (hsame : optionalText (.str text) = .ok (some secret)) :
    parseCollector readText (intoFile raw key path) = parseCollector readText raw := by
  obtain ⟨hfileOptional, hfileText, hfileSecret⟩ := fileKey hkey
  obtain ⟨hoptional, htext⟩ := secretKey hkey
  have hother : ∀ k, key ++ lit "_file" ≠ k → key ≠ k → Obj.get (intoFile raw key path) k = Obj.get raw k := fun k hfile hk =>
    get_congr (get_intoFile hfile hk)
  apply parseCollector_congr
  · intro k hk
    exact get_intoFile (fun h => hk (h ▸ hfileOptional)) (fun h => hk (h ▸ hoptional))
  · intro k hk
    have hfile : key ++ lit "_file" ≠ k := fun h => hfileText (h ▸ hk)
    have hdiffers : key ≠ k := fun h => htext (h ▸ hk)
    rw [hother k hfile hdiffers]
  · intro k hk
    unfold optionalSecret
    by_cases hsecret : key = k
    · -- the key itself is empty now, its file holds what it had
      subst hsecret
      have hkeyText : optionalText (Obj.get (intoFile raw key path) key) = .ok none := by
        unfold intoFile
        have hdiffers : ¬ key ++ lit "_file" = key := fun h => hfileSecret (h.symm ▸ hkey)
        rw [Obj.get_set, if_neg hdiffers, Obj.get_set, if_pos rfl]
        rfl
      have hpath : Obj.get (intoFile raw key path) (key ++ lit "_file") = .str path := by
        unfold intoFile
        rw [Obj.get_set, if_pos rfl]
      rw [hkeyText, hpath, hnamed, hgiven]
      change (do
        let text ← readText file
        optionalText (.str text)) = .ok (some secret)
      rw [hread]
      exact hsame
    · rw [hother k (fun h => hfileSecret (h ▸ hk)) hsecret,
        hother (k ++ lit "_file") (fun h => hsecret (fileKey_injective h)) fun h => (fileKey hk).2.2 (h ▸ hkey)]

/-- An edit keeps the keys of an entry distinct. -/
theorem Edit.nodup {raw raw' : Obj} (h : Edit readText raw raw') (hnodup : (Dict.keys raw).Nodup) :
    (Dict.keys raw').Nodup := by
  cases h with
  | fillOnly => exact hnodup.sublist (List.filter_sublist.map Prod.fst)
  | blank key v => exact Dict.nodup_keys_set hnodup key v
  | intoFile key path => exact Dict.nodup_keys_set (Dict.nodup_keys_set hnodup key .null) (key ++ lit "_file") (.str path)

/-- One edit loads the same collector. -/
theorem Edit.parseCollector_eq {raw raw' : Obj} (h : Edit readText raw raw') (hnodup : (Dict.keys raw).Nodup) :
    parseCollector readText raw' = parseCollector readText raw := by
  cases h with
  | fillOnly => exact parseCollector_filledOnly hnodup
  | blank key v optional unfilled stays => exact parseCollector_blank optional unfilled stays
  | intoFile key path file text secret known given named read same =>
    exact parseCollector_intoFile known given named read same

/-- **However an entry is edited, the same collector is loaded from it, or the same error raised.**
An edit is one of those listed above; editing the value of a setting is none. -/
theorem parseCollector_edited {raw raw' : Obj} (hnodup : (Dict.keys raw).Nodup)
    (h : Relation.ReflTransGen (Edit readText) raw raw') :
    parseCollector readText raw' = parseCollector readText raw := by
  have hboth : parseCollector readText raw' = parseCollector readText raw ∧ (Dict.keys raw').Nodup := by
    induction h with
    | refl => exact ⟨rfl, hnodup⟩
    | tail _ hstep ih =>
      obtain ⟨hsame, hdistinct⟩ := ih
      exact ⟨(hstep.parseCollector_eq hdistinct).trans hsame, hstep.nodup hdistinct⟩
  exact hboth.1

end Edits

section Edited

attribute [local instance] Unicode.ascii

/-- A DXi entry with its password in the document and its jump host left to be filled in. -/
def dxiEntry : Obj := [
  ("name", .str "DXi_1"), ("type", .str "DXi"), ("protocol", .str "cli"), ("host", .str "192.0.2.10"),
  ("username", .str "dxi-user"), ("password", .str "s3cret"), ("jump_host", .str "DXi_1_jump_host_TO_BE_FILLED"),
  ("commands", .obj [("status", .str "show status")])]

/-- The file its password is moved to. -/
def dxiFiles (path : Str) : Except Err Str :=
  if path = lit "/apps/secrets/dxi" then .ok "s3cret\n" else .error ⟨.other, "No such file or directory"⟩

/-- With the password in a file and the placeholder deleted the same collector is loaded. -/
theorem parseCollector_edited_dxi :
    parseCollector dxiFiles (filledOnly (intoFile dxiEntry "password" "/apps/secrets/dxi")) = parseCollector dxiFiles dxiEntry ∧
      (parseCollector dxiFiles dxiEntry).isOk = true ∧
        filledOnly (intoFile dxiEntry "password" "/apps/secrets/dxi") ≠ dxiEntry := by
  have hmoved : Edit dxiFiles dxiEntry (intoFile dxiEntry "password" "/apps/secrets/dxi") :=
    .intoFile _ _ _ "/apps/secrets/dxi" "s3cret\n" "s3cret" (by decide) (by decide +kernel) (by decide +kernel)
      (by decide +kernel) (by decide +kernel)
  refine ⟨parseCollector_edited (by decide) ((Relation.ReflTransGen.single hmoved).tail (.fillOnly _)), ?_, ?_⟩
  · decide +kernel
  · decide +kernel

end Edited

end BackupCollector
