-- Which tenants share a journal. The name of a file shows the letters, digits and
-- hyphens of a tenant id and has an underscore for every other character, so tenants
-- whose ids look alike there have one file. Whatever is appended, a journal gets the lines
-- of the events of such tenants and no others.
import Mathlib
import ReplayEvidence.Proofs.Audit.Journals
import ReplayEvidence.Proofs.Text.Padding

namespace ReplayEvidence.Journal

open FileTree (Grows join join_eq_append follow_join follow_of_grows)

/-! ## Ids in a file name -/

/-- A character that a file name shows as it is. -/
def shows (c : Char) : Bool := c.isAlphanum || c = '-'

/-- Two characters have one look: they are the same, or no file name shows them. -/
def SameLook (c d : Char) : Prop := c = d ∨ (shows c = false ∧ shows d = false)

/-- An id from the first to the last of its characters that a file name shows. -/
def core (cs : List Char) : List Char :=
  ((cs.dropWhile (!shows ·)).reverse.dropWhile (!shows ·)).reverse

/-- Two tenant ids look alike in a file name: between the characters at their ends that
no file name shows, they have one look place by place. -/
def LookAlike (t u : String) : Prop := List.Forall₂ SameLook (core t.toList) (core u.toList)

theorem safeChar_eq_ite (c : Char) : safeChar c = if shows c then c else '_' := by
  unfold safeChar shows
  by_cases hunderscore : c = '_'
  · subst hunderscore
    rfl
  · simp [hunderscore]

theorem safeChar_eq_underscore_iff {c : Char} : safeChar c = '_' ↔ shows c = false := by
  rw [safeChar_eq_ite]
  rcases hshows : shows c
  · simp
  · simp only [if_true, reduceCtorEq, iff_false]
    rintro rfl
    cases hshows

theorem safeChar_eq_iff {c d : Char} : safeChar c = safeChar d ↔ SameLook c d := by
  unfold SameLook
  rcases hc : shows c
  · rw [safeChar_eq_underscore_iff.2 hc, eq_comm, safeChar_eq_underscore_iff]
    constructor
    · exact fun hd => .inr ⟨rfl, hd⟩
    · rintro (rfl | ⟨-, hd⟩)
      · exact hc
      · exact hd
  · rcases hd : shows d
    · rw [safeChar_eq_underscore_iff.2 hd, safeChar_eq_underscore_iff, hc]
      simp only [reduceCtorEq, false_and, or_false, false_iff]
      rintro rfl
      rw [hc] at hd
      cases hd
    · simp [safeChar_eq_ite, hc, hd]

/-- Trimming what a file name shows of an id leaves what it shows of the core. -/
theorem trimUnderscores_map (cs : List Char) :
    trimUnderscores (cs.map safeChar) = (core cs).map safeChar := by
  have hdrop (ds : List Char) : (ds.map safeChar).dropWhile (· = '_') =
      (ds.dropWhile (!shows ·)).map safeChar := by
    rw [List.dropWhile_map]
    congr 2
    funext c
    simp [safeChar_eq_underscore_iff]
  unfold trimUnderscores core
  rw [hdrop, ← List.map_reverse, hdrop, ← List.map_reverse]

theorem lookAlike_iff {t u : String} :
    LookAlike t u ↔ (core t.toList).map safeChar = (core u.toList).map safeChar := by
  unfold LookAlike
  rw [← List.forall₂_eq_eq_eq, List.forall₂_map_left_iff, List.forall₂_map_right_iff]
  simp only [safeChar_eq_iff]

instance (t u : String) : Decidable (LookAlike t u) := decidable_of_iff _ lookAlike_iff.symm

theorem toList_of_stem {tenant stem : String} (h : stem? tenant = some stem) :
    stem.toList = (core tenant.toList).map safeChar := by
  unfold stem? at h
  rw [trimUnderscores_map] at h
  split at h
  · cases h
  · cases h
    rw [String.toList_ofList]

theorem stem_eq_iff {t u s r : String} (ht : stem? t = some s) (hu : stem? u = some r) :
    s = r ↔ LookAlike t u := by
  rw [lookAlike_iff, ← toList_of_stem ht, ← toList_of_stem hu, String.toList_inj]

/-! ## Plain ids -/

/-- The id without the white space at its ends can be a file stem as it stands: it holds
letters, digits, hyphens and underscores only, and has no underscore at an end. -/
structure Plain (tenant : String) : Prop where
  safe : ∀ c ∈ Text.trimChars tenant.toList, shows c = true ∨ c = '_'
  first : (Text.trimChars tenant.toList).head? ≠ some '_'
  last : (Text.trimChars tenant.toList).getLast? ≠ some '_'

instance (tenant : String) : Decidable (Plain tenant) :=
  decidable_of_iff
    ((Text.trimChars tenant.toList).all (fun c => shows c || c == '_') = true ∧
      (Text.trimChars tenant.toList).head? ≠ some '_' ∧
      (Text.trimChars tenant.toList).getLast? ≠ some '_') <| by
    simp only [List.all_eq_true, Bool.or_eq_true, beq_iff_eq]
    exact ⟨fun ⟨hsafe, hfirst, hlast⟩ => ⟨hsafe, hfirst, hlast⟩,
      fun h => ⟨h.safe, h.first, h.last⟩⟩

theorem shows_eq_false_of_isSpace {c : Char} (h : Text.isSpace c = true) : shows c = false := by
  rcases hshows : shows c
  · rfl
  · have hrange : c.toNat = 45 ∨ (48 ≤ c.toNat ∧ c.toNat ≤ 57) ∨ (65 ≤ c.toNat ∧ c.toNat ≤ 90) ∨
        (97 ≤ c.toNat ∧ c.toNat ≤ 122) := by
      simp only [shows, Char.isAlphanum, Char.isAlpha, Char.isUpper, Char.isLower, Char.isDigit,
        Bool.or_eq_true, Bool.and_eq_true, decide_eq_true_eq] at hshows
      rcases hshows with ((hupper | hlower) | hdigit) | rfl
      · exact .inr (.inr (.inl hupper))
      · exact .inr (.inr (.inr hlower))
      · exact .inr (.inl hdigit)
      · exact .inl rfl
    simp only [Text.isSpace, Bool.or_eq_true, Bool.and_eq_true, decide_eq_true_eq,
      beq_iff_eq] at h
    omega

theorem dropWhile_hidden {hidden rest : List Char} (h : ∀ c ∈ hidden, shows c = false)
    (hrest : ∀ c, rest.head? = some c → shows c = true) :
    (hidden ++ rest).dropWhile (!shows ·) = rest := by
  rw [List.dropWhile_append_of_pos (by simpa using h)]
  cases rest with
  | nil => rfl
  | cons c rest => exact List.dropWhile_cons_of_neg (by simp [hrest c rfl])

/-- The core lies between characters that no file name shows. -/
theorem core_append {before middle after : List Char} (hbefore : ∀ c ∈ before, shows c = false)
    (hafter : ∀ c ∈ after, shows c = false) (hfirst : ∀ c, middle.head? = some c → shows c = true)
    (hlast : ∀ c, middle.getLast? = some c → shows c = true) :
    core (before ++ middle ++ after) = middle := by
  unfold core
  cases middle with
  | nil =>
    have hall : ∀ c ∈ before ++ [] ++ after, shows c = false := by
      intro c hc
      rw [List.append_nil, List.mem_append] at hc
      exact hc.elim (hbefore c) (hafter c)
    have hnone : (before ++ [] ++ after ++ []).dropWhile (!shows ·) = [] :=
      dropWhile_hidden hall nofun
    rw [List.append_nil] at hnone
    rw [hnone]
    rfl
  | cons c middle =>
    have hfront : ∀ d, (c :: middle ++ after).head? = some d → shows d = true := by
      rintro _ ⟨⟩
      exact hfirst c rfl
    rw [List.append_assoc, dropWhile_hidden hbefore hfront, List.reverse_append,
      dropWhile_hidden (by simpa using hafter) (by simpa only [List.head?_reverse] using hlast),
      List.reverse_reverse]

/-- Of a plain id a file name shows all but the white space at its ends. -/
theorem Plain.core_eq {tenant : String} (h : Plain tenant) :
    core tenant.toList = Text.trimChars tenant.toList := by
  obtain ⟨before, after, hcs, hbefore, hafter⟩ := Text.trimChars_between tenant.toList
  have hend (c : Char) (hmem : c ∈ Text.trimChars tenant.toList) (hne : c ≠ '_') :
      shows c = true := (h.safe c hmem).resolve_right hne
  have hcore := core_append (fun c hc => shows_eq_false_of_isSpace (hbefore c hc))
    (fun c hc => shows_eq_false_of_isSpace (hafter c hc))
    (fun c hc => hend c (List.mem_of_head? hc) (by rintro rfl; exact h.first hc))
    (fun c hc => hend c (List.mem_of_getLast? hc) (by rintro rfl; exact h.last hc))
  rwa [← hcs] at hcore

theorem SameLook.eq {c d : Char} (h : SameLook c d) (hc : shows c = true ∨ c = '_')
    (hd : shows d = true ∨ d = '_') : c = d := by
  rcases h with rfl | ⟨hnc, hnd⟩
  · rfl
  · rw [hc.resolve_left (by simp [hnc]), hd.resolve_left (by simp [hnd])]

theorem eq_of_sameLook {cs ds : List Char} (h : List.Forall₂ SameLook cs ds)
    (hcs : ∀ c ∈ cs, shows c = true ∨ c = '_') (hds : ∀ d ∈ ds, shows d = true ∨ d = '_') :
    cs = ds := by
  induction h with
  | nil => rfl
  | cons hlook _ ih =>
    rw [List.forall_mem_cons] at hcs hds
    rw [hlook.eq hcs.1 hds.1, ih hcs.2 hds.2]

/-- Plain ids look alike exactly when they are one id but for the white space at their ends. -/
theorem Plain.lookAlike_iff {t u : String} (ht : Plain t) (hu : Plain u) :
    LookAlike t u ↔ Text.trim t = Text.trim u := by
  unfold LookAlike Text.trim
  rw [String.ofList_inj, ht.core_eq, hu.core_eq]
  constructor
  · exact fun h => eq_of_sameLook h ht.safe hu.safe
  · intro h
    rw [h, List.forall₂_same]
    exact fun c _ => .inl rfl

/-! ## Files of their own -/

section

variable {config : JournalConfig} {t u p q : String}

theorem journalPath_inj {s r : String} :
    journalPath config s = journalPath config r ↔ s = r := by
  unfold journalPath
  constructor
  · intro h
    rw [join_eq_append, join_eq_append config.dir (r ++ suffix)] at h
    have hnames := congrArg String.toList h
    simp only [String.toList_append] at hnames
    exact String.toList_inj.1 (List.append_cancel_right (List.append_cancel_left hnames))
  · rintro rfl
    rfl

/-- Two tenants have one journal exactly when their ids look alike. -/
theorem path_eq_iff (hp : pathFor config t = .ok p) (hq : pathFor config u = .ok q) :
    p = q ↔ LookAlike t u := by
  obtain ⟨s, hs, rfl⟩ := pathFor_eq_ok.1 hp
  obtain ⟨r, hr, rfl⟩ := pathFor_eq_ok.1 hq
  rw [journalPath_inj, stem_eq_iff hs hr]

/-- Journals of different names are different files, wherever their directory leads. -/
theorem path_eq_of_follow (hp : pathFor config t = .ok p) (hq : pathFor config u = .ok q)
    {tree : FileTree} {name : List String} (hfollow : tree.follow p = .ok name)
    (hsame : tree.follow q = .ok name) : p = q := by
  obtain ⟨s, hs, rfl⟩ := pathFor_eq_ok.1 hp
  obtain ⟨r, hr, rfl⟩ := pathFor_eq_ok.1 hq
  obtain ⟨here, -, rfl⟩ := follow_join (isName_of_stem hs) hfollow
  obtain ⟨there, -, hname⟩ := follow_join (isName_of_stem hr) hsame
  have hlast := List.singleton_inj.1 (List.append_inj_right' hname rfl)
  rw [journalPath, journalPath, hlast]

end

/-! ## Runs of appends -/

/-- The events of a run that were taken and whose tenant looks like a tenant. -/
def takenLike (tenant : String) (events : List AuditEvent) (answers : List Taken) :
    List AuditEvent :=
  ((events.zip answers).filter fun x => x.2.isOk && decide (LookAlike x.1.tenant tenant)).map
    Prod.fst

theorem takenLike_cons (tenant : String) (event : AuditEvent) (events : List AuditEvent)
    (answer : Taken) (answers : List Taken) :
    takenLike tenant (event :: events) (answer :: answers) =
      (if answer.isOk = true ∧ LookAlike event.tenant tenant then [event] else []) ++
        takenLike tenant events answers := by
  unfold takenLike
  rw [List.zip_cons_cons, List.filter_cons]
  split <;> simp_all

theorem lookAlike_of_mem_takenLike {tenant : String} {events : List AuditEvent}
    {answers : List Taken} {event : AuditEvent} (h : event ∈ takenLike tenant events answers) :
    event ∈ events ∧ LookAlike event.tenant tenant := by
  obtain ⟨⟨e, answer⟩, hmem, rfl⟩ := List.mem_map.1 h
  obtain ⟨hzip, htest⟩ := List.mem_filter.1 hmem
  rw [Bool.and_eq_true, decide_eq_true_eq] at htest
  exact ⟨(List.of_mem_zip hzip).1, htest.2⟩

section

variable {config : JournalConfig} {event : AuditEvent} {t after : FileTree} {answer : Taken}

theorem grows_of_append (h : (sink Store.tree config).append event t = (answer, after)) :
    Grows t after := by
  rcases append_cases h with ⟨-, rfl⟩ | ⟨stem, -, -, happend⟩ | ⟨_, -, rfl⟩
  · exact .refl _
  · obtain ⟨_, -, hext⟩ := FileTree.extends_append happend
    exact (kept_opened config t).toGrows.trans hext.toGrows
  · exact (kept_opened config t).toGrows

theorem grows_of_appendAll {events : List AuditEvent} {answers : List Taken}
    (h : (sink Store.tree config).appendAll events t = (answers, after)) : Grows t after := by
  induction events generalizing t answers with
  | nil =>
    cases h
    exact .refl _
  | cons event events ih =>
    obtain ⟨_, mid, _, hfirst, hrest, rfl⟩ := appendAll_cons h
    exact (grows_of_append hfirst).trans (ih hrest)

/-- An append adds its line to the file of a tenant exactly when the event is taken and its
tenant looks like that one. The file may be looked up in any later tree. -/
theorem content_of_append (h : (sink Store.tree config).append event t = (answer, after))
    {last : FileTree} (hlast : Grows after last) {tenant path : String}
    (hpath : pathFor config tenant = .ok path) {name : List String}
    (hname : last.follow path = .ok name) :
    (after.fileAt name).map Prod.snd = extended ((t.fileAt name).map Prod.snd)
      (if answer.isOk = true ∧ LookAlike event.tenant tenant then [event] else []) := by
  have hopened := (kept_opened config t).fileAt
  rcases append_cases h with ⟨hrefused, rfl⟩ | ⟨stem, hfiled, rfl, happend⟩ | ⟨_, rfl, rfl⟩
  · have hanswer : answer.isOk = false := by
      rcases hrefused <;> rfl
    rw [if_neg (by simp [hanswer])]
    rfl
  · obtain ⟨own, hown, hext⟩ := FileTree.extends_append happend
    have hownPath : pathFor config event.tenant = .ok (journalPath config stem) :=
      pathFor_eq_ok.2 ⟨stem, stem?_of_stemOf? hfiled, rfl⟩
    have hownLast : last.follow (journalPath config stem) = .ok own :=
      follow_of_grows (hext.toGrows.trans hlast) hown
    by_cases hlook : LookAlike event.tenant tenant
    · obtain rfl := (path_eq_iff hownPath hpath).2 hlook
      cases hname.symm.trans hownLast
      rw [if_pos ⟨rfl, hlook⟩, hext.extended, hopened]
      simp [extended]
    · have hother : name ≠ own := by
        rintro rfl
        exact hlook ((path_eq_iff hownPath hpath).1
          (path_eq_of_follow hownPath hpath hownLast hname))
      rw [if_neg (by simp [hlook]), hext.others name hother, hopened]
      rfl
  · rw [if_neg (by simp [Except.isOk, Except.toBool]), hopened]
    rfl

/-- A run adds to the file of a tenant the lines of the events that were taken and whose tenant
looks like it, in order. -/
theorem content_of_appendAll {events : List AuditEvent} {answers : List Taken}
    (h : (sink Store.tree config).appendAll events t = (answers, after))
    {tenant path : String} (hpath : pathFor config tenant = .ok path) {name : List String}
    (hname : after.follow path = .ok name) :
    (after.fileAt name).map Prod.snd =
      extended ((t.fileAt name).map Prod.snd) (takenLike tenant events answers) := by
  induction events generalizing t answers with
  | nil =>
    cases h
    rfl
  | cons event events ih =>
    obtain ⟨_, mid, _, hfirst, hrest, rfl⟩ := appendAll_cons h
    rw [takenLike_cons, ← extended_append, ih hrest,
      content_of_append hfirst (grows_of_appendAll hrest) hpath hname]

end

theorem exists_read_of_fileAt {tree : FileTree} {path : String} {name : List String}
    {content : List UInt8} (hname : tree.follow path = .ok name)
    (h : (tree.fileAt name).map Prod.snd = some content) :
    ∃ bytes, tree.read path = .ok bytes ∧ bytes.data.toList = content := by
  refine ⟨⟨content.toArray⟩, FileTree.read_eq_ok_iff.2 ?_, rfl⟩
  rw [FileTree.content?, hname]
  exact h

/-! ## The law -/

/-- Two tenants that can have journals share one exactly when their ids look alike, in any tree;
so plain ids that are two ids but for white space at their ends never do. After any run of
appends, whatever tree it found and whichever directories could not be made or files not be added
to, the journal of a tenant holds what it held and after that the lines of the events that were
taken and whose tenant looks like it. (The tree adds all bytes of a line or none: a write that
stops halfway is not among the failures.) So among plain ids it gets events of its own tenant
only. -/
theorem tenants_share_a_journal_exactly_when_they_look_alike (config : JournalConfig) :
    (∀ t u p q, pathFor config t = .ok p → pathFor config u = .ok q →
      (p = q ↔ LookAlike t u) ∧
      (∀ (tree : FileTree) name, tree.follow p = .ok name → tree.follow q = .ok name →
        LookAlike t u) ∧
      (Plain t → Plain u → Text.trim t ≠ Text.trim u → p ≠ q)) ∧
    ∀ events t answers after, (sink Store.tree config).appendAll events t = (answers, after) →
      ∀ tenant path name, pathFor config tenant = .ok path → after.follow path = .ok name →
        (after.fileAt name).map Prod.snd =
          extended ((t.fileAt name).map Prod.snd) (takenLike tenant events answers) ∧
        (Plain tenant → (∀ e ∈ events, Plain e.tenant) →
          ∀ e ∈ takenLike tenant events answers, Text.trim e.tenant = Text.trim tenant) := by
  constructor
  · intro t u p q hp hq
    refine ⟨path_eq_iff hp hq, ?_, ?_⟩
    · intro tree name hfollow hsame
      exact (path_eq_iff hp hq).1 (path_eq_of_follow hp hq hfollow hsame)
    · intro ht hu hne heq
      exact hne ((ht.lookAlike_iff hu).1 ((path_eq_iff hp hq).1 heq))
  · intro events t answers after hrun tenant path name hpath hname
    refine ⟨content_of_appendAll hrun hpath hname, ?_⟩
    intro htenant hevents e he
    obtain ⟨hmem, hlook⟩ := lookAlike_of_mem_takenLike he
    exact ((hevents e hmem).lookAlike_iff htenant).1 hlook

/-- Events of two plain tenants, one of them with white space around its id, with one of no
valid time between them. -/
def plainEvents : List AuditEvent :=
  [denied "tenant-a" "alice", denied "tenant_b" "carol",
    { denied "tenant-a" "bob" with timestamp := -1 }, denied "\u3000tenant-a " "dave"]

theorem plain_tenants_keep_journals_of_their_own :
    journalPath .standard "tenant-a" ≠ journalPath .standard "tenant_b" ∧
      ∃ answers after, (sink Store.tree .standard).appendAll plainEvents .empty = (answers, after) ∧
        (after.fileAt ["replay-audit", "tenant-a.replay-audit.jsonl"]).map Prod.snd =
          some ([denied "tenant-a" "alice", denied "\u3000tenant-a " "dave"].flatMap line) ∧
        ∀ e ∈ takenLike "tenant-a" plainEvents answers, Text.trim e.tenant = "tenant-a" := by
  obtain ⟨hpaths, hruns⟩ := tenants_share_a_journal_exactly_when_they_look_alike .standard
  have hfirst : Plain "tenant-a" := by decide
  have hsecond : Plain "tenant_b" := by decide
  have hplain : ∀ e ∈ plainEvents, Plain e.tenant := by
    simp only [plainEvents, List.forall_mem_cons, List.not_mem_nil, false_implies, implies_true]
    exact ⟨hfirst, hsecond, hfirst, by decide, trivial⟩
  have hpath : pathFor .standard "tenant-a" = .ok (journalPath .standard "tenant-a") :=
    pathFor_eq_ok.2 ⟨_, by decide, rfl⟩
  have hother : pathFor .standard "tenant_b" = .ok (journalPath .standard "tenant_b") :=
    pathFor_eq_ok.2 ⟨_, by decide, rfl⟩
  obtain ⟨-, -, hdiffer⟩ := hpaths _ _ _ _ hpath hother
  refine ⟨hdiffer hfirst hsecond (by decide), ?_⟩
  have hname : ((sink Store.tree .standard).appendAll plainEvents .empty).2.follow
      (journalPath .standard "tenant-a") =
        .ok ["replay-audit", "tenant-a.replay-audit.jsonl"] := by decide +kernel
  have htaken : takenLike "tenant-a" plainEvents
      ((sink Store.tree .standard).appendAll plainEvents .empty).1 =
        [denied "tenant-a" "alice", denied "\u3000tenant-a " "dave"] := by decide +kernel
  have hfresh : FileTree.empty.fileAt ["replay-audit", "tenant-a.replay-audit.jsonl"] = none := rfl
  rcases hrun : (sink Store.tree .standard).appendAll plainEvents .empty with ⟨answers, after⟩
  rw [hrun] at hname htaken
  obtain ⟨hcontent, hown⟩ := hruns _ _ _ _ hrun _ _ _ hpath hname
  refine ⟨answers, after, rfl, ?_, ?_⟩
  · rw [hcontent, htaken, hfresh, Option.map_none, extended_none (by simp)]
  · intro e he
    rw [hown hfirst hplain e he]
    decide

/-- Events of two tenants whose ids differ by more than white space at their ends. -/
def alikeEvents : List AuditEvent := [denied "tenant a" "alice", denied "tenant_a" "bob"]

/-- Such tenants can share a journal: it holds the events of both. -/
theorem a_journal_can_hold_events_of_two_tenants :
    Text.trim "tenant a" ≠ Text.trim "tenant_a" ∧
      ∃ path, pathFor .standard "tenant a" = .ok path ∧ pathFor .standard "tenant_a" = .ok path ∧
        ∃ answers after bytes,
          (sink Store.tree .standard).appendAll alikeEvents .empty = (answers, after) ∧
          after.read path = .ok bytes ∧
          bytes.data.toList =
            line (denied "tenant a" "alice") ++ line (denied "tenant_a" "bob") := by
  have hpath : pathFor .standard "tenant_a" = .ok (journalPath .standard "tenant_a") :=
    pathFor_eq_ok.2 ⟨_, by decide, rfl⟩
  have hsame : pathFor .standard "tenant a" = .ok (journalPath .standard "tenant_a") :=
    pathFor_eq_ok.2 ⟨_, by decide, rfl⟩
  have hname : ((sink Store.tree .standard).appendAll alikeEvents .empty).2.follow
      (journalPath .standard "tenant_a") =
        .ok ["replay-audit", "tenant_a.replay-audit.jsonl"] := by decide +kernel
  have htaken : takenLike "tenant_a" alikeEvents
      ((sink Store.tree .standard).appendAll alikeEvents .empty).1 = alikeEvents := by
    decide +kernel
  have hfresh : FileTree.empty.fileAt ["replay-audit", "tenant_a.replay-audit.jsonl"] = none := rfl
  rcases hrun : (sink Store.tree .standard).appendAll alikeEvents .empty with ⟨answers, after⟩
  rw [hrun] at hname htaken
  have hcontent := content_of_appendAll hrun hpath hname
  rw [htaken, hfresh, Option.map_none, extended_none (by simp [alikeEvents])] at hcontent
  obtain ⟨bytes, hread, hbytes⟩ := exists_read_of_fileAt hname hcontent
  refine ⟨by decide, _, hsame, hpath, answers, after, bytes, rfl, hread, ?_⟩
  rw [hbytes, alikeEvents, List.flatMap_cons, List.flatMap_cons, List.flatMap_nil, List.append_nil]

end ReplayEvidence.Journal
