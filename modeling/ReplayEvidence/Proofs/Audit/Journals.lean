-- What the journals hold after events were appended one after the other. Each
-- append adds one line to one file, and no line holds a line break, so a
-- journal is cut into its lines again and each line reads back as its event.
import ReplayEvidence.Audit.Journal
import ReplayEvidence.Proofs.Audit.FileTrees
import ReplayEvidence.Proofs.Wire.Schemas

namespace ReplayEvidence

/-- Events handed to a sink one after the other, and what it said to each. -/
def Sink.appendAll {σ : Type} (sink : Sink σ) : List AuditEvent → StateM σ (List Taken)
  | [] => return []
  | event :: events => do
    let taken ← sink.append event
    let others ← sink.appendAll events
    return taken :: others

namespace Journal

open FileTree (Kept Extends Opens IsName join)

/-! ## Stems -/

theorem mem_of_mem_trimUnderscores {c : Char} {cs : List Char} (h : c ∈ trimUnderscores cs) :
    c ∈ cs := by
  have hfront := (List.dropWhile_sublist _).subset (List.mem_reverse.1 h)
  exact (List.dropWhile_sublist _).subset (List.mem_reverse.1 hfront)

theorem safeChar_ne_slash (c : Char) : safeChar c ≠ '/' := by
  unfold safeChar
  split
  · rintro rfl
    contradiction
  · decide

theorem slash_notMem_of_stem {tenant stem : String} (h : stem? tenant = some stem) :
    '/' ∉ stem.toList := by
  intro hslash
  have hstem : stem.toList = trimUnderscores (tenant.toList.map safeChar) := by
    unfold stem? at h
    split at h
    · cases h
    · cases h
      exact String.toList_ofList
  rw [hstem] at hslash
  obtain ⟨c, -, hc⟩ := List.mem_map.1 (mem_of_mem_trimUnderscores hslash)
  exact safeChar_ne_slash c hc

/-- The file of a stem is one thing in the directory. -/
theorem isName_of_stem {tenant stem : String} (h : stem? tenant = some stem) :
    IsName (stem ++ suffix) :=
  .append (slash_notMem_of_stem h) (by decide) (by decide)

/-! ## One append to any store -/

/-- The path of the journal of a stem. -/
def journalPath (config : JournalConfig) (stem : String) : String :=
  join config.dir (stem ++ suffix)

/-- The stem that an event is filed under, when it can be filed. -/
def stemOf? (event : AuditEvent) : Option String :=
  match event.validate with
  | .ok () => stem? event.tenant
  | .error _ => none

section

variable {σ : Type} {store : Store σ} {config : JournalConfig} {event : AuditEvent} {s after : σ}
  {answer : Taken}

/-- What an event that is not valid, or whose tenant names no file, is refused with. -/
inductive Refused (event : AuditEvent) : Taken → Prop
  | invalidEvent {e : ValidationError} (h : event.validate = .error e) :
    Refused event (.error (.invalidEvent e))
  | invalidTenant (hvalid : event.validate = .ok ()) (hstem : stem? event.tenant = none) :
    Refused event (.error (.invalidTenant event.tenant))

/-- What an append to a store comes to. An event that is refused leaves the store alone. For any
other the directory is made and, if that succeeded, its line is added to the journal of its stem;
the event is taken when both succeeded. -/
inductive Appends (store : Store σ) (config : JournalConfig) (event : AuditEvent) (s : σ) :
    Taken → σ → Prop
  | refused {answer : Taken} (h : Refused event answer) : Appends store config event s answer s
  | noDir {stem : String} {made : σ} (hstem : stemOf? event = some stem)
    (hdir : store.ensureDir config.dir config.dirMode s = (false, made)) :
    Appends store config event s (.error (.io config.dir)) made
  | noLine {stem : String} {made after : σ} (hstem : stemOf? event = some stem)
    (hdir : store.ensureDir config.dir config.dirMode s = (true, made))
    (hline : store.append (journalPath config stem) config.fileMode (line event) made =
      (false, after)) :
    Appends store config event s (.error (.io (journalPath config stem))) after
  | taken {stem : String} {made after : σ} (hstem : stemOf? event = some stem)
    (hdir : store.ensureDir config.dir config.dirMode s = (true, made))
    (hline : store.append (journalPath config stem) config.fileMode (line event) made =
      (true, after)) :
    Appends store config event s (.ok ()) after

theorem Refused.stemOf? (h : Refused event answer) : stemOf? event = none := by
  unfold Journal.stemOf?
  cases h with
  | invalidEvent h => rw [h]
  | invalidTenant hvalid hstem => rw [hvalid, hstem]

theorem stem?_of_stemOf? {stem : String} (h : stemOf? event = some stem) :
    stem? event.tenant = some stem := by
  unfold stemOf? at h
  split at h
  · exact h
  · cases h

theorem appends (h : (sink store config).append event s = (answer, after)) :
    Appends store config event s answer after := by
  rcases hvalid : event.validate with e | ⟨⟩
  · simp only [sink, hvalid] at h
    cases h
    exact .refused (.invalidEvent hvalid)
  · rcases hstem : stem? event.tenant with _ | stem
    · simp only [sink, hvalid, pathFor, hstem] at h
      cases h
      exact .refused (.invalidTenant hvalid hstem)
    · have hown : stemOf? event = some stem := by rw [stemOf?, hvalid, hstem]
      simp only [sink, hvalid, pathFor, hstem, write, bind, StateT.bind] at h
      rcases hdir : store.ensureDir config.dir config.dirMode s with ⟨_ | _, made⟩
      · rw [hdir] at h
        cases h
        exact .noDir hown hdir
      · rw [hdir] at h
        rcases hline : store.append (journalPath config stem) config.fileMode (line event) made with
          ⟨_ | _, last⟩
        · rw [journalPath] at hline
          simp only [if_true, bind, StateT.bind, hline] at h
          cases h
          exact .noLine hown hdir hline
        · rw [journalPath] at hline
          simp only [if_true, bind, StateT.bind, hline] at h
          cases h
          exact .taken hown hdir hline

/-! ## File operations that succeed -/

/-- Whether every file operation that some events ask for succeeds, one event after the other.
An event that cannot be filed asks for none. -/
def succeeds (store : Store σ) (config : JournalConfig) : List AuditEvent → σ → Bool
  | [], _ => true
  | event :: events, s =>
    match stemOf? event with
    | none => succeeds store config events s
    | some stem =>
      match store.ensureDir config.dir config.dirMode s with
      | (false, _) => false
      | (true, made) =>
        match store.append (journalPath config stem) config.fileMode (line event) made with
        | (false, _) => false
        | (true, after) => succeeds store config events after

/-- What an event is answered when no file operation fails: it is refused, or taken when it can
be filed. -/
def Due (event : AuditEvent) (answer : Taken) : Prop :=
  match stemOf? event with
  | none => Refused event answer
  | some _ => answer = .ok ()

/-- Where the file operations succeed, an event is answered as is due, and those of the other
events succeed after it. -/
theorem due_of_succeeds {events : List AuditEvent}
    (hsucceeds : succeeds store config (event :: events) s = true)
    (h : (sink store config).append event s = (answer, after)) :
    Due event answer ∧ succeeds store config events after = true := by
  unfold succeeds at hsucceeds
  unfold Due
  cases appends h with
  | refused hrefused =>
    rw [hrefused.stemOf?] at hsucceeds ⊢
    exact ⟨hrefused, hsucceeds⟩
  | noDir hstem hdir =>
    simp only [hstem, hdir, Bool.false_eq_true] at hsucceeds
  | noLine hstem hdir hline =>
    simp only [hstem, hdir, hline, Bool.false_eq_true] at hsucceeds
  | taken hstem hdir hline =>
    simp only [hstem, hdir, hline] at hsucceeds ⊢
    exact ⟨trivial, hsucceeds⟩

theorem appendAll_cons {events : List AuditEvent} {answers : List Taken}
    (h : (sink store config).appendAll (event :: events) s = (answers, after)) :
    ∃ answer mid others, (sink store config).append event s = (answer, mid) ∧
      (sink store config).appendAll events mid = (others, after) ∧
      answers = answer :: others := by
  rcases hfirst : (sink store config).append event s with ⟨answer, mid⟩
  rcases hrest : (sink store config).appendAll events mid with ⟨others, last⟩
  simp only [Sink.appendAll, bind, StateT.bind, hfirst, hrest] at h
  cases h
  exact ⟨answer, mid, others, rfl, hrest, rfl⟩

theorem not_due_io (event : AuditEvent) (place : String) : ¬ Due event (.error (.io place)) := by
  unfold Due
  split
  · nofun
  · nofun

/-- Where the file operations succeed, each event of a run is answered as is due. -/
theorem due_of_run {events : List AuditEvent} {answers : List Taken}
    (hsucceeds : succeeds store config events s = true)
    (h : (sink store config).appendAll events s = (answers, after)) :
    List.Forall₂ Due events answers := by
  induction events generalizing s answers with
  | nil =>
    cases h
    exact .nil
  | cons event events ih =>
    obtain ⟨_, mid, _, hfirst, hrest, rfl⟩ := appendAll_cons h
    obtain ⟨hdue, hothers⟩ := due_of_succeeds hsucceeds hfirst
    exact .cons hdue (ih hothers hrest)

end

/-! ## One append to a tree -/

section

variable {config : JournalConfig} {event : AuditEvent} {t after : FileTree} {answer : Taken}

/-- The tree with the directory of the journals made. -/
def opened (config : JournalConfig) (t : FileTree) : FileTree :=
  (FileTree.ensureDir config.dir config.dirMode t).2

theorem kept_opened (config : JournalConfig) (t : FileTree) : Kept t (opened config t) :=
  FileTree.kept_ensureDir config.dir config.dirMode t

theorem opened_eq {made : FileTree} {succeeded : Bool}
    (h : Store.tree.ensureDir config.dir config.dirMode t = (succeeded, made)) :
    opened config t = made :=
  congrArg Prod.snd h

/-- What an append to a tree can come to: a refusal that leaves the tree as it was, a line at the
end of the journal of the event's stem, or a file operation that failed. -/
theorem append_cases (h : (sink Store.tree config).append event t = (answer, after)) :
    (Refused event answer ∧ after = t) ∨
    (∃ stem, stemOf? event = some stem ∧ answer = .ok () ∧
      FileTree.append (journalPath config stem) config.fileMode (line event) (opened config t) =
        (true, after)) ∨
    ∃ place, answer = .error (.io place) ∧ after = opened config t := by
  cases appends h with
  | refused hrefused => exact .inl ⟨hrefused, rfl⟩
  | noDir _ hdir => exact .inr (.inr ⟨_, rfl, (opened_eq hdir).symm⟩)
  | noLine _ hdir hline =>
    -- an append that fails has changed nothing since the directory was made
    exact .inr (.inr ⟨_, rfl, (FileTree.append_eq_false hline).trans (opened_eq hdir).symm⟩)
  | taken hstem hdir hline =>
    rw [← opened_eq hdir] at hline
    exact .inr (.inl ⟨_, hstem, rfl, hline⟩)

/-- Whether the directory of the journals is there. -/
def Ready (config : JournalConfig) (t : FileTree) : Prop := ∃ here, Opens t config.dir here

/-- The bytes of the journal of a stem. -/
def journal? (config : JournalConfig) (t : FileTree) (stem : String) : Option (List UInt8) :=
  t.content? (journalPath config stem)

/-- The bytes of a journal with the lines of some events added. A journal is
made for its first line. -/
def extended (old : Option (List UInt8)) : List AuditEvent → Option (List UInt8)
  | [] => old
  | events => some (old.getD [] ++ events.flatMap line)

theorem extended_append (old : Option (List UInt8)) (es fs : List AuditEvent) :
    extended (extended old es) fs = extended old (es ++ fs) := by
  cases es with
  | nil => rfl
  | cons e es =>
    cases fs with
    | nil => rw [List.append_nil]; rfl
    | cons f fs => simp [extended]

theorem extended_none {events : List AuditEvent} (h : events ≠ []) :
    extended none events = some (events.flatMap line) := by
  cases events with
  | nil => exact absurd rfl h
  | cons e es => simp [extended]

/-- The events of a list that are filed under a stem. -/
def filed (stem : String) (events : List AuditEvent) : List AuditEvent :=
  events.filter fun e => stemOf? e = some stem

/-- A line is added to the journal of its stem alone. -/
theorem journal?_of_append {stem : String} (hstem : stem? event.tenant = some stem)
    (h : FileTree.append (journalPath config stem) config.fileMode (line event) t =
      (true, after)) :
    Ready config after ∧ ∀ tenant other, stem? tenant = some other →
      journal? config after other =
        extended (journal? config t other) (if stem = other then [event] else []) := by
  have hname := isName_of_stem hstem
  obtain ⟨full, hfull, hext⟩ := FileTree.extends_append h
  obtain ⟨here, hopens, rfl⟩ := FileTree.follow_join hname hfull
  refine ⟨⟨here, hopens.of_grows hext.toGrows⟩, fun tenant other hother => ?_⟩
  split
  · next heq =>
    subst heq
    have hcontent := FileTree.content?_of_extends hfull hext
    rw [journal?, hcontent]
    simp [extended, journal?]
  · next hne =>
    refine FileTree.content?_join_of_extends hopens hext (isName_of_stem hother) fun he => ?_
    have := congrArg String.toList he
    rw [String.toList_append, String.toList_append, List.append_cancel_right_eq] at this
    exact hne (String.toList_inj.1 this).symm

theorem filed_cons (stem : String) (event : AuditEvent) (events : List AuditEvent) :
    filed stem (event :: events) =
      (if stemOf? event = some stem then [event] else []) ++ filed stem events := by
  unfold filed
  rw [List.filter_cons]
  split <;> simp_all

/-- Where the directory is there, making it again changes no journal. -/
theorem journal?_opened (hready : Ready config t) {tenant stem : String}
    (hstem : stem? tenant = some stem) :
    journal? config (opened config t) stem = journal? config t stem := by
  obtain ⟨here, hopens⟩ := hready
  exact FileTree.content?_join_of_kept (kept_opened config t) hopens (isName_of_stem hstem)

/-- Where no journal is there after the directory is made, none was before. -/
theorem journal?_eq_none_of_opened {stem : String}
    (h : journal? config (opened config t) stem = none) : journal? config t stem = none := by
  rcases hjournal : journal? config t stem with _ | content
  · rfl
  · have hkept : journal? config (opened config t) stem = some content :=
      FileTree.content?_of_kept (kept_opened config t) hjournal
    rw [hkept] at h
    cases h

/-! ## Appends in a row -/

/-- Where the file operations succeed, appends add to a journal the lines of the
events that are filed under its stem, if it is not one that making the directory
brings to light. -/
theorem journal?_of_run {events : List AuditEvent} {answers : List Taken}
    (hsucceeds : succeeds Store.tree config events t = true)
    (h : (sink Store.tree config).appendAll events t = (answers, after))
    {tenant stem : String} (hstem : stem? tenant = some stem)
    (hopened : journal? config (opened config t) stem = journal? config t stem) :
    journal? config after stem = extended (journal? config t stem) (filed stem events) := by
  induction events generalizing t answers with
  | nil =>
    cases h
    rfl
  | cons event events ih =>
    obtain ⟨answer, mid, others, hfirst, hrest, rfl⟩ := appendAll_cons h
    obtain ⟨hdue, hothers⟩ := due_of_succeeds hsucceeds hfirst
    rw [filed_cons, ← extended_append]
    rcases append_cases hfirst with ⟨hrefused, rfl⟩ | ⟨own, hown, -, happend⟩ | ⟨_, rfl, -⟩
    · rw [hrefused.stemOf?]
      exact ih hothers hrest hopened
    · -- the append made the directory, so making it again changes nothing
      obtain ⟨hready, hjournal⟩ := journal?_of_append (stem?_of_stemOf? hown) happend
      rw [ih hothers hrest (journal?_opened hready hstem), hjournal tenant stem hstem, hopened,
        hown]
      simp only [Option.some.injEq]
    · exact absurd hdue (not_due_io event _)

/-! ## Trees in which nothing is in the way -/

/-- Nothing is in the way of the journal of a stem: its path can be asked for, and no directory
is in its place. -/
structure Free (config : JournalConfig) (t : FileTree) (here : List String) (stem : String) :
    Prop where
  reachable : FileTree.Reachable config.dir (stem ++ suffix)
  noDir : ¬ t.IsDirAt (here ++ [stem ++ suffix])

/-- In a directory that is there the file operations succeed, if nothing is in the way of the
journals. -/
theorem succeeds_of_opens {events : List AuditEvent} {here : List String}
    (hopens : Opens t config.dir here)
    (hfree : ∀ event ∈ events, ∀ stem, stemOf? event = some stem → Free config t here stem) :
    succeeds Store.tree config events t = true := by
  induction events generalizing t with
  | nil => rfl
  | cons event events ih =>
    rw [List.forall_mem_cons] at hfree
    unfold succeeds
    rcases hstem : stemOf? event with _ | stem
    · exact ih hopens hfree.2
    · obtain ⟨hreach, hnoDir⟩ := hfree.1 stem hstem
      have hname := isName_of_stem (stem?_of_stemOf? hstem)
      have hdir : Store.tree.ensureDir config.dir config.dirMode t = (true, t) :=
        FileTree.ensureDir_of_opens hopens hreach.askable_dir config.dirMode
      obtain ⟨after, hline⟩ :=
        FileTree.append_of_opens hname hopens hreach hnoDir config.fileMode (line event)
      have hline' : Store.tree.append (journalPath config stem) config.fileMode (line event) t =
          (true, after) := hline
      simp only [hdir, hline']
      -- a line is no directory, so what was free before it is free after it
      obtain ⟨_, -, hext⟩ := FileTree.extends_append hline
      refine ih (hopens.of_grows hext.toGrows) fun e he other hother => ?_
      obtain ⟨hreachOther, hnoDirOther⟩ := hfree.2 e he other hother
      exact ⟨hreachOther, fun hisDir => hnoDirOther (hext.noNewDir _ hisDir)⟩

end

/-! ## Lines -/

/-- An event as it stands on its line. -/
def text (event : AuditEvent) : List UInt8 := Text.utf8 (Json.compact (Wire.encode event))

/-- The event that a line holds. -/
def eventOf? (bytes : List UInt8) : Option AuditEvent :=
  (Json.parseBytes? ⟨bytes.toArray⟩).bind fun v => (Wire.decode v).toOption

/-- No event writes a line break, whatever its fields hold. -/
theorem newline_notMem_text (event : AuditEvent) : 10 ∉ text event := by
  intro h
  obtain ⟨c, hc, hten⟩ := Text.exists_mem_of_mem_utf8 h (by decide)
  have hprintable := Json.le_toNat_of_mem_compact hc
  rw [hten] at hprintable
  exact absurd hprintable (by decide)

theorem eventOf?_text (event : AuditEvent) : eventOf? (text event) = some event := by
  rw [eventOf?, text, Json.parseBytes?_utf8, Json.parse?_compact, Option.bind_some,
    LawfulWire.decode_encode]
  rfl

theorem splitOn_lines (events : List AuditEvent) :
    (events.flatMap line).splitOn 10 = events.map text ++ [[]] := by
  induction events with
  | nil => rfl
  | cons event events ih =>
    have hline : line event ++ events.flatMap line = text event ++ 10 :: events.flatMap line := by
      rw [line, List.append_assoc]
      rfl
    rw [List.flatMap_cons, hline, List.splitOn_append_cons_self,
      List.splitOn_eq_singleton (newline_notMem_text event), ih]
    rfl

/-! ## Framing -/

theorem pathFor_eq_ok {config : JournalConfig} {tenant path : String} :
    pathFor config tenant = .ok path ↔
      ∃ stem, stem? tenant = some stem ∧ path = journalPath config stem := by
  unfold pathFor
  cases stem? tenant with
  | none => exact ⟨nofun, nofun⟩
  | some stem =>
    constructor
    · intro h
      cases h
      exact ⟨stem, rfl, rfl⟩
    · rintro ⟨_, ⟨⟩, rfl⟩
      rfl

/-- What an append does to the files: one that is refused changes nothing, and
no other changes a file but the journal of its own tenant, to which it adds one
line. -/
structure AddsOneLine (config : JournalConfig) (event : AuditEvent) (t after : FileTree)
    (answer : Taken) : Prop where
  refused : (∃ e, answer = .error (.invalidEvent e)) ∨
    (∃ tenant, answer = .error (.invalidTenant tenant)) → after = t
  files : ∀ name, after.fileAt name = t.fileAt name ∨
    ∃ path, answer = .ok () ∧ pathFor config event.tenant = .ok path ∧
      after.follow path = .ok name ∧
      (after.fileAt name).map Prod.snd =
        some (((t.fileAt name).map Prod.snd).getD [] ++ line event)

theorem addsOneLine_append {config : JournalConfig} {event : AuditEvent} {t after : FileTree}
    {answer : Taken} (h : (sink Store.tree config).append event t = (answer, after)) :
    AddsOneLine config event t after answer := by
  rcases append_cases h with ⟨-, rfl⟩ | ⟨stem, hown, rfl, happend⟩ | ⟨place, rfl, rfl⟩
  · exact ⟨fun _ => rfl, fun _ => .inl rfl⟩
  · have hstem := stem?_of_stemOf? hown
    obtain ⟨own, hown, hext⟩ := FileTree.extends_append happend
    have hopened := (kept_opened config t).fileAt
    refine ⟨by rintro (⟨_, ⟨⟩⟩ | ⟨_, ⟨⟩⟩), fun name => ?_⟩
    by_cases hname : name = own
    · subst hname
      refine .inr ⟨_, rfl, pathFor_eq_ok.2 ⟨stem, hstem, rfl⟩,
        FileTree.follow_of_grows hext.toGrows hown, ?_⟩
      rw [hext.extended, hopened]
    · exact .inl ((hext.others name hname).trans (hopened name))
  · exact ⟨by rintro (⟨_, ⟨⟩⟩ | ⟨_, ⟨⟩⟩), fun name => .inl ((kept_opened config t).fileAt name)⟩

/-- A path holds the lines of some events: no file when there are none, and else
a file of exactly these lines, which read back as the events. -/
structure HoldsLines (t : FileTree) (path : String) (events : List AuditEvent) : Prop where
  absent : events = [] → ∀ bytes, t.read path ≠ .ok bytes
  lines : events ≠ [] → ∃ bytes, t.read path = .ok bytes ∧
    bytes.data.toList = events.flatMap line ∧
    ∃ lines, bytes.data.toList.splitOn 10 = lines ++ [[]] ∧ lines.map eventOf? = events.map some

theorem holdsLines_of_content? {t : FileTree} {path : String} {events : List AuditEvent}
    (h : t.content? path = extended none events) : HoldsLines t path events := by
  constructor
  · rintro rfl bytes hread
    cases (FileTree.read_eq_ok_iff.1 hread).symm.trans h
  · intro hevents
    rw [extended_none hevents] at h
    have hread : t.read path = .ok ⟨(events.flatMap line).toArray⟩ := FileTree.read_eq_ok_iff.2 h
    refine ⟨_, hread, rfl, events.map text, splitOn_lines _, ?_⟩
    rw [List.map_map]
    exact List.map_congr_left fun e _ => eventOf?_text e

/-- On any store, an event that can be filed is taken exactly when its directory can be made and
its line added, and any other is refused and leaves the store alone. On a tree, every append adds
one line to the journal of its own tenant or changes no file. In a directory that is there, with
nothing in the way of the journals, every file operation succeeds. After a run in which they do,
in a directory that held no journals, each event was answered as is due, and each journal holds
the lines of the events that are valid and of its stem, in order. -/
theorem each_journal_holds_one_line_for_each_event (config : JournalConfig) :
    (∀ {σ : Type} (store : Store σ) event s answer after,
      (sink store config).append event s = (answer, after) →
      Appends store config event s answer after) ∧
    (∀ event t answer after, (sink Store.tree config).append event t = (answer, after) →
      AddsOneLine config event t after answer) ∧
    (∀ events t here, FileTree.Opens t config.dir here →
      (∀ event ∈ events, ∀ stem, stemOf? event = some stem → Free config t here stem) →
      succeeds Store.tree config events t = true) ∧
    ∀ events t answers after, succeeds Store.tree config events t = true →
      (sink Store.tree config).appendAll events t = (answers, after) →
      (∀ tenant path bytes, pathFor config tenant = .ok path →
        (opened config t).read path ≠ .ok bytes) →
      List.Forall₂ Due events answers ∧
      ∀ tenant stem path, stem? tenant = some stem → pathFor config tenant = .ok path →
        HoldsLines after path (filed stem events) := by
  refine ⟨fun _ _ _ _ _ h => appends h, fun _ _ _ _ h => addsOneLine_append h, ?_, ?_⟩
  · intro events t here hopens hfree
    exact succeeds_of_opens hopens hfree
  · intro events t answers after hsucceeds hrun hfresh
    refine ⟨due_of_run hsucceeds hrun, ?_⟩
    intro tenant stem path hstem hpath
    obtain ⟨own, hown, rfl⟩ := pathFor_eq_ok.1 hpath
    cases hstem.symm.trans hown
    have hnone : journal? config (opened config t) stem = none := by
      rcases hjournal : journal? config (opened config t) stem with _ | content
      · rfl
      · have hread : (opened config t).read (journalPath config stem) = .ok ⟨content.toArray⟩ :=
          FileTree.read_eq_ok_iff.2 hjournal
        exact absurd hread (hfresh tenant _ _ hpath)
    have hbefore := journal?_eq_none_of_opened hnone
    have hjournal := journal?_of_run hsucceeds hrun hstem (hnone.trans hbefore.symm)
    rw [hbefore] at hjournal
    exact holdsLines_of_content? hjournal

/-- An event of a tenant, with a text of a caller's choice in it. -/
def denied (tenant principal : String) : AuditEvent where
  timestamp := 1
  request := ⟨tenant, principal, "oncall", "incident_review", "turn:turn-1", .l0, []⟩
  decision := .denyFor .roleNotAllowed

/-- Events of two tenants with one stem and of one with another, between one of
no valid time and one of a tenant without a stem. -/
def mixedEvents : List AuditEvent :=
  [denied "tenant a" "al\nice", { denied "tenant a" "bob" with timestamp := -1 },
    denied "tenant-b" "carol", denied "//" "dave", denied "tenant/a" "\"\x01é"]

/-- A tree with a home directory, which is the current one. -/
def homeTree : FileTree :=
  { FileTree.empty.put ["home"] (.dir 0o755) with current := ["home"] }

/-- Journals in a directory whose path begins at the root. -/
def rooted : JournalConfig := { JournalConfig.standard with dir := "/var/audit" }

/-- Journals in the home directory itself, by way of the directory above it. -/
def inHome : JournalConfig := { JournalConfig.standard with dir := "../home/" }

/-- The mixed events, appended to journals that stand in a directory of some full name, leave two
of them. -/
structure LeavesTwoJournals (config : JournalConfig) (here : List String) (answers : List Taken)
    (after : FileTree) : Prop where
  run : (sink Store.tree config).appendAll mixedEvents homeTree = (answers, after)
  due : List.Forall₂ Due mixedEvents answers
  place : after.follow (journalPath config "tenant_a") =
    .ok (here ++ ["tenant_a.replay-audit.jsonl"])
  first : HoldsLines after (journalPath config "tenant_a")
    [denied "tenant a" "al\nice", denied "tenant/a" "\"\x01é"]
  second : HoldsLines after (journalPath config "tenant-b") [denied "tenant-b" "carol"]
  noOther : HoldsLines after (journalPath config "tenant-c") []

theorem fileAt_homeTree (name : List String) : homeTree.fileAt name = none := by
  have hnone : FileTree.empty.get? ["home"] = none := rfl
  have hkept : homeTree.fileAt name = FileTree.empty.fileAt name :=
    (Kept.put_dir hnone 0o755).fileAt name
  rw [hkept]
  cases name <;> rfl

theorem mixed_events_leave_two_journals :
    (∃ answers after, LeavesTwoJournals .standard ["home", "replay-audit"] answers after) ∧
      (∃ answers after, LeavesTwoJournals rooted ["var", "audit"] answers after) ∧
      succeeds Store.tree inHome mixedEvents homeTree = true ∧
      AddsOneLine rooted (denied "//" "dave") homeTree homeTree (.error (.invalidTenant "//")) ∧
      Appends Store.tree rooted (denied "//" "dave") homeTree (.error (.invalidTenant "//"))
        homeTree := by
  have hfresh (config : JournalConfig) : ∀ tenant path bytes, pathFor config tenant = .ok path →
      (opened config homeTree).read path ≠ .ok bytes := by
    intro tenant path bytes _ hread
    have hcontent := FileTree.read_eq_ok_iff.1 hread
    unfold FileTree.content? at hcontent
    split at hcontent
    · rw [(kept_opened config homeTree).fileAt, fileAt_homeTree] at hcontent
      cases hcontent
    · cases hcontent
  have hfirst : filed "tenant_a" mixedEvents =
      [denied "tenant a" "al\nice", denied "tenant/a" "\"\x01é"] := by decide
  have hsecond : filed "tenant-b" mixedEvents = [denied "tenant-b" "carol"] := by decide
  have hthird : filed "tenant-c" mixedEvents = [] := by decide
  have hleaves {config : JournalConfig} {here : List String}
      (hsucceeds : succeeds Store.tree config mixedEvents homeTree = true)
      (hplace : ((sink Store.tree config).appendAll mixedEvents homeTree).2.follow
        (journalPath config "tenant_a") = .ok (here ++ ["tenant_a.replay-audit.jsonl"])) :
      ∃ answers after, LeavesTwoJournals config here answers after := by
    rcases hrun : (sink Store.tree config).appendAll mixedEvents homeTree with ⟨answers, after⟩
    rw [hrun] at hplace
    obtain ⟨-, -, -, hruns⟩ := each_journal_holds_one_line_for_each_event config
    obtain ⟨hdue, hjournals⟩ := hruns _ _ _ _ hsucceeds hrun (hfresh config)
    have hholds (tenant stem : String) (hstem : stem? tenant = some stem) :=
      hjournals tenant stem _ hstem (pathFor_eq_ok.2 ⟨stem, hstem, rfl⟩)
    exact ⟨answers, after, hrun, hdue, hplace, hfirst ▸ hholds "tenant a" "tenant_a" (by decide),
      hsecond ▸ hholds "tenant-b" "tenant-b" (by decide),
      hthird ▸ hholds "tenant-c" "tenant-c" (by decide)⟩
  have hopens : Opens homeTree inHome.dir ["home"] := ⟨rfl, 0o755, rfl⟩
  have hfree : ∀ event ∈ mixedEvents, ∀ stem, stemOf? event = some stem →
      Free inHome homeTree ["home"] stem := by
    have hstems : ∀ event ∈ mixedEvents,
        stemOf? event ∈ [none, some "tenant_a", some "tenant-b"] := by decide
    intro event hevent stem hstem
    have hmem := hstems event hevent
    simp only [hstem, List.mem_cons, Option.some.injEq, List.not_mem_nil, or_false, reduceCtorEq,
      false_or] at hmem
    rcases hmem with rfl | rfl
    · exact ⟨⟨by decide, by decide⟩, by rintro ⟨_, ⟨⟩⟩⟩
    · exact ⟨⟨by decide, by decide⟩, by rintro ⟨_, ⟨⟩⟩⟩
  obtain ⟨happends, hadds, -, -⟩ := each_journal_holds_one_line_for_each_event rooted
  obtain ⟨-, -, hsucceeds, -⟩ := each_journal_holds_one_line_for_each_event inHome
  exact ⟨hleaves (by decide +kernel) (by decide +kernel),
    hleaves (by decide +kernel) (by decide +kernel), hsucceeds _ _ _ hopens hfree,
    hadds _ _ _ _ rfl, happends _ _ _ _ _ rfl⟩

end Journal

end ReplayEvidence
