-- Evidence in a directory. Each reference that a directory takes has a file of its own there,
-- which no other reference has and no reference leaves the directory for. So a directory that
-- holds some evidence, each in the file of its reference, answers as the evidence itself does
-- when it is held in memory, and runs come to the same with both.
import ReplayEvidence.Proofs.Audit.FileTrees
import ReplayEvidence.Proofs.Wire.Schemas

namespace ReplayEvidence

open FileTree (HoldsFiles IsName Opens Reachable join lead pieces readIn)

namespace EvidenceSource

variable {r s : String} {held : Keyed String Evidence}

/-! ## References -/

/-- A reference that a directory takes: it says something, holds no separator, and is no step to
this directory or the one above. -/
structure Accepted (reference : String) : Prop where
  saysSomething : ∃ c ∈ reference.toList, Text.isSpace c = false
  noSlash : '/' ∉ reference.toList
  noBackslash : '\\' ∉ reference.toList
  notHere : reference ≠ "."
  notAbove : reference ≠ ".."

theorem namesFile_iff : namesFile r = true ↔ Accepted r := by
  have hseparator : (r.toList.any fun c => c = '/' || c = '\\') = false ↔
      '/' ∉ r.toList ∧ '\\' ∉ r.toList := by
    rw [List.any_eq_false]
    constructor
    · intro h
      exact ⟨fun hslash => h _ hslash (by decide), fun hback => h _ hback (by decide)⟩
    · rintro ⟨hslash, hback⟩ c hc hmark
      simp only [Bool.or_eq_true, decide_eq_true_eq] at hmark
      rcases hmark with rfl | rfl
      · exact hslash hc
      · exact hback hc
  have hblank : Text.isBlank r = false ↔ ∃ c ∈ r.toList, Text.isSpace c = false := by
    simp [Text.isBlank]
  unfold namesFile
  simp only [Bool.and_eq_true, Bool.not_eq_true', bne_iff_ne, hblank, hseparator]
  constructor
  · rintro ⟨⟨⟨hspeaks, hslash, hback⟩, hhere⟩, habove⟩
    exact ⟨hspeaks, hslash, hback, hhere, habove⟩
  · intro h
    exact ⟨⟨⟨h.saysSomething, h.noSlash, h.noBackslash⟩, h.notHere⟩, h.notAbove⟩

theorem directory_eq_invalidReference_iff {read : String → Except ReadFailure ByteArray} :
    directory read r = .error (.invalidReference r) ↔ ¬ Accepted r := by
  rw [← namesFile_iff]
  unfold directory
  by_cases hnames : namesFile r = true
  · rw [if_pos hnames]
    constructor
    · intro h
      split at h
      · cases h
      · cases h
      · split at h
        · cases h
        · cases h
    · intro h
      exact absurd hnames h
  · rw [if_neg hnames]
    exact ⟨fun _ => hnames, fun _ => rfl⟩

/-! ## Files of references -/

theorem fileName_injective (h : fileName r = fileName s) : r = s := by
  have hchars := congrArg String.toList h
  rw [fileName, fileName, String.toList_append, String.toList_append] at hchars
  exact String.toList_inj.1 (List.append_cancel_right hchars)

theorem mem_fileName_iff {c : Char} (hending : c ∉ ".json".toList) :
    c ∈ (fileName r).toList ↔ c ∈ r.toList := by
  rw [fileName, String.toList_append, List.mem_append, or_iff_left hending]

theorem isName_fileName (h : Accepted r) : IsName (fileName r) :=
  .append h.noSlash (by decide) (by decide)

theorem join_fileName_injective {dir : String}
    (h : join dir (fileName r) = join dir (fileName s)) : r = s := by
  rw [FileTree.join_eq_append dir (fileName r), FileTree.join_eq_append dir (fileName s)] at h
  have hchars := congrArg String.toList h
  rw [String.toList_append, String.toList_append] at hchars
  exact fileName_injective (String.toList_inj.1 (List.append_cancel_left hchars))

/-- How a reference stands in a directory. Its path is that of the directory and one name more.
In a tree it leads to the child of that name wherever it can be asked for and the directory is
there, and it leads nowhere else. No other reference has that path or leads to that child. -/
structure HasOwnFile (dir reference : String) : Prop where
  isName : IsName (fileName reference)
  pieces : pieces (join dir (fileName reference)) = lead dir ++ [fileName reference]
  leads : ∀ (t : FileTree) here, Opens t dir here → Reachable dir (fileName reference) →
    t.follow (join dir (fileName reference)) = .ok (here ++ [fileName reference])
  child : ∀ (t : FileTree) full, t.follow (join dir (fileName reference)) = .ok full →
    ∃ here, Opens t dir here ∧ full = here ++ [fileName reference]
  ownPath : ∀ other, join dir (fileName other) = join dir (fileName reference) → other = reference
  ownChild : ∀ (t : FileTree) full other, Accepted other →
    t.follow (join dir (fileName reference)) = .ok full →
    t.follow (join dir (fileName other)) = .ok full → other = reference

theorem hasOwnFile (dir : String) (h : Accepted r) : HasOwnFile dir r := by
  have hname := isName_fileName h
  refine ⟨hname, FileTree.pieces_join dir hname.noSlash, ?_, ?_, ?_, ?_⟩
  · intro t here hopens hreach
    exact FileTree.follow_join_eq_ok hname hopens hreach
  · intro t full hfull
    exact FileTree.follow_join hname hfull
  · intro other hpath
    exact join_fileName_injective hpath
  · intro t full other hother hfull hfullOther
    obtain ⟨here, -, rfl⟩ := FileTree.follow_join hname hfull
    obtain ⟨there, -, heq⟩ := FileTree.follow_join (isName_fileName hother) hfullOther
    have hlast := List.append_inj_right' heq rfl
    exact fileName_injective (List.singleton_inj.1 hlast).symm

/-! ## Answers -/

/-- The files that hold some evidence, each under the name of its reference. -/
def files (held : Keyed String Evidence) : Keyed String ByteArray :=
  .ofList (held.entries.map fun e => (fileName e.1, Wire.file e.2))

/-- References differ, so their files do, and each is found under its name. -/
theorem get?_files : (files held).get? (fileName r) = (held.get? r).map Wire.file := by
  have hnodup : ((held.entries.map fun e => (fileName e.1, Wire.file e.2)).map Prod.fst).Nodup := by
    have hnames : ((held.entries.map Prod.fst).map fileName).Nodup :=
      List.Nodup.map (fun _ _ => fileName_injective) held.nodup
    rw [List.map_map] at hnames ⊢
    exact hnames
  have hkey (e : String × Evidence) : decide (fileName e.1 = fileName r) = decide (e.1 = r) :=
    decide_eq_decide.2 ⟨fileName_injective, fun h => congrArg fileName h⟩
  rw [files, Keyed.get?_ofList_of_nodup hnodup, List.find?_map]
  simp only [Function.comp_def, hkey, Keyed.get?, Option.map_map]

/-- A directory where a reference reads as some evidence is written answers as the evidence. -/
theorem directory_eq_inMemory {read : String → Except ReadFailure ByteArray} (h : Accepted r)
    (hread : read (fileName r) = readIn (files held) (fileName r)) (hnul : '\x00' ∉ r.toList) :
    directory read r = inMemory held r := by
  have hnulName : '\x00' ∉ (fileName r).toList := by
    rw [mem_fileName_iff (by decide)]
    exact hnul
  unfold directory inMemory
  rw [if_pos (namesFile_iff.2 h), hread, readIn, if_neg hnulName, get?_files]
  rcases held.get? r with _ | e
  · rfl
  · simp only [Option.map_some, Wire.parseBytes?_file, LawfulWire.decode_encode]

/-- So does a directory of a tree that holds the files, of every path that can be asked for. -/
theorem inTree_eq_inMemory {t : FileTree} {dir : String} {here : List String}
    (hopens : Opens t dir here) (hholds : HoldsFiles t here (files held)) (h : Accepted r)
    (hreach : Reachable dir (fileName r)) : inTree t dir r = inMemory held r := by
  have hnul : '\x00' ∉ r.toList := by
    rw [← mem_fileName_iff (by decide)]
    exact hreach.nul_notMem
  exact directory_eq_inMemory h (FileTree.read_join (isName_fileName h) hopens hholds hreach) hnul

end EvidenceSource

/-! ## Runs -/

namespace Replayer

variable {σ : Type} {e : Replayer σ} {request : RunRequest} {source other : EvidenceSource}

/-- A run asks its source for two references and for nothing else. -/
theorem run_congr (hbaseline : source request.baseline = other request.baseline)
    (hcandidate : source request.candidate = other request.candidate) :
    { e with source := source }.run request = { e with source := other }.run request := by
  simp only [run, runAsking, outcome_pure, hbaseline, hcandidate]

theorem runReport_congr (hbaseline : source request.baseline = other request.baseline)
    (hcandidate : source request.candidate = other request.candidate) :
    { e with source := source }.runReport request =
      { e with source := other }.runReport request := by
  simp only [runReport, run_congr hbaseline hcandidate]

end Replayer

/-! ## The law -/

namespace EvidenceSource

/-- A directory answers as the evidence in it. Take any evidence held by reference and a directory
that holds just the files of it, each under the name of its reference. A directory takes a
reference that says something, holds no separator and is no step, and calls all others invalid.
Each that it takes has a file of its own, which is a child of the directory. So to each that holds
no NUL it answers what is held under it, or that there is nothing, and a run on two such
references comes to the same from the directory as from what is held. In a tree, the directory
answers so whenever the path can be asked for. -/
theorem a_directory_answers_as_the_evidence_in_it (held : Keyed String Evidence) :
    let stored := directory (readIn (files held))
    (∀ r, '\x00' ∉ r.toList → Accepted r → stored r = inMemory held r) ∧
      (∀ read r, directory read r = .error (.invalidReference r) ↔ ¬ Accepted r) ∧
      (∀ dir r, Accepted r → HasOwnFile dir r) ∧
      (∀ t dir here, Opens t dir here → HoldsFiles t here (files held) →
        ∀ r, Accepted r → Reachable dir (fileName r) → inTree t dir r = inMemory held r) ∧
      ∀ {σ : Type} (e : Replayer σ) (request : RunRequest),
        (∀ r ∈ [request.baseline, request.candidate], '\x00' ∉ r.toList ∧ Accepted r) →
        let fromFiles := { e with source := stored }
        let fromHeld := { e with source := inMemory held }
        fromFiles.run request = fromHeld.run request ∧
          fromFiles.runReport request = fromHeld.runReport request := by
  intro stored
  have hanswers (r : String) (hnul : '\x00' ∉ r.toList) (haccepted : Accepted r) :
      stored r = inMemory held r := directory_eq_inMemory haccepted rfl hnul
  refine ⟨hanswers, fun _ _ => directory_eq_invalidReference_iff, ?_, ?_, ?_⟩
  · intro dir r haccepted
    exact hasOwnFile dir haccepted
  · intro t dir here hopens hholds r haccepted hreach
    exact inTree_eq_inMemory hopens hholds haccepted hreach
  · intro σ e request hrefs
    obtain ⟨hbnul, hbaseline⟩ := hrefs request.baseline (by simp)
    obtain ⟨hcnul, hcandidate⟩ := hrefs request.candidate (by simp)
    have hb := hanswers request.baseline hbnul hbaseline
    have hc := hanswers request.candidate hcnul hcandidate
    exact ⟨Replayer.run_congr hb hc, Replayer.runReport_congr hb hc⟩

/-- The evidence of one event that was dropped, or merged into a group. -/
def evidenceOf (dropped : Bool) (group : Option String) : Evidence :=
  ⟨[], [⟨"evt-0", "sess-1", none, dropped, group⟩]⟩

/-- A run that dropped an event and one that merged it. -/
def recorded : Keyed String Evidence :=
  .ofList [("run-1", evidenceOf true none), ("run-2", evidenceOf false (some "group-1"))]

/-- A tree with a directory of their files. -/
def recordedTree : FileTree :=
  FileTree.empty
    |>.put ["runs"] (.dir 0o755)
    |>.put ["runs", "run-1.json"] (.file 0o644 (Wire.file (evidenceOf true none)).data.toList)
    |>.put ["runs", "run-2.json"]
      (.file 0o644 (Wire.file (evidenceOf false (some "group-1"))).data.toList)

theorem holdsFiles_recordedTree : HoldsFiles recordedTree ["runs"] (files recorded) := by
  have hentries : (files recorded).entries =
      [("run-1.json", Wire.file (evidenceOf true none)),
        ("run-2.json", Wire.file (evidenceOf false (some "group-1")))] := rfl
  constructor
  · intro name bytes h
    rw [Keyed.get?_eq_some_iff, hentries, List.mem_cons, List.mem_singleton] at h
    rcases h with h | h
    · cases h
      exact ⟨0o644, rfl⟩
    · cases h
      exact ⟨0o644, rfl⟩
  · intro name h
    rw [Keyed.get?_eq_none_iff, hentries] at h
    simp only [List.map_cons, List.map_nil, List.mem_cons, List.not_mem_nil, or_false, not_or] at h
    have hfirst : ¬ ["runs", "run-1.json"] = ["runs"] ++ [name] := by
      simpa using fun heq => h.1 heq.symm
    have hsecond : ¬ ["runs", "run-2.json"] = ["runs"] ++ [name] := by
      simpa using fun heq => h.2 heq.symm
    unfold recordedTree
    rw [FileTree.get?_put _ (by decide), if_neg hsecond, FileTree.get?_put _ (by decide),
      if_neg hfirst, FileTree.get?_put _ (by decide), if_neg (by simp)]
    rfl

/-- Replays from a source. -/
def replaysFrom (source : EvidenceSource) : Replayer Millis where
  source := source
  settings := .standard
  runId := do return Replayer.timedRunId (← get)
  now := get

theorem two_recorded_runs_differ_from_their_files :
    let stored := directory (readIn (files recorded))
    let request : RunRequest := ⟨"run-1", "run-2", .recomputeDecisions, none⟩
    Accepted "run-1" ∧ ¬ Accepted "../run-1" ∧
      stored "run-1" = .ok (evidenceOf true none) ∧ stored "run-3" = .error (.notFound "run-3") ∧
      stored "../run-1" = .error (.invalidReference "../run-1") ∧
      inTree recordedTree "runs" "run-2" = .ok (evidenceOf false (some "group-1")) ∧
      HasOwnFile "runs" "run-1" ∧
      ((((replaysFrom stored).run request).run 1000).1.toOption.map fun result =>
        result.divergences.map Divergence.kind) = some [.outcome, .outcome] := by
  intro stored request
  have hfirst : Accepted "run-1" := namesFile_iff.1 (by decide)
  have hsecond : Accepted "run-2" := namesFile_iff.1 (by decide)
  have hthird : Accepted "run-3" := namesFile_iff.1 (by decide)
  have houtside : ¬ Accepted "../run-1" := fun h => h.noSlash (by decide)
  have hopens : Opens recordedTree "runs" ["runs"] := ⟨rfl, 0o755, rfl⟩
  have hreach : Reachable "runs" (fileName "run-2") := ⟨by decide, by decide⟩
  obtain ⟨hanswers, hinvalid, hown, htree, hruns⟩ :=
    a_directory_answers_as_the_evidence_in_it recorded
  obtain ⟨hrun, -⟩ := hruns (replaysFrom stored) request (by
    simp only [List.forall_mem_cons]
    exact ⟨⟨by decide, hfirst⟩, ⟨by decide, hsecond⟩, nofun⟩)
  refine ⟨hfirst, houtside, (hanswers _ (by decide) hfirst).trans rfl,
    (hanswers _ (by decide) hthird).trans rfl, (hinvalid _ _).2 houtside,
    (htree _ _ _ hopens holdsFiles_recordedTree _ hsecond hreach).trans rfl, hown _ _ hfirst, ?_⟩
  rw [show (replaysFrom stored).run request = _ from hrun]
  decide +kernel

end EvidenceSource

end ReplayEvidence
