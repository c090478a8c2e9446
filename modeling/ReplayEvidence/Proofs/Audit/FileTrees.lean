-- What writing does to a tree. Nothing is ever removed: a directory stays a
-- directory, so a path that leads somewhere leads there later too; making
-- directories touches no file; and adding bytes extends one file. Where the way
-- is free, both succeed. A directory that holds certain files reads as those
-- files do by name.
import ReplayEvidence.FileTree

namespace ReplayEvidence.FileTree

/-! ## Nodes -/

/-- The permissions and bytes of the file with a full name. -/
def fileAt (t : FileTree) (name : List String) : Option (Nat × List UInt8) :=
  match t.get? name with
  | some (.file mode content) => some (mode, content)
  | _ => none

/-- Whether a full name is that of a directory. -/
def IsDirAt (t : FileTree) (name : List String) : Prop := ∃ mode, t.get? name = some (.dir mode)

theorem get?_put (t : FileTree) {name : List String} (h : name ≠ []) (node : FileNode)
    (other : List String) :
    (t.put name node).get? other = if name = other then some node else t.get? other := by
  unfold get? put
  by_cases ho : other.isEmpty = true
  · have hne : ¬ name = other := fun he => h (he.trans (List.isEmpty_iff.1 ho))
    rw [if_pos ho, if_pos ho, if_neg hne]
  · rw [if_neg ho, if_neg ho, Keyed.get?_insert]

theorem fileAt_eq_some_iff {t : FileTree} {name : List String} {mode : Nat}
    {content : List UInt8} :
    t.fileAt name = some (mode, content) ↔ t.get? name = some (.file mode content) := by
  unfold fileAt
  split
  · next h => simp [h]
  · next h =>
    simp only [reduceCtorEq, false_iff]
    exact h mode content

theorem fileAt_put_self {t : FileTree} {name : List String} {mode : Nat} {content : List UInt8}
    (h : name ≠ []) : (t.put name (.file mode content)).fileAt name = some (mode, content) :=
  fileAt_eq_some_iff.2 (by rw [get?_put t h, if_pos rfl])

theorem fileAt_put_ne {t : FileTree} {name other : List String} {node : FileNode} (h : name ≠ [])
    (ho : name ≠ other) : (t.put name node).fileAt other = t.fileAt other := by
  unfold fileAt
  rw [get?_put t h, if_neg ho]

/-- One tree comes from another without the loss of a directory: each is still
there, and the current one is the same. -/
structure Grows (before after : FileTree) : Prop where
  isDirAt : ∀ name, before.IsDirAt name → after.IsDirAt name
  current : after.current = before.current

namespace Grows

theorem refl (t : FileTree) : Grows t t := ⟨fun _ h => h, rfl⟩

theorem trans {a b c : FileTree} (hab : Grows a b) (hbc : Grows b c) : Grows a c :=
  ⟨fun name h => hbc.isDirAt name (hab.isDirAt name h), hbc.current.trans hab.current⟩

end Grows

/-- One tree comes from another by making directories: each directory is still
there, and the files are the same. -/
structure Kept (before after : FileTree) : Prop extends Grows before after where
  fileAt : ∀ name, after.fileAt name = before.fileAt name

namespace Kept

theorem refl (t : FileTree) : Kept t t := ⟨.refl t, fun _ => rfl⟩

theorem trans {a b c : FileTree} (hab : Kept a b) (hbc : Kept b c) : Kept a c :=
  ⟨hab.toGrows.trans hbc.toGrows, fun name => (hbc.fileAt name).trans (hab.fileAt name)⟩

theorem put_dir {t : FileTree} {name : List String} (h : t.get? name = none) (mode : Nat) :
    Kept t (t.put name (.dir mode)) := by
  have hne : name ≠ [] := by
    rintro rfl
    cases h
  refine ⟨⟨fun other ⟨m, hm⟩ => ?_, rfl⟩, fun other => ?_⟩
  · by_cases ho : name = other
    · rw [← ho, h] at hm
      cases hm
    · exact ⟨m, by rw [get?_put t hne, if_neg ho, hm]⟩
  · by_cases ho : name = other
    · unfold FileTree.fileAt
      rw [get?_put t hne, if_pos ho, ← ho, h]
    · exact fileAt_put_ne hne ho

end Kept

/-! ## Making directories -/

theorem kept_makeDirs (mode : Nat) (names here : List String) (t : FileTree) :
    Kept t (makeDirs mode here names t) := by
  induction names generalizing here t with
  | nil => exact .refl t
  | cons name names ih =>
    rw [makeDirs]
    split
    · exact .refl t
    · next next _ =>
      split
      · exact ih next t
      · next hnone => exact (Kept.put_dir hnone mode).trans (ih next _)

theorem kept_ensureDir (path : String) (mode : UInt32) (t : FileTree) :
    Kept t (ensureDir path mode t).2 := by
  unfold ensureDir
  split
  · exact .refl t
  · split
    · exact kept_makeDirs _ _ _ t
    · exact .refl t

/-! ## Paths -/

/-- A step that succeeds in a tree succeeds where every directory is still there. -/
theorem step_of_grows {before after : FileTree} (h : Grows before after)
    {here next : List String} {name : String} (hstep : before.step here name = .ok next) :
    after.step here name = .ok next := by
  unfold step at hstep
  split at hstep
  · next mode hdir =>
    obtain ⟨mode', hdir'⟩ := h.isDirAt here ⟨mode, hdir⟩
    unfold step
    rw [hdir']
    exact hstep
  · cases hstep
  · cases hstep

theorem foldlM_step_of_grows {before after : FileTree} (h : Grows before after)
    (names : List String) {here last : List String}
    (hsteps : names.foldlM before.step here = .ok last) :
    names.foldlM after.step here = .ok last := by
  induction names generalizing here with
  | nil => exact hsteps
  | cons name names ih =>
    rw [List.foldlM_cons] at hsteps ⊢
    rcases hstep : before.step here name with e | next
    · rw [hstep] at hsteps
      cases hsteps
    · rw [hstep] at hsteps
      rw [step_of_grows h hstep]
      exact ih hsteps

theorem start_of_grows {before after : FileTree} (h : Grows before after) (path : String) :
    after.start path = before.start path := by
  rw [start, start, h.current]

/-- The pieces of a path before a name that is joined to it. -/
def lead (dir : String) : List String := (pieces (join dir "")).dropLast

/-- Whether a name is that of one thing in a directory. -/
structure IsName (name : String) : Prop where
  noSlash : '/' ∉ name.toList
  stays : stays name = false
  noParent : name ≠ ".."

/-- What holds no slash is a name once it has an ending. -/
theorem IsName.append {stem ending : String} (hstem : '/' ∉ stem.toList)
    (hending : '/' ∉ ending.toList) (hlong : 2 < ending.length) : IsName (stem ++ ending) := by
  have hne (short : String) (hshort : short.length ≤ 2) : stem ++ ending ≠ short := by
    rintro rfl
    rw [String.length_append] at hshort
    omega
  refine ⟨?_, ?_, hne ".." (by decide)⟩
  · rw [String.toList_append, List.mem_append, not_or]
    exact ⟨hstem, hending⟩
  · simp [FileTree.stays, hne "" (by decide), hne "." (by decide)]

theorem IsName.ne_empty {name : String} (hname : IsName name) : name ≠ "" := by
  rintro rfl
  exact absurd hname.stays (by decide)

theorem pieces_eq_singleton {name : String} (h : '/' ∉ name.toList) : pieces name = [name] := by
  rw [pieces, Text.cut_eq_singleton h, List.map_cons, List.map_nil, String.ofList_toList]

/-- What stands before a name that is joined to a directory: nothing, or a text
that ends in a slash. -/
theorem join_eq_append (dir name : String) : join dir name = join dir "" ++ name := by
  unfold join
  split
  · simp
  · simp [String.append_assoc]

theorem join_empty (dir : String) : join dir "" = "" ∨ ∃ s : String, join dir "" = s ++ "/" := by
  unfold join
  split
  · next h =>
    rcases Bool.or_eq_true_iff.1 h with h | h
    · exact .inl (by rw [String.isEmpty_iff.1 h]; rfl)
    · obtain ⟨cs, hcs⟩ := List.getLast?_eq_some_iff.1 (of_decide_eq_true h)
      refine .inr ⟨String.ofList cs, ?_⟩
      rw [String.append_empty, ← String.ofList_toList (s := dir), hcs, String.ofList_append]
  · exact .inr ⟨dir, String.append_empty⟩

theorem pieces_join (dir : String) {name : String} (h : '/' ∉ name.toList) :
    pieces (join dir name) = lead dir ++ [name] := by
  rw [join_eq_append, lead]
  rcases join_empty dir with hend | ⟨s, hend⟩
  · rw [hend, String.empty_append, pieces_eq_singleton h]
    rfl
  · have hpieces (rest : String) : pieces (s ++ "/" ++ rest) = pieces s ++ pieces rest := by
      unfold pieces
      rw [← List.map_append, ← Text.cut_append, String.toList_append, String.toList_append,
        List.append_assoc]
      rfl
    have hempty := hpieces ""
    rw [String.append_empty] at hempty
    rw [hend, hpieces, pieces_eq_singleton h, hempty]
    simp [pieces, Text.cut]

/-- A path to a name in a directory starts where the path of the directory does. -/
theorem start_join (t : FileTree) (dir : String) {name : String} (h : '/' ∉ name.toList) :
    t.start (join dir name) = t.start dir := by
  have hname : name.toList.head? ≠ some '/' := fun hhead => h (List.mem_of_head? hhead)
  have hhead : (join dir name).toList.head? = some '/' ↔ dir.toList.head? = some '/' := by
    unfold join
    rcases hdir : dir.toList with _ | ⟨c, cs⟩
    · rw [String.toList_eq_nil_iff.1 hdir]
      simpa using hname
    · split <;> simp [String.toList_append, hdir]
  unfold start
  simp only [hhead]

/-- A directory path leads to a directory. -/
structure Opens (t : FileTree) (dir : String) (here : List String) : Prop where
  leads : (lead dir).foldlM t.step (t.start dir) = .ok here
  isDirAt : t.IsDirAt here

theorem Opens.of_grows {before after : FileTree} (h : Grows before after) {dir : String}
    {here : List String} (hopens : Opens before dir here) : Opens after dir here where
  leads := by
    rw [start_of_grows h]
    exact foldlM_step_of_grows h (lead dir) hopens.leads
  isDirAt := h.isDirAt here hopens.isDirAt

theorem step_eq_ok {t : FileTree} {here next : List String} {name : String} (hname : IsName name)
    (h : t.step here name = .ok next) : t.IsDirAt here ∧ next = here ++ [name] := by
  unfold step at h
  rw [if_neg (by simp [hname.stays]), if_neg hname.noParent] at h
  split at h
  · next mode hdir =>
    split at h
    · cases h
      exact ⟨⟨mode, hdir⟩, rfl⟩
    · cases h
  · cases h
  · cases h

theorem foldlM_step_append (t : FileTree) (names : List String) (name : String)
    (here : List String) :
    (names ++ [name]).foldlM t.step here =
      (names.foldlM t.step here).bind fun last => t.step last name := by
  rw [List.foldlM_append]
  refine congrArg (Except.bind _) (funext fun last => ?_)
  rw [List.foldlM_cons]
  exact bind_pure _

/-- What a path to a name in a directory leads to stands in that directory. -/
theorem follow_join {t : FileTree} {dir name : String} {full : List String} (hname : IsName name)
    (h : t.follow (join dir name) = .ok full) :
    ∃ here, Opens t dir here ∧ full = here ++ [name] := by
  unfold follow at h
  split at h
  · cases h
  · split at h
    · cases h
    · rw [pieces_join dir hname.noSlash, start_join t dir hname.noSlash,
        foldlM_step_append] at h
      rcases hlead : (lead dir).foldlM t.step (t.start dir) with e | here
      · rw [hlead] at h
        cases h
      · rw [hlead] at h
        obtain ⟨hdir, rfl⟩ := step_eq_ok hname h
        exact ⟨here, ⟨hlead, hdir⟩, rfl⟩

/-- Where a directory path leads to one directory in two trees, so does every
path to a name in it. -/
theorem follow_join_congr {t u : FileTree} {dir name : String} {here : List String}
    (hname : IsName name) (ht : Opens t dir here) (hu : Opens u dir here) :
    t.follow (join dir name) = u.follow (join dir name) := by
  have hstep : t.step here name = u.step here name := by
    obtain ⟨_, hmode⟩ := ht.isDirAt
    obtain ⟨_, hmode'⟩ := hu.isDirAt
    unfold step
    rw [hmode, hmode']
  have hsteps : (lead dir ++ [name]).foldlM t.step (t.start dir) =
      (lead dir ++ [name]).foldlM u.step (u.start dir) := by
    rw [foldlM_step_append, foldlM_step_append, ht.leads, hu.leads]
    exact hstep
  unfold follow
  rw [pieces_join dir hname.noSlash, start_join t dir hname.noSlash,
    start_join u dir hname.noSlash, hsteps]

/-! ## Reading and appending -/

/-- The bytes of the file at the end of a path. -/
def content? (t : FileTree) (path : String) : Option (List UInt8) :=
  match t.follow path with
  | .ok name => (t.fileAt name).map Prod.snd
  | .error _ => none

theorem read_eq_ok_iff {t : FileTree} {path : String} {bytes : ByteArray} :
    t.read path = .ok bytes ↔ t.content? path = some bytes.data.toList := by
  unfold read content? fileAt
  rcases t.follow path with e | name
  · exact ⟨nofun, nofun⟩
  · simp only [bind, Except.bind]
    rcases t.get? name with _ | _ | ⟨m, content⟩
    · exact ⟨nofun, nofun⟩
    · exact ⟨nofun, nofun⟩
    · constructor
      · intro h
        cases h
        rfl
      · intro h
        have hcontent : content = bytes.data.toList := Option.some.inj h
        rw [hcontent]
        rfl

/-- One tree comes from another by adding bytes to one file, which is made when
it is not there. -/
structure Extends (before after : FileTree) (own : List String) (bytes : List UInt8) : Prop
    extends Grows before after where
  extended : (after.fileAt own).map Prod.snd =
    some (((before.fileAt own).map Prod.snd).getD [] ++ bytes)
  noNewDir : ∀ name, after.IsDirAt name → before.IsDirAt name
  others : ∀ name, name ≠ own → after.fileAt name = before.fileAt name

theorem extends_put {t : FileTree} {name : List String} (hnoDir : ¬ t.IsDirAt name) (mode : Nat)
    (bytes : List UInt8) :
    Extends t (t.put name (.file mode (((t.fileAt name).map Prod.snd).getD [] ++ bytes))) name
      bytes := by
  have hroot : name ≠ [] := by
    rintro rfl
    exact hnoDir ⟨_, rfl⟩
  refine ⟨⟨fun other ⟨m, hm⟩ => ?_, rfl⟩, ?_, fun other ⟨m, hm⟩ => ?_,
    fun other ho => fileAt_put_ne hroot ho.symm⟩
  · have ho : name ≠ other := by
      rintro rfl
      exact hnoDir ⟨m, hm⟩
    exact ⟨m, by rw [get?_put t hroot, if_neg ho, hm]⟩
  · rw [fileAt_put_self hroot]
    rfl
  · rw [get?_put t hroot] at hm
    split at hm
    · cases hm
    · exact ⟨m, hm⟩

/-- An append that succeeds extends the file that its path leads to. -/
theorem extends_append {path : String} {mode : UInt32} {bytes : List UInt8} {t after : FileTree}
    (h : append path mode bytes t = (true, after)) :
    ∃ name, t.follow path = .ok name ∧ Extends t after name bytes := by
  unfold append at h
  split at h
  · cases h
  · next name hname =>
    split at h
    · next m content hfile =>
      have hnoDir : ¬ t.IsDirAt name := fun ⟨d, hd⟩ => by
        rw [hfile] at hd
        cases hd
      have hput := extends_put hnoDir m bytes
      rw [fileAt_eq_some_iff.2 hfile] at hput
      cases h
      exact ⟨name, hname, hput⟩
    · cases h
    · next hnone =>
      have hnoDir : ¬ t.IsDirAt name := fun ⟨d, hd⟩ => by
        rw [hnone] at hd
        cases hd
      have hold : t.fileAt name = none := by
        unfold fileAt
        rw [hnone]
      have hput := extends_put hnoDir (filePermissions mode) bytes
      rw [hold] at hput
      split at h
      · cases h
        exact ⟨name, hname, hput⟩
      · cases h

theorem append_eq_false {path : String} {mode : UInt32} {bytes : List UInt8} {t after : FileTree}
    (h : append path mode bytes t = (false, after)) : after = t := by
  unfold append at h
  split at h
  · cases h
    rfl
  · split at h
    · cases h
    · cases h
      rfl
    · split at h
      · cases h
      · cases h
        rfl

/-! ## What a path reads -/

theorem follow_of_grows {before after : FileTree} (h : Grows before after) {path : String}
    {full : List String} (hfollow : before.follow path = .ok full) :
    after.follow path = .ok full := by
  unfold follow at hfollow ⊢
  split at hfollow
  · cases hfollow
  · next haskable =>
    rw [if_neg haskable]
    split at hfollow
    · cases hfollow
    · next hsomewhere =>
      rw [if_neg hsomewhere, start_of_grows h]
      exact foldlM_step_of_grows h _ hfollow

theorem content?_of_kept {before after : FileTree} (h : Kept before after) {path : String}
    {content : List UInt8} (hcontent : before.content? path = some content) :
    after.content? path = some content := by
  unfold content? at hcontent ⊢
  split at hcontent
  · next name hname =>
    rw [follow_of_grows h.toGrows hname]
    simpa only [h.fileAt] using hcontent
  · cases hcontent

theorem content?_join_of_kept {before after : FileTree} (h : Kept before after) {dir name : String}
    {here : List String} (hopens : Opens before dir here) (hname : IsName name) :
    after.content? (join dir name) = before.content? (join dir name) := by
  unfold content?
  rw [follow_join_congr hname (hopens.of_grows h.toGrows) hopens]
  split
  · rw [h.fileAt]
  · rfl

/-- The file that was extended reads as it did, with the bytes added. -/
theorem content?_of_extends {before after : FileTree} {path : String} {own : List String}
    {bytes : List UInt8} (hown : before.follow path = .ok own)
    (h : Extends before after own bytes) :
    after.content? path = some ((before.content? path).getD [] ++ bytes) := by
  unfold content?
  rw [follow_of_grows h.toGrows hown, hown]
  exact h.extended

/-- Another file of the directory reads as it did. -/
theorem content?_join_of_extends {before after : FileTree} {dir own other : String}
    {here : List String} {bytes : List UInt8} (hopens : Opens before dir here)
    (h : Extends before after (here ++ [own]) bytes) (hother : IsName other) (hne : other ≠ own) :
    after.content? (join dir other) = before.content? (join dir other) := by
  unfold content?
  rw [follow_join_congr hother (hopens.of_grows h.toGrows) hopens]
  split
  · next full hfull =>
    obtain ⟨there, -, rfl⟩ := follow_join hother hfull
    have hlast : there ++ [other] ≠ here ++ [own] := fun he =>
      hne (List.singleton_inj.1 (List.append_inj_right' he rfl))
    rw [h.others _ hlast]
  · rfl

/-! ## Directories of files -/

/-- Whether the path to a name in a directory can be asked for: it holds no NUL, and neither it
nor the name is too long. -/
structure Reachable (dir name : String) : Prop where
  askable : askable (join dir name) = true
  fits : fits name = true

theorem Reachable.nul_notMem {dir name : String} (h : Reachable dir name) :
    '\x00' ∉ name.toList := by
  have haskable := h.askable
  rw [FileTree.askable, Bool.and_eq_true, join_eq_append] at haskable
  intro hnul
  simp [hnul] at haskable

/-- A path that can be asked for leads to its name where its directory is there. -/
theorem follow_join_eq_ok {t : FileTree} {dir name : String} {here : List String}
    (hname : IsName name) (hopens : Opens t dir here) (hreach : Reachable dir name) :
    t.follow (join dir name) = .ok (here ++ [name]) := by
  have hsomewhere : (join dir name).isEmpty = false := by
    rw [Bool.eq_false_iff, ne_eq, String.isEmpty_iff, join_eq_append, String.append_eq_empty_iff]
    intro h
    exact hname.ne_empty h.2
  obtain ⟨mode, hdir⟩ := hopens.isDirAt
  have hstep : t.step here name = .ok (here ++ [name]) := by
    unfold step
    rw [hdir]
    simp [hname.stays, hname.noParent, hreach.fits]
  unfold follow
  rw [if_neg (by simp [hreach.askable]), if_neg (by simp [hsomewhere]),
    pieces_join dir hname.noSlash, start_join t dir hname.noSlash, foldlM_step_append,
    hopens.leads]
  exact hstep

/-! ## Where the way is free -/

theorem isDirAt_of_foldlM {t : FileTree} {names : List String} {here last : List String}
    (h : names.foldlM t.step here = .ok last) (hlast : t.IsDirAt last) : t.IsDirAt here := by
  cases names with
  | nil =>
    cases h
    exact hlast
  | cons name names =>
    rw [List.foldlM_cons] at h
    rcases hdir : t.get? here with _ | mode | _
    · simp only [step, hdir] at h
      cases h
    · exact ⟨mode, hdir⟩
    · simp only [step, hdir] at h
      cases h

theorem makeDirs_eq_self {t : FileTree} (mode : Nat) {names way : List String}
    (hnames : names <+: way) {here last : List String} (h : way.foldlM t.step here = .ok last)
    (hlast : t.IsDirAt last) : makeDirs mode here names t = t := by
  obtain ⟨rest, rfl⟩ := hnames
  induction names generalizing here with
  | nil => rfl
  | cons name names ih =>
    rw [List.cons_append, List.foldlM_cons] at h
    rcases hstep : t.step here name with e | next
    · rw [hstep] at h
      cases h
    · rw [hstep] at h
      obtain ⟨_, hdir⟩ := isDirAt_of_foldlM h hlast
      simp only [makeDirs, hstep, hdir]
      exact ih h

/-- Pieces that lead nowhere else can be left out of a way. -/
theorem foldlM_step_filter {t : FileTree} {names : List String} {here last : List String}
    (h : names.foldlM t.step here = .ok last) :
    (names.filter fun name => !stays name).foldlM t.step here = .ok last := by
  induction names generalizing here with
  | nil => exact h
  | cons name names ih =>
    rw [List.foldlM_cons] at h
    rcases hstep : t.step here name with e | next
    · rw [hstep] at h
      cases h
    · rw [hstep] at h
      rcases hstays : stays name
      · rw [List.filter_cons_of_pos (by simp [hstays]), List.foldlM_cons, hstep]
        exact ih h
      · have hnext : next = here := by
          unfold step at hstep
          split at hstep
          · rw [if_pos hstays] at hstep
            cases hstep
            rfl
          · cases hstep
          · cases hstep
        rw [List.filter_cons_of_neg (by simp [hstays]), ← hnext]
        exact ih h

/-- The pieces of a directory path are those before a name in it, with an empty one at the end
where the path is empty or ends in a slash. -/
theorem pieces_eq_lead (dir : String) : pieces dir = lead dir ∨ pieces dir = lead dir ++ [""] := by
  have hslash (s : String) : pieces (s ++ "/") = pieces s ++ [""] := by
    unfold pieces
    rw [String.toList_append, show "/".toList = '/' :: [] from rfl, Text.cut_append]
    simp [Text.cut]
  unfold lead join
  split
  · next h =>
    rw [String.append_empty]
    rcases Bool.or_eq_true_iff.1 h with h | h
    · rw [String.isEmpty_iff.1 h]
      exact .inr rfl
    · obtain ⟨cs, hcs⟩ := List.getLast?_eq_some_iff.1 (of_decide_eq_true h)
      have hdir : dir = String.ofList cs ++ "/" := by
        rw [← String.ofList_toList (s := dir), hcs, String.ofList_append]
      rw [hdir, hslash, List.dropLast_concat]
      exact .inr rfl
  · rw [String.append_empty, hslash, List.dropLast_concat]
    exact .inl rfl

/-- The names along the path of a directory lead there. -/
theorem Opens.steps {t : FileTree} {dir : String} {here : List String} (h : Opens t dir here) :
    (steps dir).foldlM t.step (t.start dir) = .ok here := by
  have hfilter := foldlM_step_filter h.leads
  unfold FileTree.steps
  rcases pieces_eq_lead dir with hpieces | hpieces
  · rwa [hpieces]
  · rw [hpieces, List.filter_append, show ([""].filter fun s => !stays s) = [] from rfl,
      List.append_nil]
    exact hfilter

/-- So does the path itself, where it says something. -/
theorem Opens.follow {t : FileTree} {dir : String} {here : List String} (h : Opens t dir here)
    (haskable : askable dir = true) (hne : ¬ dir.isEmpty = true) : t.follow dir = .ok here := by
  unfold FileTree.follow
  rw [if_neg (by simp [haskable]), if_neg hne]
  rcases pieces_eq_lead dir with hpieces | hpieces
  · rw [hpieces]
    exact h.leads
  · obtain ⟨_, hdir⟩ := h.isDirAt
    have hstay : t.step here "" = .ok here := by
      unfold step
      rw [hdir]
      rfl
    rw [hpieces, foldlM_step_append, h.leads]
    exact hstay

/-- A directory that is there can be asked for again, and nothing is made. -/
theorem ensureDir_of_opens {t : FileTree} {dir : String} {here : List String}
    (hopens : Opens t dir here) (haskable : askable dir = true) (mode : UInt32) :
    ensureDir dir mode t = (true, t) := by
  have hmade : makeDirs (dirPermissions mode) (t.start dir)
      (if endsInDot dir then (steps dir).dropLast else steps dir) t = t := by
    split
    · exact makeDirs_eq_self _ (List.dropLast_prefix _) hopens.steps hopens.isDirAt
    · exact makeDirs_eq_self _ List.prefix_rfl hopens.steps hopens.isDirAt
  unfold ensureDir
  split
  · rfl
  · next hne =>
    obtain ⟨_, hdir⟩ := hopens.isDirAt
    have hisDir : t.isDir dir = true := by
      unfold isDir
      rw [hopens.follow haskable hne]
      simp only [hdir]
    simp only [hmade, hisDir]

/-- A directory path can be asked for where one to a name in it can. -/
theorem Reachable.askable_dir {dir name : String} (h : Reachable dir name) :
    FileTree.askable dir = true := by
  have haskable := h.askable
  unfold FileTree.askable at haskable ⊢
  simp only [Bool.and_eq_true, Bool.not_eq_true', decide_eq_true_eq] at haskable ⊢
  unfold join at haskable
  split at haskable
  · refine ⟨?_, ?_⟩
    · have := haskable.1
      simp_all
    · have := haskable.2
      rw [String.utf8ByteSize_append] at this
      omega
  · refine ⟨?_, ?_⟩
    · have := haskable.1
      simp_all
    · have := haskable.2
      rw [String.utf8ByteSize_append, String.utf8ByteSize_append] at this
      omega

/-- A path that can be asked for can be added to where its directory is there and no directory
is in the place of its file. -/
theorem append_of_opens {t : FileTree} {dir name : String} {here : List String}
    (hname : IsName name) (hopens : Opens t dir here) (hreach : Reachable dir name)
    (hfree : ¬ t.IsDirAt (here ++ [name])) (mode : UInt32) (bytes : List UInt8) :
    ∃ after, append (join dir name) mode bytes t = (true, after) := by
  obtain ⟨_, hdir⟩ := hopens.isDirAt
  unfold append
  rw [follow_join_eq_ok hname hopens hreach]
  rcases hnode : t.get? (here ++ [name]) with _ | d | ⟨m, content⟩
  · simp only [hnode, List.dropLast_concat, hdir]
    exact ⟨_, rfl⟩
  · exact absurd ⟨d, hnode⟩ hfree
  · simp only [hnode]
    exact ⟨_, rfl⟩

/-! ## Directories by name -/

/-- What is read of files that are held by name. A name with a NUL cannot be asked for. -/
def readIn (files : Keyed String ByteArray) (name : String) : Except ReadFailure ByteArray :=
  if '\x00' ∈ name.toList then .error .other
  else
    match files.get? name with
    | some bytes => .ok bytes
    | none => .error .absent

/-- Whether certain files, each under its name, are all there is in a directory. -/
structure HoldsFiles (t : FileTree) (here : List String) (files : Keyed String ByteArray) :
    Prop where
  file : ∀ name bytes, files.get? name = some bytes →
    ∃ mode, t.get? (here ++ [name]) = some (.file mode bytes.data.toList)
  nothingElse : ∀ name, files.get? name = none → t.get? (here ++ [name]) = none

/-- In a directory that holds certain files a path reads what is held under its name. -/
theorem read_join {t : FileTree} {dir name : String} {here : List String}
    {files : Keyed String ByteArray} (hname : IsName name) (hopens : Opens t dir here)
    (hholds : HoldsFiles t here files) (hreach : Reachable dir name) :
    t.read (join dir name) = readIn files name := by
  have hfollow : t.follow (join dir name) = .ok (here ++ [name]) :=
    follow_join_eq_ok hname hopens hreach
  unfold read
  rw [hfollow, readIn, if_neg hreach.nul_notMem]
  simp only [bind, Except.bind]
  rcases hfile : files.get? name with _ | bytes
  · rw [hholds.nothingElse name hfile]
  · obtain ⟨mode, hnode⟩ := hholds.file name bytes hfile
    rw [hnode]
    rfl

end ReplayEvidence.FileTree
