-- What the modes of a replay look at. Recorded decisions are replayed by their decisions alone,
-- and the other three modes look at the whole point but for its lane and the times of its
-- decision. So whatever a mode does not look at makes no difference to a run.
import ReplayEvidence.Proofs.Run.Views

namespace ReplayEvidence

/-! ## Sources under a view -/

theorem map_rephrase {ε δ α β : Type} (f : ε → δ) (g : α → β) (x : Except ε α) :
    (rephrase f x).map g = rephrase f (x.map g) := by
  cases x <;> rfl

/-- Two steps that have the same for a view are followed by the same, when that does not hang on
more than the view. -/
theorem bind_map_congr {ε α β γ δ : Type} {x x' : Except ε α} {view : α → β}
    {next next' : α → Except ε γ} {f : γ → δ} (hx : x.map view = x'.map view)
    (h : ∀ a a', view a = view a' → (next a).map f = (next' a').map f) :
    (x >>= next).map f = (x' >>= next').map f := by
  rcases x with err | a <;> rcases x' with err' | a' <;> simp only [Except.map, reduceCtorEq,
    Except.ok.injEq, Except.error.injEq] at hx
  · exact congrArg Except.error hx
  · exact h a a' hx

namespace EvidenceSource

variable {source source' : EvidenceSource} {r : RunRequest} {view : TracePoint → TracePoint}

/-- All evidence that a source has for a request is valid. -/
def ValidFor (source : EvidenceSource) (r : RunRequest) : Prop :=
  ∀ reference ∈ [r.baseline, r.candidate], ∀ evidence, source reference = .ok evidence →
    evidence.validate = .ok ()

/-- Two sources have for a request evidence that a view shows alike, or the same error. -/
def AlikeFor (view : TracePoint → TracePoint) (r : RunRequest) (source source' : EvidenceSource) :
    Prop :=
  ∀ reference ∈ [r.baseline, r.candidate],
    (source reference).map (Evidence.through view) =
      (source' reference).map (Evidence.through view)

/-- The source that tells each point with a change. -/
def retold (source : EvidenceSource) (change : TracePoint → TracePoint) : EvidenceSource :=
  fun reference => (source reference).map (Evidence.through change)

theorem alikeFor_retold {change : TracePoint → TracePoint} (h : ∀ p, view (change p) = view p) :
    AlikeFor view r source (source.retold change) := by
  intro reference _
  unfold retold
  rcases source reference with err | evidence
  · rfl
  · have hview : evidence.through view = (evidence.through change).through view := by
      rw [Evidence.through_eq_iff]
      refine ⟨?_, rfl⟩
      rw [Evidence.through, List.map_map]
      exact List.map_congr_left fun p _ => (h p).symm
    exact congrArg Except.ok hview

theorem validFor_of_ok {b c : Evidence} (hb : source r.baseline = .ok b)
    (hc : source r.candidate = .ok c) (hbv : b.validate = .ok ()) (hcv : c.validate = .ok ()) :
    source.ValidFor r := by
  intro reference hr evidence hevidence
  rcases List.mem_cons.1 hr with rfl | hr
  · rw [hb] at hevidence
    cases hevidence
    exact hbv
  · rw [List.mem_singleton.1 hr, hc] at hevidence
    cases hevidence
    exact hcv

/-- The two sides of a request are resolved alike under a view. -/
def ResolvedAlike (view : TracePoint → TracePoint) (r : RunRequest)
    (source source' : EvidenceSource) : Prop :=
  ∀ side : Side, ∀ reference ∈ [r.baseline, r.candidate],
    (side.accept reference (source reference)).map (Evidence.through view) =
      (side.accept reference (source' reference)).map (Evidence.through view)

theorem accept_of_validFor (h : source.ValidFor r) {reference : String}
    (hr : reference ∈ [r.baseline, r.candidate]) (side : Side) :
    side.accept reference (source reference) = rephrase (.resolution side) (source reference) := by
  unfold Side.accept
  rcases hsource : source reference with err | evidence
  · rfl
  · simp only [rephrase, h reference hr evidence hsource, bind, Except.bind, pure, Except.pure]

/-- Valid evidence that is alike is resolved alike. -/
theorem AlikeFor.resolvedAlike (h : AlikeFor view r source source') (hvalid : source.ValidFor r)
    (hvalid' : source'.ValidFor r) : ResolvedAlike view r source source' := by
  intro side reference hr
  rw [accept_of_validFor hvalid hr, accept_of_validFor hvalid' hr, map_rephrase, map_rephrase,
    h reference hr]

end EvidenceSource

theorem Evidence.validate_of_laneless {e e' : Evidence}
    (h : e.through TracePoint.laneless = e'.through TracePoint.laneless) :
    e.validate = e'.validate := by
  have hlaneless (e : Evidence) : (e.through TracePoint.laneless).validate = e.validate := by
    unfold validate through
    rw [Validity.all_map]
    rfl
  rw [← hlaneless e, h, hlaneless]

/-- Evidence that is alike but for its lanes is resolved alike, valid or not. -/
theorem EvidenceSource.AlikeFor.resolvedAlike_laneless {r : RunRequest}
    {source source' : EvidenceSource} (h : AlikeFor TracePoint.laneless r source source') :
    ResolvedAlike TracePoint.laneless r source source' := by
  intro side reference hr
  unfold Side.accept
  have hsource : (rephrase (RunError.resolution side) (source reference)).map
      (Evidence.through TracePoint.laneless) =
        (rephrase (RunError.resolution side) (source' reference)).map
          (Evidence.through TracePoint.laneless) := by
    rw [map_rephrase, map_rephrase, h reference hr]
  apply bind_map_congr hsource
  intro e e' halike
  rw [Evidence.validate_of_laneless halike]
  cases e'.validate with
  | error err => rfl
  | ok _ => exact congrArg Except.ok halike

/-! ## Runs -/

/-- The result as a run in another mode gives it. -/
def RunResult.inMode (mode : ReplayMode) (result : RunResult) : RunResult :=
  { result with mode := mode }

/-- The result with the ending cursor put on a lane. -/
def RunResult.onLane (lane : Lane) (result : RunResult) : RunResult :=
  { result with cursor := result.cursor.map (Cursor.onLane lane) }

/-- What a result says was found, whatever its identity and its mode. -/
def RunResult.outcome (result : RunResult) : RunOutcome := ⟨result.divergences, result.cursor⟩

theorem Cursor.validateSome_onLane (lane : Lane) (cursor : Option Cursor) :
    validateSome (cursor.map (onLane lane)) = validateSome cursor := by
  cases cursor <;> rfl

namespace Replayer

variable {σ : Type} {e e' : Replayer σ} {r : RunRequest}

/-- Two results that are valid alike are concluded alike, as far as they are read alike. -/
theorem map_conclude_congr {α : Type} {r r' : RunRequest} {o o' : RunOutcome}
    {runId runId' : String} {f g : RunResult → α}
    (hvalid : RunResult.validate ⟨runId, r.mode, o.divergences, o.cursor⟩ =
      RunResult.validate ⟨runId', r'.mode, o'.divergences, o'.cursor⟩)
    (h : f ⟨runId, r.mode, o.divergences, o.cursor⟩ =
      g ⟨runId', r'.mode, o'.divergences, o'.cursor⟩) :
    (conclude r o runId).map f = (conclude r' o' runId').map g := by
  unfold conclude
  simp only [hvalid]
  cases RunResult.validate ⟨runId', r'.mode, o'.divergences, o'.cursor⟩ with
  | error err => rfl
  | ok _ => exact congrArg Except.ok h

theorem conclude_inMode (mode : ReplayMode) (o : RunOutcome) (runId : String) :
    conclude { r with mode := mode } o runId =
      (conclude r o runId).map (RunResult.inMode mode) := by
  have hconclude : (conclude { r with mode := mode } o runId).map id =
      (conclude r o runId).map (RunResult.inMode mode) := map_conclude_congr rfl rfl
  rwa [Except.map_id] at hconclude

theorem conclude_onLane (lane : Lane) (o : RunOutcome) (runId : String) :
    conclude r (o.onLane lane) runId = (conclude r o runId).map (RunResult.onLane lane) := by
  have hvalid :
      RunResult.validate ⟨runId, r.mode, o.divergences, o.cursor.map (Cursor.onLane lane)⟩ =
        RunResult.validate ⟨runId, r.mode, o.divergences, o.cursor⟩ := by
    unfold RunResult.validate
    rw [Cursor.validateSome_onLane]
  have hconclude : (conclude r (o.onLane lane) runId).map id =
      (conclude r o runId).map (RunResult.onLane lane) := map_conclude_congr hvalid rfl
  rwa [Except.map_id] at hconclude

/-- Under two identities that both say something, or both nothing, the same is concluded. -/
theorem outcome_conclude_congr {runId runId' : String}
    (h : Text.isBlank runId = Text.isBlank runId') (o : RunOutcome) :
    (conclude r o runId).map RunResult.outcome = (conclude r o runId').map RunResult.outcome := by
  have hvalid : RunResult.validate ⟨runId, r.mode, o.divergences, o.cursor⟩ =
      RunResult.validate ⟨runId', r.mode, o.divergences, o.cursor⟩ := by
    unfold RunResult.validate Validity.require
    rw [h]
  exact map_conclude_congr hvalid rfl

/-- Two replayers that resolve the sides of a request alike, and find the same in sides that are
alike, find the same. -/
theorem outcome_congr {α : Type} {view : TracePoint → TracePoint} {f : RunOutcome → α}
    (hsource : EvidenceSource.ResolvedAlike view r e.source e'.source)
    (hcompare : ∀ b b' c c', b.through view = b'.through view → c.through view = c'.through view →
      (e.settings.compareEvidence r b c).map f = (e'.settings.compareEvidence r b' c').map f) :
    (e.outcome r).map f = (e'.outcome r).map f := by
  have hbaseline := hsource .baseline r.baseline List.mem_cons_self
  have hcandidate := hsource .candidate r.candidate (List.mem_cons_of_mem _ List.mem_cons_self)
  rw [outcome_eq, outcome_eq]
  have hrequest : (rephrase RunError.invalidRequest r.validate).map id =
      (rephrase RunError.invalidRequest r.validate).map id := rfl
  -- the request is the same, and from there on each step sees no more than the view
  apply bind_map_congr hrequest
  rintro _ _ -
  apply bind_map_congr hbaseline
  intro b b' hb
  apply bind_map_congr hcandidate
  intro c c' hc
  exact hcompare b b' c c' hb hc

/-- Two replayers find the same for a request: the same divergences and the same ending cursor,
or the same error. It makes no difference when they run, as long as both runs get an identity
or neither does. -/
def FindsTheSame (e e' : Replayer σ) (r : RunRequest) : Prop :=
  ∀ st st', Text.isBlank (e.runId.run st).1 = Text.isBlank (e'.runId.run st').1 →
    ((e.run r).run st).1.map RunResult.outcome = ((e'.run r).run st').1.map RunResult.outcome

/-- Replayers with the same settings but for what makes no difference find the same in sources
that are alike. -/
theorem findsTheSame_of_resolvedAlike {view : TracePoint → TracePoint}
    (hsource : EvidenceSource.ResolvedAlike view r e.source e'.source)
    (hcompare : ∀ b b' c c', b.through view = b'.through view → c.through view = c'.through view →
      e.settings.compareEvidence r b c = e'.settings.compareEvidence r b' c') :
    e.FindsTheSame e' r := by
  have h : (e.outcome r).map id = (e'.outcome r).map id := by
    apply outcome_congr hsource
    intro b b' c c' hb hc
    rw [hcompare b b' c c' hb hc]
  rw [Except.map_id] at h
  intro st st' hid
  rcases ho : e.outcome r with err | o
  · rw [run_of_error ho, run_of_error (h.symm.trans ho)]
  · rw [run_of_ok ho, run_of_ok (h.symm.trans ho)]
    exact outcome_conclude_congr hid o

theorem outcome_inMode {mode : ReplayMode} (hmode : mode ≠ .replayDecisions)
    (hr : r.mode ≠ .replayDecisions) : e.outcome { r with mode := mode } = e.outcome r := by
  rw [outcome_eq, outcome_eq]
  unfold RunSettings.compareEvidence
  simp only [ReplayMode.compare_of_ne hmode, ReplayMode.compare_of_ne hr]
  rfl

/-- Replayers whose outcomes are the same but for the lane of the cursor, and that name their
runs alike, give the same results but for that. -/
theorem run_onLane_of_outcome {lane : Lane} (hid : e'.runId = e.runId)
    (h : (e.outcome r).map (RunOutcome.onLane lane) = (e'.outcome r).map (RunOutcome.onLane lane))
    (st : σ) :
    Prod.map (Except.map (RunResult.onLane lane)) id ((e.run r).run st) =
      Prod.map (Except.map (RunResult.onLane lane)) id ((e'.run r).run st) := by
  rcases ho : e.outcome r with err | o <;> rcases ho' : e'.outcome r with err' | o' <;>
    rw [ho, ho'] at h <;> simp only [Except.map, reduceCtorEq, Except.ok.injEq,
      Except.error.injEq] at h
  · rw [run_of_error ho, run_of_error ho', h]
  · rw [run_of_ok ho, run_of_ok ho', hid]
    simp only [Prod.map, ← conclude_onLane, h]

/-- A mode looks only at its own dimensions. Take any replayer and any request.

A mode that does not replay recorded decisions can be exchanged for another one: the run gives
the same error, or the same result but for its mode, and leaves the same state.

When recorded decisions are replayed from valid evidence, neither the tolerance makes a
difference nor what the decisions were taken under.

When valid evidence is replayed in another mode, it makes no difference when the decisions were
taken.

And without a cursor, whether the evidence is valid or not, the lanes that are recorded and the
lane of the settings make a difference to nothing but the lane of the ending cursor. -/
theorem a_mode_looks_only_at_its_own_dimensions (e : Replayer σ) (r : RunRequest) :
    (∀ mode st, mode ≠ .replayDecisions → r.mode ≠ .replayDecisions →
      (e.run { r with mode := mode }).run st =
        Prod.map (Except.map (RunResult.inMode mode)) id ((e.run r).run st)) ∧
    (∀ source tolerance, r.mode = .replayDecisions → e.source.ValidFor r → source.ValidFor r →
      e.source.AlikeFor TracePoint.bare r source →
      e.FindsTheSame { e with
        source := source, settings := { e.settings with compare := tolerance } } r) ∧
    (∀ source, r.mode ≠ .replayDecisions → e.source.ValidFor r → source.ValidFor r →
      e.source.AlikeFor TracePoint.undated r source →
      e.FindsTheSame { e with source := source } r) ∧
    (∀ source lane on st, r.cursor = none → e.source.AlikeFor TracePoint.laneless r source →
      Prod.map (Except.map (RunResult.onLane on)) id ((e.run r).run st) =
        Prod.map (Except.map (RunResult.onLane on)) id (({ e with
          source := source
          settings := { e.settings with defaultLane := lane } }.run r).run st)) := by
  refine ⟨?modes, ?decisions, ?times, ?lanes⟩
  case modes =>
    intro mode st hmode hr
    have hsame : e.outcome { r with mode := mode } = e.outcome r := outcome_inMode hmode hr
    rcases ho : e.outcome r with err | o
    · rw [run_of_error ho, run_of_error (hsame.trans ho)]
      rfl
    · rw [run_of_ok ho, run_of_ok (hsame.trans ho), conclude_inMode]
      rfl
  case decisions =>
    intro source tolerance hmode hvalid hvalid' halike
    apply findsTheSame_of_resolvedAlike (halike.resolvedAlike hvalid hvalid')
    intro b b' c c' hb hc
    exact RunSettings.compareEvidence_of_bare hmode hb hc tolerance
  case times =>
    intro source hmode hvalid hvalid' halike
    apply findsTheSame_of_resolvedAlike (halike.resolvedAlike hvalid hvalid')
    intro b b' c c' hb hc
    exact RunSettings.compareEvidence_of_undated hmode hb hc
  case lanes =>
    intro source lane on st hcursor halike
    refine run_onLane_of_outcome ?_ ?_ st
    · rfl
    · apply outcome_congr halike.resolvedAlike_laneless
      intro b b' c c' hb hc
      exact RunSettings.compareEvidence_of_laneless hcursor hb hc lane on

/-- A point as it stands under another plan, recorded later by another provider. -/
def replanned (p : TracePoint) : TracePoint :=
  { p with planHash := "plan-c", epoch := 4, provider := ⟨"stt-b", "model-2"⟩, runtimeAt := 900 }

/-- A point on the lane of data. -/
def onData (p : TracePoint) : TracePoint := { p with lane := some .data }

/-- A replayer like `replaysReplannedSession` of a session with each point changed. -/
def replaysRetold (change : TracePoint → TracePoint) (settings : RunSettings) : Replayer Millis :=
  { replaysReplannedSession with
    source := replaysReplannedSession.source.retold change, settings := settings }

theorem changes_that_a_mode_does_not_look_at :
    (∃ result : RunResult, (replaysReplannedSession.run replanRequest).run 1000 =
        (.ok result, 1000) ∧
      (replaysReplannedSession.run { replanRequest with mode := .reSimulateNodes }).run 1000 =
        (.ok (result.inMode .reSimulateNodes), 1000)) ∧
    replaysReplannedSession.FindsTheSame (replaysRetold replanned ⟨⟨99⟩, .control⟩)
      { replanRequest with mode := .replayDecisions } ∧
    replaysReplannedSession.FindsTheSame (replaysRetold TracePoint.undated .standard)
      replanRequest ∧
    ∃ result result' : RunResult,
      (replaysReplannedSession.run replanRequest).run 1000 = (.ok result, 1000) ∧
      ((replaysRetold onData .standard).run replanRequest).run 1000 = (.ok result', 1000) ∧
      result.onLane .control = result'.onLane .control ∧
      result.cursor.map (·.lane) = some .control ∧ result'.cursor.map (·.lane) = some .data := by
  have hrun : (replaysReplannedSession.run replanRequest).run 1000 = (.ok _, 1000) := rfl
  have hdata : ((replaysRetold onData .standard).run replanRequest).run 1000 = (.ok _, 1000) := rfl
  have hlaws := a_mode_looks_only_at_its_own_dimensions replaysReplannedSession
  have hvalid : replaysReplannedSession.source.ValidFor replanRequest :=
    EvidenceSource.validFor_of_ok rfl rfl rfl rfl
  refine ⟨⟨_, hrun, ?_⟩, ?_, ?_, _, _, hrun, hdata, ?_, rfl, rfl⟩
  · exact (hlaws replanRequest).1 .reSimulateNodes 1000 (by decide) (by decide)
  · exact (hlaws { replanRequest with mode := .replayDecisions }).2.1 _ ⟨99⟩ rfl hvalid
      (EvidenceSource.validFor_of_ok rfl rfl rfl rfl)
      (EvidenceSource.alikeFor_retold fun _ => rfl)
  · exact (hlaws replanRequest).2.2.1 _ (by decide) hvalid
      (EvidenceSource.validFor_of_ok rfl rfl rfl rfl)
      (EvidenceSource.alikeFor_retold fun _ => rfl)
  · have hlane := (hlaws replanRequest).2.2.2 (replaysReplannedSession.source.retold onData)
      .control .control 1000 rfl (EvidenceSource.alikeFor_retold fun _ => rfl)
    exact Except.ok.inj (congrArg Prod.fst hlane)

end Replayer

end ReplayEvidence
