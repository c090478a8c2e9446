-- Actions under watch. An action with a state is watched by noting down what it
-- gives, at the end of a log that it cannot read. Watching changes nothing, and what
-- holds of the log of a sequence follows from what holds of the logs of its parts.
-- What is tried until it happens once happens at the end of its log, or nowhere.
import Mathlib

namespace ReplayEvidence

variable {σ τ α β : Type}

/-! ## Noting down -/

/-- The action that also notes down what it gives. -/
def noting (note : α → τ) (act : StateM σ α) : StateM (σ × List τ) α := do
  let (st, log) ← get
  let (a, after) := act.run st
  set (after, log ++ [note a])
  return a

/-- A watched action does what the action does, and adds to the log what is right for
what it gives. -/
def Traces (act : StateM σ α) (watched : StateM (σ × List τ) α) (Right : List τ → α → Prop) :
    Prop :=
  ∀ st log, ∃ added,
    watched.run (st, log) = ((act.run st).1, (act.run st).2, log ++ added) ∧
      Right added (act.run st).1

namespace Traces

variable {Right : List τ → α → Prop}

theorem of_pure {a : α} (h : Right [] a) :
    Traces (pure a : StateM σ α) (pure a : StateM (σ × List τ) α) Right := by
  intro st log
  refine ⟨[], ?_, h⟩
  rw [List.append_nil]
  rfl

theorem of_noting (note : α → τ) (act : StateM σ α) :
    Traces act (noting note act) fun added a => added = [note a] :=
  fun _ _ => ⟨_, rfl, rfl⟩

theorem mono {act : StateM σ α} {watched : StateM (σ × List τ) α} {Wider : List τ → α → Prop}
    (h : Traces act watched Right) (hwider : ∀ added a, Right added a → Wider added a) :
    Traces act watched Wider := by
  intro st log
  obtain ⟨added, hrun, hright⟩ := h st log
  exact ⟨added, hrun, hwider _ _ hright⟩

/-- Two actions in a row add to the log what they add one after the other. -/
theorem bind {act : StateM σ α} {watched : StateM (σ × List τ) α} (h : Traces act watched Right)
    {next : α → StateM σ β} {watchedNext : α → StateM (σ × List τ) β}
    {RightAfter : List τ → β → Prop}
    (hnext : ∀ first a, Right first a →
      Traces (next a) (watchedNext a) fun second b => RightAfter (first ++ second) b) :
    Traces (act >>= next) (watched >>= watchedNext) RightAfter := by
  intro st log
  obtain ⟨first, hfirst, hright⟩ := h st log
  obtain ⟨second, hsecond, hafter⟩ := hnext first _ hright (act.run st).2 (log ++ first)
  refine ⟨first ++ second, ?_, hafter⟩
  rw [StateT.run_bind, hfirst, ← List.append_assoc]
  exact hsecond

/-- An action and an answer that is made of what it gives. -/
theorem bind_pure {act : StateM σ α} {watched : StateM (σ × List τ) α}
    (h : Traces act watched Right) {next : α → StateM σ β} {watchedNext : α → StateM (σ × List τ) β}
    {RightAfter : List τ → β → Prop}
    (hnext : ∀ added a, Right added a →
      ∃ b, next a = pure b ∧ watchedNext a = pure b ∧ RightAfter added b) :
    Traces (act >>= next) (watched >>= watchedNext) RightAfter := by
  apply h.bind
  intro added a hright
  obtain ⟨b, hb, hwatched, hafter⟩ := hnext added a hright
  rw [hb, hwatched]
  apply of_pure
  rw [List.append_nil]
  exact hafter

end Traces

/-! ## Answers -/

theorem isOk_mapError {ε δ β : Type} (x : Except ε β) (f : ε → δ) :
    (x.mapError f).isOk = x.isOk := by
  rcases x with e | b <;> rfl

theorem isOk_eq_true_iff {ε : Type} {x : Except ε Unit} : x.isOk = true ↔ x = .ok () := by
  rcases x with e | _ <;> simp [Except.isOk, Except.toBool]

theorem mapError_eq_error {ε δ β : Type} {x : Except ε β} {f : ε → δ} {e : δ} :
    x.mapError f = .error e ↔ ∃ e', x = .error e' ∧ f e' = e := by
  rcases x with e' | b <;> simp [Except.mapError]

/-! ## What happens once -/

/-- Something happens at the end of the log and nowhere before, or it does not happen. -/
def EndsWith (Happens : τ → Prop) (log : List τ) (happened : Bool) : Prop :=
  if happened then
    ∃ before t, log = before ++ [t] ∧ Happens t ∧ ∀ b ∈ before, ¬ Happens b
  else ∀ t ∈ log, ¬ Happens t

namespace EndsWith

variable {Happens : τ → Prop} {log : List τ} {happened : Bool}

theorem nil : EndsWith Happens [] false := nofun

/-- After a log without it comes the next one. -/
theorem append {next : List τ} (h : EndsWith Happens log false)
    (hnext : EndsWith Happens next happened) : EndsWith Happens (log ++ next) happened := by
  rcases happened
  · intro t ht
    rcases List.mem_append.1 ht with ht | ht
    · exact h t ht
    · exact hnext t ht
  · obtain ⟨before, t, rfl, ht, hbefore⟩ := hnext
    refine ⟨log ++ before, t, (List.append_assoc ..).symm, ht, ?_⟩
    intro b hb
    rcases List.mem_append.1 hb with hb | hb
    · exact h b hb
    · exact hbefore b hb

theorem iff_exists (h : EndsWith Happens log happened) :
    happened = true ↔ ∃ t ∈ log, Happens t := by
  rcases happened
  · refine ⟨nofun, ?_⟩
    rintro ⟨t, hmem, ht⟩
    exact absurd ht (h t hmem)
  · obtain ⟨before, t, rfl, ht, _⟩ := h
    exact ⟨fun _ => ⟨t, List.mem_append_right _ (List.mem_singleton.2 rfl), ht⟩, fun _ => rfl⟩

/-- Wherever it happens in the log, nothing comes after, and it did not happen before. -/
theorem last (h : EndsWith Happens log happened) {before after : List τ} {t : τ}
    (hlog : log = before ++ t :: after) (ht : Happens t) :
    after = [] ∧ ∀ b ∈ before, ¬ Happens b := by
  rcases happened
  · have hmem : t ∈ log := hlog ▸ List.mem_append_right _ (List.mem_cons_self ..)
    exact absurd ht (h t hmem)
  · obtain ⟨earlier, last, hlast, _, hearlier⟩ := h
    rw [hlog] at hlast
    rcases List.eq_nil_or_concat after with rfl | ⟨middle, final, rfl⟩
    · obtain ⟨rfl, _⟩ := List.append_inj' hlast rfl
      exact ⟨rfl, hearlier⟩
    · -- otherwise it happened among what came earlier
      have hsplit : (before ++ t :: middle) ++ [final] = earlier ++ [last] := by
        rw [← hlast]
        simp
      obtain ⟨rfl, _⟩ := List.append_inj' hsplit rfl
      exact absurd ht (hearlier t (List.mem_append_right _ (List.mem_cons_self ..)))

end EndsWith

end ReplayEvidence
