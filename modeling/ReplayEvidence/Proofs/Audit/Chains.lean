-- The laws of sinks that are composed in chains, chains in chains included. The sinks
-- at the leaves take or refuse as they like, and so do the resolvers of the tiers. An
-- event walks through the tree tier by tier and stops at the first leaf that takes it.
import ReplayEvidence.Audit.Sink
import ReplayEvidence.Proofs.Audit.Watching

namespace ReplayEvidence

variable {σ α : Type}

/-! ## Trees of sinks -/

mutual

/-- A sink of any kind, or a chain of tiers. -/
inductive SinkTree (σ α : Type) : Type where
  | leaf (name : α) (sink : Sink σ)
  | chain (tiers : Tiers σ α)

/-- The tiers of a chain. The resolver of a tier refuses a tenant, or picks one of the sinks
that the tier has. -/
inductive Tiers (σ α : Type) : Type where
  | nil
  | cons {n : Nat} (name : α) (pick : String → StateM σ (Except AuditError (Fin n)))
      (trees : Fin n → SinkTree σ α) (rest : Tiers σ α)

end

/-- A place of a tree: the resolver of a tier, or a leaf. -/
inductive Place (α : Type) where
  | resolver (name : α)
  | leaf (name : α)
deriving DecidableEq, Repr

mutual

/-- The places of a tree from first to last, depth first: what a tier holds stands after its
resolver and before the next tier. -/
def SinkTree.places : SinkTree σ α → List (Place α)
  | .leaf name _ => [.leaf name]
  | .chain tiers => tiers.places

def Tiers.places : Tiers σ α → List (Place α)
  | .nil => []
  | .cons name _ trees rest =>
    .resolver name :: (List.ofFn fun i => (trees i).places).flatten ++ rest.places

end

def Tiers.length : Tiers σ α → Nat
  | .nil => 0
  | .cons _ _ _ rest => rest.length + 1

/-- The backend that has some sinks and picks one of them for a tenant, or refuses it. -/
def Backend.picking {n : Nat} (pick : String → StateM σ (Except AuditError (Fin n)))
    (sinks : Fin n → Sink σ) : Backend σ where
  sinkFor tenant := do
    match ← pick tenant with
    | .ok i => return .ok (sinks i)
    | .error e => return .error e

mutual

/-- The sink that a tree is. -/
def SinkTree.sink : SinkTree σ α → Sink σ
  | .leaf _ sink => sink
  | .chain tiers => .chain tiers.backends

def Tiers.backends : Tiers σ α → List (Backend σ)
  | .nil => []
  | .cons _ pick trees rest => .picking pick (fun i => (trees i).sink) :: rest.backends

end

/-! ## Trees under watch -/

/-- What happened at a place: a resolver was asked for a tenant, and refused or picked, or a
leaf was handed an event, and took it or not. -/
inductive Touch (α : Type) where
  | asked (name : α) (tenant : String) (said : Except AuditError Nat)
  | handed (name : α) (event : AuditEvent) (said : Taken)

def Touch.place : Touch α → Place α
  | .asked name _ _ => .resolver name
  | .handed name _ _ => .leaf name

/-- A leaf was handed the event and took it. -/
def Touch.Took (event : AuditEvent) (t : Touch α) : Prop := ∃ name, t = .handed name event (.ok ())

mutual

/-- The same tree with everything noted down that its resolvers and leaves are asked and
say. -/
def SinkTree.watched : SinkTree σ α → SinkTree (σ × List (Touch α)) α
  | .leaf name sink => .leaf name ⟨fun event => noting (.handed name event) (sink.append event)⟩
  | .chain tiers => .chain tiers.watched

def Tiers.watched : Tiers σ α → Tiers (σ × List (Touch α)) α
  | .nil => .nil
  | .cons name pick trees rest =>
    .cons name
      (fun tenant => noting (fun said => .asked name tenant (said.map Fin.val)) (pick tenant))
      (fun i => (trees i).watched) rest.watched

end

/-! ## The walk of an event -/

mutual

/-- The walk of an event through a tree: what it touches, and what comes of it. A leaf is
touched once and decides. A chain without tiers has no sink. A chain whose tiers all fail
fails with their errors. -/
inductive SinkTree.Walk (event : AuditEvent) : SinkTree σ α → List (Touch α) → Taken → Prop
  | leaf (name : α) (sink : Sink σ) (said : Taken) :
    SinkTree.Walk event (.leaf name sink) [.handed name event said] said
  | unset : SinkTree.Walk event (.chain .nil) [] (.error .sinkUnset)
  | taken {tiers : Tiers σ α} {touches : List (Touch α)}
      (tried : Tiers.Walk event tiers touches (.ok ())) :
    SinkTree.Walk event (.chain tiers) touches (.ok ())
  | failed {tiers : Tiers σ α} {touches : List (Touch α)} {errors : List AuditError}
      (some : tiers ≠ .nil) (tried : Tiers.Walk event tiers touches (.error errors)) :
    SinkTree.Walk event (.chain tiers) touches (.error (.allBackendsFailed errors))

/-- The walk through one tier. When the resolver refuses, its error is that of the tier;
otherwise the sink that it picked decides. -/
inductive Tier.Walk (event : AuditEvent) :
    α → {n : Nat} → (Fin n → SinkTree σ α) → List (Touch α) → Taken → Prop
  | refused (name : α) {n : Nat} (trees : Fin n → SinkTree σ α) (e : AuditError) :
    Tier.Walk event name trees [.asked name event.tenant (.error e)] (.error e)
  | picked (name : α) {n : Nat} {trees : Fin n → SinkTree σ α} {touches : List (Touch α)}
      {said : Taken} (i : Fin n) (tried : SinkTree.Walk event (trees i) touches said) :
    Tier.Walk event name trees (.asked name event.tenant (.ok i) :: touches) said

/-- The walk through tiers, from the first on. When a tier fails, its error comes before those
of the next ones, which have their turn then; a tier that takes the event ends the walk. -/
inductive Tiers.Walk (event : AuditEvent) :
    Tiers σ α → List (Touch α) → Except (List AuditError) Unit → Prop
  | nil : Tiers.Walk event .nil [] (.error [])
  | failed {name : α} {n : Nat} {pick : String → StateM σ (Except AuditError (Fin n))}
      {trees : Fin n → SinkTree σ α} {rest : Tiers σ α} {touches later : List (Touch α)}
      {e : AuditError} {taken : Except (List AuditError) Unit}
      (tried : Tier.Walk event name trees touches (.error e))
      (next : Tiers.Walk event rest later taken) :
    Tiers.Walk event (.cons name pick trees rest) (touches ++ later) (taken.mapError (e :: ·))
  | taken {name : α} {n : Nat} {pick : String → StateM σ (Except AuditError (Fin n))}
      {trees : Fin n → SinkTree σ α} {rest : Tiers σ α} {touches : List (Touch α)}
      (tried : Tier.Walk event name trees touches (.ok ())) :
    Tiers.Walk event (.cons name pick trees rest) touches (.ok ())

end

/-! ## Every append is a walk -/

theorem Backend.append_picking {n : Nat} (pick : String → StateM σ (Except AuditError (Fin n)))
    (sinks : Fin n → Sink σ) (event : AuditEvent) :
    (Backend.picking pick sinks).append event = do
      match ← pick event.tenant with
      | .ok i => (sinks i).append event
      | .error e => return .error e := by
  unfold append picking
  simp only [bind_assoc]
  apply bind_congr
  rintro (e | i) <;> rfl

variable {event : AuditEvent}

theorem Tier.traces {n : Nat} (name : α) (pick : String → StateM σ (Except AuditError (Fin n)))
    {trees : Fin n → SinkTree σ α}
    (h : ∀ i, Traces ((trees i).sink.append event) ((trees i).watched.sink.append event)
      (SinkTree.Walk event (trees i))) :
    Traces ((Backend.picking pick fun i => (trees i).sink).append event)
      ((Backend.picking
        (fun tenant => noting (fun said => .asked name tenant (said.map Fin.val)) (pick tenant))
        fun i => (trees i).watched.sink).append event)
      (Tier.Walk event name trees) := by
  rw [Backend.append_picking, Backend.append_picking]
  apply (Traces.of_noting _ _).bind
  rintro _ (e | i) rfl
  · exact Traces.of_pure (.refused name trees e)
  · exact (h i).mono fun touches said => .picked name i

mutual

theorem SinkTree.traces : (tree : SinkTree σ α) →
    Traces (tree.sink.append event) (tree.watched.sink.append event) (tree.Walk event)
  | .leaf name sink => by
    apply (Traces.of_noting _ _).mono
    rintro _ said rfl
    exact .leaf name sink said
  | .chain .nil => Traces.of_pure .unset
  | .chain (.cons name pick trees rest) => by
    have htiers := Tiers.traces (.cons name pick trees rest)
    apply htiers.bind_pure
    rintro touches (errors | _) hwalk
    · exact ⟨_, rfl, rfl, .failed nofun hwalk⟩
    · exact ⟨_, rfl, rfl, .taken hwalk⟩

theorem Tiers.traces : (tiers : Tiers σ α) →
    Traces (firstSuccess (tiers.backends.map fun b => b.append event))
      (firstSuccess (tiers.watched.backends.map fun b => b.append event)) (tiers.Walk event)
  | .nil => Traces.of_pure .nil
  | .cons name pick trees rest => by
    have htier : Traces _ _ (Tier.Walk event name trees) :=
      Tier.traces name pick fun i => (trees i).traces
    apply htier.bind
    rintro touches (e | _) hwalk
    · apply (Tiers.traces rest).bind_pure
      rintro later (errors | _) hrest
      · exact ⟨_, rfl, rfl, .failed hwalk hrest⟩
      · exact ⟨_, rfl, rfl, .failed hwalk hrest⟩
    · apply Traces.of_pure
      rw [List.append_nil]
      exact .taken hwalk

end

/-! ## What a walk touches -/

/-- The touches of a walk go through its places in order, and a leaf takes the event at their
end or nowhere. -/
structure Orderly (event : AuditEvent) (places : List (Place α)) (touches : List (Touch α))
    (taken : Bool) : Prop where
  inOrder : (touches.map Touch.place).Sublist places
  endsTaken : EndsWith (Touch.Took event) touches taken

namespace Orderly

variable {places later : List (Place α)} {touches next : List (Touch α)} {taken : Bool}

theorem nil : Orderly event places ([] : List (Touch α)) false :=
  ⟨List.nil_sublist _, EndsWith.nil⟩

theorem asked {name : α} {tenant : String} {said : Except AuditError Nat} :
    Orderly event [.resolver name] [.asked name tenant said] false := by
  refine ⟨List.Sublist.refl _, ?_⟩
  rintro t ht ⟨_, rfl⟩
  cases List.mem_singleton.1 ht

theorem handed {name : α} {said : Taken} :
    Orderly event [.leaf name] [.handed name event said] said.isOk := by
  refine ⟨List.Sublist.refl _, ?_⟩
  rcases said with e | _
  · rintro t ht ⟨_, rfl⟩
    cases List.mem_singleton.1 ht
  · exact ⟨[], _, rfl, ⟨name, rfl⟩, nofun⟩

/-- After a walk that failed comes the next one. -/
theorem append (h : Orderly event places touches false) (hnext : Orderly event later next taken) :
    Orderly event (places ++ later) (touches ++ next) taken := by
  refine ⟨?_, h.endsTaken.append hnext.endsTaken⟩
  rw [List.map_append]
  exact h.inOrder.append hnext.inOrder

/-- A walk through a part of the places is one through all of them. -/
theorem widen (h : Orderly event places touches taken) (hsub : places.Sublist later) :
    Orderly event later touches taken :=
  ⟨h.inOrder.trans hsub, h.endsTaken⟩

end Orderly

mutual

theorem SinkTree.Walk.orderly {tree : SinkTree σ α} {touches : List (Touch α)} {taken : Taken} :
    SinkTree.Walk event tree touches taken → Orderly event tree.places touches taken.isOk
  | .leaf _ _ _ => .handed
  | .unset => .nil
  | .taken tried => tried.orderly
  | .failed _ tried => tried.orderly

theorem Tier.Walk.orderly {name : α} {n : Nat} {trees : Fin n → SinkTree σ α}
    {touches : List (Touch α)} {taken : Taken} : Tier.Walk event name trees touches taken →
      Orderly event (.resolver name :: (List.ofFn fun i => (trees i).places).flatten) touches
        taken.isOk
  | .refused _ _ _ => Orderly.asked.widen (List.Sublist.cons_cons _ (List.nil_sublist _))
  | .picked _ i tried => by
    have hplaces : ((trees i).places).Sublist (List.ofFn fun i => (trees i).places).flatten :=
      List.sublist_flatten_of_mem (List.mem_ofFn.2 ⟨i, rfl⟩)
    exact Orderly.asked.append (tried.orderly.widen hplaces)

theorem Tiers.Walk.orderly {tiers : Tiers σ α} {touches : List (Touch α)}
    {taken : Except (List AuditError) Unit} :
    Tiers.Walk event tiers touches taken → Orderly event tiers.places touches taken.isOk
  | .nil => .nil
  | .failed tried next => by
    rw [isOk_mapError]
    exact tried.orderly.append next.orderly
  | .taken tried => tried.orderly.widen (List.sublist_append_left _ _)

end

theorem Tiers.Walk.length_errors {tiers : Tiers σ α} {touches : List (Touch α)}
    {taken : Except (List AuditError) Unit} (h : Tiers.Walk event tiers touches taken)
    {errors : List AuditError} (herrors : taken = .error errors) :
    errors.length = tiers.length := by
  match h with
  | .nil =>
    cases herrors
    rfl
  | .failed tried next =>
    obtain ⟨es, hes, rfl⟩ := mapError_eq_error.1 herrors
    rw [List.length_cons, next.length_errors hes]
    rfl
  | .taken tried => cases herrors

/-! ## The law -/

/-- What holds of every append to a tree. It is a walk; its touches go through the places of
the tree in order; it succeeds exactly when a leaf took the event, and that leaf is the last
that was touched, and the only one that took it. A chain that fails says that no sink is set up
when it has no tiers, and otherwise gives one error for each tier. -/
structure SinkTree.Stored (tree : SinkTree σ α) (event : AuditEvent) (touches : List (Touch α))
    (taken : Taken) : Prop where
  walk : tree.Walk event touches taken
  inOrder : (touches.map Touch.place).Sublist tree.places
  taken_iff : taken = .ok () ↔ ∃ t ∈ touches, t.Took event
  last : ∀ before t after, touches = before ++ t :: after → t.Took event →
    after = [] ∧ ∀ earlier ∈ before, ¬ earlier.Took event
  errors : ∀ tiers e, tree = .chain tiers → taken = .error e →
    (e = .sinkUnset ↔ tiers = .nil) ∧
      (tiers ≠ .nil → ∃ es, e = .allBackendsFailed es ∧ es.length = tiers.length)

theorem SinkTree.Walk.errors {tiers : Tiers σ α} {touches : List (Touch α)} {taken : Taken}
    (h : SinkTree.Walk event (.chain tiers) touches taken) {e : AuditError}
    (he : taken = .error e) :
    (e = .sinkUnset ↔ tiers = .nil) ∧
      (tiers ≠ .nil → ∃ es, e = .allBackendsFailed es ∧ es.length = tiers.length) := by
  cases h with
  | unset =>
    cases he
    exact ⟨⟨fun _ => rfl, fun _ => rfl⟩, fun hne => absurd rfl hne⟩
  | taken tried => cases he
  | failed hsome tried =>
    cases he
    exact ⟨⟨nofun, fun hnil => absurd hnil hsome⟩, fun _ => ⟨_, rfl, tried.length_errors rfl⟩⟩

/-- An append to a tree of chains stores the event once or not at all. Take any tree, of any
depth and with chains without tiers, over leaves and resolvers that have a state and do what
they like, and any event and state. Noting down what is touched changes nothing, and what is
noted down and the answer are those of a walk that stops at the first leaf that takes the
event. -/
theorem an_append_to_a_tree_stores_the_event_once (tree : SinkTree σ α) (event : AuditEvent)
    (st : σ) :
    ∃ taken after touches,
      (tree.sink.append event).run st = (taken, after) ∧
      (tree.watched.sink.append event).run (st, []) = (taken, after, touches) ∧
      tree.Stored event touches taken := by
  have htraces : Traces _ _ (tree.Walk event) := tree.traces
  obtain ⟨touches, hrun, hwalk⟩ := htraces st []
  have horderly := hwalk.orderly
  refine ⟨_, _, touches, rfl, hrun, hwalk, horderly.inOrder, ?_, ?_, ?_⟩
  · exact isOk_eq_true_iff.symm.trans horderly.endsTaken.iff_exists
  · intro before t after htouches htook
    exact horderly.endsTaken.last htouches htook
  · rintro tiers e rfl he
    exact hwalk.errors he

end ReplayEvidence
