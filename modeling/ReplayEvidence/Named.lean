-- Closed sets of names: a type whose values each have one name. Reading a
-- name gives its value back, since no two values share a name.

namespace ReplayEvidence

/-- A type of finitely many values, listed in their order, each with a name of
its own. -/
class Named (α : Type) where
  all : List α
  name : α → String
  mem_all : ∀ a, a ∈ all
  name_inj : ∀ a b, name a = name b → a = b

namespace Named

variable {α : Type} [Named α]

def ofName? (s : String) : Option α := all.find? fun a => name a == s

def names (α : Type) [Named α] : List String := (all : List α).map name

theorem ofName?_name (a : α) : ofName? (name a) = some a := by
  unfold ofName?
  rcases h : (all : List α).find? fun b => name b == name a with _ | b
  · have := List.find?_eq_none.1 h a (mem_all a)
    simp at this
  · have hb := List.find?_some h
    exact congrArg some (name_inj b a (by simpa using hb))

end Named

end ReplayEvidence
