/-!
# Components of a state

A storage is part of a platform, and a platform is part of a machine. An action on the component is
an action on the whole that leaves the rest alone; its failures become failures of the whole.
-/

namespace FiveStage

/-- A part of a whole: how to read it, and how to put another one in its place. -/
structure Component (Whole Piece : Type) where
  get : Whole → Piece
  put : Piece → Whole → Whole

namespace Component

variable {Whole Piece ε α : Type}

/-- The action on the whole that acts on a part. What the part is after a failure is kept. -/
def act (part : Component Whole Piece) (action : EStateM ε Piece α) : EStateM ε Whole α :=
  fun whole =>
  match action.run (part.get whole) with
  | .ok a piece => .ok a (part.put piece whole)
  | .error fault piece => .error fault (part.put piece whole)

end Component

/-- The action with its failures worded as failures of another kind. -/
def failingAs {ε φ σ α : Type} (embed : ε → φ) (action : EStateM ε σ α) : EStateM φ σ α := fun s =>
  match action.run s with
  | .ok a s => .ok a s
  | .error fault s => .error (embed fault) s

/-- A result or failure as an action that changes nothing. -/
def settle {ε σ α : Type} : Except ε α → EStateM ε σ α
  | .ok a => pure a
  | .error fault => throw fault

end FiveStage
