/-! # Collecting outcomes

A stage tries every item and reports every error at once: it succeeds with all
values only if no item failed.
-/

namespace CommandBuffer.Outcome

variable {ε α : Type}

def values : List (Except ε α) → List α
  | [] => []
  | .ok value :: rest => value :: values rest
  | .error _ :: rest => values rest

def errors : List (Except ε α) → List ε
  | [] => []
  | .ok _ :: rest => errors rest
  | .error error :: rest => error :: errors rest

/-- All values, or every error in order. -/
def collect (outcomes : List (Except ε α)) : Except (List ε) (List α) :=
  match errors outcomes with
  | [] => .ok (values outcomes)
  | found => .error found

/-- All values, or every error of every item in order. -/
def collectAll (outcomes : List (Except (List ε) α)) : Except (List ε) (List α) :=
  match (errors outcomes).flatten with
  | [] => .ok (values outcomes)
  | found => .error found

@[simp] theorem values_map_ok (items : List α) :
    values (items.map (Except.ok : α → Except ε α)) = items := by
  induction items with
  | nil => rfl
  | cons item items ih => simp [values, ih]

@[simp] theorem errors_map_ok (items : List α) :
    errors (items.map (Except.ok : α → Except ε α)) = [] := by
  induction items with
  | nil => rfl
  | cons item items ih => simp [errors, ih]

theorem collect_map_ok (items : List α) :
    collect (items.map (Except.ok : α → Except ε α)) = .ok items := by
  simp [collect]

end CommandBuffer.Outcome
