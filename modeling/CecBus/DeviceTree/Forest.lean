/-! Ordered forests. A forest is empty or has a first tree, given by its value and the forest below it, and
the forest beside it. Everything about trees is one recursion over this type. -/

namespace CecBus

/-- An ordered forest with a value at every node. -/
inductive Forest (α : Type) where
  | nil
  | cons (value : α) (below beside : Forest α)
  deriving DecidableEq, Repr

/-- One tree: a value and the forest below it. -/
structure Branch (α : Type) where
  value : α
  below : Forest α
  deriving DecidableEq, Repr

namespace Forest

variable {α β : Type}

/-- The values in preorder. -/
def toList : Forest α → List α
  | nil => []
  | cons a below beside => a :: (below.toList ++ beside.toList)

def map (f : α → β) : Forest α → Forest β
  | nil => nil
  | cons a below beside => cons (f a) (below.map f) (beside.map f)

@[simp] theorem toList_map (f : α → β) (t : Forest α) : (t.map f).toList = t.toList.map f := by
  induction t with
  | nil => rfl
  | cons a below beside below_ih beside_ih => simp [map, toList, below_ih, beside_ih]

end Forest

end CecBus
