/-!
# Sorting by insertion

A list put in order by a relation, so that items of which each comes before the other keep their order. Main
statement: nothing is lost and nothing is added.
-/

namespace SenderPolicy.Sorting

variable {α : Type} (before : α → α → Bool)

/-- Puts an item in front of the first item that it comes before. -/
def insert (x : α) : List α → List α
  | [] => [x]
  | y :: ys => if before x y then x :: y :: ys else y :: insert x ys

def sort : List α → List α
  | [] => []
  | x :: xs => insert before x (sort xs)

/-- Insertion adds the item and nothing else. -/
theorem insert_perm (x : α) (l : List α) : (insert before x l).Perm (x :: l) := by
  induction l with
  | nil => exact List.Perm.refl _
  | cons y ys ih =>
    simp only [insert]
    split
    · exact List.Perm.refl _
    · exact (ih.cons y).trans (List.Perm.swap x y ys)

/-- Sorting keeps every item. -/
theorem sort_perm (l : List α) : (sort before l).Perm l := by
  induction l with
  | nil => exact List.Perm.refl _
  | cons x xs ih => exact (insert_perm before x _).trans (ih.cons x)

end SenderPolicy.Sorting
