-- Cutting a text at every character of a class.

namespace TypedResources.Text

variable {α : Type}

-- The pieces between the elements that satisfy `p`, empty ones included; there is always one.
def splitAll (p : α → Bool) : List α → List (List α)
  | []     => [[]]
  | c :: t =>
    if p c then [] :: splitAll p t
    else match splitAll p t with
      | []      => [[c]]
      | w :: ws => (c :: w) :: ws

theorem splitAll_ne_nil (p : α → Bool) (s : List α) : splitAll p s ≠ [] := by
  induction s with
  | nil => simp [splitAll]
  | cons c t ih => grind [splitAll]

theorem not_mem_of_mem_splitAll {p : α → Bool} {s w : List α} (h : w ∈ splitAll p s) :
    ∀ c ∈ w, p c = false := by
  induction s generalizing w with
  | nil => simp_all [splitAll]
  | cons d t ih => grind [splitAll]

end TypedResources.Text
