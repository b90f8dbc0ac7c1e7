/-
Texts cut into pieces and put together again.

Main definitions, all on lists of characters:
* `Text.pieces`, `Text.join` — the pieces between the occurrences of a separator, and back;
* `Text.after?` — what follows a given beginning;
* `Text.splitOnce?` — the two sides of the first occurrence of a text;
* `Text.trimEnd`, `Text.trimBoth` — a text without the characters of a class at its ends.
-/
namespace Strongbox.Text

/-- The pieces of a text between occurrences of a character.  There is one piece more than there
are occurrences, so the empty text has one piece, the empty one. -/
def pieces (sep : Char) : List Char → List (List Char)
  | [] => [[]]
  | c :: s =>
    if c = sep then [] :: pieces sep s
    else
      match pieces sep s with
      | [] => [[c]]
      | p :: ps => (c :: p) :: ps

/-- The pieces with the separator between them. -/
def join (sep : Char) : List (List Char) → List Char
  | [] => []
  | [p] => p
  | p :: ps => p ++ sep :: join sep ps

/-- Does the text start with the characters `p`?  If so, what follows them. -/
def after? : (p s : List Char) → Option (List Char)
  | [], s => some s
  | _ :: _, [] => none
  | a :: p, b :: s => if a = b then after? p s else none

/-- Where `p` first occurs in the text: what stands before it and what follows it. -/
def splitOnce? (p : List Char) : List Char → Option (List Char × List Char)
  | [] => (after? p []).map fun rest => ([], rest)
  | c :: s =>
    match after? p (c :: s) with
    | some rest => some ([], rest)
    | none => (splitOnce? p s).map fun (before, rest) => (c :: before, rest)

/-- What stands before `p` in a text that ends in `p`. -/
def before? (p s : List Char) : Option (List Char) :=
  (after? p.reverse s.reverse).map List.reverse

/-- The text without the longest final part whose characters are all in the class. -/
def trimEnd (p : Char → Bool) (s : List Char) : List Char :=
  (s.reverse.dropWhile p).reverse

/-- The text without the longest initial and final parts whose characters are all in the
class. -/
def trimBoth (p : Char → Bool) (s : List Char) : List Char :=
  trimEnd p (s.dropWhile p)

/-- The text without slashes at its ends. -/
def trimSlashes (s : List Char) : List Char := trimBoth (· == '/') s

theorem pieces_ne_nil (sep : Char) (s : List Char) : pieces sep s ≠ [] := by
  cases s with
  | nil => simp [pieces]
  | cons c s =>
    by_cases h : c = sep
    · simp [pieces, h]
    · cases hp : pieces sep s <;> simp [pieces, h, hp]

/-- The pieces put together again are the text. -/
theorem join_pieces (sep : Char) (s : List Char) : join sep (pieces sep s) = s := by
  induction s with
  | nil => rfl
  | cons c s ih =>
    obtain ⟨p, ps, hp⟩ := List.exists_cons_of_ne_nil (pieces_ne_nil sep s)
    rw [hp] at ih
    by_cases h : c = sep
    · simp [pieces, h, hp, join, ih]
    · cases ps <;> simp_all [pieces, join]

end Strongbox.Text
