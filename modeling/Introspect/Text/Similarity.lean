/-! # Similar words

How alike two words are, as a fraction between zero and one, for hints after a misspelt word:

* `Pairing` — characters of two words paired with equal characters nearby;
* `likeness : List Char → List Char → Fraction` — the mean of the paired share of each word and of
  the share of pairs that stand in the same order;
* `closest?` — the likest of some known words, if any is like enough.
-/

namespace Introspect.Text

/-! ## Fractions -/

/-- A fraction of natural numbers; a zero below reads as zero. -/
structure Fraction where
  above : Nat
  below : Nat
deriving DecidableEq, Repr

/-- Is the first fraction larger? -/
def Fraction.exceeds (p q : Fraction) : Bool :=
  q.above * p.below < p.above * q.below

/-! ## Pairs -/

/-- The characters of the first word that have a partner, in order, and the places of their
partners in the second word. -/
structure Pairing where
  paired : List Char := []
  taken : List Nat := []

/-- Pairs the character at place `i` with the first free equal one of `other` that is at most
`reach` places away. -/
def Pairing.add (reach : Nat) (other : List Char) (p : Pairing) (c : Char) (i : Nat) : Pairing :=
  match other.zipIdx.find? fun (d, j) =>
      d == c && i ≤ j + reach && j ≤ i + reach && !p.taken.contains j with
  | some (_, j) => ⟨p.paired ++ [c], j :: p.taken⟩
  | none => p

/-- Pairs each character of `word` in turn. -/
def pairing (word other : List Char) : Pairing :=
  let reach := max word.length other.length / 2 - 1
  word.zipIdx.foldl (fun p (c, i) => p.add reach other c i) {}

/-- The partners in the order of the second word. -/
def Pairing.partners (p : Pairing) (other : List Char) : List Char :=
  (other.zipIdx.filter fun (_, j) => p.taken.contains j).map (·.1)

/-- Half the number of pairs whose characters differ when both words are read in order. -/
def Pairing.swaps (p : Pairing) (other : List Char) : Nat :=
  ((p.paired.zip (p.partners other)).filter fun (c, d) => c != d).length / 2

/-! ## Likeness -/

/-- How alike two words are. -/
def likeness (word other : List Char) : Fraction :=
  let p := pairing word other
  let (a, b, n) := (word.length, other.length, p.paired.length)
  if a == 0 && b == 0 then ⟨1, 1⟩
  else if n == 0 then ⟨0, 1⟩
  else ⟨n * n * b + n * n * a + (n - p.swaps other) * a * b, 3 * a * b * n⟩

/-- Known words are offered from a likeness of more than seven tenths on. -/
def enough : Fraction := ⟨7, 10⟩

/-- The known word most like `word`, the last of several, if one is like enough. -/
def closest? (word : String) (known : List String) : Option String :=
  let likenessTo := fun (k : String) => likeness word.toList k.toList
  (known.filter fun k => (likenessTo k).exceeds enough).foldl
    (fun best k =>
      match best with
      | some b => if (likenessTo b).exceeds (likenessTo k) then some b else some k
      | none => some k)
    none

end Introspect.Text
