/-! # Plain text

Operations on text that every part of the library shares:

* `isBlank : Char → Bool` — white space of every script;
* `trimStart`, `trim : String → String` — white space removed at the ends;
* `squeeze : String → String` — white space removed everywhere;
* `lines : String → List String` — the lines of a text, without their ends;
* `foldCase : String → String` and `sameFolded : String → String → Bool` —
  letters `A` to `Z` read as `a` to `z`;
* `dropLeading : Char → String → String` — a run of one character removed in front;
* `slice : String → Nat → Nat → String` — the text between two byte offsets;
* `contains : String → String → Bool` — one text inside another.

Each operation is a function on lists of characters behind a thin wrapper.
-/

namespace Introspect.Text

/-! ## White space -/

/-- White space: tab to carriage return, the space, and the blanks of other scripts. -/
def isBlank (c : Char) : Bool :=
  let n := c.toNat
  (0x9 ≤ n && n ≤ 0xd) || n == 0x20 || n == 0x85 || n == 0xa0 || n == 0x1680 ||
    (0x2000 ≤ n && n ≤ 0x200a) || n == 0x2028 || n == 0x2029 || n == 0x202f ||
    n == 0x205f || n == 0x3000

/-- The characters without white space in front. -/
def trimStartChars (cs : List Char) : List Char :=
  cs.dropWhile isBlank

/-- The characters without white space at either end. -/
def trimChars (cs : List Char) : List Char :=
  (trimStartChars (trimStartChars cs).reverse).reverse

def trimStart (s : String) : String :=
  String.ofList (trimStartChars s.toList)

def trim (s : String) : String :=
  String.ofList (trimChars s.toList)

/-- The text without any white space. -/
def squeeze (s : String) : String :=
  String.ofList (s.toList.filter fun c => !isBlank c)

@[simp] theorem toList_squeeze (s : String) :
    (squeeze s).toList = s.toList.filter fun c => !isBlank c := by
  simp [squeeze]

@[simp] theorem squeeze_append (s t : String) : squeeze (s ++ t) = squeeze s ++ squeeze t := by
  simp [squeeze]

theorem squeeze_of_free {s : String} (free : ∀ c ∈ s.toList, isBlank c = false) : squeeze s = s := by
  rw [squeeze, List.filter_eq_self.2 (fun c member => by simp [free c member]), String.ofList_toList]

theorem isBlank_of_mem_squeeze {s : String} {c : Char} (member : c ∈ (squeeze s).toList) :
    isBlank c = false := by
  rw [toList_squeeze] at member
  exact Bool.not_eq_true' _ |>.mp (List.mem_filter.1 member).2

/-! ## Lines -/

/-- Drops one carriage return that stands last in a reversed line. -/
def dropReturn : List Char → List Char
  | '\r' :: line => line
  | line => line

/-- Splits at line feeds; `line` holds the characters of the current line, last first.
A final line feed opens no further line. -/
def linesFrom (line : List Char) : List Char → List (List Char)
  | [] => if line.isEmpty then [] else [line.reverse]
  | '\n' :: rest => (dropReturn line).reverse :: linesFrom [] rest
  | c :: rest => linesFrom (c :: line) rest

/-- The lines of a text.  A line ends at a line feed, and one carriage return before
it belongs to the line end. -/
def lines (s : String) : List String :=
  (linesFrom [] s.toList).map String.ofList

/-! ## Letter case -/

/-- The text with `A` to `Z` replaced by `a` to `z`; all other characters stay. -/
def foldCase (s : String) : String :=
  String.ofList (s.toList.map Char.toLower)

/-- Equality up to the case of the letters `A` to `Z`. -/
def sameFolded (a b : String) : Bool :=
  foldCase a == foldCase b

@[simp] theorem sameFolded_self (a : String) : sameFolded a a = true := by
  simp [sameFolded]

theorem sameFolded_comm (a b : String) : sameFolded a b = sameFolded b a := by
  simp [sameFolded, Bool.beq_comm]

/-- A character that no letter of the word is folded to tells the two apart. -/
theorem sameFolded_eq_false_of_mem {s word : String} {c : Char} (member : c ∈ s.toList)
    (absent : c.toLower ∉ (foldCase word).toList) : sameFolded s word = false := by
  rw [sameFolded, beq_eq_false_iff_ne]
  intro same
  rw [← same, foldCase, String.toList_ofList] at absent
  exact absent (List.mem_map_of_mem member)

/-! ## Parts of a text -/

/-- The text without the run of `c` that it starts with. -/
def dropLeading (c : Char) (s : String) : String :=
  String.ofList (s.toList.dropWhile (· == c))

/-- Does `part` occur in `s`? -/
def containsChars (part : List Char) : List Char → Bool
  | [] => part.isEmpty
  | c :: rest => part.isPrefixOf (c :: rest) || containsChars part rest

def contains (s part : String) : Bool :=
  containsChars part.toList s.toList

/-- The pieces between the occurrences of `c`; there is always at least one. -/
def splitChars (c : Char) : List Char → List (List Char)
  | [] => [[]]
  | d :: rest =>
    match splitChars c rest with
    | [] => [[d]]
    | piece :: more => if d == c then [] :: piece :: more else (d :: piece) :: more

def split (c : Char) (s : String) : List String :=
  (splitChars c s.toList).map String.ofList

/-- What follows `front` in `s`, if `s` starts with it. -/
def stripChars : List Char → List Char → Option (List Char)
  | [], rest => some rest
  | _ :: _, [] => none
  | c :: front, d :: rest => if c == d then stripChars front rest else none

def strip? (front s : String) : Option String :=
  (stripChars front.toList s.toList).map String.ofList

/-- Does `s` start with `front`? -/
def startsWith (s front : String) : Bool :=
  (stripChars front.toList s.toList).isSome

/-- The text between two byte offsets; empty unless both lie between characters of `s`. -/
def slice (s : String) (start stop : Nat) : String :=
  let a : String.Pos.Raw := ⟨start⟩
  let b : String.Pos.Raw := ⟨stop⟩
  if a.isValid s && b.isValid s && start ≤ stop then String.Pos.Raw.extract s a b else ""

/-- The texts one after another with `gap` between neighbours. -/
def joinWith (gap : String) (parts : List String) : String :=
  gap.intercalate parts

end Introspect.Text
