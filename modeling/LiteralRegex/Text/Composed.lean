import LiteralRegex.Text.Basic
import LiteralRegex.Unicode.CombiningClass
import LiteralRegex.Unicode.Composite
import LiteralRegex.Unicode.Expansion
import LiteralRegex.Unicode.Hangul

/-!
# Composed texts

Normalization Form C. A text is decomposed completely, the marks after each
character are put in the order of their combining classes, and each character is
then joined with the marks that follow it wherever a composite exists and no mark
of the same or a higher class stands in between.
-/

namespace LiteralRegex.Text

open Unicode (combiningClass compositeOf partsOf expansionOf)

/-! ## Decomposition -/

/-- What the character numbered `n` is replaced by in one step. -/
def replacement? (n : Nat) : Option (List Nat) :=
  match Unicode.Hangul.letters? n with
  | some letters => some letters
  | none =>
    match partsOf[n]? with
    | some (first, second) => some [first, second]
    | none => expansionOf[n]?

/-- The numbers that `n` is replaced by after at most `steps` steps. -/
def replaced : Nat → Nat → List Nat
  | 0, n => [n]
  | steps + 1, n =>
    match replacement? n with
    | some ns => ns.flatMap (replaced steps)
    | none => [n]

/-- The text with every character decomposed. Three steps suffice, since composites
are nested at most three deep and expansions are complete. -/
def decompose (text : Text) : Text :=
  text.flatMap fun c => (replaced 3 c.toNat).map Char.ofNat

/-! ## Order of marks -/

/-- Puts a character with its class before `marked`, behind the marks of lower
classes if it is a mark itself. -/
def insertMark (m : Char × Nat) : List (Char × Nat) → List (Char × Nat)
  | [] => [m]
  | d :: rest => if 0 < d.2 ∧ d.2 < m.2 then d :: insertMark m rest else m :: d :: rest

/-- The characters with their classes, each run of marks in the order of the classes.
Marks of one class keep their order. -/
def orderMarks (text : Text) : List (Char × Nat) :=
  (text.map fun c => (c, combiningClass c)).foldr insertMark []

/-! ## Composition -/

/-- The composite of two characters, if there is one. -/
def composite? (a b : Char) : Option Char :=
  match Unicode.Hangul.join? a.toNat b.toNat with
  | some n => some (Char.ofNat n)
  | none => compositeOf[(a.toNat, b.toNat)]?.map Char.ofNat

/-- A text in the course of composition: the part that is settled, the last character
of class zero, and the marks after it that did not join it. Settled characters and
marks are kept last one first. -/
structure Composing where
  settled : Text := []
  starter : Option Char := none
  marks : List (Char × Nat) := []

/-- All characters, last one first. -/
def Composing.reversed (s : Composing) : Text :=
  s.marks.map (·.1) ++ s.starter.toList ++ s.settled

/-- Joins the next character to the starter, or keeps it beside it. -/
def Composing.push (s : Composing) (m : Char × Nat) : Composing :=
  let (c, k) := m
  -- a mark in between blocks the characters of its own and of lower classes
  let blocked := s.marks.head?.any (k ≤ ·.2)
  match if blocked then none else s.starter.bind (composite? · c) with
  | some joined => { s with starter := some joined }
  | none =>
    if k = 0 then { settled := s.reversed, starter := some c }
    else { s with marks := m :: s.marks }

/-- Normalization Form C of a text. -/
def composed (text : Text) : Text :=
  ((orderMarks (decompose text)).foldl Composing.push {}).reversed.reverse

end LiteralRegex.Text
