import Concord.Binary64.Rounding

/-!
# Similar words

A misspelled word is compared with known ones. The similarity of two words counts the letters that
they share near the same place and takes off half of those that come in another order. It is
computed in floating point, each step rounded once. A word is suggested if its similarity exceeds seven
tenths; of several the most similar one, the last of those equally similar.
-/

namespace Concord.CommandLine

/-- Claims the first unclaimed occurrence of a letter between two positions; `position` is that of
the first letter. -/
def claim (letter : Char) (low high : Nat) : (position : Nat) → List (Char × Bool) →
    Option (List (Char × Bool))
  | _, [] => none
  | position, (c, claimed) :: rest =>
    if c = letter && !claimed && low ≤ position && position < high then
      some ((c, true) :: rest)
    else
      (claim letter low high (position + 1) rest).map ((c, claimed) :: ·)

/-- The letters of a word that claim a letter of another one, and the other word with its claimed
letters marked; `position` is that of the first letter. -/
def claims (range : Nat) : (position : Nat) → List Char → List (Char × Bool) →
    List Char × List (Char × Bool)
  | _, [], word => ([], word)
  | position, c :: rest, word =>
    match claim c (position - range) (position + range + 1) 0 word with
    | some word =>
      let (shared, word) := claims range (position + 1) rest word
      (c :: shared, word)
    | none => claims range (position + 1) rest word

/-- The quotient of two natural numbers in floating point. -/
def ratio (m n : Nat) : Option Binary64 := do (← Binary64.ofNat m).div (← Binary64.ofNat n)

/-- The similarity of two words, from zero to one. -/
def similarity (left right : List Char) : Option Binary64 :=
  if left.isEmpty && right.isEmpty then Binary64.ofNat 1
  else
    let range := max left.length right.length / 2 - 1
    let (shared, marked) := claims range 0 left (right.map fun c => (c, false))
    let found := (marked.filter fun item => item.2).map Prod.fst
    let swapped := ((shared.zip found).countP fun pair => pair.1 ≠ pair.2) / 2
    let count := shared.length
    if count = 0 then some (.zero false)
    else do
      let one ← ratio count left.length
      let other ← ratio count right.length
      let order ← ratio (count - swapped) count
      let sum ← (← one.addMagnitudes other).addMagnitudes order
      sum.div (← Binary64.ofNat 3)

/-- Whether the magnitude of a number is less than that of another one. -/
def isLess (x y : Binary64) : Bool :=
  x.magnitude.1 * y.magnitude.2 < y.magnitude.1 * x.magnitude.2

/-- The least similarity that a suggestion exceeds. -/
def threshold : Option Binary64 := Binary64.ofDecimal false 7 (-1)

/-- The known word that a word was most likely meant to be. -/
def suggest? (word : String) (known : List String) : Option String :=
  let better (best : Option (String × Binary64)) (candidate : String) :=
    match similarity word.toList candidate.toList, threshold with
    | some x, some least =>
      if isLess least x && best.all (fun found => !isLess x found.2) then some (candidate, x)
      else best
    | _, _ => best
  (known.foldl better none).map Prod.fst

end Concord.CommandLine
