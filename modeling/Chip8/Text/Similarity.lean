set_option autoImplicit false

/-! # Similar texts

Two texts are as similar as they have characters in common, in order. The common characters are
those of the longest block that both texts have, and of what is in common before and behind it. -/

namespace Chip8.Text.Similarity

/-- The length of what two texts have in common at their starts. -/
def commonStart : List Char → List Char → Nat
  | a :: as, b :: bs => if a = b then commonStart as bs + 1 else 0
  | _, _ => 0

/-- A block that two texts have in common, by where it starts in both of them. -/
structure Block where
  first : Nat
  second : Nat
  length : Nat

/-- The block that starts at given places. -/
def blockAt (as bs : List Char) (i j : Nat) : Block :=
  ⟨i, j, commonStart (as.drop i) (bs.drop j)⟩

/-- The longest common block; of equally long ones the first in the first text, and of those the
    first in the second text. -/
def longest (as bs : List Char) : Block :=
  let blocks := (List.range as.length).flatMap fun i =>
    (List.range bs.length).map fun j => blockAt as bs i j
  blocks.foldl (fun best block => if best.length < block.length then block else best) ⟨0, 0, 0⟩

/-- How many characters two texts have in common; every block is found at the cost of one step. -/
def countCommon : Nat → List Char → List Char → Nat
  | 0, _, _ => 0
  | steps + 1, as, bs =>
    let block := longest as bs
    if block.length = 0 then 0
    else
      countCommon steps (as.take block.first) (bs.take block.second) + block.length
        + countCommon steps (as.drop (block.first + block.length))
          (bs.drop (block.second + block.length))

/-- How many characters two texts have in common. -/
def common (a b : String) : Nat := countCommon (a.length + 1) a.toList b.toList

example : common "modern_mode" "modernwxyz" = 6 ∧ common "mode" "model" = 4 := by decide +kernel

/-- Whether so many common characters make texts similar: at least three fifths of all. -/
def isEnough (a b : String) (count : Nat) : Bool := 3 * (a.length + b.length) ≤ 10 * count

/-- Whether two texts are similar. No more characters than the shorter one has are in common. -/
def isSimilar (a b : String) : Bool :=
  isEnough a b (min a.length b.length) && isEnough a b (common a b)

/-- Whether `a` comes before `b` among texts that are similar to a word: it has the greater part in
    common with it, or it is the greater text. -/
def comesBefore (word a b : String) : Bool :=
  let left := common a word * (b.length + word.length)
  let right := common b word * (a.length + word.length)
  right < left || (left = right && b < a)

/-- The texts that are similar to a word, the most similar one first. -/
def similarTo (word : String) (texts : List String) : List String :=
  (texts.filter fun text => isSimilar text word).foldr
    (fun text sorted =>
      sorted.takeWhile (comesBefore word · text) ++ text
        :: sorted.dropWhile (comesBefore word · text)) []

end Chip8.Text.Similarity
