import TextScan.Regex.Size.Extent

namespace TextScan.Regex

/-!
# The size of a choice between words

Words that begin alike share the states that read their beginnings. Where a word ends and others go
on, what stands behind it in order of preference must not be tried before it. So the words at a
place are taken in portions, each of which ends with a word that ends there.

* `Extent.growWords` adds the states for words.
-/

/-- The words at a place in portions. A word that ends at the place ends its portion, and is not
    part of it. -/
def portions : List (List Nat) → List (List (List Nat))
  | [] => [[]]
  | word :: words =>
    match word, portions words with
    | [], more => [] :: more
    | _, [] => [[word]]
    | _, portion :: more => (word :: portion) :: more

/-- Words that end at once count as one as long as no other came before. -/
def mergeEnds : List (List Nat) → List (List Nat)
  | [] :: words => [] :: words.dropWhile List.isEmpty
  | words => words

/-- What is left of the words that begin with a byte. -/
def behind (byte : Nat) (words : List (List Nat)) : List (List Nat) :=
  words.filterMap fun word => if word.head? = some byte then some word.tail else none

namespace Extent

/-- Adds the states that read what is left of some words, none of which is longer than `fuel`. -/
def growWordsFrom : Nat → List (List Nat) → Extent → Extent
  | 0, _, x => x
  | fuel + 1, words, x =>
    if words.all List.isEmpty then x
    else
      let all := portions (mergeEnds words)
      let filled := all.filter fun portion => !portion.isEmpty
      let x := filled.foldl
        (fun x portion =>
          let firsts := (portion.filterMap List.head?).eraseDups
          let x := firsts.foldl (fun x byte => growWordsFrom fuel (behind byte portion) x) x
          if firsts.length = 1 then x.grow 0 else x.growFork firsts.length)
        x
      x.growChoice (filled.length + all.length - 1)

/-- Adds the states for a choice between words. -/
def growWords (x : Extent) (words : List (List Nat)) : Extent :=
  growWordsFrom ((words.map List.length).foldl max 0 + 1) words (x.grow 0)

end Extent

end TextScan.Regex
