import TextScan.Proofs.Literal
import TextScan.Proofs.Regex.Anchored
import TextScan.Proofs.Text
import TextScan.Proofs.Token

namespace TextScan

/-!
# Small programs

Tokens are described by programs of a few shapes. A run of such a program is followed once for each
shape; from then on it is the function that says what it cuts off a text.

* `Program.spelling` reads a given text, `Program.member` one character of a set, `Program.members`
  one of each of several sets. `Program.many` reads as many of a set as there are, at least one, and
  `Program.signed` the same behind an optional sign. `Program.headed` reads one of each of several
  sets, and behind them as many of a set as there are. `Program.testing` only tests a place.
* `Program.ReadsAt`, `Program.LoopAt` and `Program.TailAt` are the parts that they have in common.
* A lemma for each, such as `Program.matchAt_many`, says what it matches. By
  `Program.toPattern_spelling`, a program that reads a given text is the same as looking for it.
* `AnchoredRegex.cuts_many` and the like say so of the patterns.
-/

theorem CharSet.contains_single {c d : Char} : (CharSet.single c).contains d = true ↔ d = c := by
  simp only [single, contains, List.any_cons, List.any_nil, Bool.or_false, Bool.and_eq_true,
    decide_eq_true_eq]
  constructor
  · rintro ⟨hle, hge⟩
    exact Char.toNat_inj.1 (Nat.le_antisymm hge hle)
  · rintro rfl
    exact ⟨Nat.le_refl _, Nat.le_refl _⟩

namespace Regex.Program

variable {p : Program} {A : CharSet}

/-- Reads a given text. -/
def spelling (t : Text) : Program := ⟨(t.map fun c => Inst.one (CharSet.single c)).toArray, 0⟩

/-- Reads a character of a set. -/
def member (A : CharSet) : Program := ⟨#[.one A], 0⟩

/-- Reads a character of each set, one behind another. -/
def members (sets : List CharSet) : Program := ⟨(sets.map Inst.one).toArray, 0⟩

/-- Reads characters of a set, at least one. -/
def many (A : CharSet) : Program := ⟨#[.one A, .split 0 2], 0⟩

/-- Reads characters of a set, at least one, and a sign before them. -/
def signed (sign : Char) (A : CharSet) : Program :=
  ⟨#[.split 1 2, .one (CharSet.single sign), .one A, .split 2 4], 0⟩

/-- Reads a character of each of several sets, and behind them characters of the set `A`. -/
def headed (sets : List CharSet) (A : CharSet) : Program :=
  let k := sets.length
  ⟨(sets.map Inst.one ++ [Inst.split (k + 1) (k + 3), Inst.one A, Inst.jump k]).toArray, 0⟩

/-! ### One step of a run -/

/-- Before a character, a run notes the match that the ways have arrived at and reads on. -/
theorem run_cons {ways : List Way} (ways' : List Way) {before : Option Char} {c : Char} {r : Text}
    (hsettled : p.settled before (c :: r) ways = ways') (best : Option Match) :
    p.run best before (c :: r) ways =
      match p.advance c ways' with
      | [] => ((p.accepted? ways').map fun way => ⟨c :: r, way.slots⟩).or best
      | way :: ways =>
        p.run (((p.accepted? ways').map fun way => ⟨c :: r, way.slots⟩).or best) (some c) r
          (way :: ways) := by
  rw [run, hsettled]
  cases p.accepted? ways' <;> cases p.advance c ways' <;> rfl

theorem run_nil {ways : List Way} (ways' : List Way) {before : Option Char}
    (hsettled : p.settled before [] ways = ways') (best : Option Match) :
    p.run best before [] ways = ((p.accepted? ways').map fun way => ⟨[], way.slots⟩).or best := by
  rw [run, hsettled]
  cases p.accepted? ways' <;> rfl

/-- A way that accepts or waits for a character leads nowhere else. -/
theorem settled_of_waits {way : Way} {before : Option Char} {after : Text}
    (h : p.code[way.pc]? = none ∨ ∃ A, p.code[way.pc]? = some (.one A)) :
    p.settled before after [way] = [way] := by
  unfold settled
  rw [List.length_singleton, show 1 + 2 * p.code.size + 3 = 2 * p.code.size + 3 + 1 by omega,
    settle]
  rcases h with h | ⟨A, h⟩ <;> simp [h, settle]

/-- A way that has arrived at the end accepts. -/
theorem run_stop {k : Nat} (h : p.code[k]? = none) (best : Option Match) (before : Option Char)
    (v : Text) : p.run best before v [⟨k, []⟩] = some ⟨v, []⟩ := by
  have haccepted : p.accepted? [⟨k, []⟩] = some ⟨k, []⟩ := by simp [accepted?, h]
  have hsettled (after : Text) : p.settled before after [⟨k, []⟩] = [⟨k, []⟩] :=
    settled_of_waits (.inl h)
  cases v with
  | nil => rw [run_nil _ (hsettled []), haccepted]; rfl
  | cons c r =>
    have hadvance : p.advance c [⟨k, []⟩] = [] := by simp [advance, h]
    rw [run_cons _ (hsettled (c :: r)), hadvance, haccepted]
    rfl

/-! ### One character of each set -/

/-- Whether a text begins with a character of each set, one behind another. -/
def begins : List CharSet → Text → Bool
  | [], _ => true
  | _ :: _, [] => false
  | A :: sets, c :: v => A.contains c && begins sets v

/-- From instruction `k` on, the program reads a character of each set. -/
def ReadsAt (p : Program) (k : Nat) (sets : List CharSet) : Prop :=
  ∀ i (h : i < sets.length), p.code[k + i]? = some (.one sets[i])

/-- The sets are read one behind another, and then the run goes on behind them. -/
theorem ReadsAt.run {k : Nat} {sets : List CharSet} {f : Text → Option Match}
    (h : p.ReadsAt k sets)
    (hbehind : ∀ before v, p.run none before v [⟨k + sets.length, []⟩] = f v)
    (before : Option Char) (v : Text) :
    p.run none before v [⟨k, []⟩] = if begins sets v then f (v.drop sets.length) else none := by
  induction sets generalizing k before v with
  | nil => exact hbehind before v
  | cons A sets ih =>
    have hone : p.code[k]? = some (.one A) := h 0 (Nat.zero_lt_succ _)
    have haccepted : p.accepted? [⟨k, []⟩] = none := by simp [accepted?, hone]
    have hsettled (after : Text) : p.settled before after [⟨k, []⟩] = [⟨k, []⟩] :=
      settled_of_waits (.inr ⟨A, hone⟩)
    cases v with
    | nil => rw [run_nil _ (hsettled []), haccepted]; rfl
    | cons c r =>
      have hadvance : p.advance c [⟨k, []⟩] = if A.contains c then [⟨k + 1, []⟩] else [] := by
        simp [advance, hone]
      rw [run_cons _ (hsettled (c :: r)), hadvance, haccepted, begins]
      cases A.contains c
      · rfl
      · -- The other sets are read from the next instruction on.
        have hrest : p.ReadsAt (k + 1) sets := fun i hi => by
          have hi := h (i + 1) (Nat.succ_lt_succ hi)
          rwa [← Nat.add_assoc, Nat.add_right_comm] at hi
        have hplace : k + (A :: sets).length = k + 1 + sets.length := by
          rw [List.length_cons]
          omega
        exact ih hrest (fun before v => hplace ▸ hbehind before v) (some c) r

theorem le_length_of_begins {sets : List CharSet} {v : Text} (h : begins sets v) :
    sets.length ≤ v.length := by
  induction sets generalizing v with
  | nil => exact Nat.zero_le _
  | cons A sets ih =>
    cases v with
    | nil => cases h
    | cons c v =>
      rw [begins, Bool.and_eq_true] at h
      exact Nat.succ_le_succ (ih h.2)

/-- A text is begun as its characters are. -/
theorem begins_single (t v : Text) : begins (t.map CharSet.single) v = t.isPrefixOf v := by
  induction t generalizing v with
  | nil => cases v <;> rfl
  | cons d t ih =>
    cases v with
    | nil => rfl
    | cons c v =>
      have hsingle : (CharSet.single d).contains c = (d == c) := by
        rw [Bool.eq_iff_iff, CharSet.contains_single, beq_iff_eq]
        exact eq_comm
      rw [List.map_cons, begins, List.isPrefixOf_cons_cons, ih, hsingle]

theorem readsAt_members (sets : List CharSet) (more : List Inst) :
    (⟨(sets.map Inst.one ++ more).toArray, 0⟩ : Program).ReadsAt 0 sets := by
  intro i hi
  simp only [Nat.zero_add, List.getElem?_toArray]
  rw [List.getElem?_append_left (by simpa using hi), List.getElem?_map,
    List.getElem?_eq_getElem hi, Option.map_some]

theorem matchAt_members (sets : List CharSet) (before : Option Char) (v : Text) :
    (members sets).matchAt before v =
      if begins sets v then some ⟨v.drop sets.length, []⟩ else none := by
  have hreads : (members sets).ReadsAt 0 sets := by
    have h := readsAt_members sets []
    rwa [List.append_nil] at h
  refine hreads.run (f := fun w => some ⟨w, []⟩) (fun before v => run_stop ?_ _ before v) before v
  simp [members]

theorem spelling_eq_members (t : Text) : spelling t = members (t.map CharSet.single) := by
  rw [spelling, members, List.map_map]
  rfl

theorem matchAt_spelling (t : Text) (before : Option Char) (v : Text) :
    (spelling t).matchAt before v =
      if t.isPrefixOf v then some ⟨v.drop t.length, []⟩ else none := by
  rw [spelling_eq_members, matchAt_members, begins_single, List.length_map]

theorem matchAt_member (before : Option Char) (v : Text) :
    (member A).matchAt before v =
      if (v.take 1).filter A.contains = [] then none else some ⟨v.drop 1, []⟩ := by
  have h := matchAt_members [A] before v
  cases v with
  | nil => exact h
  | cons c r =>
    refine Eq.trans h ?_
    cases hc : A.contains c <;> simp [begins, hc]

/-! ### Runs of a set -/

/-- From instruction `k` on, and to the end, the program reads characters of a set, at least one. -/
structure LoopAt (p : Program) (k : Nat) (A : CharSet) : Prop where
  one : p.code[k]? = some (.one A)
  split : p.code[k + 1]? = some (.split k (k + 2))
  stop : p.code[k + 2]? = none

namespace LoopAt

variable {k : Nat}

/-- Behind a character of the set, both another one and the end are possible. -/
theorem settled (h : p.LoopAt k A) (before : Option Char) (after : Text) :
    p.settled before after [⟨k + 1, []⟩] = [⟨k, []⟩, ⟨k + 2, []⟩] := by
  unfold Program.settled
  rw [List.length_singleton, show 1 + 2 * p.code.size + 3 = 2 * p.code.size + 4 by omega]
  simp [settle, h.one, h.split, h.stop]

theorem advance (h : p.LoopAt k A) (c : Char) (ways : List Way)
    (hways : ways = [] ∨ ways = [⟨k + 2, []⟩]) :
    p.advance c (⟨k, []⟩ :: ways) = if A.contains c then [⟨k + 1, []⟩] else [] := by
  rcases hways with rfl | rfl <;> simp [Program.advance, h.one, h.stop]

/-- Behind a first character of the set, the rest of them is read. -/
theorem run_behind (h : p.LoopAt k A) (best : Option Match) (before : Option Char) (v : Text) :
    p.run best before v [⟨k + 1, []⟩] = some ⟨v.dropWhile A.contains, []⟩ := by
  have haccepted : p.accepted? [⟨k, []⟩, ⟨k + 2, []⟩] = some ⟨k + 2, []⟩ := by
    simp [accepted?, h.one, h.stop]
  induction v generalizing best before with
  -- The way to the end is among the settled ones, so a match is noted before every character.
  | nil => rw [run_nil _ (h.settled before []), haccepted]; rfl
  | cons c r ih =>
    rw [run_cons _ (h.settled before (c :: r)), h.advance c _ (.inr rfl), haccepted]
    cases hc : A.contains c
    · rw [List.dropWhile_cons_of_neg (by simp [hc])]
      rfl
    · rw [List.dropWhile_cons_of_pos hc]
      exact ih _ _

/-- All characters of the set are read, and there has to be one. -/
theorem run (h : p.LoopAt k A) (before : Option Char) (v : Text) :
    p.run none before v [⟨k, []⟩] =
      if v.takeWhile A.contains = [] then none else some ⟨v.dropWhile A.contains, []⟩ := by
  have hreads : p.ReadsAt k [A] := fun i hi => by
    obtain rfl : i = 0 := by simpa using hi
    exact h.one
  rw [hreads.run (h.run_behind none)]
  cases v with
  | nil => rfl
  | cons c r =>
    cases hc : A.contains c <;> simp [begins, hc]

end LoopAt

theorem matchAt_many (before : Option Char) (v : Text) :
    (many A).matchAt before v =
      if v.takeWhile A.contains = [] then none else some ⟨v.dropWhile A.contains, []⟩ :=
  LoopAt.run (k := 0) ⟨rfl, rfl, rfl⟩ before v

/-- From instruction `k` on, and to the end, the program reads characters of a set, perhaps none. -/
structure TailAt (p : Program) (k : Nat) (A : CharSet) : Prop where
  split : p.code[k]? = some (.split (k + 1) (k + 3))
  one : p.code[k + 1]? = some (.one A)
  jump : p.code[k + 2]? = some (.jump k)
  stop : p.code[k + 3]? = none

namespace TailAt

variable {k : Nat}

theorem settled (h : p.TailAt k A) {j : Nat} (hj : j = k ∨ j = k + 2) (before : Option Char)
    (after : Text) : p.settled before after [⟨j, []⟩] = [⟨k + 1, []⟩, ⟨k + 3, []⟩] := by
  have hnone (fuel : Nat) (seen : List Nat) : p.settle before after fuel seen [] = [] := by
    cases fuel <;> rfl
  unfold Program.settled
  rw [List.length_singleton, show 1 + 2 * p.code.size + 3 = 2 * p.code.size + 4 by omega]
  rcases hj with rfl | rfl <;> simp [settle, h.split, h.one, h.jump, h.stop, hnone]

/-- All characters of the set are read, and there may be none. -/
theorem run (h : p.TailAt k A) {j : Nat} (hj : j = k ∨ j = k + 2) (best : Option Match)
    (before : Option Char) (v : Text) :
    p.run best before v [⟨j, []⟩] = some ⟨v.dropWhile A.contains, []⟩ := by
  have haccepted : p.accepted? [⟨k + 1, []⟩, ⟨k + 3, []⟩] = some ⟨k + 3, []⟩ := by
    simp [accepted?, h.one, h.stop]
  induction v generalizing j best before with
  -- As in a loop, the way to the end is there before every character.
  | nil => rw [run_nil _ (h.settled hj before []), haccepted]; rfl
  | cons c r ih =>
    have hadvance : p.advance c [⟨k + 1, []⟩, ⟨k + 3, []⟩] =
        if A.contains c then [⟨k + 2, []⟩] else [] := by simp [advance, h.one, h.stop]
    rw [run_cons _ (h.settled hj before (c :: r)), hadvance, haccepted]
    cases hc : A.contains c
    · rw [List.dropWhile_cons_of_neg (by simp [hc])]
      rfl
    · rw [List.dropWhile_cons_of_pos hc]
      exact ih (.inr rfl) _ _

end TailAt

theorem matchAt_headed (sets : List CharSet) (before : Option Char) (v : Text) :
    (headed sets A).matchAt before v =
      if begins sets v then some ⟨(v.drop sets.length).dropWhile A.contains, []⟩ else none := by
  have htail : (headed sets A).TailAt (0 + sets.length) A := by
    constructor <;> simp [headed]
  exact (readsAt_members sets _).run (fun before v => htail.run (.inl rfl) none before v) before v

/-- The text that is cut off: a character of each set, and behind them all that belong to `A`. -/
def headedPrefix (sets : List CharSet) (A : CharSet) (v : Text) : Text :=
  if begins sets v then v.take sets.length ++ (v.drop sets.length).takeWhile A.contains else []

theorem headedPrefix_isPrefix (sets : List CharSet) (A : CharSet) (v : Text) :
    headedPrefix sets A v <+: v := by
  unfold headedPrefix
  split
  · have h := (List.prefix_append_right_inj (v.take sets.length)).2
      (List.takeWhile_prefix A.contains (l := v.drop sets.length))
    rwa [List.take_append_drop] at h
  · exact List.nil_prefix

/-! ### Signed runs -/

/-- The text that a signed run cuts off: a sign only if something follows it. -/
def signedPrefix (sign : Char) (A : CharSet) (v : Text) : Text :=
  match v with
  | [] => []
  | c :: r =>
    if c = sign then if r.takeWhile A.contains = [] then [] else c :: r.takeWhile A.contains
    else v.takeWhile A.contains

variable {sign : Char}

theorem matchAt_signed (hsign : A.contains sign = false) (before : Option Char) (v : Text) :
    (signed sign A).matchAt before v =
      if signedPrefix sign A v = [] then none
      else some ⟨v.drop (signedPrefix sign A v).length, []⟩ := by
  cases v with
  | nil => rfl
  | cons c r =>
    have hadvance : (signed sign A).advance c [⟨1, []⟩, ⟨2, []⟩] =
        if c = sign then [⟨2, []⟩] else if A.contains c then [⟨3, []⟩] else [] := by
      by_cases hc : c = sign
      · subst hc
        simp [signed, advance, CharSet.contains_single.2 rfl, hsign]
      · have hsingle : (CharSet.single sign).contains c = false :=
          Bool.eq_false_iff.2 fun h => hc (CharSet.contains_single.1 h)
        simp [signed, advance, hsingle, hc]
    -- The sign is optional: both instructions wait for the first character.
    have hloop : (signed sign A).LoopAt 2 A := ⟨rfl, rfl, rfl⟩
    unfold matchAt
    rw [run_cons [⟨1, []⟩, ⟨2, []⟩] rfl, hadvance, signedPrefix]
    by_cases hc : c = sign
    · rw [if_pos hc, if_pos hc]
      show (signed sign A).run none (some c) r [⟨2, []⟩] = _
      -- Behind the sign, the rest is a run without one.
      rw [hloop.run]
      split
      · rfl
      · rw [if_neg (List.cons_ne_nil _ _), List.length_cons, List.drop_succ_cons,
          Text.drop_length_takeWhile]
    · rw [if_neg hc, if_neg hc]
      cases hA : A.contains c
      · simp [hA, signed, accepted?]
      · simp only [if_true, hloop.run_behind, List.takeWhile_cons_of_pos hA, reduceCtorEq, if_false,
          List.length_cons, List.drop_succ_cons, Text.drop_length_takeWhile]

theorem signedPrefix_isPrefix (sign : Char) (A : CharSet) (v : Text) :
    signedPrefix sign A v <+: v := by
  cases v with
  | nil => exact List.nil_prefix
  | cons c r =>
    rw [signedPrefix]
    split
    · split
      · exact List.nil_prefix
      · exact (List.prefix_cons_inj c).2 (List.takeWhile_prefix _)
    · exact List.takeWhile_prefix _

/-! ### Tests without characters -/

/-- Reads nothing, and goes on if the place passes the test. -/
def testing (test : Look) : Program := ⟨#[.look test], 0⟩

theorem matchAt_testing (test : Look) (before : Option Char) (v : Text) :
    (testing test).matchAt before v = if test.holds before v then some ⟨v, []⟩ else none := by
  have hsettled : (testing test).settled before v [⟨0, []⟩] =
      if test.holds before v then [⟨1, []⟩] else [] := by
    unfold settled
    split <;> simp [testing, settle, *]
  unfold matchAt
  show (testing test).run none before v [⟨0, []⟩] = _
  -- Behind the test the program accepts, whatever the text is.
  cases v with
  | nil =>
    rw [run_nil _ hsettled]
    cases test.holds before [] <;> rfl
  | cons c r =>
    rw [run_cons _ hsettled]
    cases test.holds before (c :: r) <;> rfl

/-- Where the text starts, there is nothing before the test. -/
theorem foundAtStart?_testing (test : Look) (v : Text) :
    (testing test).foundAtStart? v = if test.holds none v then some ⟨0, [], []⟩ else none := by
  rw [foundAtStart?, matchAt_testing]
  split
  · simp [Found.ofMatch, Match.captures, slotTexts]
  · rfl

/-! ### Texts -/

/-- What a search for a text finds, told as a place in what was searched. -/
theorem findFrom_spelling (t : Text) (before : Option Char) (v : Text) :
    ((spelling t).findFrom before v).map (fun (unread, m) => Found.ofMatch v unread m) =
      (Pattern.indexOf? t v).map fun start => ⟨start, t, []⟩ := by
  induction v generalizing before with
  | nil =>
    rw [findFrom, matchAt_spelling, Pattern.indexOf?]
    cases t <;> rfl
  | cons c r ih =>
    rw [findFrom, matchAt_spelling, Pattern.indexOf?]
    by_cases hbegins : t.isPrefixOf (c :: r)
    · rw [if_pos hbegins, if_pos hbegins]
      obtain ⟨w, hw⟩ := List.isPrefixOf_iff_prefix.1 hbegins
      show some (Found.ofMatch (c :: r) (c :: r) ⟨(c :: r).drop t.length, []⟩) = _
      rw [← hw, List.drop_left]
      simp [Found.ofMatch, Match.captures, slotTexts]
    · -- Not here: the place is one of the rest, moved by the bytes of `c`.
      rw [if_neg hbegins, if_neg hbegins, Option.map_map]
      show ((spelling t).findFrom (some c) r).map _ = _
      have hih := ih (some c)
      cases hfind : (spelling t).findFrom (some c) r with
      | none =>
        rw [hfind] at hih
        rw [Option.map_eq_none_iff.1 hih.symm]
        rfl
      | some found =>
        obtain ⟨unread, m⟩ := found
        rw [hfind, Option.map_some] at hih
        obtain ⟨start, hstart, hfound⟩ := Option.map_eq_some_iff.1 hih.symm
        rw [hstart, Option.map_some, Option.map_some]
        show some (Found.ofMatch (c :: r) unread m) = _
        have hm : Found.ofMatch r unread m = ⟨start, t, []⟩ := hfound.symm
        rw [ofMatch_cons (findFrom_isSuffix hfind), hm]
        rfl

/-- A program that reads a given text is the pattern that looks for it. -/
theorem toPattern_spelling (t : Text) : (spelling t).toPattern = .literal t := by
  have hatStart (v : Text) : (spelling t).foundAtStart? v =
      if t.isPrefixOf v then some ⟨0, t, []⟩ else none := by
    rw [foundAtStart?, matchAt_spelling]
    split
    · rename_i hbegins
      obtain ⟨w, rfl⟩ := List.isPrefixOf_iff_prefix.1 hbegins
      rw [List.drop_left, Option.map_some, Found.ofMatch, Nat.sub_self, List.length_append,
        Nat.add_sub_cancel, List.take_left]
      rfl
    · rfl
  have hanywhere (v : Text) : (spelling t).found? v =
      (Pattern.indexOf? t v).map fun start => ⟨start, t, []⟩ := findFrom_spelling t none v
  unfold toPattern Pattern.literal
  simp only [hatStart, hanywhere]

/-! ### Programs that note nothing -/

/-- Where no place is noted, there are no groups to end. -/
theorem grouped_of_ne_save (h : ∀ inst ∈ p.code, ∀ slot, inst ≠ .save slot) : p.Grouped :=
  fun _ _ hinst => absurd rfl (h _ (Array.mem_of_getElem? hinst) _)

theorem grouped_many (A : CharSet) : (many A).Grouped :=
  grouped_of_ne_save (by simp [many])

theorem grouped_signed (sign : Char) (A : CharSet) : (signed sign A).Grouped :=
  grouped_of_ne_save (by simp [signed])

theorem grouped_spelling (t : Text) : (spelling t).Grouped :=
  grouped_of_ne_save (by simp [spelling])

theorem grouped_members (sets : List CharSet) : (members sets).Grouped :=
  grouped_of_ne_save (by simp [members])

theorem grouped_headed (sets : List CharSet) (A : CharSet) : (headed sets A).Grouped :=
  grouped_of_ne_save (by simp [headed, or_imp, forall_and])

end Regex.Program

/-! ### The patterns -/

namespace AnchoredRegex

open Regex.Program

variable {r : AnchoredRegex} {p : Regex.Program} {f : Text → Text}

/-- In the engine of this library, a regular expression is the pattern of its program. -/
theorem toPattern_eq (h : r.program = p) (hp : p.Grouped) : r.toPattern = p.toPattern := by
  subst h
  exact Regex.Engine.AnchoredRegex.toPattern_eq hp fun _ _ => rfl

/-- What a program matches at the start of texts is what its pattern cuts off. -/
theorem cuts (h : r.program = p) (hp : p.Grouped) (hbegins : ∀ v, f v <+: v)
    (hmatch : ∀ v, p.matchAt none v =
      if f v = [] then none else some ⟨v.drop (f v).length, []⟩) : r.toPattern.Cuts f where
  isPrefix := hbegins
  atStart v := by
    rw [toPattern_eq h hp]
    show Except.ok ((p.matchAt none v).map fun m => Found.ofMatch v v m) = _
    rw [hmatch]
    split
    · rfl
    -- What is unread behind the match tells how long it is.
    · have htext : v.take (v.length - (v.drop (f v).length).length) = f v := by
        rw [List.length_drop, Nat.sub_sub_self (hbegins v).length_le]
        exact (List.prefix_iff_eq_take.1 (hbegins v)).symm
      rw [Option.map_some, Found.ofMatch, Nat.sub_self, htext]
      rfl

theorem cuts_many {A : CharSet} (h : r.program = many A) :
    r.toPattern.Cuts (List.takeWhile A.contains) :=
  cuts h (grouped_many A) (fun _ => List.takeWhile_prefix _) fun v => by
    rw [matchAt_many, Text.drop_length_takeWhile]

theorem cuts_member {A : CharSet} (h : r.program = member A) :
    r.toPattern.Cuts fun v => (v.take 1).filter A.contains := by
  have hone (c : Char) : [c].filter A.contains = if A.contains c then [c] else [] :=
    List.filter_cons
  refine cuts h (grouped_members [A]) (fun v => ?_) fun v => ?_
  · cases v with
    | nil => exact List.nil_prefix
    | cons c w =>
      rw [List.take_succ_cons, List.take_zero, hone]
      split
      · exact ⟨w, rfl⟩
      · exact List.nil_prefix
  · show (member A).matchAt none v = _
    rw [matchAt_member]
    cases v with
    | nil => rfl
    | cons c w =>
      rw [List.take_succ_cons, List.take_zero, hone]
      cases A.contains c <;> rfl

theorem cuts_signed {sign : Char} {A : CharSet} (h : r.program = signed sign A)
    (hsign : A.contains sign = false) : r.toPattern.Cuts (signedPrefix sign A) :=
  cuts h (grouped_signed sign A) (signedPrefix_isPrefix sign A) fun v => by
    rw [matchAt_signed hsign]

theorem cuts_headed {sets : List CharSet} {A : CharSet} (h : r.program = headed sets A)
    (hsets : sets ≠ []) : r.toPattern.Cuts (headedPrefix sets A) := by
  refine cuts h (grouped_headed sets A) (headedPrefix_isPrefix sets A) fun v => ?_
  rw [matchAt_headed, headedPrefix]
  cases hbegins : begins sets v with
  | false => rfl
  | true =>
    have htake : (v.take sets.length).length = sets.length :=
      List.length_take_of_le (le_length_of_begins hbegins)
    have hne : v.take sets.length ++ (v.drop sets.length).takeWhile A.contains ≠ [] := by
      refine List.append_ne_nil_of_left_ne_nil (List.ne_nil_of_length_pos ?_) _
      rw [htake]
      exact List.length_pos_iff.2 hsets
    rw [if_pos rfl, if_pos rfl, if_neg hne, List.length_append, htake, ← List.drop_drop,
      Text.drop_length_takeWhile]

section Search

variable {sets : List CharSet} (h : r.program = members sets)

include h

/-- Characters of the given sets are found where they stand first. -/
theorem anywhere_members_eq_some {u w : Text} (hw : begins sets w)
    (hu : ∀ x, x ≠ [] → x <:+ u → begins sets (x ++ w) = false) :
    r.toPattern.anywhere (u ++ w) = .ok (some ⟨u.byteSize, w.take sets.length, []⟩) := by
  have hhere : (if begins sets w then some (⟨w.drop sets.length, []⟩ : Regex.Match) else none) =
      some ⟨w.drop sets.length, []⟩ := if_pos hw
  have hfind : (members sets).findFrom none (u ++ w) = some (w, ⟨w.drop sets.length, []⟩) :=
    findFrom_append (matchAt_members sets) hhere
      (fun x hx hsuffix => by rw [hu x hx hsuffix]; rfl) none
  have hfound : Found.ofMatch (u ++ w) w ⟨w.drop sets.length, []⟩ =
      ⟨u.byteSize, w.take sets.length, []⟩ := by
    rw [Found.ofMatch, Text.byteSize_append, Nat.add_sub_cancel, List.length_drop,
      Nat.sub_sub_self (le_length_of_begins hw)]
    rfl
  rw [toPattern_eq h (grouped_members sets), ← hfound]
  show Except.ok (((members sets).findFrom none (u ++ w)).map _) = _
  rw [hfind]
  rfl

/-- Where they stand nowhere, nothing is found. -/
theorem anywhere_members_eq_none {v : Text} (hv : ∀ w, w <:+ v → begins sets w = false) :
    r.toPattern.anywhere v = .ok none := by
  have hfind : (members sets).findFrom none v = none :=
    findFrom_eq_none (matchAt_members sets) (fun w hw => by rw [hv w hw]; rfl) none
  rw [toPattern_eq h (grouped_members sets)]
  show Except.ok (((members sets).findFrom none v).map _) = _
  rw [hfind]
  rfl

end Search

/-- A program that reads a given text looks for it. -/
theorem toPattern_spelling {t : Text} (h : r.program = spelling t) : r.toPattern = .literal t :=
  (toPattern_eq h (grouped_spelling t)).trans (Regex.Program.toPattern_spelling t)

end AnchoredRegex

end TextScan
