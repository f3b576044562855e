import TextScan.Proofs.Regex.Contract

namespace TextScan

/-!
# What a match takes out of a text

A program notes places as what is unread there. An engine tells them as ranges of bytes, and a
pattern cuts these ranges out of the text again. Nothing is lost on the way.

* `Found.ofMatch` is the match as it is reported, told by what is unread. `Regex.Program.found?` and
  `Regex.Program.foundAtStart?` are what a program finds, `Regex.Program.toPattern` is the pattern
  of the two.
* `Regex.Match.Sound` says that the slots of a match lie within it and are in order.
* `Regex.Spans.alignedIn_ofMatch` says that the ranges of a sound match can be cut out. By
  `Regex.Spans.found?_ofMatch`, what they cut out is the match.
-/

open Regex

/-- The end of a text has no more bytes than the text. -/
theorem Text.byteSize_le_of_isSuffix {a text : Text} (h : a <:+ text) :
    a.byteSize ≤ text.byteSize := by
  obtain ⟨u, rfl⟩ := h
  rw [Text.byteSize_append]
  exact Nat.le_add_left ..

namespace Regex

/-- The texts between pairs of slots; nothing for a pair that was not noted. -/
def slotTexts : List (Option Text) → List (Option Text)
  | start :: stop :: rest =>
    (match start, stop with
      | some a, some b => some (a.take (a.length - b.length))
      | _, _ => none) :: slotTexts rest
  | _ => []

/-- The texts of the groups; nothing for a group that took no part. -/
def Match.captures (m : Match) : List (Option Text) := slotTexts m.slots

end Regex

/-- A match of a program as a match in the text. `unread` is what is unread where it starts. -/
def Found.ofMatch (text unread : Text) (m : Match) : Found where
  start := text.byteSize - unread.byteSize
  text := unread.take (unread.length - m.rest.length)
  captures := m.captures

namespace Regex

namespace Program

/-- The first match of a program in a text. -/
def found? (p : Program) (text : Text) : Option Found :=
  (p.find text).map fun (unread, m) => Found.ofMatch text unread m

/-- The preferred match of a program at the start of a text. -/
def foundAtStart? (p : Program) (text : Text) : Option Found :=
  (p.matchAt none text).map fun m => Found.ofMatch text text m

/-- The pattern of a program. -/
def toPattern (p : Program) : Pattern where
  atStart text := .ok (p.foundAtStart? text)
  anywhere text := .ok (p.found? text)

end Program

/-! ### Sound matches -/

/-- The slots of group `g` are in order: it ends behind its beginning, if both have been noted. -/
def InOrder (slots : List (Option Text)) (g : Nat) : Prop :=
  ∀ a b, slots[2 * g]? = some (some a) → slots[2 * g + 1]? = some (some b) → b <:+ a

/-- A match at the start of the text `v` ends in it, has noted places within it, and all its groups
    are in order. -/
structure Match.Sound (p : Program) (v : Text) (m : Match) : Prop where
  isSuffix : m.rest <:+ v
  length : m.slots.length = 2 * p.groups
  noted : ∀ x, some x ∈ m.slots → m.rest <:+ x ∧ x <:+ v
  order : ∀ g, InOrder m.slots g

variable {text unread a b : Text} {p : Program} {m : Match}

/-! ### Ranges -/

/-- Between two places, the second of them behind the first, lies what the first one has before the
    second. -/
theorem ByteRange.cut?_of_isSuffix (ha : a <:+ text) (hb : b <:+ a) :
    (⟨text.byteSize - a.byteSize, text.byteSize - b.byteSize⟩ : ByteRange).cut? text =
      some (a.take (a.length - b.length)) := by
  obtain ⟨c, rfl⟩ := hb
  obtain ⟨u, rfl⟩ := ha
  rw [List.length_append, Nat.add_sub_cancel, List.take_left]
  refine Text.slice?_eq_some_iff.2 ⟨u, b, (List.append_assoc ..).symm, ?_, ?_⟩
  · simp
  · simp only [Text.byteSize_append]
    omega

/-- The ranges of groups in order are cut out as the texts between their slots. -/
theorem slotRanges_bind_cut? {slots : List (Option Text)}
    (hnoted : ∀ x, some x ∈ slots → x <:+ text) (horder : ∀ g, InOrder slots g) :
    (slotRanges text slots).map (fun r => r.bind fun r => r.cut? text) = slotTexts slots :=
  match slots with
  | [] => rfl
  | [_] => rfl
  | start :: stop :: slots => by
    have hrest := @slotRanges_bind_cut? slots
      (fun x hx => hnoted x (List.mem_cons_of_mem _ (List.mem_cons_of_mem _ hx)))
      fun g => horder (g + 1)
    refine List.cons_eq_cons.2 ⟨?_, hrest⟩
    cases start with
    | none => rfl
    | some a =>
      cases stop with
      | none => rfl
      | some b =>
        have ha := hnoted a List.mem_cons_self
        exact ByteRange.cut?_of_isSuffix ha (horder 0 a b rfl rfl)

/-- The range of a group lies between its slots. -/
theorem exists_of_mem_slotRanges {slots : List (Option Text)} {r : ByteRange}
    (h : some r ∈ slotRanges text slots) :
    ∃ g a b, slots[2 * g]? = some (some a) ∧ slots[2 * g + 1]? = some (some b) ∧
      r = ⟨text.byteSize - a.byteSize, text.byteSize - b.byteSize⟩ :=
  match slots with
  | [] => absurd h List.not_mem_nil
  | [_] => absurd h List.not_mem_nil
  | start :: stop :: slots => by
    rcases List.mem_cons.1 h with h | h
    · cases start with
      | none => cases h
      | some a =>
        cases stop with
        | none => cases h
        | some b => exact ⟨0, a, b, rfl, rfl, Option.some.inj h⟩
    · obtain ⟨g, a, b, ha, hb, hr⟩ := exists_of_mem_slotRanges h
      exact ⟨g + 1, a, b, ha, hb, hr⟩

theorem length_slotRanges (text : Text) :
    ∀ slots : List (Option Text), (slotRanges text slots).length = slots.length / 2
  | [] => rfl
  | [_] => by simp [slotRanges]
  | start :: stop :: slots => by
    have hrest := length_slotRanges text slots
    show (slotRanges text slots).length + 1 = (slots.length + 2) / 2
    omega

namespace Spans

/-- **The ranges of a sound match** are aligned. -/
theorem alignedIn_ofMatch (h : m.Sound p unread) (hunread : unread <:+ text) :
    (ofMatch text unread m).AlignedIn p.groups text where
  whole := ⟨_, ByteRange.cut?_of_isSuffix hunread h.isSuffix⟩
  group r hr := by
    obtain ⟨g, a, b, ha, hb, rfl⟩ := exists_of_mem_slotRanges hr
    have hin := (h.noted a (List.mem_of_getElem? ha)).2
    have hout := (h.noted b (List.mem_of_getElem? hb)).1
    refine ⟨⟨_, ByteRange.cut?_of_isSuffix (hin.trans hunread) (h.order g a b ha hb)⟩, ?_, ?_⟩
    · have hle := Text.byteSize_le_of_isSuffix hin
      show text.byteSize - unread.byteSize ≤ text.byteSize - a.byteSize
      omega
    · have hle := Text.byteSize_le_of_isSuffix hout
      show text.byteSize - b.byteSize ≤ text.byteSize - m.rest.byteSize
      omega
  length := by
    show (slotRanges text m.slots).length = _
    rw [length_slotRanges, h.length]
    omega

/-- What the ranges of a sound match cut out is that match. -/
theorem found?_ofMatch (h : m.Sound p unread) (hunread : unread <:+ text) :
    (ofMatch text unread m).found? text = some (Found.ofMatch text unread m) := by
  have hwhole : (ofMatch text unread m).whole.cut? text = some _ :=
    ByteRange.cut?_of_isSuffix hunread h.isSuffix
  have hcaptures : (ofMatch text unread m).groups.map (fun r => r.bind fun r => r.cut? text) =
      m.captures :=
    slotRanges_bind_cut? (fun x hx => (h.noted x hx).2.trans hunread) h.order
  rw [found?, hwhole, hcaptures]
  rfl

end Spans

end Regex

end TextScan
