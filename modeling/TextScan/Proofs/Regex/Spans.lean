import TextScan.Proofs.Regex.Groups
import TextScan.Proofs.Regex.Search

namespace TextScan.Regex

/-!
# What a match has noted

The slots of a match are places within it, and each group that took part ends behind its beginning.
So what a group has matched is cut out of the text as it stands there, and nothing is lost.

* `Way.Sound` is the invariant of a run. `Way.Sound.step` and `Way.Sound.save` are the steps,
  `Program.matchAt_sound` is the result for runs.
* By `Program.alignedIn_of_spans?`, the ranges that a program tells are aligned. What they cut out
  is what the program finds, by `Program.spans?_bind_found?`.
-/

/-- A way through the text `v` that has arrived where `after` is unread. It has noted places that it
    has passed, and groups that it is not in are in order. -/
structure Way.Sound (p : Program) (v after : Text) (way : Way) : Prop where
  length : way.slots.length = 2 * p.groups
  noted : ∀ x, some x ∈ way.slots → after <:+ x ∧ x <:+ v
  order : ∀ g, InOrder way.slots g ∨ ∃ i j, p.GroupAt g i j ∧ i < way.pc ∧ way.pc ≤ j

variable {p : Program} {v after : Text} {way : Way} {inst : Inst}

namespace Way.Sound

/-- Going on behind an instruction that notes nothing. Within a group, that leads not out of it. -/
theorem step (h : way.Sound p v after) (hinst : p.code[way.pc]? = some inst)
    (hsave : ∀ slot, inst ≠ .save slot) {t : Nat} (ht : t ∈ inst.targets way.pc) :
    Way.Sound p v after { way with pc := t } := by
  refine ⟨h.length, h.noted, fun g => (h.order g).imp_right ?_⟩
  rintro ⟨i, j, hgroup, hi, hj⟩
  have hlist : p.code.toList[way.pc]? = some inst := by rwa [Array.getElem?_toList]
  have hne : way.pc ≠ j := by
    rintro rfl
    exact hsave _ (Option.some.inj (hlist.symm.trans hgroup.stop))
  have hbounds := hgroup.inside way.pc inst hi (by omega) hlist t (by rwa [Nat.zero_add])
  rw [Nat.zero_add, Nat.zero_add] at hbounds
  exact ⟨i, j, hgroup, hbounds⟩

/-- Noting a place begins a group, or it ends one, which then is in order. -/
theorem save (h : way.Sound p v after) (hp : p.Grouped) (hafter : after <:+ v) {slot : Nat}
    (hinst : p.code[way.pc]? = some (.save slot)) :
    Way.Sound p v after ⟨way.pc + 1, way.slots.set slot (some after)⟩ := by
  refine ⟨by rw [List.length_set, h.length], fun x hx => ?_, fun g => ?_⟩
  · rcases List.mem_or_eq_of_mem_set hx with hx | hx
    · exact h.noted x hx
    · obtain rfl := Option.some.inj hx
      exact ⟨List.suffix_refl _, hafter⟩
  · by_cases hbegin : slot = 2 * g
    · subst hbegin
      obtain ⟨j, hgroup⟩ := hp way.pc g hinst
      exact .inr ⟨way.pc, j, hgroup, Nat.lt_succ_self _, hgroup.lt⟩
    by_cases hend : slot = 2 * g + 1
    · subst hend
      refine .inl fun a b ha hb => ?_
      rw [List.getElem?_set_ne (by omega)] at ha
      -- The place is noted last, so it lies behind any other one.
      obtain rfl : after = b := by
        rw [List.getElem?_set] at hb
        simp only [if_true, Option.ite_none_right_eq_some, Option.some.injEq] at hb
        exact hb.2
      exact (h.noted a (List.mem_of_getElem? ha)).1
    · refine (h.order g).imp (fun horder a b ha hb => ?_) ?_
      · rw [List.getElem?_set_ne hbegin] at ha
        rw [List.getElem?_set_ne hend] at hb
        exact horder a b ha hb
      · rintro ⟨i, j, hgroup, hi, hj⟩
        have hlist : p.code.toList[way.pc]? = some (.save slot) := by rwa [Array.getElem?_toList]
        have hne : way.pc ≠ j := by
          rintro rfl
          exact hend (Inst.save.inj (Option.some.inj (hlist.symm.trans hgroup.stop)))
        exact ⟨i, j, hgroup, Nat.lt_succ_of_lt hi, Nat.lt_of_le_of_ne hj hne⟩

/-- Reading a character. -/
theorem read {c : Char} {r : Text} (h : way.Sound p v (c :: r)) {set : CharSet}
    (hinst : p.code[way.pc]? = some (.one set)) :
    Way.Sound p v r { way with pc := way.pc + 1 } := by
  have hstep := h.step hinst (fun _ => Inst.noConfusion) (List.mem_singleton.2 rfl)
  refine ⟨hstep.length, fun x hx => ?_, hstep.order⟩
  obtain ⟨hx, hv⟩ := hstep.noted x hx
  exact ⟨(List.suffix_cons c r).trans hx, hv⟩

/-- Where nothing is left to do, no group is open. -/
theorem accept (h : way.Sound p v after) (hafter : after <:+ v) (hstop : p.code[way.pc]? = none) :
    Match.Sound p v ⟨after, way.slots⟩ := by
  refine ⟨hafter, h.length, h.noted, fun g => (h.order g).resolve_right ?_⟩
  rintro ⟨i, j, hgroup, -, hj⟩
  have hlt : j < p.code.size := (List.getElem?_eq_some_iff.1 hgroup.stop).1
  have hle : p.code.size ≤ way.pc := Array.getElem?_eq_none_iff.1 hstop
  omega

end Way.Sound

namespace Program

/-- Following the ways to where they wait keeps them sound. -/
theorem settle_sound (hp : p.Grouped) (hafter : after <:+ v) {before : Option Char} {fuel : Nat}
    {seen : List Nat} {ways : List Way} (hways : ∀ way ∈ ways, way.Sound p v after) :
    ∀ way ∈ p.settle before after fuel seen ways, way.Sound p v after := by
  induction fuel generalizing seen ways with
  | zero => exact fun _ h => absurd h List.not_mem_nil
  | succ fuel ih =>
    cases ways with
    | nil => exact fun _ h => absurd h List.not_mem_nil
    | cons first rest =>
      obtain ⟨hfirst, hrest⟩ := List.forall_mem_cons.1 hways
      rw [settle]
      split
      · exact ih hrest
      · split
        · exact List.forall_mem_cons.2 ⟨hfirst, ih hrest⟩
        · exact List.forall_mem_cons.2 ⟨hfirst, ih hrest⟩
        · rename_i target hinst
          have hstep := hfirst.step hinst (fun _ => Inst.noConfusion) (List.mem_singleton.2 rfl)
          exact ih (List.forall_mem_cons.2 ⟨hstep, hrest⟩)
        · rename_i one other hinst
          have hstep {t : Nat} (ht : t ∈ [one, other]) :=
            hfirst.step hinst (fun _ => Inst.noConfusion) ht
          exact ih (List.forall_mem_cons.2 ⟨hstep (by simp),
            List.forall_mem_cons.2 ⟨hstep (by simp), hrest⟩⟩)
        · rename_i test hinst
          have hstep := hfirst.step hinst (fun _ => Inst.noConfusion) (List.mem_singleton.2 rfl)
          split
          · exact ih (List.forall_mem_cons.2 ⟨hstep, hrest⟩)
          · exact ih hrest
        · rename_i slot hinst
          exact ih (List.forall_mem_cons.2 ⟨hfirst.save hp hafter hinst, hrest⟩)

theorem settled_sound (hp : p.Grouped) (hafter : after <:+ v) (before : Option Char)
    {ways : List Way} (hways : ∀ way ∈ ways, way.Sound p v after) :
    ∀ way ∈ p.settled before after ways, way.Sound p v after := settle_sound hp hafter hways

theorem advance_sound {c : Char} {r : Text} {ways : List Way}
    (hways : ∀ way ∈ ways, way.Sound p v (c :: r)) :
    ∀ way ∈ p.advance c ways, way.Sound p v r := by
  induction ways with
  | nil => exact fun _ h => absurd h List.not_mem_nil
  | cons first rest ih =>
    obtain ⟨hfirst, hrest⟩ := List.forall_mem_cons.1 hways
    rw [advance]
    split
    · rename_i set hinst
      split
      · exact List.forall_mem_cons.2 ⟨hfirst.read hinst, ih hrest⟩
      · exact ih hrest
    · exact fun _ h => absurd h List.not_mem_nil

theorem accepted?_sound (hafter : after <:+ v) {ways : List Way}
    (hways : ∀ way ∈ ways, way.Sound p v after) (h : p.accepted? ways = some way) :
    Match.Sound p v ⟨after, way.slots⟩ := by
  have hstop := List.find?_some h
  exact (hways way (List.mem_of_find?_eq_some h)).accept hafter (Option.isNone_iff_eq_none.1 hstop)

/-- A run that starts with sound ways ends with a sound match. -/
theorem run_sound (hp : p.Grouped) {best : Option Match} {before : Option Char} {ways : List Way}
    (hafter : after <:+ v) (hways : ∀ way ∈ ways, way.Sound p v after)
    (hbest : ∀ m, best = some m → m.Sound p v) {m : Match}
    (h : p.run best before after ways = some m) : m.Sound p v := by
  induction after generalizing best before ways with
  | nil =>
    have hsettled := settled_sound hp hafter before hways
    rw [run] at h
    split at h
    · rename_i way haccepted
      exact Option.some.inj h ▸ accepted?_sound hafter hsettled haccepted
    · exact hbest m h
  | cons c r ih =>
    have hsettled := settled_sound hp hafter before hways
    have hrest := (List.suffix_cons c r).trans hafter
    -- A way that accepts here becomes the best match.
    cases haccepted : p.accepted? (p.settled before (c :: r) ways) with
    | some way =>
      have hbest' (m : Match) (hm : some ⟨c :: r, way.slots⟩ = some m) : m.Sound p v :=
        Option.some.inj hm ▸ accepted?_sound hafter hsettled haccepted
      simp only [run, haccepted] at h
      split at h
      · exact hbest' m h
      · exact ih hrest (advance_sound hsettled) hbest' h
    | none =>
      simp only [run, haccepted] at h
      split at h
      · exact hbest m h
      · exact ih hrest (advance_sound hsettled) hbest h

/-- **The slots of a match** lie within it and are in order. -/
theorem matchAt_sound (hp : p.Grouped) {before : Option Char} {m : Match}
    (h : p.matchAt before v = some m) : m.Sound p v := by
  refine run_sound hp (List.suffix_refl v) ?_ (fun _ hnone => by cases hnone) h
  have hnone {i : Nat} {x : Text} : (List.replicate (2 * p.groups) none)[i]? ≠ some (some x) :=
    fun hi => by cases List.eq_of_mem_replicate (List.mem_of_getElem? hi)
  refine List.forall_mem_singleton.2 ⟨List.length_replicate, fun x hx => ?_, fun g => .inl ?_⟩
  · cases List.eq_of_mem_replicate hx
  · exact fun a b ha _ => absurd ha hnone

/-- The match of a search is sound where it starts. -/
theorem findFrom_sound (hp : p.Grouped) {before : Option Char} {w : Text} {m : Match}
    (h : p.findFrom before v = some (w, m)) : m.Sound p w := by
  obtain ⟨u, -, hm, -⟩ := findFrom_split h
  exact matchAt_sound hp hm

/-! ### Ranges -/

/-- The ranges that a program tells are those of a sound match. -/
theorem exists_of_spans? (hp : p.Grouped) {anchored : Bool} {s : Spans}
    (h : p.spans? anchored v = some s) :
    ∃ w m, w <:+ v ∧ m.Sound p w ∧ s = .ofMatch v w m := by
  cases anchored with
  | true =>
    obtain ⟨m, hm, rfl⟩ := Option.map_eq_some_iff.1 h
    exact ⟨v, m, List.suffix_refl v, matchAt_sound hp hm, rfl⟩
  | false =>
    obtain ⟨⟨w, m⟩, hfind, rfl⟩ := Option.map_eq_some_iff.1 h
    exact ⟨w, m, findFrom_isSuffix hfind, findFrom_sound hp hfind, rfl⟩

/-- **Ranges are aligned**, and as many as there are groups. -/
theorem alignedIn_of_spans? (hp : p.Grouped) {anchored : Bool} {s : Spans}
    (h : p.spans? anchored v = some s) : s.AlignedIn p.groups v := by
  obtain ⟨w, m, hw, hm, rfl⟩ := exists_of_spans? hp h
  exact Spans.alignedIn_ofMatch hm hw

/-- **What the ranges cut out** of a text is what the program finds. -/
theorem spans?_bind_found? (hp : p.Grouped) (anchored : Bool) (v : Text) :
    (p.spans? anchored v).bind (·.found? v) =
      if anchored then p.foundAtStart? v else p.found? v := by
  cases anchored with
  | true =>
    show ((p.matchAt none v).map (Spans.ofMatch v v)).bind _ = (p.matchAt none v).map _
    cases hm : p.matchAt none v with
    | none => rfl
    | some m => exact Spans.found?_ofMatch (matchAt_sound hp hm) (List.suffix_refl v)
  | false =>
    show ((p.find v).map _).bind _ = (p.find v).map _
    cases hfind : p.find v with
    | none => rfl
    | some found => exact Spans.found?_ofMatch (findFrom_sound hp hfind) (findFrom_isSuffix hfind)

/-- Cutting never fails, so it makes no difference what is done if it does. -/
theorem spans?_map_found (hp : p.Grouped) (v : Text) :
    (p.spans? false v).map (·.found v) = p.found? v := by
  have hbind := spans?_bind_found? hp false v
  cases hspans : p.spans? false v with
  | none =>
    rw [hspans] at hbind
    exact hbind
  | some s =>
    rw [hspans, Option.bind_some, (alignedIn_of_spans? hp hspans).found?_eq] at hbind
    exact hbind

end Program

end TextScan.Regex
