import TextScan.Regex.Program

namespace TextScan.Regex

/-!
# Groups in programs

The code of an expression is entered at its first instruction and left behind its last one. So what
lies between the two instructions that note where a group begins and where it ends is not left but
through the second of them.

* `Inst.targets` are the places at which a program may go on behind an instruction.
* `LiesWithin` says of a piece of code that it goes on within bounds, and that each group in it ends
  behind its beginning and is left there only.
* `Expr.code_liesWithin` says this of the code of expressions.
* `Program.Grouped` says of a program that all its groups end. By `Program.ofExpr_grouped`, programs
  for expressions are such.
-/

/-- Where a program may go on behind its instruction number `pc`. -/
def Inst.targets (pc : Nat) : Inst → List Nat
  | one _ | look _ | save _ => [pc + 1]
  | jump target => [target]
  | split first second => [first, second]

/-- In code whose instructions are numbered from `start`, group `g` begins with the instruction at
    `p` and ends with the one at `q`. What is between them goes on between them. -/
structure GroupIn (start : Nat) (l : List Inst) (g p q : Nat) : Prop where
  lt : p < q
  stop : l[q]? = some (.save (2 * g + 1))
  inside : ∀ k (inst : Inst), p < k → k < q → l[k]? = some inst →
    ∀ t ∈ inst.targets (start + k), start + p < t ∧ t ≤ start + q

/-- The code, whose instructions are numbered from `start`, goes on from `lo` through `hi`, and all
    its groups end. -/
structure LiesWithin (lo hi start : Nat) (l : List Inst) : Prop where
  bounds : ∀ k (inst : Inst), l[k]? = some inst → ∀ t ∈ inst.targets (start + k), lo ≤ t ∧ t ≤ hi
  groups : ∀ p g, l[p]? = some (.save (2 * g)) → ∃ q, GroupIn start l g p q

variable {lo hi start : Nat} {l l₁ l₂ : List Inst} {inst : Inst}

/-- An instruction of two pieces of code belongs to the first or to the second of them. -/
theorem getElem?_append_cases {k : Nat} (h : (l₁ ++ l₂)[k]? = some inst) :
    (k < l₁.length ∧ l₁[k]? = some inst) ∨ ∃ j, k = l₁.length + j ∧ l₂[j]? = some inst := by
  rcases Nat.lt_or_ge k l₁.length with hlt | hge
  · rw [List.getElem?_append_left hlt] at h
    exact .inl ⟨hlt, h⟩
  · obtain ⟨j, rfl⟩ := Nat.exists_eq_add_of_le hge
    rw [List.getElem?_append_right hge, Nat.add_sub_cancel_left] at h
    exact .inr ⟨j, rfl, h⟩

namespace GroupIn

variable {g p q : Nat}

/-- Code behind a group changes nothing. -/
theorem append_right (h : GroupIn start l₁ g p q) (l₂ : List Inst) :
    GroupIn start (l₁ ++ l₂) g p q := by
  have hq : q < l₁.length := (List.getElem?_eq_some_iff.1 h.stop).1
  refine ⟨h.lt, by rw [List.getElem?_append_left hq, h.stop], fun k inst hpk hkq hk => ?_⟩
  rw [List.getElem?_append_left (Nat.lt_trans hkq hq)] at hk
  exact h.inside k inst hpk hkq hk

/-- Code before a group moves it. -/
theorem append_left (h : GroupIn (start + l₁.length) l₂ g p q) :
    GroupIn start (l₁ ++ l₂) g (l₁.length + p) (l₁.length + q) := by
  refine ⟨Nat.add_lt_add_left h.lt _, ?_, fun k inst hpk hkq hk => ?_⟩
  · rw [List.getElem?_append_right (Nat.le_add_right _ _), Nat.add_sub_cancel_left, h.stop]
  · rcases getElem?_append_cases hk with ⟨hlt, -⟩ | ⟨j, rfl, hj⟩
    · omega
    · intro t ht
      rw [← Nat.add_assoc] at ht
      have hbounds := h.inside j inst (by omega) (by omega) hj t ht
      omega

end GroupIn

namespace LiesWithin

theorem nil (lo hi start : Nat) : LiesWithin lo hi start [] :=
  ⟨fun _ _ h => by simp at h, fun _ _ h => by simp at h⟩

/-- One instruction, which begins no group. -/
theorem single (hbounds : ∀ t ∈ inst.targets start, lo ≤ t ∧ t ≤ hi)
    (hsave : ∀ g, inst ≠ .save (2 * g)) : LiesWithin lo hi start [inst] := by
  refine ⟨fun k inst' hk t ht => ?_, fun p g hp => ?_⟩
  · obtain rfl := List.mem_singleton.1 (List.mem_of_getElem? hk)
    obtain rfl : k = 0 := Nat.lt_one_iff.1 (List.getElem?_eq_some_iff.1 hk).1
    exact hbounds t ht
  · exact absurd (List.mem_singleton.1 (List.mem_of_getElem? hp)).symm (hsave g)

theorem mono (h : LiesWithin lo hi start l) {lo' hi' : Nat} (hlo : lo' ≤ lo) (hhi : hi ≤ hi') :
    LiesWithin lo' hi' start l := by
  refine ⟨fun k inst hk t ht => ?_, h.groups⟩
  have hbounds := h.bounds k inst hk t ht
  omega

theorem append (h₁ : LiesWithin lo hi start l₁) (h₂ : LiesWithin lo hi (start + l₁.length) l₂) :
    LiesWithin lo hi start (l₁ ++ l₂) := by
  constructor
  · intro k inst hk t ht
    rcases getElem?_append_cases hk with ⟨-, hk⟩ | ⟨j, rfl, hj⟩
    · exact h₁.bounds k inst hk t ht
    · rw [← Nat.add_assoc] at ht
      exact h₂.bounds j inst hj t ht
  · intro p g hp
    rcases getElem?_append_cases hp with ⟨-, hp⟩ | ⟨j, rfl, hj⟩
    · obtain ⟨q, hq⟩ := h₁.groups p g hp
      exact ⟨q, hq.append_right l₂⟩
    · obtain ⟨q, hq⟩ := h₂.groups j g hj
      exact ⟨l₁.length + q, hq.append_left⟩

theorem cons (hbounds : ∀ t ∈ inst.targets start, lo ≤ t ∧ t ≤ hi)
    (hsave : ∀ g, inst ≠ .save (2 * g)) (h : LiesWithin lo hi (start + 1) l) :
    LiesWithin lo hi start (inst :: l) :=
  (single hbounds hsave).append h

/-- A choice between two places within the bounds. -/
theorem choice {greedy : Bool} {inside outside : Nat} (hin : lo ≤ inside ∧ inside ≤ hi)
    (hout : lo ≤ outside ∧ outside ≤ hi) (h : LiesWithin lo hi (start + 1) l) :
    LiesWithin lo hi start (Inst.choice greedy inside outside :: l) := by
  refine cons ?_ ?_ h
  · cases greedy <;> simp [Inst.choice, Inst.targets, hin, hout]
  · cases greedy <;> simp [Inst.choice]

/-- A group around code that goes on from its start through its end. -/
theorem group (g : Nat) (h : LiesWithin (start + 1) (start + 1 + l.length) (start + 1) l) :
    LiesWithin start (start + l.length + 2) start
      (.save (2 * g) :: (l ++ [.save (2 * g + 1)])) := by
  have hend : LiesWithin start (start + l.length + 2) (start + 1 + l.length)
      [.save (2 * g + 1)] := by
    refine single (by simp [Inst.targets]; omega) fun i hi => ?_
    have hslot := Inst.save.inj hi
    omega
  have hbody : LiesWithin start (start + l.length + 2) (start + 1) (l ++ [.save (2 * g + 1)]) :=
    (h.mono (by omega) (by omega)).append hend
  constructor
  · intro k inst hk t ht
    cases k with
    | zero =>
      obtain rfl := Option.some.inj hk
      obtain rfl := List.mem_singleton.1 ht
      omega
    | succ k =>
      refine hbody.bounds k inst hk t ?_
      rwa [Nat.add_right_comm, Nat.add_assoc]
  · intro p i hp
    cases p with
    | zero =>
      obtain rfl : g = i := by
        have hslot := Inst.save.inj (Option.some.inj hp)
        omega
      -- The group that begins here ends behind the code.
      refine ⟨l.length + 1, Nat.succ_pos _, by simp, fun k inst hk hkl hinst t ht => ?_⟩
      obtain ⟨k, rfl⟩ : ∃ k', k = k' + 1 := ⟨k - 1, by omega⟩
      rw [List.getElem?_cons_succ, List.getElem?_append_left (by omega)] at hinst
      have hbounds := h.bounds k inst hinst t (by rwa [Nat.add_right_comm, Nat.add_assoc])
      omega
    | succ p =>
      obtain ⟨q, hq⟩ := hbody.groups p i hp
      have hmoved :
          GroupIn start ([.save (2 * g)] ++ (l ++ [.save (2 * g + 1)])) i (1 + p) (1 + q) :=
        hq.append_left
      exact ⟨1 + q, Nat.add_comm 1 p ▸ hmoved⟩

end LiesWithin

/-! ### Repetitions -/

section Repetitions

variable {piece : Nat → List Inst} {width : Nat} (hlength : ∀ s, (piece s).length = width)

include hlength

theorem length_copies (n start : Nat) : (copies piece width n start).length = n * width := by
  induction n generalizing start with
  | zero => rw [copies, Nat.zero_mul, List.length_nil]
  | succ n ih => rw [copies, List.length_append, hlength, ih, Nat.succ_mul, Nat.add_comm]

theorem length_optionals (greedy : Bool) (stop n start : Nat) :
    (optionals piece width greedy stop n start).length = n * (width + 1) := by
  induction n generalizing start with
  | zero => rw [optionals, Nat.zero_mul, List.length_nil]
  | succ n ih =>
    rw [optionals, List.length_cons, List.length_append, hlength, ih, Nat.succ_mul]
    omega

variable (hpiece : ∀ s, LiesWithin s (s + width) s (piece s))

include hpiece

theorem copies_liesWithin (n start : Nat) :
    LiesWithin start (start + n * width) start (copies piece width n start) := by
  induction n generalizing start with
  | zero => exact .nil ..
  | succ n ih =>
    rw [copies, Nat.succ_mul]
    refine ((hpiece start).mono (Nat.le_refl _) (by omega)).append ?_
    rw [hlength]
    exact (ih (start + width)).mono (by omega) (by omega)

theorem optionals_liesWithin (greedy : Bool) (n start : Nat) :
    LiesWithin start (start + n * (width + 1)) start
      (optionals piece width greedy (start + n * (width + 1)) n start) := by
  -- All copies are left for the same place, which the later ones see from nearer.
  have hfrom (stop : Nat) (n start : Nat) (hstop : start + n * (width + 1) = stop) :
      LiesWithin start stop start (optionals piece width greedy stop n start) := by
    induction n generalizing start with
    | zero => exact .nil ..
    | succ n ih =>
      rw [Nat.succ_mul] at hstop
      rw [optionals]
      refine .choice ⟨by omega, by omega⟩ ⟨by omega, by omega⟩ ?_
      refine ((hpiece (start + 1)).mono (by omega) (by omega)).append ?_
      rw [hlength]
      exact (ih (start + 1 + width) (by omega)).mono (by omega) (Nat.le_refl _)
  exact hfrom _ n start rfl

end Repetitions

/-! ### Expressions -/

namespace Expr

mutual

/-- The code of an expression is as long as its width says. -/
theorem length_code : ∀ (e : Expr) (start : Nat), (code e start).length = width e
  | empty, _ => rfl
  | literal cs, _ => List.length_map _
  | set _ _, _ => rfl
  | look _, _ => rfl
  | loop min (some max) greedy e, start => by
    rw [code, width, List.length_append, length_copies (length_code e),
      length_optionals (length_code e)]
  | loop 0 none greedy e, start => by
    rw [code, width, List.length_cons, List.length_append, length_code e, List.length_singleton]
  | loop (n + 1) none greedy e, start => by
    rw [code, width, List.length_append, List.length_append, length_copies (length_code e),
      length_code e, List.length_singleton]
  | group index e, start => by
    rw [code, width, List.length_cons, List.length_append, length_code e, List.length_singleton]
  | seq es, start => by rw [code, width, length_codeSeq es]
  | alt es, start => by rw [code, width, length_codeAlt es]

theorem length_codeSeq : ∀ (es : List Expr) (start : Nat), (codeSeq es start).length = widthSeq es
  | [], _ => rfl
  | e :: es, start => by
    rw [codeSeq, widthSeq, List.length_append, length_code e, length_codeSeq es]

theorem length_codeAlt : ∀ (es : List Expr) (stop start : Nat),
    (codeAlt es stop start).length = widthAlt es
  | [], _, _ => rfl
  | [e], _, start => by rw [codeAlt, widthAlt, length_code e]
  | e :: f :: es, stop, start => by
    have hothers := length_codeAlt (f :: es) stop (start + width e + 2)
    show (Inst.split _ _ :: (code e (start + 1) ++ Inst.jump stop ::
      codeAlt (f :: es) stop (start + width e + 2))).length = width e + 2 + widthAlt (f :: es)
    rw [List.length_cons, List.length_append, List.length_cons, length_code e, hothers]
    omega

end

mutual

/-- **The code of an expression** is left behind its end, and its groups end. -/
theorem code_liesWithin : ∀ (e : Expr) (start : Nat),
    LiesWithin start (start + width e) start (code e start)
  | empty, start => .nil ..
  | literal cs, start => by
    rw [code, width]
    induction cs generalizing start with
    | nil => exact .nil ..
    | cons c cs ih =>
      rw [List.map_cons, List.length_cons]
      exact .cons (by simp [Inst.targets]) (fun _ => Inst.noConfusion)
        ((ih (start + 1)).mono (by omega) (by omega))
  | set _ s, start => .single (by simp [Inst.targets, width]) fun _ => Inst.noConfusion
  | look test, start => .single (by simp [Inst.targets, width]) fun _ => Inst.noConfusion
  | loop min (some max) greedy e, start => by
    rw [code, width, ← Nat.add_assoc]
    refine ((copies_liesWithin (length_code e) (code_liesWithin e) min start).mono
      (Nat.le_refl _) (by omega)).append ?_
    rw [length_copies (length_code e)]
    exact (optionals_liesWithin (length_code e) (code_liesWithin e) greedy _ _).mono (by omega)
      (Nat.le_refl _)
  | loop 0 none greedy e, start => by
    rw [code, width]
    refine .choice ⟨by omega, by omega⟩ ⟨by omega, by omega⟩ ?_
    refine ((code_liesWithin e (start + 1)).mono (by omega) (by omega)).append ?_
    split
    · exact .single (by simp [Inst.targets]) fun _ => Inst.noConfusion
    · exact .choice ⟨by omega, by omega⟩ ⟨by omega, by omega⟩ (.nil ..)
  | loop (n + 1) none greedy e, start => by
    rw [code, width]
    refine ((copies_liesWithin (length_code e) (code_liesWithin e) n start).mono
      (Nat.le_refl _) (by omega)).append ?_
    rw [length_copies (length_code e)]
    refine ((code_liesWithin e _).mono (by omega) (by omega)).append ?_
    exact .choice ⟨by omega, by omega⟩ ⟨by omega, by omega⟩ (.nil ..)
  | group index e, start => by
    have hbody := code_liesWithin e (start + 1)
    rw [code, width]
    rw [← length_code e (start + 1)] at hbody ⊢
    exact .group _ hbody
  | seq es, start => by
    rw [code, width]
    exact codeSeq_liesWithin es start
  | alt es, start => by
    rw [code, width]
    exact codeAlt_liesWithin es start

theorem codeSeq_liesWithin : ∀ (es : List Expr) (start : Nat),
    LiesWithin start (start + widthSeq es) start (codeSeq es start)
  | [], start => .nil ..
  | e :: es, start => by
    rw [codeSeq, widthSeq]
    refine ((code_liesWithin e start).mono (Nat.le_refl _) (by omega)).append ?_
    rw [length_code]
    exact (codeSeq_liesWithin es _).mono (by omega) (by omega)

theorem codeAlt_liesWithin : ∀ (es : List Expr) (start : Nat),
    LiesWithin start (start + widthAlt es) start (codeAlt es (start + widthAlt es) start)
  | [], start => .single (by simp [Inst.targets, widthAlt]) fun _ => Inst.noConfusion
  | [e], start => code_liesWithin e start
  | e :: f :: es, start => by
    have hothers := codeAlt_liesWithin (f :: es) (start + width e + 2)
    rw [show start + width e + 2 + widthAlt (f :: es) =
      start + (width e + 2 + widthAlt (f :: es)) by omega] at hothers
    show LiesWithin start (start + (width e + 2 + widthAlt (f :: es))) start
      (Inst.split _ _ :: (code e (start + 1) ++
        Inst.jump (start + (width e + 2 + widthAlt (f :: es))) :: codeAlt (f :: es) _ _))
    refine .cons ?_ (fun _ => Inst.noConfusion) ?_
    · simp only [Inst.targets, List.mem_cons, List.not_mem_nil, or_false, forall_eq_or_imp,
        forall_eq]
      omega
    refine ((code_liesWithin e (start + 1)).mono (by omega) (by omega)).append ?_
    rw [length_code]
    refine .cons (by simp [Inst.targets]) (fun _ => Inst.noConfusion) ?_
    rw [show start + 1 + width e + 1 = start + (width e + 2) by omega]
    exact hothers.mono (by omega) (Nat.le_refl _)

end

end Expr

/-! ### Programs -/

namespace Program

/-- Group `g` of a program begins with the instruction at `p` and ends with the one at `q`. -/
def GroupAt (prog : Program) (g p q : Nat) : Prop := GroupIn 0 prog.code.toList g p q

/-- Whatever notes where a group begins is followed by what notes where it ends. -/
def Grouped (prog : Program) : Prop :=
  ∀ p g, prog.code[p]? = some (.save (2 * g)) → ∃ q, prog.GroupAt g p q

theorem ofExpr_grouped (e : Expr) : (ofExpr e).Grouped := by
  intro p g hp
  refine (e.code_liesWithin 0).groups p g ?_
  rwa [ofExpr, List.getElem?_toArray] at hp

end Program

end TextScan.Regex
