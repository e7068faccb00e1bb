import StaticSite.Proofs.Text.Skipping

/-!
# Where a text is cut

`cutAt?` cuts at the first place at which the mark stands and `cutAtLast?` at the last one: no
other occurrence lies before the first cut or behind the last one, and no occurrence is missed.
-/

namespace StaticSite.Text

variable {mark s before after : List Char}

/-- No occurrence of the mark starts before the cut. -/
theorem cutAt?_least (found : cutAt? mark s = some (before, after)) {front back : List Char}
    (occurs : s = front ++ mark ++ back) : before.length ≤ front.length := by
  induction s generalizing before front with
  | nil =>
    simp only [cutAt?] at found
    split at found
    · cases found
      exact Nat.zero_le _
    · contradiction
  | cons c s ih =>
    simp only [cutAt?] at found
    split at found
    · cases found
      exact Nat.zero_le _
    next absent =>
      simp only [Option.map_eq_some_iff, Prod.mk.injEq, Prod.exists] at found
      obtain ⟨head, tail, inner, rfl, rfl⟩ := found
      cases front with
      | nil =>
        rw [occurs, List.nil_append, dropFront?_append] at absent
        contradiction
      -- The mark is not here, so both the cut and the occurrence are in the rest.
      | cons d front =>
        have rest : s = front ++ mark ++ back := (List.cons.inj occurs).2
        exact Nat.succ_le_succ (ih inner rest)

theorem cutAtLast?_eq_append (found : cutAtLast? mark s = some (before, after)) :
    s = before ++ mark ++ after := by
  simp only [cutAtLast?, Option.map_eq_some_iff, Prod.mk.injEq, Prod.exists] at found
  obtain ⟨tail, head, inner, rfl, rfl⟩ := found
  have mirrored := congrArg List.reverse (cutAt?_eq_append inner)
  simpa using mirrored

/-- No occurrence of the mark starts behind the last cut. -/
theorem cutAtLast?_most (found : cutAtLast? mark s = some (before, after)) {front back : List Char}
    (occurs : s = front ++ mark ++ back) : front.length ≤ before.length := by
  have whole := cutAtLast?_eq_append found
  simp only [cutAtLast?, Option.map_eq_some_iff, Prod.mk.injEq, Prod.exists] at found
  obtain ⟨tail, head, inner, rfl, rfl⟩ := found
  have mirrored : s.reverse = back.reverse ++ mark.reverse ++ front.reverse := by
    simp [occurs]
  -- Seen from the end, the last occurrence is the first one.
  have least := cutAt?_least inner mirrored
  have lengths := congrArg List.length (whole.symm.trans occurs)
  simp only [List.length_append, List.length_reverse] at least lengths ⊢
  omega

theorem cutAtLast?_isSome (occurs : s = before ++ mark ++ after) :
    (cutAtLast? mark s).isSome = true := by
  have mirrored : s.reverse = after.reverse ++ (mark.reverse ++ before.reverse) := by
    simp [occurs]
  rw [cutAtLast?, mirrored, Option.isSome_map]
  exact cutAt?_isSome _ _ _

end StaticSite.Text
