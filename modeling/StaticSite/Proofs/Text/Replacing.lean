import Mathlib.Data.List.Infix
import StaticSite.Proofs.Text.Skipping

/-!
# Replacing a mark throughout

A replacement reads its text from left to right: where the mark begins, the new text takes its place
and the reading goes on behind it; any other character stays. Two texts can be read one after the
other unless the mark stands across the border between them.

A mark with an edge begins and ends with one and the same character. A text that does not hold this
character and is no part of a mark either is foreign to the marks. However many foreign texts take
the place of pieces of a text, every mark there is afterwards was there before: it can neither begin
nor end in a foreign text, and has no room for a whole one.
-/

namespace StaticSite.Text

variable {mark new s t front back : List Char}

/-! ### Reading from left to right -/

theorem replaceFrom_skip (mark new : List Char) (limit : Nat) (front s : List Char) :
    replaceFrom mark new limit front.length (front ++ s) = replaceFrom mark new limit 0 s := by
  induction front with
  | nil => rfl
  | cons c front ih =>
    rw [← ih]
    rfl

theorem replaceFrom_plain {c : Char} (mark new : List Char) (limit : Nat) {front : List Char}
    (absent : c ∉ front) (s : List Char) :
    replaceFrom (c :: mark) new (limit + 1) 0 (front ++ s)
      = front ++ replaceFrom (c :: mark) new (limit + 1) 0 s := by
  induction front with
  | nil => rfl
  | cons d front ih =>
    simp only [List.mem_cons, not_or] at absent
    have other : startsWith (c :: mark) (d :: (front ++ s)) = false := by
      rw [startsWith, dropFront?_cons_ne _ _ (Ne.symm absent.1)]
      rfl
    rw [List.cons_append, replaceFrom, other, ih absent.2]
    rfl

/-- The text that a reading from left to right makes of another one. -/
inductive Replaced (mark new : List Char) : List Char → List Char → Prop where
  | nil : Replaced mark new [] []
  | mark {s t : List Char} (rest : Replaced mark new s t) :
      Replaced mark new (mark ++ s) (new ++ t)
  | plain {c : Char} {s t : List Char} (absent : ¬ mark <+: c :: s)
      (rest : Replaced mark new s t) : Replaced mark new (c :: s) (c :: t)

theorem startsWith_iff : startsWith mark s = true ↔ mark <+: s := by
  rw [startsWith, Option.isSome_iff_exists]
  simp only [dropFront?_eq_some_iff]
  exact exists_congr fun rest => eq_comm

theorem replaced_replaceFrom (nonempty : mark ≠ []) {limit : Nat} (enough : s.length < limit) :
    Replaced mark new s (replaceFrom mark new limit 0 s) := by
  -- By length and not along the text, since a whole mark is left behind at once.
  induction size : s.length using Nat.strongRecOn generalizing s limit with
  | ind n ih =>
    obtain ⟨limit, rfl⟩ : ∃ less, limit = less + 1 := ⟨limit - 1, by omega⟩
    cases s with
    | nil => exact .nil
    | cons c s =>
      rw [List.length_cons] at enough size
      rw [replaceFrom]
      split
      next begins =>
        obtain ⟨rest, shape⟩ := startsWith_iff.mp begins
        cases mark with
        | nil => contradiction
        | cons d mark =>
          rw [List.cons_append] at shape
          obtain ⟨rfl, rfl⟩ := List.cons.inj shape
          rw [List.length_append] at enough size
          rw [List.length_cons, Nat.add_sub_cancel, replaceFrom_skip]
          exact .mark (ih rest.length (by omega) (by omega) rfl)
      next other =>
        exact .plain (fun begins => other (startsWith_iff.mpr begins))
          (ih s.length (by omega) (by omega) rfl)

theorem replaced_replaceAll (nonempty : mark ≠ []) (new s : List Char) :
    Replaced mark new s (replaceAll mark new s) := by
  rw [replaceAll, replaceUpTo, if_neg nonempty]
  exact replaced_replaceFrom nonempty (Nat.lt_succ_self _)

namespace Replaced

/-- What is read first. -/
theorem inv (replaced : Replaced mark new s t) :
    (s = [] ∧ t = []) ∨
    (∃ rest made, s = mark ++ rest ∧ t = new ++ made ∧ Replaced mark new rest made) ∨
    ∃ c rest made, s = c :: rest ∧ t = c :: made ∧ ¬ mark <+: s ∧ Replaced mark new rest made := by
  cases replaced with
  | nil => exact .inl ⟨rfl, rfl⟩
  | mark rest => exact .inr (.inl ⟨_, _, rfl, rfl, rest⟩)
  | plain absent rest => exact .inr (.inr ⟨_, _, _, rfl, rfl, absent, rest⟩)

theorem unique (nonempty : mark ≠ []) {u : List Char} (replaced : Replaced mark new s t)
    (other : Replaced mark new s u) : t = u := by
  -- Both readings take the same at each place, as the mark is not empty and comes first.
  induction replaced generalizing u with
  | nil =>
    rcases other.inv with ⟨-, rfl⟩ | ⟨rest, made, shape, -, -⟩ | ⟨c, rest, made, shape, -, -, -⟩
    · rfl
    · exact absurd (List.append_eq_nil_iff.mp shape.symm).1 nonempty
    · contradiction
  | @mark s t rest ih =>
    rcases other.inv with ⟨shape, -⟩ | ⟨rest, made, shape, rfl, read⟩
      | ⟨c, rest, made, -, -, absent, -⟩
    · exact absurd (List.append_eq_nil_iff.mp shape).1 nonempty
    · rw [List.append_cancel_left shape] at ih
      rw [ih read]
    · exact absurd (List.prefix_append mark s) absent
  | @plain c s t absent rest ih =>
    rcases other.inv with ⟨shape, -⟩ | ⟨rest, made, shape, -, -⟩
      | ⟨d, rest, made, shape, rfl, -, read⟩
    · contradiction
    · exact absurd ⟨rest, shape.symm⟩ absent
    · obtain ⟨rfl, rfl⟩ := List.cons.inj shape
      rw [ih read]

theorem replaceAll_eq (nonempty : mark ≠ []) (replaced : Replaced mark new s t) :
    replaceAll mark new s = t :=
  (replaced_replaceAll nonempty new s).unique nonempty replaced

theorem of_absent (absent : ¬ mark <:+: s) : Replaced mark new s s := by
  induction s with
  | nil => exact .nil
  | cons c s ih =>
    exact .plain (fun begins => absent begins.isInfix)
      (ih fun inside => absent (inside.trans (List.suffix_cons c s).isInfix))

end Replaced

/-! ### Borders -/

/-- The mark stands across the border of two texts: a part of it ends the first one and the rest
begins the second one. -/
def Straddles (mark front back : List Char) : Prop :=
  ∃ n < mark.length, 0 < n ∧ mark.take n <:+ front ∧ mark.drop n <+: back

instance (mark front back : List Char) : Decidable (Straddles mark front back) :=
  inferInstanceAs (Decidable (∃ n < mark.length, _))

theorem Straddles.mono {longer wider : List Char} (across : Straddles mark front back)
    (ends : front <:+ longer) (begins : back <+: wider) : Straddles mark longer wider := by
  obtain ⟨n, less, some, first, second⟩ := across
  exact ⟨n, less, some, first.trans ends, second.trans begins⟩

/-- A mark that begins in a text and goes beyond its end. -/
theorem straddles_of_begins {c : Char} (begins : mark <+: c :: front ++ back)
    (absent : ¬ mark <+: c :: front) : Straddles mark (c :: front) back := by
  rcases List.prefix_or_prefix_of_prefix begins (List.prefix_append (c :: front) back)
    with inside | ⟨rest, rfl⟩
  · exact absurd inside absent
  · have behind : rest <+: back := (List.prefix_append_right_inj (c :: front)).mp begins
    have nonempty : rest ≠ [] := by
      rintro rfl
      rw [List.append_nil] at absent
      exact absent (List.prefix_refl _)
    have longer : (c :: front).length < (c :: front ++ rest).length := by
      rw [List.length_append]
      exact Nat.lt_add_of_pos_right (List.length_pos_of_ne_nil nonempty)
    refine ⟨(c :: front).length, longer, Nat.succ_pos _, ?_, ?_⟩
    · rw [List.take_left]
    · rw [List.drop_left]
      exact behind

/-- Two texts are read one after the other if the mark does not stand across their border. -/
theorem Replaced.append {made : List Char} (first : Replaced mark new front t)
    (second : Replaced mark new back made) (apart : ¬ Straddles mark front back) :
    Replaced mark new (front ++ back) (t ++ made) := by
  induction first with
  | nil => exact second
  | @mark s t rest ih =>
    rw [List.append_assoc, List.append_assoc]
    exact .mark (ih fun across =>
      apart (across.mono (List.suffix_append mark s) (List.prefix_refl back)))
  | @plain c s t absent rest ih =>
    refine .plain (fun begins => apart (straddles_of_begins begins absent)) (ih fun across => ?_)
    exact apart (across.mono (List.suffix_cons c s) (List.prefix_refl back))

theorem replaceAll_append (nonempty : mark ≠ []) (new : List Char)
    (apart : ¬ Straddles mark front back) :
    replaceAll mark new (front ++ back) = replaceAll mark new front ++ replaceAll mark new back :=
  ((replaced_replaceAll nonempty new front).append (replaced_replaceAll nonempty new back)
    apart).replaceAll_eq nonempty

/-! ### Foreign texts -/

/-- A mark begins and ends with the same character. -/
def Edged (edge : Char) (mark : List Char) : Prop := ∃ inside, mark = edge :: inside ++ [edge]

/-- A text without the edge of the marks that is no part of a mark. -/
structure Foreign (edge : Char) (marks : List (List Char)) (new : List Char) : Prop where
  edgeless : edge ∉ new
  apart : ∀ mark ∈ marks, ¬ new <:+: mark

/-- A text in which foreign texts have taken the place of pieces. -/
inductive Rewritten (edge : Char) (marks : List (List Char)) : List Char → List Char → Prop where
  | nil : Rewritten edge marks [] []
  | plain (c : Char) {s t : List Char} (rest : Rewritten edge marks s t) :
      Rewritten edge marks (c :: s) (c :: t)
  | piece (old : List Char) {new s t : List Char} (foreign : Foreign edge marks new)
      (rest : Rewritten edge marks s t) : Rewritten edge marks (old ++ s) (new ++ t)

variable {edge : Char} {marks : List (List Char)} {part : List Char}

namespace Edged

theorem nonempty (edged : Edged edge mark) : mark ≠ [] := by
  obtain ⟨inside, rfl⟩ := edged
  exact List.cons_ne_nil _ _

theorem head (edged : Edged edge mark) (first : part <+: mark) (nonempty : part ≠ []) :
    ∃ rest, part = edge :: rest := by
  obtain ⟨inside, rfl⟩ := edged
  rcases List.prefix_cons_iff.mp first with none | ⟨rest, shape, -⟩
  · contradiction
  · exact ⟨rest, shape⟩

theorem mem_last (edged : Edged edge mark) (last : part <:+ mark) (nonempty : part ≠ []) :
    edge ∈ part := by
  obtain ⟨inside, rfl⟩ := edged
  rcases List.suffix_concat_iff.mp last with none | ⟨rest, rfl, -⟩
  · contradiction
  · exact List.mem_append_right rest (List.mem_singleton_self edge)

end Edged

theorem Replaced.rewritten (foreign : Foreign edge marks new) (replaced : Replaced mark new s t) :
    Rewritten edge marks s t := by
  induction replaced with
  | nil => exact .nil
  | mark _ ih => exact .piece mark foreign ih
  | plain _ _ ih => exact .plain _ ih

namespace Rewritten

theorem refl (s : List Char) : Rewritten edge marks s s := by
  induction s with
  | nil => exact .nil
  | cons c s ih => exact .plain c ih

theorem append {u v : List Char} (first : Rewritten edge marks s t)
    (second : Rewritten edge marks u v) : Rewritten edge marks (s ++ u) (t ++ v) := by
  induction first with
  | nil => exact second
  | plain c _ ih => exact .plain c ih
  | piece old foreign _ ih =>
    rw [List.append_assoc, List.append_assoc]
    exact .piece old foreign ih

theorem eq_or_foreign (rewritten : Rewritten edge marks s t) :
    t = s ∨ ∃ new, Foreign edge marks new ∧ new <:+: t := by
  induction rewritten with
  | nil => exact .inl rfl
  | @plain c s t _ ih =>
    rcases ih with rfl | ⟨new, foreign, inside⟩
    · exact .inl rfl
    · exact .inr ⟨new, foreign, inside.trans (List.suffix_cons c t).isInfix⟩
  | @piece old new s t foreign _ _ => exact .inr ⟨new, foreign, (List.prefix_append new t).isInfix⟩

/-- The rest of a mark with which a rewritten text begins was there before. -/
theorem begins (rewritten : Rewritten edge marks s t) (known : mark ∈ marks)
    (edged : Edged edge mark) (last : part <:+ mark) (here : part <+: t) : part <+: s := by
  induction rewritten generalizing part with
  | nil => exact here
  | plain c _ ih =>
    rcases List.prefix_cons_iff.mp here with rfl | ⟨rest, rfl, there⟩
    · exact List.nil_prefix
    · exact List.cons_prefix_cons.mpr ⟨rfl, ih ((List.suffix_cons c rest).trans last) there⟩
  | @piece old new s t foreign _ _ =>
    -- The rest of the mark ends within the foreign text, which has no edge for it, or the whole
    -- foreign text is a part of the mark.
    rcases List.prefix_or_prefix_of_prefix here (List.prefix_append new t) with within | whole
    · by_cases nonempty : part = []
      · exact nonempty ▸ List.nil_prefix
      · exact absurd (within.subset (edged.mem_last last nonempty)) foreign.edgeless
    · exact absurd (whole.isInfix.trans last.isInfix) (foreign.apart mark known)

/-- The part of a mark with which a rewritten text ends was there before. -/
theorem ends (rewritten : Rewritten edge marks s t) (known : mark ∈ marks)
    (edged : Edged edge mark) (first : part <+: mark) (here : part <:+ t) : part <:+ s := by
  by_cases nonempty : part = []
  · exact nonempty ▸ List.nil_suffix
  obtain ⟨rest, rfl⟩ := edged.head first nonempty
  induction rewritten with
  | nil => exact here
  | @plain c s t rewritten ih =>
    rcases List.suffix_cons_iff.mp here with whole | later
    · -- The part is the whole text, so no foreign text stands in it.
      rcases rewritten.eq_or_foreign with rfl | ⟨new, foreign, inside⟩
      · exact whole ▸ List.suffix_refl _
      · have within : new <:+: edge :: rest :=
          whole ▸ inside.trans (List.suffix_cons c t).isInfix
        exact absurd (within.trans first.isInfix) (foreign.apart mark known)
    · exact (ih later).trans (List.suffix_cons c s)
  | @piece old new s t foreign _ ih =>
    exact (ih (suffix_of_notMem foreign.edgeless here)).trans (List.suffix_append old s)

/-- A mark in a rewritten text was there before. -/
theorem occurs (rewritten : Rewritten edge marks s t) (known : mark ∈ marks)
    (edged : Edged edge mark) (inside : mark <:+: t) : mark <:+: s := by
  induction rewritten with
  | nil => exact inside
  | @plain c s t rewritten ih =>
    rcases List.infix_cons_iff.mp inside with here | later
    · exact ((rewritten.plain c).begins known edged (List.suffix_refl mark) here).isInfix
    · exact (ih later).trans (List.suffix_cons c s).isInfix
  | @piece old new s t foreign _ ih =>
    obtain ⟨rest, rfl⟩ := edged.head (List.prefix_refl mark) edged.nonempty
    exact (ih (infix_of_notMem foreign.edgeless inside)).trans (List.suffix_append old s).isInfix

/-- A mark across the border of rewritten texts stood across the border before. -/
theorem straddles {made : List Char} (first : Rewritten edge marks front t)
    (second : Rewritten edge marks back made) (known : mark ∈ marks) (edged : Edged edge mark)
    (across : Straddles mark t made) : Straddles mark front back := by
  obtain ⟨n, less, some, ending, beginning⟩ := across
  exact ⟨n, less, some, first.ends known edged (List.take_prefix n mark) ending,
    second.begins known edged (List.drop_suffix n mark) beginning⟩

end Rewritten

/-- A mark is gone once a foreign text has taken its place. -/
theorem Replaced.absent (known : mark ∈ marks) (edged : Edged edge mark)
    (foreign : Foreign edge marks new) (replaced : Replaced mark new s t) : ¬ mark <:+: t := by
  induction replaced with
  | nil => exact fun inside => edged.nonempty (List.infix_nil.mp inside)
  | mark _ ih =>
    obtain ⟨rest, rfl⟩ := edged.head (List.prefix_refl mark) edged.nonempty
    exact fun inside => ih (infix_of_notMem foreign.edgeless inside)
  | @plain c s t absent rest ih =>
    intro inside
    rcases List.infix_cons_iff.mp inside with here | later
    · have before := (rest.rewritten foreign).plain c
      exact absent (before.begins known edged (List.suffix_refl mark) here)
    · exact ih later

end StaticSite.Text
