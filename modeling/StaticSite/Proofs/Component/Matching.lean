import Mathlib.Data.List.TakeWhile
import StaticSite.Proofs.Agreement
import StaticSite.Proofs.Component.References
import StaticSite.Proofs.Json.Locality
import StaticSite.Proofs.Markup.Matching

/-!
# References with the tokens of two stores

Matching texts refer to the same components with the same data. No token may stand in data that can
be read, since it would be handed on as a value; then the same front is read in both texts. Data
that cannot be read may hold tokens: how reading it fails does not depend on the numbers in them.
-/

namespace StaticSite

open StaticSite.Text StaticSite.Markup
open StaticSite.Markup.Store (Matched Cuts Finds isSharp)

variable {first second : Store} {s t u v : List Char}

namespace Component

theorem Inline.eq_of_bare {a b : Inline} (other : ∀ entries, a ≠ .given entries)
    (same : a.bare = b.bare) : a = b := by
  cases a with
  | given entries => exact absurd rfl (other entries)
  | absent | malformed | unterminated | refused fault =>
    cases b with
    | given entries => contradiction
    | absent | malformed | unterminated | refused fault => exact same

namespace Reference

/-! ### Data -/

theorem readInline_given {literal after rest : List Char} {entries : Mapping.Entries}
    (read : readInline literal after = (.given entries, rest)) :
    ∃ left, Json.readFront literal = .ok (.mapping entries, left)
      ∧ left.dropWhile isBlank = '\x7d' :: rest := by
  unfold readInline at read
  split at read
  next value left found =>
    split at read
    next inner given shut =>
      cases read
      exact ⟨left, found, shut⟩
    next => cases read
  next => cases read
  next => cases read

theorem readInline_other {literal after : List Char}
    (other : ∀ entries, (readInline literal after).1 ≠ .given entries) :
    (readInline literal after).2 = after := by
  unfold readInline at other ⊢
  split at other
  next =>
    split at other
    next => exact absurd rfl (other _)
    next => rfl
  next => rfl
  next => rfl

/-- Data that a brace closes is read in the same way, whatever follows the brace. -/
theorem readInline_local {literal after rest : List Char} {entries : Mapping.Entries}
    (read : readInline literal after = (.given entries, rest)) :
    ∃ front, literal = front ++ rest
      ∧ ∀ other behind, readInline (front ++ other) behind = (.given entries, other) := by
  obtain ⟨left, found, shut⟩ := readInline_given read
  obtain ⟨front, rfl, reads⟩ := Json.readFront_local found
  have split := List.takeWhile_append_dropWhile (p := isBlank) (l := left)
  have blanks : ∀ c ∈ left.takeWhile isBlank, isBlank c = true :=
    fun c here => List.mem_takeWhile_imp here
  rw [shut] at split
  generalize left.takeWhile isBlank = gap at split blanks
  subst split
  -- The front that has been read goes on with blanks and the brace.
  refine ⟨front ++ (gap ++ ['\x7d']), by simp, fun other behind => ?_⟩
  have ends : Json.EndsNumber (gap ++ '\x7d' :: other) :=
    Json.endsNumber_gap blanks (.inr (.inr rfl)) other
  have regroup : front ++ (gap ++ ['\x7d']) ++ other = front ++ (gap ++ '\x7d' :: other) := by simp
  have closed : (gap ++ '\x7d' :: other).dropWhile isBlank = '\x7d' :: other := by
    rw [List.dropWhile_append_of_pos blanks]
    exact List.dropWhile_cons_of_neg (by decide)
  rw [regroup, readInline, reads _ ends]
  simp only [closed]

theorem readInline_matched (literals : Matched first second s t) (later : Matched first second u v)
    (one : first.Lettered) (two : second.Lettered)
    (clear : ∀ entries rest source, readInline s u = (.given entries, rest) → s = source ++ rest →
      '%' ∉ source) :
    (readInline s u).1 = (readInline t v).1
      ∧ Matched first second (readInline s u).2 (readInline t v).2 := by
  by_cases given : ∃ entries, (readInline s u).1 = .given entries
  · -- The text that is read is the same, so the same data is read from it.
    obtain ⟨entries, given⟩ := given
    have read : readInline s u = (.given entries, (readInline s u).2) := by rw [← given]
    obtain ⟨front, shape, reads⟩ := readInline_local read
    have plain := clear entries _ front read shape
    rw [shape] at literals
    obtain ⟨behind, rfl, rest⟩ := literals.front plain
    rw [reads behind v]
    exact ⟨given, rest⟩
  · -- Reading fails alike, and both references go on to the doubled brace.
    have other : ∀ entries, (readInline s u).1 ≠ .given entries :=
      fun entries same => given ⟨entries, same⟩
    have bare := (readInline_alike (literals.renumbered one two) (later.renumbered one two)).1
    have same := Inline.eq_of_bare other bare
    have further : ∀ entries, (readInline t v).1 ≠ .given entries := same ▸ other
    rw [readInline_other other, readInline_other further]
    exact ⟨same, later⟩

theorem inlineFront?_matched (matched : Matched first second s t) (one : first.Lettered)
    (two : second.Lettered)
    (clear : ∀ entries rest source, inlineFront? s = some (.given entries, rest) →
      s = source ++ rest → '%' ∉ source) :
    Option.Rel (fun a b => a.1 = b.1 ∧ Matched first second a.2 b.2) (inlineFront? s)
      (inlineFront? t) := by
  cases matched with
  | nil => exact .none
  | token =>
    simp only [Store.token_eq, Store.tokenStart_eq, List.cons_append]
    exact .none
  | @plain c s t differs rest =>
    by_cases bare : c = '\x7d'
    · subst bare
      exact .some ⟨rfl, rest⟩
    by_cases colon : c = ':'
    · subst colon
      have absent {w : List Char} (other : ∀ u, w.dropWhile isBlank ≠ '\x7b' :: u) :
          inlineFront? (':' :: w) = none := by
        rw [inlineFront?]
        split
        next u opened => exact absurd opened (other u)
        next => rfl
      have body := rest.dropWhile (by decide : isBlank '%' = false)
      by_cases opened : ∃ inner, s.dropWhile isBlank = '\x7b' :: inner
      · obtain ⟨inner, opened⟩ := opened
        rw [opened] at body
        obtain ⟨other, again, inside⟩ := body.cons (by decide)
        have cut := inside.cutAt? one two (by decide : isSharp closing = true)
        have split := List.takeWhile_append_dropWhile (p := isBlank) (l := s)
        rw [opened] at split
        simp only [inlineFront?, opened, again] at clear ⊢
        rcases rel_cases cut with ⟨here, there⟩ | ⟨_, _, here, there, both⟩
        · rw [here, there]
          exact .none
        rw [here] at clear ⊢
        rw [there]
        -- A token in the data would stand in the text from the colon on.
        refine .some (readInline_matched (.plain (by decide) inside) both.2 one two ?_)
        intro entries rest source read shape within
        have found := congrArg some read
        refine clear entries rest (':' :: (s.takeWhile isBlank ++ source)) found ?_ ?_
        · rw [List.cons_append, List.append_assoc, ← shape, split]
        · exact List.mem_cons_of_mem _ (List.mem_append_right _ within)
      · have missing : ∀ u, s.dropWhile isBlank ≠ '\x7b' :: u := fun u same => opened ⟨u, same⟩
        rw [absent missing, absent]
        · exact .none
        · intro u same
          rw [same] at body
          obtain ⟨other, again, -⟩ := body.symm.cons (by decide)
          exact missing other again
    · have absent (u : List Char) : inlineFront? (c :: u) = none := by
        unfold inlineFront?
        split <;> simp_all
      rw [absent, absent]
      exact .none

/-! ### References -/

/-- No verbatim element stands in data that is read: the source of a reference with data has no
percent sign. -/
def PercentFreeData (reference : Reference) (source : List Char) : Prop :=
  (∃ entries, reference.inline = .given entries) → '%' ∉ source

theorem finds_references (matched : Matched first second s t) (one : first.Lettered)
    (two : second.Lettered)
    (clear : ∀ {reference source rest}, s = source ++ rest → front? s = some (reference, rest) →
      PercentFreeData reference source) :
    Finds first second (fun reference _ other _ => reference = other) scanner s t := by
  have front := matched.dropFront? (by decide : '%' ∉ opening)
  unfold Finds
  simp only [scanner]
  have absent {w : List Char} (missing : dropFront? opening w = none) : front? w = none := by
    rw [front?, missing, Option.bind_none]
  rcases rel_cases front with ⟨here, there⟩ | ⟨body, other, here, there, inner⟩
  · rw [absent here, absent there]
    exact .none
  obtain rfl := dropFront?_eq_some_iff.mp here
  obtain rfl := dropFront?_eq_some_iff.mp there
  have same : body.takeWhile isNameChar = other.takeWhile isNameChar :=
    inner.takeWhile_eq (by decide)
  have after := inner.dropWhile (by decide : isNameChar '%' = false)
  cases named : body.takeWhile isNameChar with
  | nil =>
    rw [front?_nil named, front?_nil (same ▸ named)]
    exact .none
  | cons c name =>
    have split := List.takeWhile_append_dropWhile (p := isNameChar) (l := body)
    rw [front?_cons named] at clear ⊢
    rw [front?_cons (same ▸ named)]
    have inlines := inlineFront?_matched after one two ?_
    · rcases rel_cases inlines with ⟨here, there⟩ | ⟨_, _, here, there, equal, rests⟩
      · rw [here, there]
        exact .none
      · rw [here, there]
        exact .some ⟨rests, fun _ _ _ _ => congrArg (Reference.mk (c :: name)) equal⟩
    · -- A token in the data would stand in the source of the reference.
      intro entries rest source found shape within
      rw [found] at clear
      have whole : opening ++ body = opening ++ (body.takeWhile isNameChar ++ source) ++ rest := by
        rw [List.append_assoc, List.append_assoc, ← shape, split]
      apply clear whole rfl ⟨entries, rfl⟩
      exact List.mem_append_right _ (List.mem_append_right _ within)

/-- The references of matching texts are the same, and what stands between them matches. -/
theorem pieces_cuts (matched : Matched first second s t) (one : first.Lettered)
    (two : second.Lettered)
    (clear : ∀ reference source, Piece.found reference source ∈ scanner.pieces s →
      PercentFreeData reference source) :
    Cuts first second (fun reference _ other _ => reference = other) (scanner.pieces s)
      (scanner.pieces t) :=
  matched.pieces one two steady.needs (by decide)
    (fun matched clear => finds_references matched one two clear) clear

theorem pieces_matched (matched : Matched first second s t) (one : first.Lettered)
    (two : second.Lettered)
    (clear : ∀ reference source, Piece.found reference source ∈ scanner.pieces s →
      PercentFreeData reference source) :
    Agree (Cuts first second fun reference _ other _ => reference = other) (pieces s).outcome
      (pieces t).outcome := by
  have cuts := pieces_cuts matched one two clear
  -- The references are the same, so what is reported of them is.
  have reports :
      (reportAll (scanner.pieces s)).outcome = (reportAll (scanner.pieces t)).outcome := by
    generalize scanner.pieces s = found, scanner.pieces t = other at cuts
    induction cuts with
    | nil => rfl
    | text _ _ ih =>
      rw [reportAll_text, reportAll_text]
      exact ih
    | found same _ ih =>
      subst same
      rw [reportAll, reportAll, Reported.outcome_bind, Reported.outcome_bind, ih]
  rw [pieces, pieces, Reported.outcome_bind, Reported.outcome_bind, ← reports]
  have reported : Agree (fun _ _ => True) (reportAll (scanner.pieces s)).outcome
      (reportAll (scanner.pieces s)).outcome := .refl _ fun _ _ => trivial
  exact reported.bind fun _ _ _ => .ok cuts

end Reference

end Component

end StaticSite
