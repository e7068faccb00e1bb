import StaticSite.Markup.Comment
import StaticSite.Markup.Verbatim

/-!
# Minified markup

Outside of the elements whose blanks count, comments go, blanks between tags go, and every other run
of blanks becomes one. The elements that are kept stand as tokens meanwhile, and a token's edge
counts as the edge of a tag.
-/

namespace StaticSite.Markup

open StaticSite.Text

/-- The elements whose text is kept as it is. -/
def preservedTags : List (List Char) := verbatimTags ++ ["script".toList, "style".toList]

/-- An edge of a tag or of a token at the front of a text. -/
def edge? (tagEdge : Char) (s : List Char) : Option (List Char × List Char) := match s with
  | c :: rest =>
    if c = tagEdge then some ([c], rest)
    else (dropFront? Store.tokenEnd s).map fun rest => (Store.tokenEnd, rest)
  | [] => none

theorem edge?_eq_append {tagEdge : Char} {s edge rest : List Char}
    (found : edge? tagEdge s = some (edge, rest)) : s = edge ++ rest := by
  unfold edge? at found
  split at found
  · split at found
    · simp only [Option.some.injEq, Prod.mk.injEq] at found
      obtain ⟨rfl, rfl⟩ := found
      rfl
    · simp only [Option.map_eq_some_iff, Prod.mk.injEq] at found
      obtain ⟨tail, dropped, rfl, rfl⟩ := found
      exact dropFront?_eq_some_iff.mp dropped
  · simp at found

/-- Blanks between two edges at the front of a text: the edges and the text behind them. -/
def betweenFront? (s : List Char) : Option ((List Char × List Char) × List Char) :=
  (edge? '>' s).bind fun left =>
    if left.2.takeWhile isBlank = [] then none
    else (edge? '<' (left.2.dropWhile isBlank)).map fun right => ((left.1, right.1), right.2)

theorem betweenFront?_eq_append {s rest : List Char} {edges : List Char × List Char}
    (found : betweenFront? s = some (edges, rest)) :
    ∃ gap, gap ≠ [] ∧ s = edges.1 ++ gap ++ edges.2 ++ rest := by
  simp only [betweenFront?, Option.bind_eq_some_iff] at found
  obtain ⟨left, opened, found⟩ := found
  split at found
  · simp at found
  next gap =>
    simp only [Option.map_eq_some_iff, Prod.mk.injEq] at found
    obtain ⟨right, closed, rfl, rfl⟩ := found
    refine ⟨left.2.takeWhile isBlank, gap, ?_⟩
    have whole := @List.takeWhile_append_dropWhile _ isBlank left.2
    rw [edge?_eq_append closed] at whole
    rw [edge?_eq_append opened, List.append_assoc, List.append_assoc, whole]

def between : Scanner (List Char × List Char) where
  run := betweenFront?
  shorter found := by
    obtain ⟨gap, some, same⟩ := betweenFront?_eq_append found
    have := List.length_pos_iff.mpr some
    simp only [same, List.length_append]; omega
  suffix found := by
    obtain ⟨gap, _, same⟩ := betweenFront?_eq_append found
    exact ⟨_, same⟩

/-- A run of at least two blanks at the front of a text. -/
def runFront? (s : List Char) : Option (Unit × List Char) :=
  if 2 ≤ (s.takeWhile isBlank).length then some ((), s.dropWhile isBlank) else none

theorem runFront?_eq_append {s rest : List Char} {found : Unit}
    (read : runFront? s = some (found, rest)) :
    2 ≤ (s.takeWhile isBlank).length ∧ s = s.takeWhile isBlank ++ rest := by
  unfold runFront? at read
  split at read
  next long =>
    simp only [Option.some.injEq, Prod.mk.injEq, true_and] at read
    subst read
    exact ⟨long, List.takeWhile_append_dropWhile.symm⟩
  · simp at read

def runs : Scanner Unit where
  run := runFront?
  shorter read := by
    obtain ⟨long, same⟩ := runFront?_eq_append read
    have := congrArg List.length same
    simp only [List.length_append] at this; omega
  suffix read := ⟨_, (runFront?_eq_append read).2⟩

/-- Removes the blanks between edges and shortens the other runs. -/
def squeeze (s : List Char) : List Char :=
  trim (runs.replace (fun _ => [' ']) (between.replace (fun edges => edges.1 ++ edges.2) s))

/-- Minifies a markup. -/
def minify (nonce s : List Char) : Except Fault (List Char) :=
  let (bare, store) := protectElements preservedTags s (.empty nonce)
  restore (squeeze (stripComments bare)) store

end StaticSite.Markup
