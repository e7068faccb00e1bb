import StaticSite.Text.Scanner
import StaticSite.Text.Search

/-!
# Comments

A comment runs from `<!--` to the next `-->`; an unclosed one is plain text.
-/

namespace StaticSite.Markup

open StaticSite.Text

def commentOpening : List Char := ['<', '!', '-', '-']

def commentClosing : List Char := ['-', '-', '>']

/-- The text after a comment at the front. -/
def commentFront? (s : List Char) : Option (List Char) :=
  (dropFront? commentOpening s).bind fun body => (cutAt? commentClosing body).map Prod.snd

theorem commentFront?_suffix {s rest : List Char} (found : commentFront? s = some rest) :
    ∃ body, s = commentOpening ++ body ++ commentClosing ++ rest := by
  simp only [commentFront?, Option.bind_eq_some_iff, Option.map_eq_some_iff, Prod.exists] at found
  obtain ⟨inner, opened, body, after, closed, rfl⟩ := found
  exact ⟨body, by simp [dropFront?_eq_some_iff.mp opened, cutAt?_eq_append closed]⟩

def comments : Scanner Unit where
  run s := (commentFront? s).map fun rest => ((), rest)
  shorter found := by
    simp only [Option.map_eq_some_iff, Prod.mk.injEq, true_and] at found
    obtain ⟨rest, read, rfl⟩ := found
    obtain ⟨body, same⟩ := commentFront?_suffix read
    simp [same, commentOpening]; omega
  suffix found := by
    simp only [Option.map_eq_some_iff, Prod.mk.injEq, true_and] at found
    obtain ⟨rest, read, rfl⟩ := found
    obtain ⟨body, same⟩ := commentFront?_suffix read
    exact ⟨_, same⟩

/-- Removes every comment. -/
def stripComments (s : List Char) : List Char := comments.replace (fun _ => []) s

end StaticSite.Markup
