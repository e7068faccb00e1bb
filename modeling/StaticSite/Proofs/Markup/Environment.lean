import StaticSite.Markup.Environment
import StaticSite.Proofs.Text.Replacing

/-!
# Environment tokens at every level

The tokens of the environment are replaced in what each component renders, and again in what its
bases and parents make of that. This comes to the same as replacing them once: the name of the
environment and the public folder of its assets are foreign to the tokens, so nothing that is put
into a page makes a token together with what stands around it.
-/

namespace StaticSite.Markup

open StaticSite.Text

variable {env s front back token : List Char}

/-- The tokens that stand for something of the environment. -/
def environmentTokens : List (List Char) := [environmentToken, assetsToken]

theorem environmentToken_mem : environmentToken ∈ environmentTokens := List.mem_cons_self

theorem assetsToken_mem : assetsToken ∈ environmentTokens :=
  List.mem_cons_of_mem _ (List.mem_singleton_self _)

theorem edged_of_mem (known : token ∈ environmentTokens) : Edged '@' token := by
  rcases List.mem_pair.mp known with rfl | rfl
  · exact ⟨"ENV".toList, by decide⟩
  · exact ⟨"ASSETS".toList, by decide⟩

theorem environmentToken_ne_nil : environmentToken ≠ [] :=
  (edged_of_mem environmentToken_mem).nonempty

theorem assetsToken_ne_nil : assetsToken ≠ [] := (edged_of_mem assetsToken_mem).nonempty

/-- Without the edge, a part of a token is a part of the word between its edges. -/
theorem infix_of_edgeless {word : List Char} (edgeless : '@' ∉ env)
    (inside : env <:+: '@' :: (word ++ ['@'])) : env <:+: word := by
  rcases infix_or_of_notMem edgeless (show env <:+: [] ++ '@' :: (word ++ ['@']) from inside)
    with none | behind
  · exact List.infix_nil.mp none ▸ List.nil_infix
  · rcases infix_or_of_notMem edgeless behind with within | none
    · exact within
    · exact List.infix_nil.mp none ▸ List.nil_infix

theorem foreign_env (edgeless : '@' ∉ env) (environment : ¬ env <:+: "ENV".toList)
    (assets : ¬ env <:+: "ASSETS".toList) : Foreign '@' environmentTokens env where
  edgeless := edgeless
  apart token known inside := by
    rcases List.mem_pair.mp known with rfl | rfl
    · exact environment (infix_of_edgeless edgeless inside)
    · exact assets (infix_of_edgeless edgeless inside)

/-- The public folder begins with a character that no token has. -/
theorem foreign_assetsPath (edgeless : '@' ∉ env) :
    Foreign '@' environmentTokens (assetsPath env) where
  edgeless := by simp [assetsPath, edgeless]
  apart token known inside := by
    have slashless : ∀ token ∈ environmentTokens, '/' ∉ token := by decide
    exact slashless token known (inside.subset List.mem_cons_self)

/-! ### One replacement after the other -/

theorem rewritten_environment (named : Foreign '@' environmentTokens env) (s : List Char) :
    Rewritten '@' environmentTokens s (replaceAll environmentToken env s) :=
  (replaced_replaceAll environmentToken_ne_nil env s).rewritten named

theorem rewritten_assets (edgeless : '@' ∉ env) (s : List Char) :
    Rewritten '@' environmentTokens s (replaceAll assetsToken (assetsPath env) s) :=
  (replaced_replaceAll assetsToken_ne_nil _ s).rewritten (foreign_assetsPath edgeless)

/-- What foreign texts cannot bring about holds before if it holds after the replacement. -/
theorem of_substituteEnvironment (named : Foreign '@' environmentTokens env)
    (holds : List Char → Prop)
    (kept : ∀ s t, Rewritten '@' environmentTokens s t → holds t → holds s)
    (after : holds (substituteEnvironment env s)) : holds s :=
  kept _ _ (rewritten_environment named s) (kept _ _ (rewritten_assets named.edgeless _) after)

/-- No token is left, and none has been made. -/
theorem absent_substituteEnvironment (named : Foreign '@' environmentTokens env) (s : List Char) :
    ∀ token ∈ environmentTokens, ¬ token <:+: substituteEnvironment env s := by
  intro token known
  rcases List.mem_pair.mp known with rfl | rfl
  · intro inside
    have between := (rewritten_assets named.edgeless _).occurs known (edged_of_mem known) inside
    exact (replaced_replaceAll environmentToken_ne_nil env s).absent known (edged_of_mem known)
      named between
  · exact (replaced_replaceAll assetsToken_ne_nil _ _).absent known (edged_of_mem known)
      (foreign_assetsPath named.edgeless)

theorem substituteEnvironment_eq_self
    (absent : ∀ token ∈ environmentTokens, ¬ token <:+: s) : substituteEnvironment env s = s := by
  have environment : replaceAll environmentToken env s = s :=
    (Replaced.of_absent (absent _ environmentToken_mem)).replaceAll_eq environmentToken_ne_nil
  have assets : replaceAll assetsToken (assetsPath env) s = s :=
    (Replaced.of_absent (absent _ assetsToken_mem)).replaceAll_eq assetsToken_ne_nil
  rw [substituteEnvironment, environment, assets]

/-- Two texts can be taken by themselves if no token stands across their border. -/
theorem substituteEnvironment_append (named : Foreign '@' environmentTokens env)
    (apart : ∀ token ∈ environmentTokens, ¬ Straddles token front back) :
    substituteEnvironment env (front ++ back)
      = substituteEnvironment env front ++ substituteEnvironment env back := by
  -- The second replacement meets what the first one has left, where the border is still free.
  have between : ¬ Straddles assetsToken (replaceAll environmentToken env front)
      (replaceAll environmentToken env back) := fun across =>
    apart _ assetsToken_mem ((rewritten_environment named front).straddles
      (rewritten_environment named back) assetsToken_mem (edged_of_mem assetsToken_mem) across)
  rw [substituteEnvironment, replaceAll_append environmentToken_ne_nil _
    (apart _ environmentToken_mem), replaceAll_append assetsToken_ne_nil _ between]
  rfl

/-! ### Once or at every level -/

/-- Replacing the tokens leaves none and makes none, so that there is nothing left to do for the
next level; and whatever the next level puts around the text, replacing the tokens of the whole gives
the same as if those of the text had not been replaced yet. -/
theorem substituteEnvironment_levels (edgeless : '@' ∉ env)
    (environment : ¬ env <:+: "ENV".toList) (assets : ¬ env <:+: "ASSETS".toList) :
    (∀ s, ¬ environmentToken <:+: substituteEnvironment env s
      ∧ ¬ assetsToken <:+: substituteEnvironment env s
      ∧ substituteEnvironment env (substituteEnvironment env s) = substituteEnvironment env s)
    ∧ ∀ front s back,
      (∀ token ∈ [environmentToken, assetsToken],
        ¬ Straddles token front (s ++ back) ∧ ¬ Straddles token (front ++ s) back) →
      substituteEnvironment env (front ++ substituteEnvironment env s ++ back)
        = substituteEnvironment env (front ++ s ++ back) := by
  have named := foreign_env edgeless environment assets
  have settled (s : List Char) :
      substituteEnvironment env (substituteEnvironment env s) = substituteEnvironment env s :=
    substituteEnvironment_eq_self (absent_substituteEnvironment named s)
  refine ⟨fun s => ⟨?_, ?_, settled s⟩, fun front s back apart => ?_⟩
  · exact absent_substituteEnvironment named s _ environmentToken_mem
  · exact absent_substituteEnvironment named s _ assetsToken_mem
  have first : ∀ token ∈ environmentTokens, ¬ Straddles token front s := fun token known across =>
    (apart token known).1 (across.mono (List.suffix_refl front) (List.prefix_append s back))
  -- The borders stay free: what is put into the text brings no part of a token there.
  have firstAfter : ∀ token ∈ environmentTokens,
      ¬ Straddles token front (substituteEnvironment env s) := fun token known across =>
    first token known (of_substituteEnvironment named (Straddles token front)
      (fun _ _ rewritten =>
        (Rewritten.refl front).straddles rewritten known (edged_of_mem known)) across)
  have secondAfter : ∀ token ∈ environmentTokens,
      ¬ Straddles token (front ++ substituteEnvironment env s) back := fun token known across =>
    (apart token known).2 (of_substituteEnvironment named
      (fun s => Straddles token (front ++ s) back)
      (fun _ _ rewritten =>
        ((Rewritten.refl front).append rewritten).straddles (.refl back) known (edged_of_mem known))
      across)
  calc substituteEnvironment env (front ++ substituteEnvironment env s ++ back)
      = substituteEnvironment env front
          ++ substituteEnvironment env (substituteEnvironment env s)
          ++ substituteEnvironment env back := by
        rw [substituteEnvironment_append named secondAfter,
          substituteEnvironment_append named firstAfter]
    _ = substituteEnvironment env front ++ substituteEnvironment env s
          ++ substituteEnvironment env back := by rw [settled]
    _ = substituteEnvironment env (front ++ s ++ back) := by
        rw [substituteEnvironment_append named fun token known => (apart token known).2,
          substituteEnvironment_append named first]

/-- Tokens that share an edge, and a border that looks like one. -/
theorem substituteEnvironment_levels_shared :
    ('@' ∉ "prod".toList ∧ ¬ "prod".toList <:+: "ENV".toList ∧ ¬ "prod".toList <:+: "ASSETS".toList)
    ∧ substituteEnvironment "prod".toList "@ENV@ENV@ASSETS@".toList
      = "prodENV/prod/assets".toList
    ∧ substituteEnvironment "prod".toList (substituteEnvironment "prod".toList
        "@ENV@ENV@ASSETS@".toList) = "prodENV/prod/assets".toList
    ∧ (∀ token ∈ [environmentToken, assetsToken],
        ¬ Straddles token "@EN".toList ("@ENV@ENV@ASSETS@".toList ++ "V@".toList)
          ∧ ¬ Straddles token ("@EN".toList ++ "@ENV@ENV@ASSETS@".toList) "V@".toList)
    ∧ substituteEnvironment "prod".toList
        ("@EN".toList ++ substituteEnvironment "prod".toList "@ENV@ENV@ASSETS@".toList
          ++ "V@".toList)
      = substituteEnvironment "prod".toList
        ("@EN".toList ++ "@ENV@ENV@ASSETS@".toList ++ "V@".toList) := by
  have plain : '@' ∉ "prod".toList ∧ ¬ "prod".toList <:+: "ENV".toList
      ∧ ¬ "prod".toList <:+: "ASSETS".toList := by decide
  obtain ⟨settled, framed⟩ := substituteEnvironment_levels plain.1 plain.2.1 plain.2.2
  have replaced : substituteEnvironment "prod".toList "@ENV@ENV@ASSETS@".toList
      = "prodENV/prod/assets".toList := by decide +kernel
  have apart : ∀ token ∈ [environmentToken, assetsToken],
      ¬ Straddles token "@EN".toList ("@ENV@ENV@ASSETS@".toList ++ "V@".toList)
        ∧ ¬ Straddles token ("@EN".toList ++ "@ENV@ENV@ASSETS@".toList) "V@".toList := by
    decide +kernel
  exact ⟨plain, replaced, (settled _).2.2.trans replaced, apart, framed _ _ _ apart⟩

end StaticSite.Markup
