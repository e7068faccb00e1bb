import StaticSite.Proofs.Template.Paths
import StaticSite.Proofs.Template.Rereading

/-!
# Placeholders and brackets

A placeholder is a pair of brackets behind `@` with a path between them. A path is not empty, stands
on one line and holds no closing bracket, so an empty pair of brackets is plain text. The placeholder
pass reads paths more widely: it takes a first character whatever it is, and only then looks for the
closing bracket. Behind an empty pair of brackets it therefore goes on to the next closing bracket of
the line, and all text up to there is gone. Where that happens nowhere, it reads what it should.
-/

namespace StaticSite.Template

open StaticSite.Text

/-! ### Reading from left to right -/

/-- A path between brackets. -/
structure IsPath (path : List Char) : Prop where
  nonempty : path ≠ []
  closed : ']' ∉ path
  oneLine : '\n' ∉ path

/-- A path that may begin with a closing bracket. -/
structure IsWidePath (path : List Char) : Prop where
  nonempty : path ≠ []
  closed : ']' ∉ path.tail
  oneLine : '\n' ∉ path

/-- What a text becomes from left to right: a placeholder whose path is of a kind becomes the text for
its path, and a character at which none begins is copied. -/
inductive Fills (kind : List Char → Prop) (mode : PlaceholderMode) (scope : Scope) :
    List Char → Except Fault (List Char) → Prop where
  | nil : Fills kind mode scope [] (.ok [])
  | copied {c : Char} {rest : List Char} {after : Except Fault (List Char)}
      (none : ∀ path back, kind path → c :: rest ≠ placeholderOpening ++ path ++ [']'] ++ back)
      (further : Fills kind mode scope rest after) :
      Fills kind mode scope (c :: rest) (after.map (c :: ·))
  | replaced {path rest : List Char} {after : Except Fault (List Char)} (fits : kind path)
      (further : Fills kind mode scope rest after) :
      Fills kind mode scope (placeholderOpening ++ path ++ [']'] ++ rest)
        (do
          let text ← placeholderText mode scope path
          return text ++ (← after))

/-- A placeholder is read that begins with an empty pair of brackets. -/
def Swallows (s : List Char) : Prop :=
  ∃ tail source, .found (']' :: tail) source ∈ placeholders.pieces s

variable {kind : List Char → Prop} {mode : PlaceholderMode} {scope : Scope}

theorem IsPath.wide {path : List Char} (fits : IsPath path) : IsWidePath path :=
  ⟨fits.nonempty, fun inside => fits.closed (List.mem_of_mem_tail inside), fits.oneLine⟩

theorem IsWidePath.isPath {path : List Char} (fits : IsWidePath path)
    (first : ∀ tail, path ≠ ']' :: tail) : IsPath path := by
  obtain ⟨c, tail, rfl⟩ := List.exists_cons_of_ne_nil fits.nonempty
  refine ⟨fits.nonempty, ?_, fits.oneLine⟩
  rw [List.mem_cons, not_or]
  exact ⟨fun same => first tail (same ▸ rfl), fits.closed⟩

/-- A wide path is what the scanner takes for one. -/
theorem placeholderFront?_eq_some_iff {s path rest : List Char} :
    placeholderFront? s = some (path, rest) ↔
      s = placeholderOpening ++ path ++ [']'] ++ rest ∧ IsWidePath path := by
  constructor
  · intro found
    obtain ⟨shape, nonempty, oneLine⟩ := spells_of_front found
    refine ⟨shape, nonempty, ?_, oneLine⟩
    unfold placeholderFront? at found
    split at found
    next c body _ =>
      split at found
      · contradiction
      · obtain ⟨cut, split, found⟩ := Option.bind_eq_some_iff.mp found
        split at found
        · contradiction
        · cases found
          exact cutAt?_char_notMem split
    next => contradiction
  · rintro ⟨rfl, fits⟩
    exact placeholderFront?_text fits.nonempty fits.closed fits.oneLine rest

theorem fits_of_mem {s path source : List Char} (listed : .found path source ∈ placeholders.pieces s) :
    IsWidePath path := by
  obtain ⟨rest, found⟩ := Scanner.run_of_mem listed
  exact (placeholderFront?_eq_some_iff.mp found).2

/-- The placeholder pass fills in the placeholders of a kind if it takes nothing else for one and
misses none. -/
theorem fills_of_kind {s : List Char} (narrow : ∀ path, kind path → IsWidePath path)
    (all : ∀ path source, .found path source ∈ placeholders.pieces s → kind path) :
    Fills kind mode scope s (fillPlaceholders mode scope s) := by
  induction s using placeholders.induction with
  | nil =>
    rw [fillPlaceholders_nil]
    exact .nil
  | plain c s absent ih =>
    have pieces := Scanner.pieces_plain absent
    rw [fillPlaceholders, pieces, fillPieces]
    refine .copied ?_ (ih fun path source listed =>
      all path source (pieces ▸ List.mem_cons_of_mem _ listed))
    -- A placeholder of the kind is one of the pass too, which found none here.
    intro path back fits shape
    have present := placeholderFront?_eq_some_iff.mpr ⟨shape, narrow path fits⟩
    cases absent.symm.trans present
  | found path source rest present ih =>
    obtain ⟨shape, -⟩ := placeholderFront?_eq_some_iff.mp present
    obtain rfl := List.append_cancel_right shape
    have pieces := Scanner.pieces_found present
    rw [fillPlaceholders, pieces, fillPieces]
    exact .replaced (all path _ (pieces ▸ List.mem_cons_self)) (ih fun other source listed =>
      all other source (pieces ▸ List.mem_cons_of_mem _ listed))

/-! ### Where text is swallowed -/

/-- A text is filled by copying its first character, or by replacing a placeholder in front of it. -/
theorem Fills.cons_inv {c : Char} {rest : List Char} {out : Except Fault (List Char)}
    (fills : Fills kind mode scope (c :: rest) out) :
    (∃ after, (∀ path back, kind path → c :: rest ≠ placeholderOpening ++ path ++ [']'] ++ back)
        ∧ Fills kind mode scope rest after ∧ out = after.map (c :: ·))
      ∨ ∃ path back after, c :: rest = placeholderOpening ++ path ++ [']'] ++ back ∧ kind path
        ∧ Fills kind mode scope back after
        ∧ out = (do
          let text ← placeholderText mode scope path
          return text ++ (← after)) := by
  generalize whole : c :: rest = s at fills
  cases fills with
  | nil => contradiction
  | copied none further =>
    cases whole
    exact .inl ⟨_, none, further, rfl⟩
  | replaced fits further => exact .inr ⟨_, _, _, rfl, fits, further, rfl⟩

theorem Fills.of_plain {c : Char} {rest out : List Char} (plain : c ≠ '@')
    (fills : Fills kind mode scope (c :: rest) (.ok out)) :
    ∃ after, Fills kind mode scope rest (.ok after) ∧ out = c :: after := by
  rcases fills.cons_inv with ⟨after, -, further, same⟩ | ⟨path, back, after, shape, -⟩
  · obtain ⟨text, rfl, rfl⟩ := Fault.map_eq_ok same.symm
    exact ⟨text, further, rfl⟩
  · exact absurd (List.cons.inj shape).1 plain

/-- Reading with paths of the grammar does not lose its place: it begins anew behind every closing
bracket. -/
theorem Fills.behind_bracket {front rest out : List Char} (closed : ']' ∉ front)
    (fills : Fills IsPath mode scope (front ++ ']' :: rest) (.ok out)) :
    ∃ filled after, Fills IsPath mode scope rest (.ok after) ∧ out = filled ++ after := by
  induction front generalizing out with
  | nil =>
    obtain ⟨after, further, rfl⟩ := fills.of_plain (by decide)
    exact ⟨[']'], after, further, rfl⟩
  | cons c front ih =>
    have first : cutAt? [']'] (c :: front ++ ']' :: rest) = some (c :: front, rest) :=
      cutAt?_char closed
    rw [List.mem_cons, not_or] at closed
    rcases fills.cons_inv with ⟨after, -, further, same⟩ | ⟨path, back, after, shape, fits, further, same⟩
    · obtain ⟨text, rfl, rfl⟩ := Fault.map_eq_ok same.symm
      obtain ⟨filled, last, behind, rfl⟩ := ih closed.2 further
      exact ⟨c :: filled, last, behind, rfl⟩
    · -- The placeholder ends at the first closing bracket there is.
      have other : ']' ∉ placeholderOpening ++ path := by
        simp [placeholderOpening, fits.closed]
      have second : cutAt? [']'] (placeholderOpening ++ path ++ ']' :: back)
          = some (placeholderOpening ++ path, back) := cutAt?_char other
      have regroup : c :: front ++ ']' :: rest = placeholderOpening ++ path ++ ']' :: back := by
        simpa using shape
      rw [regroup, second] at first
      cases first
      obtain ⟨text, -, filled⟩ := Fault.bind_eq_ok same.symm
      obtain ⟨last, rfl, ends⟩ := Fault.bind_eq_ok filled
      cases ends
      exact ⟨text, last, further, rfl⟩

/-- With no names to be found, all placeholders that are read disappear. -/
theorem fillPlaceholders_unbound (s : List Char) :
    fillPlaceholders .silent [] s = .ok (placeholders.replace (fun _ => []) s) := by
  have nothing (path : List Char) : placeholderText .silent [] path = .ok [] := by
    obtain ⟨first, rest, parts⟩ := List.exists_cons_of_ne_nil (segments_parts path).nonempty
    rw [placeholderText, resolvePath, parts]
    rfl
  rw [fillPlaceholders, Scanner.replace]
  induction placeholders.pieces s with
  | nil => rfl
  | cons piece pieces ih =>
    cases piece with
    | plain c =>
      rw [fillPieces, ih]
      rfl
    | found path source =>
      rw [fillPieces, nothing, ih]
      rfl

/-- Nothing is copied at the place of a placeholder with a path of the grammar. -/
theorem Fills.of_placeholder {path rest out : List Char} (fits : IsPath path)
    (fills : Fills IsPath mode scope (placeholderOpening ++ path ++ [']'] ++ rest) (.ok out)) :
    ∃ filled after, Fills IsPath mode scope rest (.ok after) ∧ out = filled ++ after := by
  have closed : ']' ∉ placeholderOpening ++ path := by
    simp [placeholderOpening, fits.closed]
  rw [List.append_assoc, List.singleton_append] at fills
  exact fills.behind_bracket closed

/-- An empty pair of brackets and the text up to the next closing bracket are kept. -/
theorem Fills.of_swallowed {tail rest out : List Char} (closed : ']' ∉ tail)
    (fills : Fills IsPath mode scope (placeholderOpening ++ ']' :: tail ++ [']'] ++ rest) (.ok out)) :
    ∃ filled after, filled ≠ [] ∧ Fills IsPath mode scope rest (.ok after)
      ∧ out = filled ++ after := by
  have shape : placeholderOpening ++ ']' :: tail ++ [']'] ++ rest
      = '@' :: '[' :: ']' :: (tail ++ ']' :: rest) := by
    simp [placeholderOpening]
  rw [shape] at fills
  rcases fills.cons_inv with ⟨after, -, further, same⟩ | ⟨path, back, after, begins, fits, -⟩
  · obtain ⟨text, rfl, rfl⟩ := Fault.map_eq_ok same.symm
    obtain ⟨_, inner, rfl⟩ := further.of_plain (by decide)
    obtain ⟨_, behind, rfl⟩ := inner.of_plain (by decide)
    obtain ⟨filled, last, ends, rfl⟩ := behind.behind_bracket closed
    exact ⟨'@' :: '[' :: ']' :: filled, last, List.cons_ne_nil _ _, ends, rfl⟩
  · -- A path of the grammar does not begin with a closing bracket.
    obtain ⟨c, path, rfl⟩ := List.exists_cons_of_ne_nil fits.nonempty
    simp only [placeholderOpening, List.cons_append, List.nil_append, List.cons.injEq,
      true_and] at begins
    exact absurd (begins.1 ▸ List.mem_cons_self) fits.closed

/-- The placeholder pass leaves no more of a text than it should, and less if it swallows some. -/
theorem length_unbound (s : List Char) : ∀ {out : List Char}, Fills IsPath .silent [] s (.ok out) →
    (placeholders.replace (fun _ => []) s).length ≤ out.length
      ∧ (Swallows s → (placeholders.replace (fun _ => []) s).length < out.length) := by
  induction s using placeholders.induction with
  | nil =>
    intro out fills
    simp [Scanner.replace, Swallows, Scanner.pieces_nil]
  | plain c s absent ih =>
    intro out fills
    have pieces := Scanner.pieces_plain absent
    have swallows : Swallows (c :: s) → Swallows s := by
      rintro ⟨tail, source, listed⟩
      rw [pieces] at listed
      exact ⟨tail, source, (List.mem_cons.mp listed).resolve_left nofun⟩
    rcases fills.cons_inv with ⟨after, -, further, same⟩ | ⟨path, back, after, shape, fits, -⟩
    · obtain ⟨text, rfl, rfl⟩ := Fault.map_eq_ok same.symm
      obtain ⟨most, less⟩ := ih further
      rw [Scanner.replace, pieces]
      exact ⟨Nat.succ_le_succ most, fun here => Nat.succ_lt_succ (less (swallows here))⟩
    · have present := placeholderFront?_eq_some_iff.mpr ⟨shape, fits.wide⟩
      cases absent.symm.trans present
  | found path source rest present ih =>
    intro out fills
    obtain ⟨shape, wide⟩ := placeholderFront?_eq_some_iff.mp present
    obtain rfl := List.append_cancel_right shape
    have pieces := Scanner.pieces_found present
    rw [Scanner.replace, pieces]
    -- A path that begins with a bracket is the one way to swallow text: it stays in part.
    by_cases first : ∃ tail, path = ']' :: tail
    · obtain ⟨tail, rfl⟩ := first
      obtain ⟨filled, after, some, further, rfl⟩ := fills.of_swallowed wide.closed
      obtain ⟨most, -⟩ := ih further
      have more : 0 < filled.length := List.length_pos_iff.mpr some
      have kept : (placeholders.replace (fun _ => []) rest).length
          < filled.length + after.length := by omega
      rw [List.length_append]
      exact ⟨Nat.le_of_lt kept, fun _ => kept⟩
    · have fits := wide.isPath fun tail same => first ⟨tail, same⟩
      obtain ⟨filled, after, further, rfl⟩ := fills.of_placeholder fits
      obtain ⟨most, less⟩ := ih further
      have swallows : Swallows (placeholderOpening ++ path ++ [']'] ++ rest) → Swallows rest := by
        rintro ⟨tail, source, listed⟩
        rw [pieces] at listed
        rcases List.mem_cons.mp listed with here | later
        · cases here
          exact absurd ⟨tail, rfl⟩ first
        · exact ⟨tail, source, later⟩
      rw [List.length_append]
      refine ⟨Nat.le_trans most (Nat.le_add_left _ _), fun here => ?_⟩
      exact Nat.lt_of_lt_of_le (less (swallows here)) (Nat.le_add_left _ _)

/-! ### The two readings -/

theorem exists_fills (kind : List Char → Prop) (mode : PlaceholderMode) (scope : Scope)
    (s : List Char) : ∃ out, Fills kind mode scope s out := by
  induction size : s.length using Nat.strongRecOn generalizing s with
  | ind n ih =>
    cases s with
    | nil => exact ⟨_, .nil⟩
    | cons c s =>
      -- A kind need not be one that the pass can tell, so the cases are split by what holds.
      by_cases here : ∃ path back, kind path ∧ c :: s = placeholderOpening ++ path ++ [']'] ++ back
      · obtain ⟨path, back, fits, shape⟩ := here
        have shorter : back.length < n := by
          rw [← size, shape]
          simp [placeholderOpening]
          omega
        obtain ⟨after, further⟩ := ih back.length shorter back rfl
        rw [shape]
        exact ⟨_, .replaced fits further⟩
      · obtain ⟨after, further⟩ := ih s.length (size ▸ Nat.lt_succ_self _) s rfl
        exact ⟨_, .copied (fun path back fits shape => here ⟨path, back, fits, shape⟩) further⟩

/-- What a text becomes is determined, since a path ends at the first bracket that can close it. -/
theorem Fills.unique {s : List Char} {out : Except Fault (List Char)}
    (narrow : ∀ path, kind path → IsWidePath path) (fills : Fills kind mode scope s out) :
    ∀ {other}, Fills kind mode scope s other → other = out := by
  induction fills with
  | nil =>
    intro other again
    cases again
    rfl
  | copied none _ ih =>
    intro other again
    rcases again.cons_inv with ⟨after, -, further, rfl⟩ | ⟨path, back, _, shape, fits, -⟩
    · rw [ih further]
    · exact absurd shape (none path back fits)
  | @replaced path rest after fits _ ih =>
    intro other again
    have whole : placeholderOpening ++ path ++ [']'] ++ rest
        = '@' :: '[' :: (path ++ [']'] ++ rest) := rfl
    have here := placeholderFront?_eq_some_iff.mpr ⟨whole.symm, narrow path fits⟩
    rw [whole] at again
    rcases again.cons_inv with ⟨_, none, -⟩ | ⟨second, back, _, shape, valid, further, rfl⟩
    · exact absurd whole.symm (none path rest fits)
    · have there := placeholderFront?_eq_some_iff.mpr ⟨shape, narrow second valid⟩
      rw [here] at there
      cases there
      rw [ih further]

/-- The placeholder pass replaces the placeholders whose path may begin with a closing bracket and
copies everything else. It does what it should, for all values, exactly on the texts in which it
swallows nothing behind an empty pair of brackets. -/
theorem fills_iff_not_swallows (s : List Char) :
    (∀ mode scope, ∃! out, Fills IsPath mode scope s out) ∧
    (∀ mode scope, Fills IsWidePath mode scope s (fillPlaceholders mode scope s)) ∧
    ((∀ mode scope, Fills IsPath mode scope s (fillPlaceholders mode scope s)) ↔ ¬ Swallows s) := by
  refine ⟨fun mode scope => ?_, fun mode scope => ?_, fun fills swallows => ?_, fun whole mode scope => ?_⟩
  · obtain ⟨out, fills⟩ := exists_fills IsPath mode scope s
    exact ⟨out, fills, fun other again => fills.unique (fun _ => IsPath.wide) again⟩
  · exact fills_of_kind (fun _ wide => wide) fun _ _ => fits_of_mem
  · -- With nothing bound and all missing, the two readings leave texts of different lengths.
    have short := fills .silent []
    rw [fillPlaceholders_unbound] at short
    exact Nat.lt_irrefl _ ((length_unbound s short).2 swallows)
  · refine fills_of_kind (fun _ => IsPath.wide) fun path source listed => ?_
    exact (fits_of_mem listed).isPath fun tail first => whole ⟨tail, source, first ▸ listed⟩

/-- Behind an empty pair of brackets a text is swallowed up to the next closing bracket; without one
it is kept. -/
theorem fills_iff_not_swallows_pair :
    (fillPlaceholders .silent [] "a@[]b[c]d".toList = .ok ['a', 'd'] ∧
      ¬ ∀ mode scope, Fills IsPath mode scope "a@[]b[c]d".toList
        (fillPlaceholders mode scope "a@[]b[c]d".toList)) ∧
    ∀ mode scope, Fills IsPath mode scope "a@[]b".toList
      (fillPlaceholders mode scope "a@[]b".toList) := by
  have swallowed : placeholders.pieces "a@[]b[c]d".toList
      = [.plain 'a', .found "]b[c".toList "@[]b[c]".toList, .plain 'd'] := by cbv
  have kept : placeholders.pieces "a@[]b".toList = "a@[]b".toList.map Piece.plain := by cbv
  refine ⟨⟨?_, fun fills => ?_⟩, (fills_iff_not_swallows _).2.2.mpr ?_⟩
  · rw [fillPlaceholders_unbound, Scanner.replace, swallowed]
    rfl
  · refine (fills_iff_not_swallows _).2.2.mp fills ⟨"b[c".toList, "@[]b[c]".toList, ?_⟩
    rw [swallowed]
    exact List.mem_cons_of_mem _ List.mem_cons_self
  · rintro ⟨tail, source, listed⟩
    rw [kept] at listed
    obtain ⟨c, -, same⟩ := List.mem_map.mp listed
    contradiction

end StaticSite.Template
