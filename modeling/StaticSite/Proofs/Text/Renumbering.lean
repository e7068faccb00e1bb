import StaticSite.Number.Decimal
import StaticSite.Proofs.Text.Skipping

/-!
# Texts that differ in numbers

Two texts are renumberings of each other if they are the same but for numbers that stand between a
low line and a percent sign. A number is taken in a wide sense here, with letters and low lines
among its digits. A search for a mark that holds no low line, and starts with no letter or digit,
finds the same in both.
-/

namespace StaticSite.Text

theorem natText_digits (n : Nat) : ∀ c ∈ Decimal.natText n, isAsciiDigit c = true := by
  intro c inside
  have digit : c.isDigit = true := Nat.isDigit_of_mem_toDigits (by decide) (by decide) inside
  simpa [Char.isDigit, isAsciiDigit, Char.le_def] using digit

theorem isAscii_of_isAsciiDigit {c : Char} (digit : isAsciiDigit c = true) : isAscii c = true := by
  simp only [isAsciiDigit, Bool.and_eq_true, decide_eq_true_eq, Char.le_def] at digit
  have most : c.val.toNat ≤ '9'.val.toNat := digit.2
  simp only [isAscii, decide_eq_true_eq]
  exact Nat.lt_of_le_of_lt most (by decide)

/-- The digits of a number have its value. -/
theorem foldl_natText (n : Nat) :
    (Decimal.natText n).foldl (fun n c => n * 10 + (c.toNat - 48)) 0 = n := by
  have step : (fun (n : Nat) (c : Char) => n * 10 + (c.toNat - 48))
      = fun n c => 10 * n + (c.toNat - '0'.toNat) := by
    funext n c
    rw [Nat.mul_comm]
    rfl
  have value : Nat.ofDigitChars 10 (Nat.toDigits 10 n) 0 = n := Nat.ofDigitChars_ten_toDigits
  rw [Nat.ofDigitChars_eq_foldl, ← step] at value
  exact value

/-- The letters and digits of ASCII, and the low line. -/
def isAsciiWord (c : Char) : Bool := isAscii c && isWord c

theorem isAsciiWord_of_isAlphanum {c : Char} (letter : c.isAlphanum = true) :
    isAsciiWord c = true := by
  have kinds : isAsciiUpper c = true ∨ isAsciiLower c = true ∨ isAsciiDigit c = true := by
    rcases Bool.or_eq_true_iff.mp letter with alpha | digit
    · rcases Bool.or_eq_true_iff.mp alpha with upper | lower
      · obtain ⟨least, most⟩ := of_decide_eq_true upper
        exact .inl (Bool.and_eq_true_iff.mpr ⟨decide_eq_true least, decide_eq_true most⟩)
      · exact .inr (.inl lower)
    · exact .inr (.inr digit)
  have ascii : isAscii c = true := by
    simp only [isAsciiUpper, isAsciiLower, isAsciiDigit, Bool.and_eq_true, decide_eq_true_eq,
      Char.le_def, UInt32.le_iff_toNat_le] at kinds
    have upper : 'Z'.val.toNat = 90 := rfl
    have lower : 'z'.val.toNat = 122 := rfl
    have digit : '9'.val.toNat = 57 := rfl
    have code : c.toNat = c.val.toNat := rfl
    simp only [isAscii, decide_eq_true_eq]
    omega
  rcases kinds with kind | kind | kind <;> simp [isAsciiWord, isWord, ascii, kind]

/-- What holds of the letters and digits among the first codes holds of all of them. -/
theorem of_isAlphanum {P : Char → Prop} {c : Char}
    (each : ∀ code : Fin 128, (Char.ofNat code).isAlphanum = true → P (Char.ofNat code))
    (letter : c.isAlphanum = true) : P c := by
  have ascii : c.toNat < 128 :=
    of_decide_eq_true (Bool.and_eq_true_iff.mp (isAsciiWord_of_isAlphanum letter)).1
  have here := each ⟨c.toNat, ascii⟩
  rw [Char.ofNat_toNat] at here
  exact here letter

theorem isAsciiWord_of_isAsciiDigit {c : Char} (digit : isAsciiDigit c = true) :
    isAsciiWord c = true := by
  have ascii := isAscii_of_isAsciiDigit digit
  simp [isAsciiWord, isWord, ascii, digit]

theorem natText_word (n : Nat) : ∀ c ∈ Decimal.natText n, isAsciiWord c = true :=
  fun c inside => isAsciiWord_of_isAsciiDigit (natText_digits n c inside)

inductive Renumbered : List Char → List Char → Prop where
  | nil : Renumbered [] []
  | same (c : Char) {s t : List Char} (rest : Renumbered s t) : Renumbered (c :: s) (c :: t)
  | number {m n s t : List Char} (first : ∀ c ∈ m, isAsciiWord c = true)
      (second : ∀ c ∈ n, isAsciiWord c = true) (rest : Renumbered ('%' :: s) ('%' :: t)) :
      Renumbered ('_' :: (m ++ '%' :: s)) ('_' :: (n ++ '%' :: t))

/-- Both searches fail, or both find related items in front of renumbered texts. -/
abbrev FoundAlike {α : Type} (related : α → α → Prop) (first second : Option (α × List Char)) :
    Prop :=
  Option.Rel (fun a b => related a.1 b.1 ∧ Renumbered a.2 b.2) first second

namespace Renumbered

theorem refl (s : List Char) : Renumbered s s := by
  induction s with
  | nil => exact nil
  | cons c s ih => exact same c ih

theorem append {s t u v : List Char} (front : Renumbered s t) (back : Renumbered u v) :
    Renumbered (s ++ u) (t ++ v) := by
  induction front with
  | nil => exact back
  | same _ _ ih => exact same _ ih
  | number first second _ ih =>
    simp only [List.cons_append, List.append_assoc]
    exact number first second ih

theorem tail {s t : List Char} (alike : Renumbered ('%' :: s) ('%' :: t)) :
    Renumbered s t := by
  cases alike with
  | same _ rest => exact rest

/-- Both texts start with a character that is no low line, or neither does. -/
theorem head {c : Char} {s t : List Char} (differs : c ≠ '_') (alike : Renumbered s t) :
    (∃ u v, s = c :: u ∧ t = c :: v ∧ Renumbered u v)
      ∨ ((∀ u, s ≠ c :: u) ∧ ∀ v, t ≠ c :: v) := by
  cases alike with
  | nil => exact .inr ⟨fun _ => nofun, fun _ => nofun⟩
  | @same d s t rest =>
    by_cases equal : d = c
    · exact .inl ⟨s, t, by rw [equal], by rw [equal], rest⟩
    · exact .inr ⟨fun _ same => equal (List.head_eq_of_cons_eq same),
        fun _ same => equal (List.head_eq_of_cons_eq same)⟩
  | number =>
    exact .inr ⟨fun _ same => differs (List.head_eq_of_cons_eq same).symm,
      fun _ same => differs (List.head_eq_of_cons_eq same).symm⟩

/-- The first characters of renumbered texts are the same, unless a number begins among them. -/
theorem fronts (n : Nat) {s t : List Char} (alike : Renumbered s t) :
    (∃ front u v, front.length = n ∧ s = front ++ u ∧ t = front ++ v ∧ Renumbered u v)
      ∨ (s = t ∧ s.length < n) ∨ ('_' ∈ s.take n ∧ '_' ∈ t.take n) := by
  induction n generalizing s t with
  | zero => exact .inl ⟨[], s, t, rfl, rfl, rfl, alike⟩
  | succ n ih =>
    cases alike with
    | nil => exact .inr (.inl ⟨rfl, Nat.succ_pos n⟩)
    | number => exact .inr (.inr ⟨List.mem_cons_self, List.mem_cons_self⟩)
    | same c rest =>
      rcases ih rest with ⟨front, u, v, rfl, rfl, rfl, inner⟩ | ⟨rfl, short⟩ | ⟨first, second⟩
      · exact .inl ⟨c :: front, u, v, rfl, rfl, rfl, inner⟩
      · exact .inr (.inl ⟨rfl, Nat.succ_lt_succ short⟩)
      · exact .inr (.inr ⟨List.mem_cons_of_mem c first, List.mem_cons_of_mem c second⟩)

/-! ### Searches -/

theorem dropFront? {mark s t : List Char} (plain : '_' ∉ mark) (alike : Renumbered s t) :
    Option.Rel Renumbered (dropFront? mark s) (dropFront? mark t) := by
  induction mark generalizing s t with
  | nil => exact .some alike
  | cons c mark ih =>
    simp only [List.mem_cons, not_or] at plain
    cases alike with
    | nil => exact .none
    | same d rest =>
      by_cases equal : c = d
      · simpa only [Text.dropFront?, equal, if_true] using ih plain.2 rest
      · simp only [Text.dropFront?, equal, if_false]
        exact .none
    | number first second rest =>
      rw [dropFront?_cons_ne _ _ plain.1, dropFront?_cons_ne _ _ plain.1]
      exact .none

theorem takeWhile_eq {p : Char → Bool} {s t : List Char} (stops : p '_' = false)
    (alike : Renumbered s t) : s.takeWhile p = t.takeWhile p := by
  induction alike with
  | nil => rfl
  | same _ _ ih =>
    rw [List.takeWhile_cons, List.takeWhile_cons, ih]
  | number => simp [stops]

theorem dropWhile {p : Char → Bool} {s t : List Char} (stops : p '_' = false)
    (alike : Renumbered s t) : Renumbered (s.dropWhile p) (t.dropWhile p) := by
  induction alike with
  | nil => exact nil
  | same c rest ih =>
    by_cases passes : p c = true
    · simpa only [List.dropWhile_cons_of_pos passes] using ih
    · simpa only [List.dropWhile_cons_of_neg passes] using same c rest
  | number first second rest =>
    have stays : ¬ p '_' = true := by simp [stops]
    rw [List.dropWhile_cons_of_neg stays, List.dropWhile_cons_of_neg stays]
    exact number first second rest

/-- A run that passes over numbers is the same in both texts, or ends right after a number. -/
theorem takeWhile_or {p : Char → Bool} {s t : List Char} (low : p '_' = true)
    (word : ∀ c, isAsciiWord c = true → p c = true) (percent : p '%' = false)
    (alike : Renumbered s t) :
    (s.takeWhile p = t.takeWhile p ∧ Renumbered (s.dropWhile p) (t.dropWhile p))
      ∨ (∃ u v, s.dropWhile p = '%' :: u ∧ t.dropWhile p = '%' :: v) := by
  induction alike with
  | nil => exact .inl ⟨rfl, nil⟩
  | @same c s t rest ih =>
    by_cases passes : p c = true
    · simp only [List.takeWhile_cons_of_pos passes, List.dropWhile_cons_of_pos passes]
      rcases ih with ⟨taken, left⟩ | ends
      · exact .inl ⟨by simpa using taken, left⟩
      · exact .inr ends
    · simp only [List.takeWhile_cons_of_neg passes, List.dropWhile_cons_of_neg passes]
      exact .inl ⟨trivial, same c rest⟩
  | @number m n s t first second _ ih =>
    have stays : ¬ p '%' = true := by simp [percent]
    -- A run that takes in the number goes on up to the percent sign behind it.
    have ends (k u : List Char) (run : ∀ c ∈ k, isAsciiWord c = true) :
        ('_' :: (k ++ '%' :: u)).dropWhile p = '%' :: u := by
      rw [List.dropWhile_cons_of_pos low,
        List.dropWhile_append_of_pos fun c inside => word c (run c inside),
        List.dropWhile_cons_of_neg stays]
    exact .inr ⟨s, t, ends m s first, ends n t second⟩

theorem cutAt?_cons {mark s t : List Char} {c : Char}
    (front : Option.Rel Renumbered (Text.dropFront? mark (c :: s)) (Text.dropFront? mark (c :: t)))
    (rest : Option.Rel Renumbered ((cutAt? mark s).map Prod.snd) ((cutAt? mark t).map Prod.snd)) :
    Option.Rel Renumbered ((cutAt? mark (c :: s)).map Prod.snd)
      ((cutAt? mark (c :: t)).map Prod.snd) := by
  rw [Text.cutAt?, Text.cutAt?]
  cases first : Text.dropFront? mark (c :: s) <;> cases second : Text.dropFront? mark (c :: t) <;>
    rw [first, second] at front
  · have kept (found : Option (List Char × List Char)) :
        (found.map fun parts => (c :: parts.1, parts.2)).map Prod.snd = found.map Prod.snd := by
      cases found <;> rfl
    simpa only [kept] using rest
  · cases front
  · cases front
  · exact front

theorem cutAt?_number {c : Char} {mark k u : List Char} (differs : c ≠ '_')
    (starts : isAsciiWord c = false) (run : ∀ d ∈ k, isAsciiWord d = true) :
    (cutAt? (c :: mark) ('_' :: (k ++ '%' :: u))).map Prod.snd
      = (cutAt? (c :: mark) ('%' :: u)).map Prod.snd := by
  have absent : c ∉ '_' :: k := by
    simp only [List.mem_cons, not_or]
    refine ⟨differs, fun inside => ?_⟩
    rw [run c inside] at starts
    contradiction
  have skips : Skips (Text.dropFront? (c :: mark)) ('_' :: k) ('%' :: u) :=
    Skips.of_not_mem (fun _ _ other => dropFront?_cons_ne _ _ other) absent _
  have cut := cutAt?_skip skips
  rw [List.cons_append] at cut
  rw [cut, Option.map_map]
  rfl

/-- Cutting at a mark leaves the same after it. -/
theorem cutAt? {c : Char} {mark s t : List Char} (plain : '_' ∉ c :: mark)
    (starts : isAsciiWord c = false) (alike : Renumbered s t) :
    Option.Rel Renumbered ((cutAt? (c :: mark) s).map Prod.snd)
      ((cutAt? (c :: mark) t).map Prod.snd) := by
  have differs : c ≠ '_' := fun equal => plain (equal ▸ List.mem_cons_self)
  induction alike with
  | nil => exact .none
  | same d rest ih => exact cutAt?_cons (dropFront? plain (same d rest)) ih
  | number first second _ ih =>
    rw [cutAt?_number differs starts first, cutAt?_number differs starts second]
    exact ih

end Renumbered

/-! ### Pieces -/

variable {α : Type}

/-- Pieces of renumbered texts, with related items at the same places. -/
inductive PiecesAlike (related : α → α → Prop) : List (Piece α) → List (Piece α) → Prop where
  | nil : PiecesAlike related [] []
  | plain (c : Char) {p q : List (Piece α)} (rest : PiecesAlike related p q) :
      PiecesAlike related (.plain c :: p) (.plain c :: q)
  | found {a b : α} {source other : List Char} {p q : List (Piece α)} (items : related a b)
      (rest : PiecesAlike related p q) :
      PiecesAlike related (.found a source :: p) (.found b other :: q)
  | number {m n : List Char} {p q : List (Piece α)} (first : ∀ c ∈ m, isAsciiWord c = true)
      (second : ∀ c ∈ n, isAsciiWord c = true)
      (rest : PiecesAlike related (.plain '%' :: p) (.plain '%' :: q)) :
      PiecesAlike related (.plain '_' :: (m.map .plain ++ .plain '%' :: p))
        (.plain '_' :: (n.map .plain ++ .plain '%' :: q))

/-- A scanner whose items start with a mark, and which finds the same in renumbered texts. -/
structure Steady (related : α → α → Prop) (scanner : Scanner α) (mark : Char) : Prop where
  needs : ∀ c rest, c ≠ mark → scanner.run (c :: rest) = none
  other : mark ≠ '_' ∧ mark ≠ '%' ∧ isAsciiWord mark = false
  alike : ∀ {s t : List Char}, Renumbered s t →
    FoundAlike related (scanner.run s) (scanner.run t)

namespace Steady

variable {related : α → α → Prop} {scanner : Scanner α} {mark : Char}

theorem pieces_number (steady : Steady related scanner mark) {k u : List Char}
    (run : ∀ c ∈ k, isAsciiWord c = true) :
    scanner.pieces ('_' :: (k ++ '%' :: u))
      = .plain '_' :: (k.map .plain ++ .plain '%' :: scanner.pieces u) := by
  have absent : mark ∉ '_' :: (k ++ ['%']) := by
    obtain ⟨low, percent, word⟩ := steady.other
    simp only [List.mem_cons, List.mem_append, not_or, List.not_mem_nil, not_false_eq_true, and_true]
    refine ⟨low, fun inside => ?_, percent⟩
    rw [run mark inside] at word
    contradiction
  have skips : Skips scanner.run ('_' :: (k ++ ['%'])) u := Skips.of_not_mem steady.needs absent u
  have split := Scanner.pieces_skip skips
  simpa using split

theorem pieces (steady : Steady related scanner mark) {s t : List Char} (alike : Renumbered s t) :
    PiecesAlike related (scanner.pieces s) (scanner.pieces t) := by
  induction size : s.length using Nat.strongRecOn generalizing s t with
  | ind n ih =>
    -- The scanner finds alike at both texts, so the mixed cases are impossible.
    have found := steady.alike alike
    cases alike with
    | nil =>
      rw [Scanner.pieces_nil]
      exact .nil
    | @same c s t rest =>
      cases first : scanner.run (c :: s) <;> cases second : scanner.run (c :: t) <;>
        rw [first, second] at found
      · rw [Scanner.pieces_plain first, Scanner.pieces_plain second]
        refine .plain c (ih s.length ?_ rest rfl)
        rw [← size]
        exact Nat.lt_succ_self _
      · cases found
      · cases found
      next one other =>
        obtain ⟨front, split⟩ := scanner.suffix first
        obtain ⟨before, cut⟩ := scanner.suffix second
        have shorter := scanner.shorter first
        rw [split] at first
        rw [cut] at second
        rw [split, cut, Scanner.pieces_found first, Scanner.pieces_found second]
        cases found with
        | some both => exact .found both.1 (ih _ (size ▸ shorter) both.2 rfl)
    | @number k l s t first second rest =>
      -- Nothing is found inside of a number, which is passed over as a whole.
      rw [steady.pieces_number first, steady.pieces_number second]
      refine .number first second (.plain '%' (ih s.length ?_ rest.tail rfl))
      rw [← size]
      simp only [List.length_cons, List.length_append]
      omega

/-- What is left of renumbered texts when every item is replaced by the same text. -/
theorem replace (steady : Steady related scanner mark) (new : List Char) {s t : List Char}
    (alike : Renumbered s t) :
    Renumbered (scanner.replace (fun _ => new) s) (scanner.replace (fun _ => new) t) := by
  have whole (k : List Char) (p : List (Piece α)) :
      (k.map Piece.plain ++ p).flatMap (Piece.write fun _ => new)
        = k ++ p.flatMap (Piece.write fun _ => new) := by
    induction k with
    | nil => rfl
    | cons c k ih => simpa [Piece.write] using ih
  have pieces := steady.pieces alike
  unfold Scanner.replace
  generalize scanner.pieces s = p, scanner.pieces t = q at pieces
  induction pieces with
  | nil => exact .nil
  | plain c _ ih => exact .same c ih
  | found _ _ ih => exact Renumbered.append (.refl new) ih
  | number first second _ ih =>
    simp only [List.flatMap_cons, whole, Piece.write, List.singleton_append] at ih ⊢
    exact .number first second ih

end Steady

end StaticSite.Text
