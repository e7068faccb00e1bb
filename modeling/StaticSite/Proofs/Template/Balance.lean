import StaticSite.Proofs.Template.Conditionals

/-!
# Balanced conditionals

Behind its condition, a conditional has depth one. Each marker that opens another one raises the
depth, each closing marker lowers it, wherever it stands. A conditional ends with the marker that
first brings the depth to zero, and the first `@else` at depth one divides it. This holds of every
text: a text is a sequence of markers with other text between them, and the walk goes from one to
the next.
-/

namespace StaticSite.Template

open StaticSite.Text

/-! ### Depth -/

/-- Whether a marker stands at a place of a text. -/
def stands (marker : Marker) (s : List Char) (place : Nat) : Bool :=
  startsWith marker.text (s.drop place)

/-- How many times a marker begins in front of a place. -/
def occurrences (marker : Marker) (s : List Char) (place : Nat) : Nat :=
  (List.range place).countP (stands marker s)

/-- The depth at a place of a text that starts at some level. -/
def depth (level : Int) (s : List Char) (place : Nat) : Int :=
  level + occurrences .opening s place - occurrences .closing s place

/-- An `@else` stands at the outer depth. -/
structure Splits (level : Int) (s : List Char) (place : Nat) : Prop where
  marked : stands .otherwise s place = true
  outer : depth level s place = 1

/-- The depth first comes to zero behind a place. -/
structure Closes (level : Int) (s : List Char) (place : Nat) : Prop where
  zero : depth level s (place + 1) = 0
  first : ∀ i ≤ place, depth level s i ≠ 0

/-- What passing a marker does to the depth. -/
def Marker.weight : Marker → Int
  | .opening => 1
  | .otherwise => 0
  | .closing => -1

theorem stands_zero_iff {marker : Marker} {s : List Char} :
    stands marker s 0 = true ↔ ∃ rest, s = marker.text ++ rest := by
  rw [stands, List.drop_zero, startsWith, Option.isSome_iff_exists]
  exact exists_congr fun rest => dropFront?_eq_some_iff

theorem stands_append (marker : Marker) (front rest : List Char) (i : Nat) :
    stands marker (front ++ rest) (front.length + i) = stands marker rest i := by
  rw [stands, stands, List.drop_append, List.drop_of_length_le (Nat.le_add_right _ _),
    Nat.add_sub_cancel_left, List.nil_append]

theorem stands_none {s : List Char} (absent : markerFront? s = none) (marker : Marker) :
    stands marker s 0 = false := by
  rw [Bool.eq_false_iff]
  intro there
  obtain ⟨rest, rfl⟩ := stands_zero_iff.mp there
  have tried := List.findSome?_eq_none_iff.mp absent marker (by cases marker <;> decide)
  rw [dropFront?_append] at tried
  contradiction

theorem stands_marker (marker other : Marker) (rest : List Char) :
    stands other (marker.text ++ rest) 0 = decide (other = marker) := by
  cases marker <;> cases other <;> rfl

theorem stands_behind (marker : Marker) (front rest : List Char) :
    stands marker (front ++ (marker.text ++ rest)) front.length = true := by
  have here := stands_append marker front (marker.text ++ rest) 0
  rw [Nat.add_zero, stands_marker, decide_eq_true rfl] at here
  exact here

theorem depth_zero (level : Int) (s : List Char) : depth level s 0 = level := by
  simp [depth, occurrences]

theorem depth_nil (level : Int) (i : Nat) : depth level [] i = level := by
  have never (marker : Marker) : occurrences marker [] i = 0 := by
    refine List.countP_eq_zero.mpr fun place _ => ?_
    rw [stands, List.drop_nil]
    cases marker <;> decide
  rw [depth, never, never]
  simp

theorem occurrences_cons (marker : Marker) (c : Char) (s : List Char) (i : Nat) :
    occurrences marker (c :: s) (i + 1)
      = occurrences marker s i + if stands marker (c :: s) 0 then 1 else 0 := by
  rw [occurrences, List.range_succ_eq_map, List.countP_cons, List.countP_map]
  rfl

/-- The depth moves where a marker stands, and nowhere else. -/
theorem depth_cons (level : Int) (c : Char) (s : List Char) (i : Nat) :
    depth level (c :: s) (i + 1)
      = depth (level + (if stands .opening (c :: s) 0 then 1 else 0)
          - if stands .closing (c :: s) 0 then 1 else 0) s i := by
  simp only [depth, occurrences_cons]
  split <;> split <;> push_cast <;> omega

/-! ### Passing over text -/

/-- A front that is passed leads from one level to another, and the depth stays above zero on the
way. -/
structure Passes (level next : Int) (front rest : List Char) : Prop where
  moves : ∀ i, depth level (front ++ rest) (front.length + i) = depth next rest i
  above : ∀ i ≤ front.length, depth level (front ++ rest) i ≠ 0

/-- No `@else` in a front stands at the outer depth. -/
def Undivided (level : Int) (front rest : List Char) : Prop :=
  ∀ i < front.length, ¬ Splits level (front ++ rest) i

section

variable {level : Int} {front rest : List Char}

theorem depth_skip (skips : Skips markerFront? front rest) (i : Nat) :
    depth level (front ++ rest) (front.length + i) = depth level rest i := by
  induction front with
  | nil => rw [List.nil_append, List.length_nil, Nat.zero_add]
  | cons c front ih =>
    have regroup : (c :: front).length + i = front.length + i + 1 := by
      rw [List.length_cons]
      omega
    rw [List.cons_append, regroup, depth_cons, stands_none skips.head, stands_none skips.head,
      ← ih skips.tail]
    simp

theorem depth_inside (skips : Skips markerFront? front rest) {i : Nat} (inside : i ≤ front.length) :
    depth level (front ++ rest) i = level := by
  induction front generalizing i with
  | nil =>
    rw [Nat.le_zero.mp inside, depth_zero]
  | cons c front ih =>
    cases i with
    | zero => exact depth_zero _ _
    | succ i =>
      have inner := ih skips.tail (Nat.le_of_succ_le_succ inside)
      rw [List.cons_append, depth_cons, stands_none skips.head, stands_none skips.head]
      simpa using inner

theorem stands_inside (skips : Skips markerFront? front rest) (marker : Marker) {i : Nat}
    (inside : i < front.length) : stands marker (front ++ rest) i = false := by
  induction front generalizing i with
  | nil => exact absurd inside (Nat.not_lt_zero i)
  | cons c front ih =>
    cases i with
    | zero => exact stands_none skips.head marker
    | succ i => exact ih skips.tail (Nat.lt_of_succ_lt_succ inside)

/-- Text in which no marker begins leaves the depth alone. -/
theorem passes_skip (skips : Skips markerFront? front rest) (positive : level ≠ 0) :
    Passes level level front rest :=
  ⟨depth_skip skips, fun _ inside => (depth_inside skips inside).trans_ne positive⟩

theorem undivided_skip (skips : Skips markerFront? front rest) : Undivided level front rest := by
  intro i inside splits
  have marked := splits.marked
  rw [stands_inside skips _ inside] at marked
  contradiction

/-- Only the first character of a marker can begin one. -/
theorem marker_front (marker : Marker) (rest : List Char) :
    ∃ tail, marker.text = '@' :: tail ∧ Skips markerFront? tail rest := by
  refine ⟨marker.text.tail, by cases marker <;> rfl, Skips.of_not_mem markerFront?_plain ?_ rest⟩
  cases marker <;> decide

theorem depth_marker (marker : Marker) (rest : List Char) (i : Nat) :
    depth level (marker.text ++ rest) (i + 1)
      = depth (level + marker.weight) (marker.text.tail ++ rest) i := by
  obtain ⟨tail, shape, -⟩ := marker_front marker rest
  have opening := stands_marker marker .opening rest
  have closing := stands_marker marker .closing rest
  rw [shape, List.cons_append] at opening closing ⊢
  rw [depth_cons, opening, closing]
  cases marker <;> simp [Marker.weight, Int.sub_eq_add_neg]

/-- A marker moves the depth by its weight. -/
theorem passes_marker (marker : Marker) (rest : List Char) (positive : level ≠ 0)
    (left : level + marker.weight ≠ 0) :
    Passes level (level + marker.weight) marker.text rest := by
  obtain ⟨tail, shape, skips⟩ := marker_front marker rest
  have inner (i : Nat) : depth level (marker.text ++ rest) (i + 1)
      = depth (level + marker.weight) (tail ++ rest) i := by
    rw [depth_marker, shape, List.tail_cons]
  have length : marker.text.length = tail.length + 1 := by rw [shape, List.length_cons]
  constructor
  · intro i
    have regroup : marker.text.length + i = tail.length + i + 1 := by omega
    rw [regroup, inner, depth_skip skips]
  · intro i inside
    cases i with
    | zero => exact (depth_zero _ _).trans_ne positive
    | succ i => exact ((inner i).trans (depth_inside skips (by omega))).trans_ne left

/-- Within a marker no other begins. -/
theorem undivided_marker (marker : Marker) (rest : List Char)
    (inner : marker ≠ .otherwise ∨ level ≠ 1) : Undivided level marker.text rest := by
  obtain ⟨tail, shape, skips⟩ := marker_front marker rest
  rintro i inside ⟨marked, outer⟩
  cases i with
  | zero =>
    rw [stands_marker, decide_eq_true_eq] at marked
    rw [depth_zero] at outer
    rcases inner with other | deep
    · exact other marked.symm
    · exact deep outer
  | succ i =>
    rw [shape, List.length_cons] at inside
    have absent := stands_inside skips .otherwise (Nat.lt_of_succ_lt_succ inside)
    rw [shape] at marked
    exact absurd (marked.symm.trans absent) (by decide)

end

/-! ### The walk -/

/-- The branches of the text up to the closing marker; `split` says that it stands behind an `@else`
at the outer depth already. -/
inductive Parted (level : Int) (body : List Char) :
    (split : Bool) → (inner first second : List Char) → Prop where
  | late {inner : List Char} : Parted level body true inner [] inner
  | whole {inner : List Char} (undivided : ∀ i < inner.length, ¬ Splits level body i) :
      Parted level body false inner inner []
  | divided {first second : List Char} (splits : Splits level body first.length)
      (earliest : ∀ i < first.length, ¬ Splits level body i) :
      Parted level body false (first ++ elseMarker ++ second) first second

/-- What stands behind the first branch. -/
theorem Parted.turn {level : Int} {body inner first second : List Char}
    (parts : Parted level body false inner first second) : ∃ turn, inner = first ++ turn
      ∧ (turn = [] ∧ second = [] ∧ (∀ i < inner.length, ¬ Splits level body i)
        ∨ turn = elseMarker ++ second ∧ Splits level body first.length
          ∧ ∀ i < first.length, ¬ Splits level body i) := by
  cases parts with
  | whole undivided => exact ⟨[], (List.append_nil _).symm, .inl ⟨rfl, rfl, undivided⟩⟩
  | divided splits earliest =>
    exact ⟨elseMarker ++ second, List.append_assoc _ _ _, .inr ⟨rfl, splits, earliest⟩⟩

/-- What a walk that starts at some level finds. -/
inductive Walked (level : Int) (split : Bool) (body : List Char) :
    Option (List Char × List Char × List (Piece Marker)) → Prop where
  | never (above : ∀ i, depth level body i ≠ 0) : Walked level split body none
  | closed {inner first second : List Char} {after : List (Piece Marker)}
      (text : body = inner ++ (ifClosing ++ sourceOf after))
      (closes : Closes level body inner.length)
      (parts : Parted level body split inner first second) :
      Walked level split body (some (first, second, after))

section

variable {level next : Int} {split : Bool} {front rest : List Char}

theorem Passes.splits (passes : Passes level next front rest) {i : Nat} :
    Splits level (front ++ rest) (front.length + i) ↔ Splits next rest i := by
  constructor
  · intro splits
    exact ⟨(stands_append _ _ _ _).symm.trans splits.marked,
      (passes.moves i).symm.trans splits.outer⟩
  · intro splits
    exact ⟨(stands_append _ _ _ _).trans splits.marked, (passes.moves i).trans splits.outer⟩

theorem Passes.undivided (passes : Passes level next front rest)
    (here : Undivided level front rest) {n : Nat} (there : ∀ i < n, ¬ Splits next rest i) :
    ∀ i < front.length + n, ¬ Splits level (front ++ rest) i := by
  intro i inside splits
  by_cases early : i < front.length
  · exact here i early splits
  · obtain ⟨later, rfl⟩ := Nat.exists_eq_add_of_le (Nat.not_lt.mp early)
    exact there later (by omega) (passes.splits.mp splits)

theorem Passes.above_later (passes : Passes level next front rest) {n : Nat}
    (there : ∀ i ≤ n, depth next rest i ≠ 0) :
    ∀ i ≤ front.length + n, depth level (front ++ rest) i ≠ 0 := by
  intro i inside
  by_cases early : i ≤ front.length
  · exact passes.above i early
  · obtain ⟨later, rfl⟩ := Nat.exists_eq_add_of_le (Nat.le_of_not_le early)
    rw [passes.moves]
    exact there later (by omega)

theorem Passes.closes (passes : Passes level next front rest) {place : Nat}
    (closes : Closes next rest place) : Closes level (front ++ rest) (front.length + place) :=
  ⟨(passes.moves (place + 1)).trans closes.zero, passes.above_later closes.first⟩

theorem Passes.parted (passes : Passes level next front rest)
    (here : split = true ∨ Undivided level front rest) {inner first second : List Char}
    (parts : Parted next rest split inner first second) :
    Parted level (front ++ rest) split (front ++ inner) (if split then first else front ++ first)
      (if split then front ++ second else second) := by
  cases parts with
  | late => exact .late
  | whole undivided =>
    have early := here.resolve_left Bool.false_ne_true
    refine .whole ?_
    rw [List.length_append]
    exact passes.undivided early undivided
  | divided splits earliest =>
    have early := here.resolve_left Bool.false_ne_true
    rw [← List.append_assoc, ← List.append_assoc]
    have here := passes.splits.mpr splits
    have before := passes.undivided early earliest
    rw [← List.length_append] at here before
    exact .divided here before

/-- What is passed stands in the branch that is being read. -/
theorem Walked.passed (passes : Passes level next front rest)
    (here : split = true ∨ Undivided level front rest)
    {found : Option (List Char × List Char × List (Piece Marker))}
    (walked : Walked next split rest found) :
    Walked level split (front ++ rest) (found.map (keepText split front)) := by
  cases walked with
  | never above =>
    exact .never fun i => passes.above_later (fun j _ => above j) i (Nat.le_add_left i _)
  | @closed inner first second after text closes parts =>
    have whole : front ++ rest = front ++ inner ++ (ifClosing ++ sourceOf after) := by
      rw [text, List.append_assoc]
    have shut := passes.closes closes
    rw [← List.length_append] at shut
    have kept := Walked.closed whole shut (passes.parted here parts)
    cases split <;> exact kept

/-- The closing marker at the outer depth is the end. -/
theorem walked_closing (split : Bool) (rest : List Char) :
    Walked 1 split (ifClosing ++ rest) (some ([], [], markers.pieces rest)) := by
  have text : ifClosing ++ rest = [] ++ (ifClosing ++ sourceOf (markers.pieces rest)) :=
    congrArg (ifClosing ++ ·) (markers.source_pieces rest).symm
  have closes : Closes 1 (ifClosing ++ rest) 0 := by
    refine ⟨(depth_marker .closing rest 0).trans (depth_zero _ _), fun i atStart => ?_⟩
    rw [Nat.le_zero.mp atStart, depth_zero]
    decide
  cases split with
  | true => exact .closed text closes .late
  | false => exact .closed text closes (.whole fun i early => absurd early (Nat.not_lt_zero i))

/-- The first `@else` at the outer depth begins the second branch. -/
theorem walked_otherwise {found : Option (List Char × List Char × List (Piece Marker))}
    (walked : Walked 1 true rest found) : Walked 1 false (elseMarker ++ rest) found := by
  have passes : Passes 1 1 elseMarker rest :=
    passes_marker .otherwise rest (by decide) (by decide)
  cases walked with
  | never above =>
    exact .never fun i => passes.above_later (fun j _ => above j) i (Nat.le_add_left i _)
  | @closed inner first second after text closes parts =>
    cases parts with
    | late =>
      have whole : elseMarker ++ rest
          = [] ++ elseMarker ++ inner ++ (ifClosing ++ sourceOf after) := by
        rw [text, List.nil_append, List.append_assoc]
      have shut := passes.closes closes
      rw [← List.length_append] at shut
      exact .closed whole shut (.divided ⟨stands_marker .otherwise .otherwise rest, depth_zero _ _⟩
        fun i early => absurd early (Nat.not_lt_zero i))

end

/-- A text as the sequence of its markers, with other text between them. -/
inductive Marked : List Char → Prop where
  | last {front : List Char} (skips : Skips markerFront? front []) : Marked front
  | next {front rest : List Char} {marker : Marker}
      (skips : Skips markerFront? front (marker.text ++ rest)) (later : Marked rest) :
      Marked (front ++ (marker.text ++ rest))

theorem Marked.cons {c : Char} {s : List Char} (absent : markerFront? (c :: s) = none)
    (marked : Marked s) : Marked (c :: s) := by
  cases marked with
  | last skips => exact .last (skips.cons (by rwa [List.append_nil]))
  | @next front rest marker skips later =>
    have longer : Skips markerFront? (c :: front) (marker.text ++ rest) := skips.cons absent
    exact .next longer later

theorem marked (s : List Char) : Marked s := by
  induction s using markers.induction with
  | nil => exact .last (Skips.nil _ _)
  | plain c s absent ih => exact ih.cons absent
  | found marker source rest present ih =>
    have begins : Skips markerFront? [] (marker.text ++ rest) := Skips.nil _ _
    rw [markerFront?_eq_append present]
    exact .next begins ih

/-- Behind an `@else` at the outer depth, another one is text. -/
theorem branches_otherwise_again (rest : List Char) :
    branches 0 true (markers.pieces (elseMarker ++ rest))
      = (branches 0 true (markers.pieces rest)).map (keepText true elseMarker) := by
  have piece := pieces_marker .otherwise rest
  simp only [Marker.text] at piece
  rw [piece]
  rfl

theorem walked_marker {level : Nat} {split : Bool} {rest : List Char} (marker : Marker)
    (ih : ∀ (level : Nat) (split : Bool),
      Walked (level + 1) split rest (branches level split (markers.pieces rest))) :
    Walked (level + 1) split (marker.text ++ rest)
      (branches level split (markers.pieces (marker.text ++ rest))) := by
  -- A marker moves the depth by its weight, and only a closing one can end the walk.
  have positive : (level : Int) + 1 ≠ 0 := by omega
  cases marker with
  | opening =>
    have passes : Passes (level + 1) ((level + 1 : Nat) + 1) ifOpening rest :=
      passes_marker .opening rest positive (by simp only [Marker.weight]; omega)
    have undivided : Undivided (level + 1) ifOpening rest :=
      undivided_marker .opening rest (.inl (by decide))
    show Walked _ _ (ifOpening ++ rest) (branches _ _ (markers.pieces (ifOpening ++ rest)))
    rw [branches_open]
    exact (ih (level + 1) split).passed passes (.inr undivided)
  | closing =>
    show Walked _ _ (ifClosing ++ rest) (branches _ _ (markers.pieces (ifClosing ++ rest)))
    cases level with
    | zero =>
      rw [branches_closed]
      exact walked_closing split rest
    | succ level =>
      have passes : Passes ((level + 1 : Nat) + 1) (level + 1) ifClosing rest := by
        have moved : Passes ((level + 1 : Nat) + 1)
            ((level + 1 : Nat) + 1 + Marker.weight .closing) ifClosing rest :=
          passes_marker .closing rest positive (by simp only [Marker.weight]; omega)
        have lower : ((level + 1 : Nat) : Int) + 1 + Marker.weight .closing = level + 1 := by
          simp only [Marker.weight]
          omega
        rwa [lower] at moved
      have undivided : Undivided ((level + 1 : Nat) + 1) ifClosing rest :=
        undivided_marker .closing rest (.inl (by decide))
      rw [branches_close]
      exact (ih level split).passed passes (.inr undivided)
  | otherwise =>
    show Walked _ _ (elseMarker ++ rest) (branches _ _ (markers.pieces (elseMarker ++ rest)))
    have passes : Passes (level + 1) (level + 1) elseMarker rest := by
      have moved : Passes (level + 1) (level + 1 + Marker.weight .otherwise) elseMarker rest :=
        passes_marker .otherwise rest positive (by simp only [Marker.weight]; omega)
      rwa [Marker.weight, Int.add_zero] at moved
    cases level with
    | zero =>
      cases split with
      | true =>
        rw [branches_otherwise_again]
        exact (ih 0 true).passed passes (.inl rfl)
      | false =>
        rw [branches_turned]
        -- The first `@else` of this level divides the branches, and what follows is the second.
        exact walked_otherwise (ih 0 true)
    | succ level =>
      have undivided : Undivided ((level + 1 : Nat) + 1) elseMarker rest :=
        undivided_marker .otherwise rest (.inr (by omega))
      rw [branches_otherwise]
      exact (ih (level + 1) split).passed passes (.inr undivided)

/-- The walk finds the end of the conditional and its branches, or that the depth never comes to
zero. -/
theorem walked (level : Nat) (split : Bool) (body : List Char) :
    Walked (level + 1) split body (branches level split (markers.pieces body)) := by
  have positive (level : Nat) : (level : Int) + 1 ≠ 0 := by omega
  induction marked body generalizing level split with
  | @last front skips =>
    have plain : branches level split (markers.pieces (front ++ []))
        = (branches level split (markers.pieces [])).map (keepText split front) :=
      branches_skip skips
    rw [List.append_nil, Scanner.pieces_nil] at plain
    -- Without a marker the depth stays where it was, which is above zero.
    have above (i : Nat) : depth (level + 1) (front ++ []) i ≠ 0 := by
      by_cases inside : i ≤ front.length
      · exact (depth_inside skips inside).trans_ne (positive level)
      · obtain ⟨later, rfl⟩ := Nat.exists_eq_add_of_le (Nat.le_of_not_le inside)
        rw [depth_skip skips, depth_nil]
        exact positive level
    rw [plain]
    rw [List.append_nil] at above
    exact .never above
  | @next front rest marker skips later ih =>
    rw [branches_skip skips]
    exact (walked_marker marker ih).passed (passes_skip skips (positive level))
      (.inr (undivided_skip skips))

/-! ### Conditionals -/

theorem conditional?_cut {condition : List Char} (closed : ')' ∉ condition) (body : List Char) :
    conditional? (condition ++ ')' :: body)
      = (branches 0 false (markers.pieces body)).map fun found =>
        (⟨trim condition, found.1, found.2.1⟩, sourceOf found.2.2) := by
  rw [conditional?, cutAt?_char closed, Option.bind_some]

/-- What a conditional is, from behind its opening marker: the condition, the text up to the end,
and what follows. -/
structure Encloses (s condition inner after : List Char) (block : Conditional) : Prop where
  text : s = condition ++ ')' :: (inner ++ (ifClosing ++ after))
  closed : ')' ∉ condition
  trimmed : block.condition = trim condition
  closes : Closes 1 (inner ++ (ifClosing ++ after)) inner.length
  parts : Parted 1 (inner ++ (ifClosing ++ after)) false inner block.whenTrue block.whenFalse

theorem conditional?_encloses {s after : List Char} {block : Conditional}
    (found : conditional? s = some (block, after)) :
    ∃ condition inner, Encloses s condition inner after block := by
  obtain ⟨⟨condition, body⟩, cut, found⟩ := Option.bind_eq_some_iff.mp found
  obtain ⟨⟨first, second, pieces⟩, read, same⟩ := Option.map_eq_some_iff.mp found
  cases same
  have walk := walked 0 false body
  rw [read] at walk
  cases walk with
  | @closed inner _ _ _ text closes parts =>
    subst text
    refine ⟨condition, inner, ?_, cutAt?_char_notMem cut, rfl, closes, parts⟩
    rw [cutAt?_eq_append cut, List.append_assoc, List.singleton_append]

/-- There is no conditional exactly if its condition has no end, or the depth stays above zero. -/
theorem conditional?_eq_none_iff {s : List Char} :
    conditional? s = none ↔ ')' ∉ s ∨
      ∃ condition body, s = condition ++ ')' :: body ∧ ')' ∉ condition
        ∧ ∀ i, depth 1 body i ≠ 0 := by
  constructor
  · intro absent
    by_cases closed : ')' ∈ s
    · obtain ⟨condition, body, rfl, fresh⟩ := List.eq_append_cons_of_mem closed
      rw [conditional?_cut fresh, Option.map_eq_none_iff] at absent
      -- The walk found no end, so the depth never came to zero.
      have walk := walked 0 false body
      rw [absent] at walk
      cases walk with
      | never above => exact .inr ⟨condition, body, rfl, fresh, above⟩
    · exact .inl closed
  · intro missing
    rw [Option.eq_none_iff_forall_not_mem]
    rintro ⟨block, after⟩ found
    obtain ⟨condition, inner, encloses⟩ := conditional?_encloses found
    rcases missing with open_ | ⟨other, body, text, fresh, above⟩
    · exact open_ (by rw [encloses.text]; simp)
    · have cut : cutAt? [')'] (condition ++ ')' :: (inner ++ (ifClosing ++ after)))
          = some (condition, inner ++ (ifClosing ++ after)) := cutAt?_char encloses.closed
      rw [← encloses.text, text, cutAt?_char fresh, Option.some.injEq, Prod.mk.injEq] at cut
      obtain ⟨rfl, rfl⟩ := cut
      exact above _ encloses.closes.zero

theorem conditionalAt?_eq (s : List Char) (start : Nat) :
    conditionalAt? s start = (conditional? (s.drop (start + ifOpening.length))).map
      fun found => (found.1, s.length - found.2.length) := by
  have place : placeOf s.length (start + ifOpening.length) = start + ifOpening.length := by
    rw [placeOf, if_neg (by omega)]
    omega
  rw [conditionalAt?, place]

theorem drop_of_stands {marker : Marker} {s : List Char} {start : Nat}
    (marked : stands marker s start = true) :
    s.drop start = marker.text ++ s.drop (start + marker.text.length) := by
  obtain ⟨rest, shape⟩ := Option.isSome_iff_exists.mp marked
  have split : s.drop start = marker.text ++ rest := dropFront?_eq_some_iff.mp shape
  rw [← List.drop_drop, split, List.drop_left]

namespace Encloses

variable {s condition inner after : List Char} {block : Conditional} {start : Nat}

theorem stop_eq (encloses : Encloses (s.drop (start + ifOpening.length)) condition inner after
    block) : s.length - after.length
      = start + ifOpening.length + condition.length + 1 + inner.length + ifClosing.length := by
  have lengths := congrArg List.length encloses.text
  simp only [List.length_drop, List.length_append, List.length_cons] at lengths
  omega

/-- The text of the conditional, from its opening marker to the end of its closing one. -/
theorem spanned
    (encloses : Encloses (s.drop (start + ifOpening.length)) condition inner after block)
    (opened : stands .opening s start = true) :
    (s.drop start).take (s.length - after.length - start)
      = ifOpening ++ condition ++ [')'] ++ inner ++ ifClosing := by
  have whole : s.drop start = ifOpening ++ condition ++ [')'] ++ inner ++ ifClosing ++ after := by
    have front : s.drop start = ifOpening ++ s.drop (start + ifOpening.length) :=
      drop_of_stands opened
    rw [front, encloses.text]
    simp
  rw [whole, encloses.stop_eq]
  refine List.take_left' ?_
  simp only [List.length_append, List.length_cons, List.length_nil]
  omega

end Encloses

/-- A conditional is read exactly where its condition ends and the depth comes to zero behind it. It
ends with the closing marker that first brings the depth to zero, and the first `@else` at the outer
depth divides its branches. -/
theorem conditionalAt?_balanced {s : List Char} {start : Nat}
    (opened : stands .opening s start = true) :
    (conditionalAt? s start = none ↔ ')' ∉ s.drop (start + ifOpening.length) ∨
      ∃ condition body, s.drop (start + ifOpening.length) = condition ++ ')' :: body
        ∧ ')' ∉ condition ∧ ∀ i, depth 1 body i ≠ 0)
    ∧ ∀ block stop, conditionalAt? s start = some (block, stop) →
      ∃ condition body place turn,
        s.drop (start + ifOpening.length) = condition ++ ')' :: body ∧ ')' ∉ condition
        ∧ block.condition = trim condition
        ∧ stands .closing body place = true ∧ Closes 1 body place
        ∧ stop = start + ifOpening.length + condition.length + 1 + place + ifClosing.length
        ∧ (s.drop start).take (stop - start)
          = ifOpening ++ condition ++ [')'] ++ block.whenTrue ++ turn ++ ifClosing
        ∧ (turn = [] ∧ block.whenFalse = [] ∧ (∀ i < place, ¬ Splits 1 body i)
          ∨ turn = elseMarker ++ block.whenFalse ∧ Splits 1 body block.whenTrue.length
            ∧ ∀ i < block.whenTrue.length, ¬ Splits 1 body i) := by
  rw [conditionalAt?_eq, Option.map_eq_none_iff]
  refine ⟨conditional?_eq_none_iff, fun block stop given => ?_⟩
  obtain ⟨⟨other, after⟩, found, same⟩ := Option.map_eq_some_iff.mp given
  obtain ⟨rfl, rfl⟩ := Prod.mk.inj same
  obtain ⟨condition, inner, encloses⟩ := conditional?_encloses found
  -- The search gives the parts of the block; the counting of depths says where they end.
  have spanned := encloses.spanned opened
  obtain ⟨turn, shape, divided⟩ := encloses.parts.turn
  rw [shape, ← List.append_assoc] at spanned
  exact ⟨condition, inner ++ (ifClosing ++ after), inner.length, turn, encloses.text,
    encloses.closed, encloses.trimmed, stands_behind .closing inner after, encloses.closes,
    encloses.stop_eq, spanned, divided⟩

/-- The markers of an inner conditional neither end nor divide the one around it. -/
theorem conditionalAt?_balanced_nested :
    stands .opening "x@if( a )@if(b)p@else q@endif@else r@endif y".toList 1 = true
    ∧ ∃ condition body place turn,
        " a )@if(b)p@else q@endif@else r@endif y".toList = condition ++ ')' :: body
        ∧ trim condition = ['a'] ∧ Closes 1 body place
        ∧ 42 = 1 + 4 + condition.length + 1 + place + 6
        ∧ "@if( a )@if(b)p@else q@endif@else r@endif".toList
          = ifOpening ++ condition ++ [')'] ++ "@if(b)p@else q@endif".toList ++ turn ++ ifClosing := by
  have opened : stands .opening "x@if( a )@if(b)p@else q@endif@else r@endif y".toList 1 = true := by
    decide
  have read : conditionalAt? "x@if( a )@if(b)p@else q@endif@else r@endif y".toList (1 : Nat)
      = some (⟨['a'], "@if(b)p@else q@endif".toList, " r".toList⟩, 42) := by decide +kernel
  obtain ⟨condition, body, place, turn, text, -, trimmed, -, closes, stop, spanned, -⟩ :=
    (conditionalAt?_balanced opened).2 _ _ read
  exact ⟨opened, condition, body, place, turn, text, trimmed.symm, closes, stop, spanned⟩

end StaticSite.Template
