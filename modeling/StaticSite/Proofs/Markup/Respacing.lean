import StaticSite.Proofs.Markup.Remainder
import StaticSite.Proofs.Markup.Squeezing

/-!
# Elements of markup with fewer blanks

Where runs of blanks become shorter, and go altogether only between edges, the elements of a markup
stay the same. An element is read up to its closing tag and no further, so what follows it makes no
difference. What is no element in the longer text is none in the shorter one: names and closing tags
have no edges inside, so where one stands in the shorter text, it stands in the longer one as well.
-/

namespace StaticSite.Markup

open StaticSite.Text

/-! ### The letters of names -/

/-- A character that is no blank and ends no edge. -/
def isInner (c : Char) : Bool := !isBlank c && c != '>' && c != '%'

theorem isInner_eq_true {c : Char} :
    isInner c = true ↔ isBlank c = false ∧ c ≠ '>' ∧ c ≠ '%' := by
  simp [isInner, and_assoc]

theorem isInner_of_ascii {c : Char} (first : 48 ≤ c.toNat) (below : c.toNat < 128)
    (apart : c.toNat ≠ 62) : isInner c = true := by
  have ascii : isAscii c = true := decide_eq_true below
  have solid : isBlank c = false := by
    simp only [isBlank, ascii, if_true, Bool.or_eq_false_iff, Bool.and_eq_false_iff,
      decide_eq_false_iff_not]
    omega
  refine isInner_eq_true.mpr ⟨solid, ?_, ?_⟩
  · rintro rfl
    exact apart rfl
  · rintro rfl
    exact absurd first (by decide)

theorem isInner_of_lower {c : Char} (small : isAsciiLower c = true) : isInner c = true := by
  simp only [isAsciiLower, Bool.and_eq_true, decide_eq_true_eq, Char.le_def,
    UInt32.le_iff_toNat_le] at small
  have first : 97 ≤ c.toNat := small.1
  have last : c.toNat ≤ 122 := small.2
  exact isInner_of_ascii (by omega) (by omega) (by omega)

theorem caseless_of_not_inner {c : Char} (outer : isInner c = false) : caseless c = c := by
  have big : isAsciiUpper c = false := by
    by_contra upper
    simp only [isAsciiUpper, Bool.not_eq_false, Bool.and_eq_true, decide_eq_true_eq, Char.le_def,
      UInt32.le_iff_toNat_le] at upper
    have first : 65 ≤ c.toNat := upper.1
    have last : c.toNat ≤ 90 := upper.2
    rw [isInner_of_ascii (by omega) (by omega) (by omega)] at outer
    contradiction
  have undotted : c ≠ 'İ' := by
    rintro rfl
    exact absurd outer (by decide +kernel)
  rw [caseless, big, if_neg Bool.false_ne_true, if_neg undotted]

theorem isInner_of_isAlphanum {c : Char} (letter : c.isAlphanum = true) : isInner c = true :=
  of_isAlphanum (P := fun c => isInner c = true) (by decide +kernel) letter

/-- What is read as a letter of a tag in one place is not blank and ends no edge in another. -/
theorem isInner_of_form {letter c d : Char} (small : isAsciiLower letter = true)
    (form : isFormOf letter c = true) (same : caseless d = caseless c) : isInner d = true := by
  by_contra outer
  rw [Bool.not_eq_true] at outer
  rw [caseless_of_not_inner outer] at same
  subst same
  simp only [isFormOf, Bool.or_eq_true, Bool.and_eq_true, beq_iff_eq] at form
  rcases form with (here | ⟨_, rfl⟩) | ⟨_, rfl⟩
  · rw [here, isInner_of_lower small] at outer
    contradiction
  · exact absurd outer (by decide +kernel)
  · exact absurd outer (by decide +kernel)

/-- A character is a form of one small letter only. -/
theorem form_unique {letter other c : Char} (small : isAsciiLower letter = true)
    (little : isAsciiLower other = true) (one : isFormOf letter c = true)
    (two : isFormOf other c = true) : letter = other := by
  simp only [isFormOf, Bool.or_eq_true, Bool.and_eq_true, beq_iff_eq] at one two
  rcases one with (rfl | ⟨rfl, rfl⟩) | ⟨rfl, rfl⟩
  · rcases two with (rfl | ⟨_, rfl⟩) | ⟨_, rfl⟩
    · rfl
    · exact absurd small (by decide)
    · exact absurd small (by decide)
  · rcases two with (rfl | ⟨rfl, _⟩) | ⟨_, other⟩
    · exact absurd little (by decide)
    · rfl
    · exact absurd other (by decide)
  · rcases two with (rfl | ⟨_, other⟩) | ⟨rfl, _⟩
    · exact absurd little (by decide)
    · exact absurd other (by decide)
    · rfl

/-- A tag of small letters. -/
def IsSmall (tag : List Char) : Prop := ∀ letter ∈ tag, isAsciiLower letter = true

variable {tag name : List Char}

theorem inner_of_spelled
    (spelled : List.Forall₂ (fun letter c => isFormOf letter c = true) tag name)
    (small : IsSmall tag) {close : List Char} (same : close.map caseless = name.map caseless) :
    ∀ c ∈ close, isInner c = true := by
  induction spelled generalizing close with
  | nil =>
    obtain rfl := List.map_eq_nil_iff.mp same
    exact fun _ listed => absurd listed List.not_mem_nil
  | cons form _ ih =>
    obtain ⟨d, tail, rfl, letter, inner⟩ := List.map_eq_cons_iff.mp same
    obtain ⟨first, rest⟩ := List.forall_mem_cons.mp small
    exact List.forall_mem_cons.mpr ⟨isInner_of_form first form letter, ih rest inner⟩

theorem spelled_unique {other : List Char} (small : IsSmall tag) (little : IsSmall other)
    (one : List.Forall₂ (fun letter c => isFormOf letter c = true) tag name)
    (two : List.Forall₂ (fun letter c => isFormOf letter c = true) other name) : tag = other := by
  induction one generalizing other with
  | nil =>
    cases two
    rfl
  | cons form _ ih =>
    cases two with
    | cons form' spelled =>
      obtain ⟨first, rest⟩ := List.forall_mem_cons.mp small
      obtain ⟨second, others⟩ := List.forall_mem_cons.mp little
      rw [form_unique first second form form', ih rest others spelled]

/-! ### Elements are read up to their end -/

theorem openingEnd?_local {s rest : List Char} (found : openingEnd? s = some rest) :
    ∃ attributes, (∀ c ∈ (attributes ++ ['>']).head?, isInner c = false) ∧
      s = attributes ++ '>' :: rest ∧
      ∀ other, openingEnd? (attributes ++ '>' :: other) = some other := by
  cases s with
  | nil => contradiction
  | cons c s =>
    rw [openingEnd?] at found
    split at found
    next same =>
      cases found
      refine ⟨[], by simp [isInner], by rw [same, List.nil_append], fun _ => rfl⟩
    next differs =>
      split at found
      next blank =>
        obtain ⟨⟨before, after⟩, cut, same⟩ := Option.map_eq_some_iff.mp found
        cases same
        refine ⟨c :: before, by simp [isInner, blank], ?_, fun other => ?_⟩
        · rw [cutAt?_eq_append cut, List.append_assoc, List.singleton_append, List.cons_append]
        · rw [List.cons_append, openingEnd?, if_neg differs, if_pos blank,
            cutAt?_char (cutAt?_char_notMem cut), Option.map_some]
      next => contradiction

/-- A closing tag of a name without edges has its only bracket at its end. -/
theorem Closing.bracket {closing : List Char} (closes : Closing name closing)
    (inner : ∀ close : List Char, close.map caseless = name.map caseless →
      ∀ c ∈ close, isInner c = true) :
    ∃ front, closing = front ++ ['>'] ∧ '>' ∉ front := by
  obtain ⟨same, blank⟩ := closes
  next close gap =>
    have letters : '>' ∉ close := notMem_of_forall (inner close same) (by decide)
    have blanks : '>' ∉ gap := notMem_of_forall blank (by decide)
    exact ⟨'<' :: '/' :: (close ++ gap), by simp, by simp [letters, blanks]⟩

/-- What ends with the first bracket of a text does not reach behind a bracket in it. -/
theorem prefix_of_bracket {front s rest : List Char} (absent : '>' ∉ front)
    (begins : front ++ ['>'] <+: s ++ '>' :: rest) : front ++ ['>'] <+: s ++ ['>'] := by
  have other : s ++ ['>'] <+: s ++ '>' :: rest := ⟨rest, by simp⟩
  refine List.prefix_of_prefix_length_le begins other ?_
  by_contra longer
  have shorter : (s ++ ['>']).length ≤ front.length := by
    simp only [List.length_append, List.length_singleton] at longer ⊢
    omega
  have inside : s ++ ['>'] <+: front :=
    List.prefix_of_prefix_length_le other ((List.prefix_append _ _).trans begins) shorter
  exact absent (inside.subset (List.mem_append_right _ List.mem_cons_self))

theorem afterClosing?_local {s rest : List Char}
    (inner : ∀ close : List Char, close.map caseless = name.map caseless →
      ∀ c ∈ close, isInner c = true)
    (found : afterClosing? name s = some rest) :
    ∃ body, s = body ++ rest ∧ ∀ other, afterClosing? name (body ++ other) = some other := by
  induction s with
  | nil => contradiction
  | cons c s ih =>
    rw [afterClosing?] at found
    split at found
    next closed =>
      cases found
      obtain ⟨closing, closes, whole⟩ := closingFront?_closing closed
      refine ⟨closing, whole, fun other => ?_⟩
      have here := closingFront?_append closes other
      obtain ⟨_, _⟩ := closes
      rw [List.cons_append] at here ⊢
      rw [afterClosing?, here]
    next absent =>
      obtain ⟨body, rfl, read⟩ := ih found
      obtain ⟨front, ends⟩ := afterClosing?_ends found
      obtain rfl : body = front ++ ['>'] := by
        rw [← List.singleton_append, ← List.append_assoc] at ends
        exact (List.append_cancel_right ends).symm
      refine ⟨c :: (front ++ ['>']), rfl, fun other => ?_⟩
      have none : closingFront? name (c :: (front ++ ['>'] ++ other)) = none := by
        rw [Option.eq_none_iff_forall_ne_some]
        intro after closed
        obtain ⟨closing, closes, whole⟩ := closingFront?_closing closed
        obtain ⟨text, rfl, free⟩ := closes.bracket inner
        -- The tag would end in what has been looked at, and so stand there in the first text too.
        have begins : text ++ ['>'] <+: (c :: front) ++ '>' :: other := by
          refine ⟨after, ?_⟩
          rw [← whole]
          simp
        obtain ⟨more, shape⟩ := prefix_of_bracket free begins
        have again := closingFront?_append closes (more ++ rest)
        rw [← List.append_assoc, shape] at again
        rw [show c :: (front ++ ['>'] ++ rest) = c :: front ++ ['>'] ++ rest from by simp, again]
          at absent
        contradiction
      rw [List.cons_append, afterClosing?, none]
      exact read other

/-- An element that is found at the front: its name and what is behind it up to its end. -/
structure Front (tag name behind : List Char) : Prop where
  spelled : List.Forall₂ (fun letter c => isFormOf letter c = true) tag name
  inner : ∀ c ∈ name, isInner c = true
  ends : ∀ rest, ∀ c ∈ (behind ++ rest).head?, isInner c = false
  read : ∀ rest, elementFront? tag ('<' :: (name ++ (behind ++ rest))) = some rest

theorem elementFront?_front {s rest : List Char} (small : IsSmall tag)
    (found : elementFront? tag s = some rest) :
    ∃ name behind, Front tag name behind ∧ s = '<' :: (name ++ (behind ++ rest)) := by
  unfold elementFront? at found
  split at found
  next after =>
    split at found
    next name inside named =>
      obtain ⟨content, opened, closed⟩ := Option.bind_eq_some_iff.mp found
      have spelled := nameFront?_spelled named
      have inner := fun close => @inner_of_spelled tag name spelled small close
      obtain ⟨attributes, apart, rfl, opens⟩ := openingEnd?_local opened
      obtain ⟨body, rfl, closes⟩ := afterClosing?_local inner closed
      refine ⟨name, attributes ++ '>' :: body, ⟨spelled, inner name rfl, ?_, fun rest => ?_⟩, ?_⟩
      · intro rest c first
        refine apart c ?_
        cases attributes <;> exact first
      · simp only [elementFront?, nameFront?_append spelled, List.append_assoc, List.cons_append,
          opens, Option.bind_some, closes]
      · rw [nameFront?_eq_append named]
        simp
    next => contradiction
  next => contradiction

theorem Front.takeWhile {behind : List Char} (front : Front tag name behind) (rest : List Char) :
    (name ++ (behind ++ rest)).takeWhile isInner = name := by
  rw [List.takeWhile_append_of_pos front.inner]
  cases shape : behind ++ rest with
  | nil => simp
  | cons c tail =>
    have other : isInner c = false := front.ends rest c (by rw [shape]; rfl)
    rw [List.takeWhile_cons_of_neg (by simp [other]), List.append_nil]

/-- The name of an element ends where its characters end, so it is of one tag only. -/
theorem Front.unique {other others behind after rest more : List Char}
    (one : Front tag name behind) (two : Front other others after) (small : IsSmall tag)
    (little : IsSmall other)
    (same : name ++ (behind ++ rest) = others ++ (after ++ more)) : tag = other := by
  have names := congrArg (List.takeWhile isInner) same
  rw [one.takeWhile, two.takeWhile] at names
  exact spelled_unique small little one.spelled (names ▸ two.spelled)

/-- What follows an element makes no difference to it. -/
theorem anyElementFront?_local {tags : List (List Char)} {front rest : List Char}
    (small : ∀ tag ∈ tags, IsSmall tag)
    (found : anyElementFront? tags (front ++ rest) = some rest) (other : List Char) :
    anyElementFront? tags (front ++ other) = some other := by
  obtain ⟨tag, listed, read⟩ := List.exists_of_findSome?_eq_some found
  obtain ⟨name, behind, one, whole⟩ := elementFront?_front (small tag listed) read
  obtain rfl : front = '<' :: (name ++ behind) := by
    have shape : front ++ rest = '<' :: (name ++ behind) ++ rest := by rw [whole]; simp
    exact List.append_cancel_right shape
  have text : '<' :: (name ++ behind) ++ other = '<' :: (name ++ (behind ++ other)) := by simp
  rw [text]
  have present := one.read other
  -- Another tag may be recognised there, but it has to end at the same place.
  cases again : anyElementFront? tags ('<' :: (name ++ (behind ++ other))) with
  | none =>
    rw [anyElementFront?, List.findSome?_eq_none_iff] at again
    rw [again tag listed] at present
    contradiction
  | some after =>
    obtain ⟨next, inside, found⟩ := List.exists_of_findSome?_eq_some again
    obtain ⟨others, more, two, shape⟩ := elementFront?_front (small next inside) found
    obtain rfl := one.unique two (small tag listed) (small next inside) (List.cons.inj shape).2
    rw [← found, present]

/-! ### Texts with fewer blanks -/

/-- A character that an edge ends with. -/
def endsEdge (c : Char) : Bool := c == '>' || c == '%'

/-- An edge begins here, of a tag, of an element, or of percent signs next to an element. -/
inductive Enters : List Char → Prop where
  | bracket (s : List Char) : Enters ('<' :: s)
  | percents (s : List Char) : Enters ('%' :: '%' :: s)
  | percent (s : List Char) : Enters ('%' :: '<' :: s)

/-- The second text is the first one with shorter runs of blanks. A run goes altogether only at the
end and between edges; the flag tells whether the character in front ends one. -/
inductive Tightened : Bool → List Char → List Char → Prop where
  | ended {edge : Bool} {gap : List Char} (blanks : IsBlanks gap) : Tightened edge gap []
  | same {edge : Bool} {c : Char} {s t : List Char} (rest : Tightened (endsEdge c) s t) :
      Tightened edge (c :: s) (c :: t)
  | shorter {edge : Bool} {gap : List Char} {c : Char} {s t : List Char} (blanks : IsBlanks gap)
      (nonempty : gap ≠ []) (blank : isBlank c = true) (rest : Tightened false s t) :
      Tightened edge (gap ++ s) (c :: t)
  | closed {gap s t : List Char} (blanks : IsBlanks gap) (enters : Enters t)
      (rest : Tightened false s t) : Tightened true (gap ++ s) t

namespace Tightened

variable {edge : Bool} {c : Char} {s t : List Char}

theorem endsEdge_inner (inner : isInner c = true) : endsEdge c = false := by
  obtain ⟨-, bracket, percent⟩ := isInner_eq_true.mp inner
  simp [endsEdge, bracket, percent]

theorem endsEdge_blank (blank : isBlank c = true) : endsEdge c = false := by
  by_contra ends
  simp only [endsEdge, Bool.not_eq_false, Bool.or_eq_true, beq_iff_eq] at ends
  rcases ends with rfl | rfl
  · exact absurd blank (by decide)
  · exact absurd blank (by decide)

/-- A character that is no blank has been there, and blanks in front of it have gone only where an
edge begins with it. -/
theorem solid (tight : Tightened edge s (c :: t)) (solid : isBlank c = false) :
    ∃ gap rest, s = gap ++ c :: rest ∧ IsBlanks gap ∧ Tightened (endsEdge c) rest t ∧
      (gap ≠ [] → edge = true ∧ Enters (c :: t)) := by
  generalize shape : c :: t = text at tight
  induction tight with
  | ended => contradiction
  | same rest =>
    cases shape
    exact ⟨[], _, rfl, .nil, rest, fun filled => absurd rfl filled⟩
  | shorter _ _ blank _ =>
    cases shape
    rw [solid] at blank
    contradiction
  | closed blanks enters _ ih =>
    subst shape
    obtain ⟨gap, rest, rfl, -, inner, more⟩ := ih rfl
    cases gap with
    | nil => exact ⟨_, rest, rfl, blanks, inner, fun _ => ⟨rfl, enters⟩⟩
    | cons d gap => exact absurd (more (List.cons_ne_nil _ _)).1 (by decide)

/-- Without an edge in front or an edge that begins here, no blanks have gone. -/
theorem solid_apart (tight : Tightened edge s (c :: t)) (other : isBlank c = false)
    (apart : edge = false ∨ ¬ Enters (c :: t)) :
    ∃ rest, s = c :: rest ∧ Tightened (endsEdge c) rest t := by
  obtain ⟨gap, rest, rfl, -, inner, more⟩ := tight.solid other
  cases gap with
  | nil => exact ⟨rest, rfl, inner⟩
  | cons d gap =>
    obtain ⟨ends, enters⟩ := more (List.cons_ne_nil _ _)
    rcases apart with none | none
    · rw [none] at ends
      contradiction
    · exact absurd enters none

/-- A blank has been there, and maybe more of them. -/
theorem blank (tight : Tightened edge s (c :: t)) (blank : isBlank c = true) :
    ∃ gap rest, s = gap ++ rest ∧ IsBlanks gap ∧ gap ≠ [] ∧ Tightened false rest t := by
  generalize shape : c :: t = text at tight
  cases tight with
  | ended => contradiction
  | same rest =>
    cases shape
    rw [endsEdge_blank blank] at rest
    exact ⟨[c], _, rfl, by simp [IsBlanks, blank], List.cons_ne_nil _ _, rest⟩
  | shorter blanks nonempty _ rest =>
    cases shape
    exact ⟨_, _, rfl, blanks, nonempty, rest⟩
  | closed _ enters _ =>
    subst shape
    cases enters <;> exact absurd blank (by decide)

/-- A text without blanks and edges has been there as it is. -/
theorem inner {u : List Char} (inner : ∀ c ∈ u, isInner c = true)
    (tight : Tightened false s (u ++ t)) : ∃ rest, s = u ++ rest ∧ Tightened false rest t := by
  induction u generalizing s with
  | nil => exact ⟨s, rfl, tight⟩
  | cons c u ih =>
    obtain ⟨first, others⟩ := List.forall_mem_cons.mp inner
    obtain ⟨rest, rfl, more⟩ := tight.solid_apart (isInner_eq_true.mp first).1 (.inl rfl)
    rw [endsEdge_inner first] at more
    obtain ⟨tail, rfl, last⟩ := ih others more
    exact ⟨tail, rfl, last⟩

/-- Blanks have been blanks. -/
theorem blanks {gap : List Char} (blanks : IsBlanks gap) (tight : Tightened false s (gap ++ t)) :
    ∃ more rest, s = more ++ rest ∧ IsBlanks more ∧ Tightened false rest t := by
  induction gap generalizing s with
  | nil => exact ⟨[], s, rfl, .nil, tight⟩
  | cons c gap ih =>
    obtain ⟨first, others⟩ := List.forall_mem_cons.mp blanks
    obtain ⟨front, rest, rfl, one, -, inner⟩ := tight.blank first
    obtain ⟨more, tail, rfl, two, last⟩ := ih others inner
    refine ⟨front ++ more, tail, by simp, ?_, last⟩
    exact fun d listed => (List.mem_append.mp listed).elim (one d) (two d)

/-- Whatever stands in front, what follows has been behind it. -/
theorem behind {u : List Char} (tight : Tightened edge s (u ++ t)) :
    ∃ front rest after, s = front ++ rest ∧ Tightened after rest t := by
  induction u generalizing s edge with
  | nil => exact ⟨[], s, edge, rfl, tight⟩
  | cons c u ih =>
    cases kind : isBlank c with
    | true =>
      obtain ⟨front, rest, rfl, -, -, inner⟩ := tight.blank kind
      obtain ⟨more, tail, after, rfl, last⟩ := ih inner
      exact ⟨front ++ more, tail, after, by simp, last⟩
    | false =>
      obtain ⟨front, rest, rfl, -, inner, -⟩ := tight.solid kind
      obtain ⟨more, tail, after, rfl, last⟩ := ih inner
      exact ⟨front ++ c :: more, tail, after, by simp, last⟩

/-! ### Elements and tokens in them -/

/-- A closing tag has been one. -/
theorem closing {closing : List Char} (small : IsSmall tag)
    (spelled : List.Forall₂ (fun letter c => isFormOf letter c = true) tag name)
    (closes : Closing name closing) (tight : Tightened edge s t) (inside : closing <:+: t) :
    ∃ before, Closing name before ∧ before <:+: s := by
  obtain ⟨same, blank⟩ := closes
  next close gap =>
    obtain ⟨front, back, rfl⟩ := inside
    have shape : front ++ '<' :: '/' :: (close ++ (gap ++ ['>'])) ++ back
        = front ++ '<' :: '/' :: (close ++ (gap ++ '>' :: back)) := by simp
    rw [shape] at tight
    obtain ⟨before, rest, after, rfl, begins⟩ := tight.behind
    obtain ⟨blanks, rest, rfl, -, opened, -⟩ := begins.solid (by decide)
    obtain ⟨rest, rfl, slashed⟩ := opened.solid_apart (by decide) (.inl rfl)
    obtain ⟨rest, rfl, named⟩ := slashed.inner (inner_of_spelled spelled small same)
    obtain ⟨more, rest, rfl, other, ended⟩ := named.blanks blank
    obtain ⟨rest, rfl, -⟩ := ended.solid_apart (by decide) (.inl rfl)
    exact ⟨_, .intro same other, before ++ blanks, rest, by simp⟩

/-- Where an element begins, one has begun. -/
theorem begins (small : IsSmall tag) (tight : Tightened (endsEdge c) s t)
    (begins : Begins tag (c :: t)) : Begins tag (c :: s) := by
  generalize shape : c :: t = text at begins
  obtain ⟨spelled, apart, closes, behind⟩ := begins
  next name attributes rest closing =>
    obtain ⟨rfl, rfl⟩ := List.cons.inj shape
    obtain ⟨after, rfl, named⟩ := tight.inner (inner_of_spelled spelled small rfl)
    cases attributes with
    | nil =>
      obtain ⟨body, rfl, ended⟩ := named.solid_apart (by decide) (.inl rfl)
      obtain ⟨before, closed, inside⟩ := ended.closing small spelled closes behind
      show Begins tag ('<' :: (name ++ ([] ++ '>' :: body)))
      exact .intro spelled apart closed inside
    | cons b attributes =>
      -- The attributes may have lost blanks, but one is left behind the name.
      have blank : isBlank b = true := apart b rfl
      obtain ⟨gap, inner, rfl, blanks, nonempty, set⟩ := named.blank blank
      obtain ⟨front, inner, edge, rfl, bracket⟩ := set.behind
      obtain ⟨more, body, rfl, -, ended, -⟩ := bracket.solid (by decide)
      obtain ⟨before, closed, inside⟩ := ended.closing small spelled closes behind
      have whole : gap ++ (front ++ (more ++ '>' :: body))
          = gap ++ front ++ more ++ '>' :: body := by simp
      rw [whole]
      refine .intro spelled (fun d first => ?_) closed inside
      obtain ⟨e, gap, rfl⟩ := List.exists_cons_of_ne_nil nonempty
      cases first
      exact blanks _ List.mem_cons_self

/-- The start of a token has been one: no edge begins between its percent signs and its word. -/
theorem tokenStart {store : Store} (lettered : store.Lettered) (tight : Tightened edge s t)
    (inside : store.tokenStart <:+: t) : store.tokenStart <:+: s := by
  have word : "VERBATIM_".toList ++ store.nonce ++ ['_']
      = 'V' :: ("ERBATIM_".toList ++ store.nonce ++ ['_']) := by
    have letters : "VERBATIM_".toList = 'V' :: "ERBATIM_".toList := by decide
    rw [letters]
    simp
  have inner : ∀ c ∈ "ERBATIM_".toList ++ store.nonce ++ ['_'], isInner c = true := by
    have letters : ∀ c ∈ "ERBATIM_".toList, isInner c = true := List.all_eq_true.mp (by decide)
    intro c listed
    rw [List.append_assoc, List.mem_append, List.mem_append, List.mem_singleton] at listed
    rcases listed with here | here | rfl
    · exact letters c here
    · exact isInner_of_isAlphanum (lettered c here)
    · decide
  obtain ⟨front, back, rfl⟩ := inside
  rw [Store.tokenStart_eq, word] at tight ⊢
  rw [List.append_assoc] at tight
  obtain ⟨before, rest, after, rfl, begins⟩ := tight.behind
  obtain ⟨gap, rest, rfl, -, second, -⟩ := begins.solid (by decide)
  -- Blanks go in front of the first percent sign only: no edge begins with the second one, which
  -- the word follows, or with the word.
  obtain ⟨rest, rfl, third⟩ := second.solid_apart (by decide) (.inr nofun)
  obtain ⟨rest, rfl, more⟩ := third.solid_apart (by decide) (.inr nofun)
  obtain ⟨rest, rfl, -⟩ := more.inner inner
  exact ⟨before ++ gap, rest, by simp⟩

end Tightened

/-! ### Pieces with fewer blanks -/

/-- The second pieces are the first ones with shorter runs of blanks. A run goes altogether only at
the end and between edges; the flag tells whether what is in front ends with one. -/
inductive Respaced : Bool → List (Piece Unit) → List (Piece Unit) → Prop where
  | ended {edge : Bool} {gap : List Char} (blanks : IsBlanks gap) :
      Respaced edge (gap.map .plain) []
  | plain {edge : Bool} {c : Char} {p q : List (Piece Unit)} (rest : Respaced (endsEdge c) p q) :
      Respaced edge (.plain c :: p) (.plain c :: q)
  | found {edge : Bool} {item : Unit} {source : List Char} {p q : List (Piece Unit)}
      (rest : Respaced true p q) : Respaced edge (.found item source :: p) (.found item source :: q)
  | shorter {edge : Bool} {gap : List Char} {c : Char} {p q : List (Piece Unit)}
      (blanks : IsBlanks gap) (nonempty : gap ≠ []) (blank : isBlank c = true)
      (rest : Respaced false p q) : Respaced edge (gap.map .plain ++ p) (.plain c :: q)
  | closed {gap : List Char} {p q : List (Piece Unit)} (blanks : IsBlanks gap)
      (enters : Enters (q.flatMap Piece.source)) (rest : Respaced false p q) :
      Respaced true (gap.map .plain ++ p) q

namespace Respaced

variable {edge : Bool} {p q : List (Piece Unit)}

theorem source_map_plain (s : List Char) (pieces : List (Piece Unit)) :
    (s.map Piece.plain ++ pieces).flatMap Piece.source = s ++ pieces.flatMap Piece.source := by
  rw [List.flatMap_append, Store.flatMap_plain _ fun _ => rfl]

theorem tightened_source {front s t : List Char} (rest : Tightened true s t) :
    Tightened edge (front ++ ['>'] ++ s) (front ++ ['>'] ++ t) := by
  induction front generalizing edge with
  | nil => exact .same rest
  | cons c front ih => exact .same ih

theorem tightened (respaced : Respaced edge p q)
    (ends : ∀ item source, Piece.found item source ∈ p → ∃ body, source = body ++ ['>']) :
    Tightened edge (p.flatMap Piece.source) (q.flatMap Piece.source) := by
  induction respaced with
  | @ended edge gap blanks =>
    have whole := source_map_plain gap []
    rw [List.append_nil] at whole
    rw [whole]
    exact .ended (by simpa using blanks)
  | plain _ ih => exact .same (ih fun item source listed => ends item source (.tail _ listed))
  | found _ ih =>
    -- An element stays as it is, and its last bracket is the edge that blanks may follow.
    obtain ⟨body, shape⟩ := ends _ _ List.mem_cons_self
    rw [List.flatMap_cons, List.flatMap_cons, Piece.source, shape]
    exact tightened_source (ih fun item source listed => ends item source (.tail _ listed))
  | shorter blanks nonempty blank _ ih =>
    rw [source_map_plain]
    exact .shorter blanks nonempty blank
      (ih fun item source listed => ends item source (List.mem_append_right _ listed))
  | closed blanks enters _ ih =>
    rw [source_map_plain]
    exact .closed blanks enters
      (ih fun item source listed => ends item source (List.mem_append_right _ listed))

end Respaced

/-- No element begins in blanks. -/
theorem elements_skip_blanks (tags : List (List Char)) {gap : List Char} (blanks : IsBlanks gap)
    (s : List Char) : Skips (elements tags).run gap s := by
  have absent : '<' ∉ gap := notMem_of_forall blanks (by decide)
  exact Skips.of_not_mem (fun _ rest differs =>
    Option.map_eq_none_iff.mpr (anyElementFront?_of_ne rest differs)) absent s

/-- Markup with fewer blanks is read as the pieces that it is made of. -/
theorem pieces_respaced {tags : List (List Char)} (small : ∀ tag ∈ tags, IsSmall tag)
    {edge : Bool} {p q : List (Piece Unit)} (respaced : Respaced edge p q)
    (read : (elements tags).pieces (p.flatMap Piece.source) = p) :
    (elements tags).pieces (q.flatMap Piece.source) = q := by
  have foreign {c : Char} (blank : isBlank c = true) : c ≠ '<' := by
    rintro rfl
    contradiction
  -- The induction is on how the blanks are left out, one piece of the shorter text at a time.
  induction respaced with
  | ended => exact Scanner.pieces_nil _
  | @plain edge c p q rest ih =>
    obtain ⟨absent, inner⟩ := Scanner.plain_of_pieces read
    have none : anyElementFront? tags (c :: p.flatMap Piece.source) = none :=
      Option.map_eq_none_iff.mp absent
    rw [anyElementFront?_eq_none_iff] at none
    -- An element that begins in the shorter text began in the longer one.
    have tight : Tightened (endsEdge c) (p.flatMap Piece.source) (q.flatMap Piece.source) :=
      rest.tightened fun item source listed => elements_ends (inner ▸ listed)
    have still : (elements tags).run (c :: q.flatMap Piece.source) = .none := by
      refine Option.map_eq_none_iff.mpr ?_
      refine anyElementFront?_eq_none_iff.mpr fun tag listed begins => ?_
      exact none tag listed (tight.begins (small tag listed) begins)
    show (elements tags).pieces (c :: q.flatMap Piece.source) = _
    rw [Scanner.pieces_plain still, ih inner]
  | @found edge item source p q rest ih =>
    obtain ⟨after, whole, present, inner⟩ := Scanner.found_of_pieces read
    obtain rfl : p.flatMap Piece.source = after := List.append_cancel_left whole
    obtain ⟨after, found, same⟩ := Option.map_eq_some_iff.mp present
    cases same
    have still : (elements tags).run (source ++ q.flatMap Piece.source)
        = some ((), q.flatMap Piece.source) :=
      congrArg (Option.map _) (anyElementFront?_local small found _)
    show (elements tags).pieces (source ++ q.flatMap Piece.source) = _
    rw [Scanner.pieces_found still, ih inner]
  | @shorter edge gap c p q blanks _ blank rest ih =>
    rw [Respaced.source_map_plain, Scanner.pieces_skip (elements_skip_blanks tags blanks _)] at read
    have still : (elements tags).run (c :: q.flatMap Piece.source) = .none :=
      Option.map_eq_none_iff.mpr (anyElementFront?_of_ne _ (foreign blank))
    show (elements tags).pieces (c :: q.flatMap Piece.source) = _
    rw [Scanner.pieces_plain still, ih (List.append_cancel_left read)]
  | closed blanks _ _ ih =>
    rw [Respaced.source_map_plain, Scanner.pieces_skip (elements_skip_blanks tags blanks _)] at read
    exact ih (List.append_cancel_left read)

end StaticSite.Markup
