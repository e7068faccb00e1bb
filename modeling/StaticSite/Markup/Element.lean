import StaticSite.Text.Scanner
import StaticSite.Text.Search

/-!
# Elements that are read as a whole

An element of a given set of tags runs from its opening tag to the first closing tag of the same
name. Tag names are read in any letter case; what stands between the tags is not looked at, so
elements of other names inside it do not count.
-/

namespace StaticSite.Markup

open StaticSite.Text

/-- A letter without its case, as tag names are compared. -/
def caseless (c : Char) : Char :=
  if isAsciiUpper c then Char.ofNat (c.toNat + 32) else if c = 'İ' then 'i' else c

/-- Whether `c` is a form of the small letter `letter`. -/
def isFormOf (letter c : Char) : Bool :=
  caseless c == letter || (letter == 's' && c == 'ſ') || (letter == 'i' && c == 'ı')

/-- A tag name in any case at the front of a text: the name as written, and the rest. -/
def nameFront? : (tag : List Char) → List Char → Option (List Char × List Char)
  | [], s => some ([], s)
  | _ :: _, [] => none
  | letter :: tag, c :: s =>
    if isFormOf letter c then (nameFront? tag s).map fun r => (c :: r.1, r.2) else none

/-- The text after an opening tag whose name has been read: attributes start with a blank and run
to the next `>`. -/
def openingEnd? : List Char → Option (List Char)
  | [] => none
  | c :: s =>
    if c = '>' then some s
    else if isBlank c then (cutAt? ['>'] s).map Prod.snd else none

/-- Reads the letters of a name in any case. -/
def sameNameFront? : (name : List Char) → List Char → Option (List Char)
  | [], s => some s
  | _ :: _, [] => none
  | d :: name, c :: s => if caseless d = caseless c then sameNameFront? name s else none

/-- The text after a closing tag at the front: `</`, the name, blanks and `>`. -/
def closingFront? (name : List Char) (s : List Char) : Option (List Char) :=
  match s with
  | '<' :: '/' :: after =>
    match sameNameFront? name after with
    | some rest =>
      match rest.dropWhile isBlank with
      | '>' :: tail => some tail
      | _ => none
    | none => none
  | _ => none

/-- The text after the first closing tag. -/
def afterClosing? (name : List Char) : List Char → Option (List Char)
  | [] => none
  | c :: s =>
    match closingFront? name (c :: s) with
    | some rest => some rest
    | none => afterClosing? name s

/-- The text after an element of the given tag at the front. -/
def elementFront? (tag s : List Char) : Option (List Char) :=
  match s with
  | '<' :: after =>
    match nameFront? tag after with
    | some (name, rest) => (openingEnd? rest).bind (afterClosing? name)
    | none => none
  | _ => none

theorem nameFront?_eq_append {tag s name rest : List Char}
    (found : nameFront? tag s = some (name, rest)) : s = name ++ rest := by
  induction tag generalizing s name with
  | nil =>
    simp only [nameFront?, Option.some.injEq, Prod.mk.injEq] at found
    simp [← found.1, ← found.2]
  | cons letter tag ih =>
    cases s with
    | nil => simp [nameFront?] at found
    | cons c s =>
      simp only [nameFront?] at found
      split at found
      · simp only [Option.map_eq_some_iff, Prod.mk.injEq, Prod.exists] at found
        obtain ⟨inner, tail, read, rfl, rfl⟩ := found
        simp [ih read]
      · simp at found

theorem openingEnd?_suffix {s rest : List Char} (found : openingEnd? s = some rest) :
    ∃ front, s = front ++ rest := by
  cases s with
  | nil => simp [openingEnd?] at found
  | cons c s =>
    simp only [openingEnd?] at found
    split at found
    · exact ⟨[c], by simp_all⟩
    · split at found
      · simp only [Option.map_eq_some_iff, Prod.exists] at found
        obtain ⟨before, after, cut, rfl⟩ := found
        exact ⟨c :: before ++ ['>'], by simp [cutAt?_eq_append cut]⟩
      · simp at found

theorem sameNameFront?_suffix {name s rest : List Char}
    (found : sameNameFront? name s = some rest) : ∃ front, s = front ++ rest := by
  induction name generalizing s with
  | nil => exact ⟨[], by simpa [sameNameFront?] using found⟩
  | cons d name ih =>
    cases s with
    | nil => simp [sameNameFront?] at found
    | cons c s =>
      simp only [sameNameFront?] at found
      split at found
      · obtain ⟨front, same⟩ := ih found
        exact ⟨c :: front, by simp [same]⟩
      · simp at found

theorem dropWhile_suffix (p : Char → Bool) (s : List Char) :
    ∃ front, s = front ++ s.dropWhile p :=
  ⟨s.takeWhile p, (List.takeWhile_append_dropWhile ..).symm⟩

theorem closingFront?_suffix {name s rest : List Char}
    (found : closingFront? name s = some rest) : ∃ front, s = front ++ rest := by
  unfold closingFront? at found
  split at found
  · split at found
    next after _ tail read =>
      split at found
      next blanks last =>
        obtain ⟨front, same⟩ := sameNameFront?_suffix read
        obtain ⟨gap, whole⟩ := dropWhile_suffix isBlank tail
        simp only [Option.some.injEq] at found
        exact ⟨'<' :: '/' :: front ++ gap ++ ['>'], by rw [same, whole, last]; simp [found]⟩
      · simp at found
    · simp at found
  · simp at found

theorem afterClosing?_suffix {name s rest : List Char}
    (found : afterClosing? name s = some rest) : ∃ front, s = front ++ rest := by
  induction s with
  | nil => simp [afterClosing?] at found
  | cons c s ih =>
    simp only [afterClosing?] at found
    split at found
    next closed =>
      simp only [Option.some.injEq] at found
      exact found ▸ closingFront?_suffix closed
    · obtain ⟨front, same⟩ := ih found
      exact ⟨c :: front, by simp [same]⟩

theorem elementFront?_suffix {tag s rest : List Char}
    (found : elementFront? tag s = some rest) : ∃ front, s = '<' :: front ++ rest := by
  unfold elementFront? at found
  split at found
  · split at found
    next name after read =>
      simp only [Option.bind_eq_some_iff] at found
      obtain ⟨inner, opened, closed⟩ := found
      obtain ⟨attributes, same⟩ := openingEnd?_suffix opened
      obtain ⟨content, whole⟩ := afterClosing?_suffix closed
      exact ⟨name ++ attributes ++ content, by
        simp [nameFront?_eq_append read, same, whole]⟩
    · simp at found
  · simp at found

/-- The first of the tags of which an element stands at the front decides. -/
def anyElementFront? (tags : List (List Char)) (s : List Char) : Option (List Char) :=
  tags.findSome? fun tag => elementFront? tag s

theorem anyElementFront?_suffix {tags : List (List Char)} {s rest : List Char}
    (found : anyElementFront? tags s = some rest) : ∃ front, s = '<' :: front ++ rest := by
  obtain ⟨tag, _, read⟩ := List.exists_of_findSome?_eq_some found
  exact elementFront?_suffix read

theorem anyElementFront?_shorter {tags : List (List Char)} {s rest : List Char}
    (found : anyElementFront? tags s = some rest) : rest.length < s.length := by
  obtain ⟨front, same⟩ := anyElementFront?_suffix found
  rw [same, List.cons_append, List.length_cons, List.length_append]
  omega

/-- Recognises elements of the given tags. -/
def elements (tags : List (List Char)) : Scanner Unit where
  run s := (anyElementFront? tags s).map fun rest => ((), rest)
  shorter found := by
    simp only [Option.map_eq_some_iff, Prod.mk.injEq, true_and] at found
    obtain ⟨rest, read, rfl⟩ := found
    exact anyElementFront?_shorter read
  suffix found := by
    simp only [Option.map_eq_some_iff, Prod.mk.injEq, true_and] at found
    obtain ⟨rest, read, rfl⟩ := found
    obtain ⟨front, same⟩ := anyElementFront?_suffix read
    exact ⟨_, same⟩

end StaticSite.Markup
