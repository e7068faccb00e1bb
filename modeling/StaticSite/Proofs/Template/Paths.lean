import StaticSite.Proofs.Number.Digits
import StaticSite.Proofs.Text.Skipping
import StaticSite.Proofs.Value.Lookup
import StaticSite.Proofs.Value.Printable
import StaticSite.Template.Loop

/-!
# Where paths lead

A path is followed part by part: a part is a key of a mapping, or, when it is a text of digits, an
index of a sequence. It leads to a value, or nowhere. There is a third way: digits in the wide
sense that write no number are taken for an index and then refused, and so are more digits than an
integer may have. A path that stops at such a part is a fault, and so are the placeholders of a
markup exactly if one of their paths stops or reaches an integer that is too long to be written.
-/

namespace StaticSite.Template

open StaticSite.Text
open StaticSite.Number (IsDigits IsDecimals decimalsNat)

/-! ### The parts of a path -/

/-- The texts between the dots of a path, blanks around it apart. -/
structure Parts (path : List Char) (parts : List (List Char)) : Prop where
  nonempty : parts ≠ []
  solid : ∀ part ∈ parts, '.' ∉ part
  joined : joinWith ['.'] parts = trim path

theorem segments_parts (path : List Char) : Parts path (segments path) := by
  obtain ⟨joined, solid⟩ := splitFrom_char (Nat.lt_succ_self (trim path).length)
    (List.not_mem_nil (a := '.'))
  obtain ⟨first, rest, shape⟩ := splitFrom_head ['.'] ((trim path).length + 1) 0 [] (trim path)
  refine ⟨?_, solid, joined⟩
  rw [segments, splitOn, shape]
  exact List.cons_ne_nil _ _

/-- A text has only these parts. -/
theorem Parts.eq_segments {path : List Char} {parts : List (List Char)} (split : Parts path parts) :
    parts = segments path := by
  have own := segments_parts path
  exact joinWith_char_inj split.nonempty own.nonempty split.solid own.solid
    (split.joined.trans own.joined.symm)

/-! ### One step -/

/-- A part leads from a value to one inside it. -/
inductive Steps : Value → List Char → Value → Prop where
  | key {entries : Mapping.Entries} {part : List Char} {next : Value}
      (present : Mapping.get? (String.ofList part) entries = some next) :
      Steps (.mapping entries) part next
  | index {current : Value} {items : List Value} {part : List Char} {next : Value}
      (sequence : elements? current = some items) (digits : IsDigits part)
      (decimals : IsDecimals part) (item : items[decimalsNat part]? = some next) :
      Steps current part next

/-- A part leads nowhere. -/
inductive Misses : Value → List Char → Prop where
  | key {entries : Mapping.Entries} {part : List Char}
      (absent : Mapping.get? (String.ofList part) entries = none) :
      Misses (.mapping entries) part
  | index {current : Value} {items : List Value} {part : List Char}
      (sequence : elements? current = some items) (digits : IsDigits part)
      (decimals : IsDecimals part) (beyond : items.length ≤ decimalsNat part) :
      Misses current part
  | word {current : Value} {items : List Value} {part : List Char}
      (sequence : elements? current = some items) (word : ¬ IsDigits part) : Misses current part
  | leaf {current : Value} {part : List Char} (bare : elements? current = none)
      (flat : ∀ entries, current ≠ .mapping entries) : Misses current part

/-- A part is taken for an index of a sequence, and writes no number. -/
structure Refuses (current : Value) (part : List Char) : Prop where
  sequence : (elements? current).isSome = true
  digits : IsDigits part
  no_number : ¬ IsDecimals part

variable {scope : Scope} {current next : Value} {part path : List Char} {parts : List (List Char)}

theorem isDigits_iff (part : List Char) :
    (!part.isEmpty && part.all isDigit) = true ↔ IsDigits part := by
  simp only [Bool.and_eq_true, Bool.not_eq_true', List.isEmpty_eq_false_iff, List.all_eq_true]
  exact ⟨fun all => ⟨all.1, all.2⟩, fun text => ⟨text.nonempty, text.digits⟩⟩

theorem child?_sequence {items : List Value} (sequence : elements? current = some items) :
    child? current part = if !part.isEmpty && part.all isDigit then
      match Number.int? 10 part with
      | some index => .ok (items[index.toNat]?)
      | none => .error .wrongValue
    else .ok none := by
  cases current
  case list | tuple =>
    cases sequence
    rfl
  all_goals contradiction

theorem child?_index {items : List Value} (sequence : elements? current = some items)
    (digits : IsDigits part) (decimals : IsDecimals part) :
    child? current part = .ok (items[decimalsNat part]?) := by
  rw [child?_sequence sequence, if_pos ((isDigits_iff part).mpr digits),
    digits.int?_decimals decimals]
  rfl

theorem child?_steps (steps : Steps current part next) : child? current part = .ok (some next) := by
  cases steps with
  | key present => rw [child?, present]
  | index sequence digits decimals item => rw [child?_index sequence digits decimals, item]

theorem child?_misses (misses : Misses current part) : child? current part = .ok none := by
  cases misses with
  | key absent => rw [child?, absent]
  | index sequence digits decimals beyond =>
    rw [child?_index sequence digits decimals, List.getElem?_eq_none beyond]
  | word sequence word =>
    rw [child?_sequence sequence, if_neg fun text => word ((isDigits_iff part).mp text)]
  | leaf bare flat =>
    cases current
    case list | tuple => contradiction
    case mapping entries => exact absurd rfl (flat entries)
    all_goals rfl

theorem child?_refuses (refuses : Refuses current part) :
    child? current part = .error .wrongValue := by
  obtain ⟨items, sequence⟩ := Option.isSome_iff_exists.mp refuses.sequence
  rw [child?_sequence sequence, if_pos ((isDigits_iff part).mpr refuses.digits),
    refuses.digits.int?_eq_none refuses.no_number]

/-- A part leads on, leads nowhere or is refused. -/
theorem steps_or (current : Value) (part : List Char) :
    (∃ next, Steps current part next) ∨ Misses current part ∨ Refuses current part := by
  cases sequence : elements? current with
  | some items =>
    by_cases digits : IsDigits part
    · -- A digit that is not decimal is admitted as an index, and then it cannot be read.
      by_cases decimals : IsDecimals part
      · cases item : items[decimalsNat part]? with
        | some next => exact .inl ⟨next, .index sequence digits decimals item⟩
        | none =>
          exact .inr (.inl (.index sequence digits decimals (List.getElem?_eq_none_iff.mp item)))
      · exact .inr (.inr ⟨by rw [sequence]; rfl, digits, decimals⟩)
    · exact .inr (.inl (.word sequence digits))
  | none =>
    by_cases keyed : ∃ entries, current = .mapping entries
    · obtain ⟨entries, rfl⟩ := keyed
      cases found : Mapping.get? (String.ofList part) entries with
      | some next => exact .inl ⟨next, .key found⟩
      | none => exact .inr (.inl (.key found))
    · exact .inr (.inl (.leaf sequence fun entries same => keyed ⟨entries, same⟩))

/-! ### Whole paths -/

/-- The parts, taken in turn, lead from a value to one inside it. -/
inductive Reaches : Value → List (List Char) → Value → Prop where
  | here {current : Value} : Reaches current [] current
  | step {current next last : Value} {part : List Char} {parts : List (List Char)}
      (first : Steps current part next) (rest : Reaches next parts last) :
      Reaches current (part :: parts) last

/-- Some part has the property at the value that the parts before it reach. -/
def Comes (meets : Value → List Char → Prop) (current : Value) (parts : List (List Char)) : Prop :=
  ∃ front part back reached, parts = front ++ part :: back ∧ Reaches current front reached ∧
    meets reached part

/-- The path ends as soon as a part leads nowhere. -/
def LeadsNowhere (current : Value) (parts : List (List Char)) : Prop := Comes Misses current parts

/-- The path ends at an index that writes no number. -/
def Stops (current : Value) (parts : List (List Char)) : Prop := Comes Refuses current parts

theorem Comes.step {meets : Value → List Char → Prop} (first : Steps current part next)
    (later : Comes meets next parts) : Comes meets current (part :: parts) := by
  obtain ⟨front, last, back, reached, rfl, walked, meet⟩ := later
  exact ⟨part :: front, last, back, reached, rfl, .step first walked, meet⟩

theorem walk_step (steps : Steps current part next) (parts : List (List Char)) :
    walk current (part :: parts) = walk next parts := by
  rw [walk, child?_steps steps]
  rfl

theorem walk_reaches {last : Value} (reaches : Reaches current parts last)
    (more : List (List Char)) : walk current (parts ++ more) = walk last more := by
  induction reaches with
  | here => rfl
  | step first _ ih => rw [List.cons_append, walk_step first, ih]

theorem walk_leadsNowhere (lost : LeadsNowhere current parts) : walk current parts = .ok none := by
  obtain ⟨front, part, back, reached, rfl, reaches, misses⟩ := lost
  rw [walk_reaches reaches, walk, child?_misses misses]
  rfl

theorem walk_stops (stops : Stops current parts) : walk current parts = .error .wrongValue := by
  obtain ⟨front, part, back, reached, rfl, reaches, refuses⟩ := stops
  rw [walk_reaches reaches, walk, child?_refuses refuses]
  rfl

/-- A path reaches a value, leads nowhere or stops. -/
theorem reaches_or (current : Value) (parts : List (List Char)) :
    (∃ last, Reaches current parts last) ∨ LeadsNowhere current parts ∨ Stops current parts := by
  induction parts generalizing current with
  | nil => exact .inl ⟨current, .here⟩
  | cons part parts ih =>
    rcases steps_or current part with ⟨next, steps⟩ | misses | refuses
    · rcases ih next with ⟨last, reaches⟩ | lost | stops
      · exact .inl ⟨last, .step steps reaches⟩
      · exact .inr (.inl (Comes.step steps lost))
      · exact .inr (.inr (Comes.step steps stops))
    · exact .inr (.inl ⟨[], part, parts, current, rfl, .here, misses⟩)
    · exact .inr (.inr ⟨[], part, parts, current, rfl, .here, refuses⟩)

/-- What following a path gives. -/
inductive Leads (current : Value) (parts : List (List Char)) :
    Except Fault (Option Value) → Prop where
  | value {last : Value} (reaches : Reaches current parts last) :
      Leads current parts (.ok (some last))
  | nothing (lost : LeadsNowhere current parts) : Leads current parts (.ok none)
  | fault (stops : Stops current parts) : Leads current parts (.error .wrongValue)

theorem walk_eq_iff {result : Except Fault (Option Value)} :
    walk current parts = result ↔ Leads current parts result := by
  constructor
  · rintro rfl
    -- A walk reaches a value, is lost or stops, and each of these decides the result.
    rcases reaches_or current parts with ⟨last, reaches⟩ | lost | stops
    · have walked := walk_reaches reaches []
      rw [List.append_nil] at walked
      rw [walked]
      exact .value reaches
    · rw [walk_leadsNowhere lost]
      exact .nothing lost
    · rw [walk_stops stops]
      exact .fault stops
  · intro follows
    cases follows with
    | value reaches =>
      have walked := walk_reaches reaches []
      rwa [List.append_nil] at walked
    | nothing lost => exact walk_leadsNowhere lost
    | fault stops => exact walk_stops stops

theorem Steps.isJson (steps : Steps current part next) (json : current.IsJson) : next.IsJson := by
  cases steps with
  | key present =>
    obtain ⟨entry, found, rfl⟩ := Option.map_eq_some_iff.mp present
    cases json with
    | mapping _ each => exact each entry (List.mem_of_find?_eq_some found)
  | index sequence _ _ item =>
    cases json with
    | list each =>
      cases sequence
      exact each next (List.mem_of_getElem? item)
    | _ => contradiction

/-- What is reached in a JSON value is one. -/
theorem Reaches.isJson {last : Value} (reaches : Reaches current parts last)
    (json : current.IsJson) : last.IsJson := by
  induction reaches with
  | here => exact json
  | step first _ ih => exact ih (first.isJson json)

/-! ### Placeholders -/

theorem fillPieces_ok_iff (mode : PlaceholderMode) (scope : Scope)
    (pieces : List (Piece (List Char))) :
    (∃ text, fillPieces mode scope pieces = .ok text) ↔
      ∀ path source, .found path source ∈ pieces →
        ∃ text, placeholderText mode scope path = .ok text := by
  induction pieces with
  | nil => exact ⟨fun _ => nofun, fun _ => ⟨[], rfl⟩⟩
  | cons piece pieces ih =>
    cases piece with
    | plain c =>
      rw [fillPieces, Fault.map_isOk_iff, ih]
      simp
    | found path source =>
      have others (first : List Char) :
          (∃ text, (do return first ++ (← fillPieces mode scope pieces)) = .ok text) ↔ _ :=
        (Fault.bind_total_isOk_iff fun rest => ⟨_, rfl⟩).trans ih
      rw [fillPieces, Fault.bind_isOk_iff others]
      constructor
      · rintro ⟨here, there⟩ other place listed
        rcases List.mem_cons.mp listed with same | behind
        · cases same
          exact here
        · exact there other place behind
      · exact fun each => ⟨each path source List.mem_cons_self, fun other place listed =>
          each other place (List.mem_cons_of_mem _ listed)⟩

/-- The text for a path is there unless the path stops or reaches a value that cannot be printed. -/
theorem placeholderText_isOk_iff (mode : PlaceholderMode) (scope : Scope) (path : List Char) :
    (∃ text, placeholderText mode scope path = .ok text) ↔
      ¬ Stops (.mapping scope) (segments path) ∧
        ∀ v, Reaches (.mapping scope) (segments path) v → v.Printable := by
  have followed : Leads (.mapping scope) (segments path) (resolvePath scope path) :=
    walk_eq_iff.mp rfl
  -- A path leads to one result, so every other that it leads to is the one found.
  have only {result : Except Fault (Option Value)}
      (other : Leads (.mapping scope) (segments path) result) : resolvePath scope path = result :=
    walk_eq_iff.mpr other
  unfold placeholderText
  cases found : resolvePath scope path with
  | error fault =>
    rw [found] at followed
    cases followed with
    | fault stops =>
      constructor
      · rintro ⟨text, printed⟩
        contradiction
      · exact fun free => absurd stops free.1
  | ok result =>
    rw [found] at followed
    have goes : ¬ Stops (.mapping scope) (segments path) := by
      intro stops
      have refused := only (.fault stops)
      rw [found] at refused
      contradiction
    cases followed with
    | value reaches =>
      refine (stringify_isOk_iff _).trans ?_
      refine ⟨fun printable => ⟨goes, ?_⟩, fun all => all.2 _ reaches⟩
      intro other also
      have same := found.symm.trans (only (.value also))
      cases same
      exact printable
    | nothing lost =>
      refine ⟨fun _ => ⟨goes, ?_⟩, fun _ => ⟨_, rfl⟩⟩
      intro other also
      have same := found.symm.trans (only (.value also))
      cases same

/-- Over a scope of JSON, only an integer that is too long cannot be printed. -/
theorem placeholderText_ok_iff (json : (Value.mapping scope).IsJson) (mode : PlaceholderMode)
    (path : List Char) :
    (∃ text, placeholderText mode scope path = .ok text) ↔
      ¬ Stops (.mapping scope) (segments path) ∧
        ∀ v, Reaches (.mapping scope) (segments path) v → v.IsPlain := by
  rw [placeholderText_isOk_iff]
  exact and_congr_right fun _ => forall₂_congr fun v reaches => (reaches.isJson json).printable_iff

/-- A path is followed part by part through its scope: it gives the value that its parts reach, or
nothing as soon as one leads nowhere, and it is a fault only at an index that writes no number. The
placeholders of a text have texts exactly if none of their paths stops at such an index or reaches
an integer that is too long. -/
theorem fillPlaceholders_ok_iff (json : (Value.mapping scope).IsJson) :
    (∀ path, ∃ parts, Parts path parts ∧
      ∀ result, resolvePath scope path = result ↔ Leads (.mapping scope) parts result) ∧
    ∀ mode s, (∃ text, fillPlaceholders mode scope s = .ok text) ↔
      ∀ path source, .found path source ∈ placeholders.pieces s →
        ∃ parts, Parts path parts ∧ ¬ Stops (.mapping scope) parts ∧
          ∀ v, Reaches (.mapping scope) parts v → v.IsPlain := by
  refine ⟨fun path => ⟨segments path, segments_parts path, fun result => walk_eq_iff⟩, ?_⟩
  intro mode s
  rw [fillPlaceholders, fillPieces_ok_iff]
  constructor
  · intro each path source listed
    exact ⟨segments path, segments_parts path,
      (placeholderText_ok_iff json mode path).mp (each path source listed)⟩
  · intro each path source listed
    obtain ⟨parts, split, free⟩ := each path source listed
    -- A path is cut into parts in one way only.
    rw [split.eq_segments] at free
    exact (placeholderText_ok_iff json mode path).mpr free

/-- A superscript is taken for an index, and refused. -/
theorem fillPlaceholders_ok_iff_superscript :
    (Value.mapping [(.str "a", .list [.int 1])]).IsJson ∧
      resolvePath [(.str "a", .list [.int 1])] " a.0".toList = .ok (some (.int 1)) ∧
      resolvePath [(.str "a", .list [.int 1])] "a.²".toList = .error .wrongValue ∧
      ¬ ∃ text, fillPlaceholders .silent [(.str "a", .list [.int 1])] "@[a.²]".toList = .ok text := by
  have json : (Value.mapping [(.str "a", .list [.int 1])]).IsJson :=
    .mapping (List.forall_mem_singleton.mpr ⟨"a", rfl⟩)
      (List.forall_mem_singleton.mpr (.list (List.forall_mem_singleton.mpr (.int 1))))
  obtain ⟨follows, filled⟩ := fillPlaceholders_ok_iff json
  have key : Steps (.mapping [(.str "a", .list [.int 1])]) "a".toList (.list [.int 1]) :=
    .key (by rw [Mapping.get?_cons]; rfl)
  -- The superscript is a digit, but not one that a number can be read from.
  have refuses : Refuses (.list [.int 1]) ['²'] :=
    ⟨rfl, ⟨by decide, List.forall_mem_singleton.mpr (by decide +kernel)⟩, fun text =>
      absurd (text.decimal '²' (by decide)) (by decide +kernel)⟩
  have stops : Stops (.mapping [(.str "a", .list [.int 1])]) ["a".toList, ['²']] :=
    ⟨["a".toList], ['²'], [], .list [.int 1], rfl, .step key .here, refuses⟩
  refine ⟨json, ?_, ?_, ?_⟩
  · obtain ⟨parts, split, given⟩ := follows " a.0".toList
    obtain rfl : parts = ["a".toList, "0".toList] := split.eq_segments.trans (by decide +kernel)
    have first : Steps (.list [.int 1]) ['0'] (.int 1) :=
      .index rfl ⟨by decide, List.forall_mem_singleton.mpr rfl⟩
        ⟨List.forall_mem_singleton.mpr rfl, by decide⟩ rfl
    exact (given _).mpr (.value (.step key (.step first .here)))
  · obtain ⟨parts, split, given⟩ := follows "a.²".toList
    obtain rfl : parts = ["a".toList, ['²']] := split.eq_segments.trans (by decide +kernel)
    exact (given _).mpr (.fault stops)
  · intro returns
    have front : placeholders.run ("@[a.²]".toList ++ []) = some ("a.²".toList, []) := by
      decide +kernel
    have pieces := Scanner.pieces_found front
    rw [Scanner.pieces_nil, List.append_nil] at pieces
    obtain ⟨parts, split, goes, _⟩ := (filled _ _).mp returns "a.²".toList "@[a.²]".toList
      (by rw [pieces]; exact List.mem_singleton_self _)
    obtain rfl : parts = ["a".toList, ['²']] := split.eq_segments.trans (by decide +kernel)
    exact goes stops

end StaticSite.Template
