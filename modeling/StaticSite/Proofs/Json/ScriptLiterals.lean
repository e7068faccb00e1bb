import Mathlib.Data.List.Perm.Basic
import StaticSite.Proofs.Json.Escapes
import StaticSite.Proofs.Json.Values
import StaticSite.Proofs.Value.Legible

/-!
# Literals of scripts

In a literal of a script the members of a mapping are sorted by name, and a character that could
end a script element stands as its number escape. Such a character comes up inside of strings only,
so the number escape is one more way of spelling it there, and the literal is read as the value: a
mapping may have its members in another order.
-/

namespace StaticSite.Json

open StaticSite.Text

/-! ### Characters that literals do without -/

/-- The characters that stand as number escapes in the literals of scripts. -/
def scriptMarks : List Char := ['<', '>', '&', '\'']

theorem escapeForScript_append (s t : List Char) :
    escapeForScript (s ++ t) = escapeForScript s ++ escapeForScript t :=
  List.flatMap_append

theorem escapeForScript_mark {c : Char} (mark : c ∈ scriptMarks) :
    escapeForScript [c] = escapeUnit c.toNat := by
  simp only [scriptMarks, List.mem_cons, List.not_mem_nil, or_false] at mark
  rcases mark with rfl | rfl | rfl | rfl <;> rfl

theorem escapeForScript_other {c : Char} (other : c ∉ scriptMarks) (s : List Char) :
    escapeForScript (c :: s) = c :: escapeForScript s := by
  simp only [scriptMarks, List.mem_cons, List.not_mem_nil, or_false, not_or] at other
  simp [escapeForScript, other]

theorem escapeForScript_of_forall {s : List Char} (others : ∀ c ∈ s, c ∉ scriptMarks) :
    escapeForScript s = s := by
  induction s with
  | nil => rfl
  | cons c s ih =>
    obtain ⟨here, there⟩ := List.forall_mem_cons.mp others
    rw [escapeForScript_other here, ih there]

theorem notMem_scriptMarks_of_escapeLetters : ∀ c ∈ escapeLetters, c ∉ scriptMarks := by
  intro c listed mark
  simp only [scriptMarks, List.mem_cons, List.not_mem_nil, or_false] at mark
  rcases mark with rfl | rfl | rfl | rfl <;> exact absurd listed (by decide)

theorem notMem_escapeForScript {c : Char} (mark : c ∈ scriptMarks) (s : List Char) :
    c ∉ escapeForScript s := by
  induction s with
  | nil => nofun
  | cons d s ih =>
    have front : c ∉ escapeForScript [d] := by
      by_cases marked : d ∈ scriptMarks
      · rw [escapeForScript_mark marked]
        exact fun listed =>
          notMem_scriptMarks_of_escapeLetters c (escapeUnit_letters _ c listed) mark
      · rw [escapeForScript_other marked]
        intro listed
        exact marked (List.mem_singleton.mp listed ▸ mark)
    rw [← List.singleton_append, escapeForScript_append, List.mem_append, not_or]
    exact ⟨front, ih⟩

/-- A marked character is read from its number escape, and every other one is spelled as in other
JSON texts. -/
theorem spells_escapeForScript : Spells fun c => escapeForScript (escapeChar c) := by
  intro c read rest
  rcases escapeChar_eq_or c with ⟨same, _⟩ | ⟨letters, same, _, all⟩
  · by_cases mark : c ∈ scriptMarks
    · have small : c.toNat < 0x10000 := by
        simp only [scriptMarks, List.mem_cons, List.not_mem_nil, or_false] at mark
        rcases mark with rfl | rfl | rfl | rfl <;> decide
      have whole := (toNat_not_half c).1
      dsimp only
      rw [same, escapeForScript_mark mark, stringFrom_unit small, whole, unitChar_toNat]
      rfl
    · have kept : escapeForScript (escapeChar c) = escapeChar c := by
        rw [same, escapeForScript_other mark]
        rfl
      dsimp only
      rw [kept, spells_escapeChar]
  · -- What is escaped already has only the letters of escapes, and none of them is marked.
    have kept : escapeForScript (escapeChar c) = escapeChar c := by
      refine escapeForScript_of_forall fun d listed => ?_
      rw [same] at listed
      rcases List.mem_cons.mp listed with rfl | listed
      · decide
      · exact notMem_scriptMarks_of_escapeLetters d (all d listed)
    dsimp only
    rw [kept, spells_escapeChar]

theorem escapeForScript_writeString (s : List Char) :
    escapeForScript (writeString s)
      = '"' :: s.flatMap (fun c => escapeForScript (escapeChar c)) ++ ['"'] := by
  have quote : '"' ∉ scriptMarks := by decide
  rw [writeString, List.cons_append, escapeForScript_other quote, escapeForScript_append]
  simp only [escapeForScript, List.flatMap_assoc]
  rfl

theorem escapeForScript_joinWith (parts : List (List Char)) :
    escapeForScript (joinWith [',', ' '] parts)
      = joinWith [',', ' '] (parts.map escapeForScript) := by
  induction parts with
  | nil => rfl
  | cons part parts ih =>
    cases parts with
    | nil => rfl
    | cons next parts =>
      have apart : escapeForScript [',', ' '] = [',', ' '] := rfl
      simp only [joinWith, List.map_cons, escapeForScript_append, apart] at ih ⊢
      rw [ih]

theorem escapeForScript_enclosed {opening closing : Char} (opens : opening ∉ scriptMarks)
    (closes : closing ∉ scriptMarks) (parts : List (List Char)) :
    escapeForScript (opening :: (joinWith [',', ' '] parts ++ [closing]))
      = opening :: (joinWith [',', ' '] (parts.map escapeForScript) ++ [closing]) := by
  rw [escapeForScript_other opens, escapeForScript_append, escapeForScript_joinWith,
    escapeForScript_other closes]
  rfl

theorem escapeForScript_writeInt {n : Int} {text : List Char} (written : writeInt n = .ok text) :
    escapeForScript text = text := by
  have digits : ∀ c ∈ Decimal.natText n.natAbs, c ∉ scriptMarks := by
    intro c listed mark
    have digit := natText_digits n.natAbs c listed
    simp only [scriptMarks, List.mem_cons, List.not_mem_nil, or_false] at mark
    rcases mark with rfl | rfl | rfl | rfl <;> contradiction
  rw [writeInt_short (short_of_writeInt written)] at written
  cases written
  unfold Decimal.intText
  split
  · exact escapeForScript_of_forall (List.forall_mem_cons.mpr ⟨by decide, digits⟩)
  · exact escapeForScript_of_forall digits

/-! ### Sorted members -/

theorem insertSorted_perm {α : Type} {before : α → α → Except Fault Bool} {item : α}
    {items sorted : List α} (inserted : Value.insertSorted before item items = .ok sorted) :
    sorted.Perm (item :: items) := by
  induction items generalizing sorted with
  | nil =>
    cases inserted
    exact .refl _
  | cons other rest ih =>
    obtain ⟨first, -, inserted⟩ := Fault.bind_eq_ok inserted
    cases first with
    | true =>
      cases inserted
      exact .refl _
    | false =>
      obtain ⟨behind, later, inserted⟩ := Fault.bind_eq_ok inserted
      cases inserted
      exact ((ih later).cons other).trans (.swap item other rest)

theorem sortWith_perm {α : Type} {before : α → α → Except Fault Bool} {items sorted : List α}
    (ended : Value.sortWith before items = .ok sorted) : sorted.Perm items := by
  -- The items that are sorted already change from step to step, so the statement is about any.
  have from_sorted (items done : List α) (ended : items.foldlM
      (fun sorted item => Value.insertSorted before item sorted) done = .ok sorted) :
      sorted.Perm (done ++ items) := by
    induction items generalizing done with
    | nil =>
      cases ended
      rw [List.append_nil]
    | cons item items ih =>
      rw [List.foldlM_cons] at ended
      obtain ⟨next, inserted, ended⟩ := Fault.bind_eq_ok ended
      have moved : (item :: done ++ items).Perm (done ++ item :: items) := List.perm_middle.symm
      exact (ih next ended).trans (((insertSorted_perm inserted).append_right items).trans moved)
  exact from_sorted items [] ended

theorem arrange_perm {style : Style} {members arranged : List (Value × List Char)}
    (ended : arrange style members = .ok arranged) : arranged.Perm members := by
  unfold arrange at ended
  split at ended
  · exact sortWith_perm ended
  · cases ended
    exact .refl _

variable {style : Style} {depth : Nat}

/-- The texts of members, in the order of the style, with the names and values they are of. -/
theorem arranged_members {members : List (String × Value)} {parts arranged : List (Value × List Char)}
    (made : writeMembers style depth (named members) = .ok parts)
    (sorted : arrange style parts = .ok arranged) :
    ∃ written : List (String × Value × List Char),
      (written.map fun member => (member.1, member.2.1)).Perm members
      ∧ arranged.map Prod.snd = written.map (fun member =>
          writeString member.1.toList ++ ':' :: ' ' :: member.2.2)
      ∧ ∀ member ∈ written, write style depth member.2.1 = .ok member.2.2 := by
  obtain ⟨written, same, texts, each⟩ := writeMembers_named made
  -- Only the texts are known to be rearranged. Each takes the member it was written for along.
  have moved := (arrange_perm sorted).map Prod.snd
  rw [texts] at moved
  obtain ⟨ordered, texts, order⟩ := (congrFun₂ (List.eq_map_comp_perm _) _ _).mpr moved
  exact ⟨ordered, same ▸ order.map _, texts, fun member listed =>
    each member (order.subset listed)⟩

/-! ### Reading -/

/-- The second value is the first one, with the members of mappings in any order. -/
inductive Rearranged : Value → Value → Prop where
  | refl (v : Value) : Rearranged v v
  | list {pairs : List (Value × Value)} (each : ∀ pair ∈ pairs, Rearranged pair.1 pair.2) :
      Rearranged (.list (pairs.map Prod.fst)) (.list (pairs.map Prod.snd))
  | mapping {entries : Mapping.Entries} {members : List (Value × Value × Value)}
      (same : entries.Perm (members.map fun member => (member.1, member.2.1)))
      (each : ∀ member ∈ members, Rearranged member.2.1 member.2.2) :
      Rearranged (.mapping entries) (.mapping (members.map fun member => (member.1, member.2.2)))

/-- A literal tells the reader the value, up to the order of members, and where it ends. -/
theorem script_written {v : Value} (exact : Exact v) : ∀ {depth : Nat} {text : List Char},
    write (scriptStyle none) depth v = .ok text →
      ∃ shown, Rearranged v shown ∧ Written value shown (escapeForScript text) := by
  induction exact with
  | null =>
    rintro _ _ ⟨⟩
    exact ⟨_, .refl _, written_scalar (by decide) (by decide) fun _ _ => rfl⟩
  | bool b =>
    rintro _ _ ⟨⟩
    cases b with
    | true => exact ⟨_, .refl _, written_scalar (by decide) (by decide) fun _ _ => rfl⟩
    | false => exact ⟨_, .refl _, written_scalar (by decide) (by decide) fun _ _ => rfl⟩
  | int n =>
    intro depth text written
    rw [escapeForScript_writeInt written]
    exact ⟨_, .refl _, int_written written⟩
  | str s =>
    rintro _ _ ⟨⟩
    rw [escapeForScript_writeString]
    exact ⟨_, .refl _, str_written spells_escapeForScript s⟩
  | list each ih =>
    intro depth text written
    obtain ⟨parts, items, rfl⟩ := Fault.map_eq_ok written
    obtain ⟨pairs, rfl, rfl, texts⟩ := writeItems_pairs items
    have found : ∀ pair ∈ pairs, ∃ shown, Rearranged pair.1 shown ∧
        Written value shown (escapeForScript pair.2) := fun pair inside =>
      ih pair.1 (List.mem_map_of_mem inside) (texts pair inside)
    choose! shown same reads using found
    have brackets : '[' ∉ scriptMarks ∧ ']' ∉ scriptMarks := by decide
    rw [bracketed_flat rfl, escapeForScript_enclosed brackets.1 brackets.2]
    refine ⟨.list (pairs.map shown), ?_, ?_⟩
    · have related := @Rearranged.list (pairs.map fun pair => (pair.1, shown pair))
        (List.forall_mem_map.mpr same)
      simpa only [List.map_map, Function.comp_def] using related
    · have listed := @list_written (pairs.map fun pair => (shown pair, escapeForScript pair.2))
        (List.forall_mem_map.mpr reads)
      simpa only [List.map_map, Function.comp_def] using listed
  | @mapping members distinct each ih =>
    intro depth text written
    obtain ⟨parts, made, written⟩ := Fault.bind_eq_ok written
    obtain ⟨arranged, sorted, written⟩ := Fault.bind_eq_ok written
    cases written
    -- From here on the members stand as in the literal. That they are sorted does not matter.
    obtain ⟨ordered, order, texts, each⟩ := arranged_members made sorted
    have found : ∀ member ∈ ordered, ∃ shown, Rearranged member.2.1 shown ∧
        Written value shown (escapeForScript member.2.2) := fun member inside =>
      ih _ (order.subset (List.mem_map_of_mem inside)) (each member inside)
    choose! shown same reads using found
    have braces : '\x7b' ∉ scriptMarks ∧ '\x7d' ∉ scriptMarks := by decide
    rw [bracketed_flat rfl, escapeForScript_enclosed braces.1 braces.2, texts]
    refine ⟨.mapping (ordered.map fun member => (.str member.1, shown member)), ?_, ?_⟩
    · have kept := order.symm.map fun member => (Value.str member.1, member.2)
      have related := @Rearranged.mapping (named members)
        (ordered.map fun member => (.str member.1, member.2.1, shown member))
        (by simpa only [named, List.map_map, Function.comp_def] using kept)
        (List.forall_mem_map.mpr same)
      simpa only [List.map_map, Function.comp_def] using related
    · have apart := (order.map Prod.fst).nodup_iff.mpr distinct
      have distinct := @ofList_named (ordered.map fun member => (member.1, shown member))
        (by simpa only [List.map_map, Function.comp_def] using apart)
      have read := @mapping_written (ordered.map fun member => ((.str member.1, shown member),
          escapeForScript (writeString member.1.toList ++ ':' :: ' ' :: member.2.2)))
        (List.forall_mem_map.mpr fun member inside => by
          rw [escapeForScript_append, escapeForScript_writeString]
          exact member_written spells_escapeForScript (reads member inside))
        (by simpa only [named, List.map_map, Function.comp_def] using distinct)
      simpa only [List.map_map, Function.comp_def] using read

variable {v : Value}

/-- A literal is read as the value it was written for, its members in the order of the literal. -/
theorem scriptLiteral_reads {text : List Char} (exact : Exact v)
    (written : scriptLiteral v = .ok text) : ∃ shown, Rearranged v shown ∧ read text = .ok shown := by
  obtain ⟨unescaped, made, rfl⟩ := Fault.map_eq_ok written
  obtain ⟨shown, same, reads⟩ := script_written exact made
  have blank := reads.skipSpace_eq []
  have taken := reads.reads (2 * (escapeForScript unescaped).length + 1) [] (by omega) nofun
  rw [List.append_nil] at blank taken
  refine ⟨shown, same, ?_⟩
  rw [read, blank, readFront, taken]
  rfl

/-! ### Values that have a literal -/

theorem isPlain_of_written (exact : Exact v) : ∀ {depth : Nat} {text : List Char},
    write style depth v = .ok text → v.IsPlain := by
  -- Only an integer can fail to be written, if it is too long.
  induction exact with
  | null => exact fun _ => .null
  | bool b => exact fun _ => .bool b
  | int n => exact fun written => .int (short_of_writeInt written)
  | str s => exact fun _ => .str s
  | list each ih =>
    intro depth text written
    obtain ⟨parts, items, -⟩ := Fault.map_eq_ok written
    obtain ⟨pairs, rfl, -, texts⟩ := writeItems_pairs items
    refine .list (List.forall_mem_map.mpr fun pair inside => ?_)
    exact ih pair.1 (List.mem_map_of_mem inside) (texts pair inside)
  | mapping distinct each ih =>
    intro depth text written
    obtain ⟨parts, made, -⟩ := Fault.bind_eq_ok written
    obtain ⟨texts, rfl, -, listed⟩ := writeMembers_named made
    refine .mapping (List.forall_mem_map.mpr fun member _ => ⟨_, rfl⟩) ?_
    refine List.forall_mem_map.mpr (List.forall_mem_map.mpr fun member inside => ?_)
    exact ih _ (List.mem_map_of_mem inside) (listed member inside)

/-- A value has a literal exactly if no integer in it is too long to be written. -/
theorem scriptLiteral_isOk_iff (exact : Exact v) :
    (∃ text, scriptLiteral v = .ok text) ↔ v.IsPlain := by
  refine ⟨?_, scriptLiteral_succeeds⟩
  rintro ⟨text, written⟩
  obtain ⟨unescaped, made, -⟩ := Fault.map_eq_ok written
  exact isPlain_of_written exact made

/-- A value can be printed exactly if it has a literal. -/
theorem legible_iff_isPlain (exact : Exact v) : v.legible = true ↔ v.IsPlain := by
  induction exact with
  | null => exact ⟨fun _ => .null, fun _ => rfl⟩
  | bool b => exact ⟨fun _ => .bool b, fun _ => rfl⟩
  | str s => exact ⟨fun _ => .str s, fun _ => rfl⟩
  | int n =>
    rw [Value.legible, Value.isShort, decide_eq_true_iff]
    refine ⟨.int, fun plain => ?_⟩
    cases plain with
    | int short => exact short
  | list each ih =>
    rw [Value.legible_list]
    refine ⟨fun all => .list fun item listed => (ih item listed).mp (all item listed), ?_⟩
    intro plain item listed
    cases plain with
    | list all => exact (ih item listed).mpr (all item listed)
  | mapping distinct each ih =>
    rw [Value.legible_mapping, Mapping.isPlain_mapping]
    simp only [named, List.forall_mem_map]
    refine ⟨fun all member inside => ⟨⟨_, rfl⟩, (ih member inside).mp (all member inside).2⟩, ?_⟩
    exact fun all member inside => ⟨rfl, (ih member inside).mpr (all member inside).2⟩

end StaticSite.Json
