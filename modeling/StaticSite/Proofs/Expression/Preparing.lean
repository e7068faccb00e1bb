import StaticSite.Expression.Program
import StaticSite.Proofs.Expression.Evaluating
import StaticSite.Proofs.Expression.Reading

/-!
# Preparing expressions without calls

Preparing a bare expression leaves it bare, or refuses it with a fault of evaluation: what is
computed beforehand is a constant, and every other part stays where it is. An expression text
without a closing parenthesis therefore ends as a bare expression ends, or has no program at all.
-/

namespace StaticSite.Expression

open StaticSite.Operation StaticSite.Value

mutual

theorem constantKind_tame : ∀ {v : Value}, isConstantKind v = true → v.Tame
  | .null, _ | .bool _, _ | .int _, _ | .float _, _ | .str _, _ | .markup _, _ => trivial
  | .range .., _ => trivial
  | .list _, fixed | .tuple _, fixed => allConstant_tame fixed
  | .mapping _, fixed => entriesConstant_tame fixed

theorem allConstant_tame : ∀ {items : List Value}, isConstantKind.allConstant items = true →
    ItemsTame items
  | [], _ => trivial
  | _ :: _, fixed =>
    have ⟨first, rest⟩ := Bool.and_eq_true_iff.mp fixed
    ⟨constantKind_tame first, allConstant_tame rest⟩

theorem entriesConstant_tame : ∀ {entries : List (Value × Value)},
    isConstantKind.entriesConstant entries = true → EntriesTame entries
  | [], _ => trivial
  | _ :: _, fixed =>
    have ⟨entry, rest⟩ := Bool.and_eq_true_iff.mp fixed
    have ⟨key, v⟩ := Bool.and_eq_true_iff.mp entry
    ⟨constantKind_tame key, constantKind_tame v, entriesConstant_tame rest⟩

end

/-- Whatever is known of the program so far, preparing gives something good or refuses it. -/
def Prepares {α : Type} (good : α → Prop) (preparation : Preparation α) : Prop :=
  ∀ sound, Caught (fun ended => good ended.1) (preparation sound)

namespace Prepares

variable {α β : Type} {good : α → Prop} {fine : β → Prop}

theorem pure {a : α} (holds : good a) : Prepares good (Pure.pure a) := fun _ => holds

theorem bind {preparation : Preparation α} {next : α → Preparation β}
    (first : Prepares good preparation) (rest : ∀ a, good a → Prepares fine (next a)) :
    Prepares fine (preparation >>= next) := by
  intro sound
  show Caught _ (preparation sound >>= fun ended => next ended.1 ended.2)
  exact (first sound).bind fun ended holds => rest ended.1 holds ended.2

/-- An operation that does not exist is refused. -/
theorem of_known {known : Bool} {next : PUnit → Preparation α} (rest : Prepares good (next ⟨⟩)) :
    Prepares good (if known then next ⟨⟩ else throw .unknownOperation >>= next) := by
  split
  · exact rest
  · exact fun _ => rfl

end Prepares

theorem markUnsound_prepares : Prepares (fun _ => True) markUnsound := fun _ => trivial

theorem literal_prepares {v : Value} (tame : v.Tame) : Prepares Bare (literal v) := by
  unfold literal
  split
  · exact fun _ => rfl
  · exact .pure (.constant tame)

mutual

theorem checkKeys_survives : ∀ e : Expression, Survives (checkKeys e)
  | .constant _ | .name _ => trivial
  | .tuple items | .list items | .concat items => checkAllKeys_survive items
  | .dictionary entries => by
    rw [checkKeys]
    refine (checkEntryKeys_survive entries).bind fun _ _ => ?_
    split
    · trivial
    · rfl
  | .member target _ => checkKeys_survives target
  | .item target index => (checkKeys_survives target).bind fun _ _ => checkKeys_survives index
  | .slice start stop step =>
    (checkOptionalKeys_survive start).bind fun _ _ =>
      (checkOptionalKeys_survive stop).bind fun _ _ => checkOptionalKeys_survive step
  | .call target arguments | .filter target _ arguments | .test target _ arguments =>
    (checkKeys_survives target).bind fun _ _ => checkArgumentKeys_survive arguments
  | .unary _ operand => checkKeys_survives operand
  | .binary _ left right => (checkKeys_survives left).bind fun _ _ => checkKeys_survives right
  | .compare first rest => (checkKeys_survives first).bind fun _ _ => checkChainKeys_survive rest
  | .conditional condition whenTrue whenFalse =>
    (checkKeys_survives condition).bind fun _ _ =>
      (checkKeys_survives whenTrue).bind fun _ _ => checkOptionalKeys_survive whenFalse

theorem checkAllKeys_survive : ∀ items : List Expression, Survives (checkAllKeys items)
  | [] => trivial
  | e :: rest => (checkKeys_survives e).bind fun _ _ => checkAllKeys_survive rest

theorem checkEntryKeys_survive :
    ∀ entries : List (Expression × Expression), Survives (checkEntryKeys entries)
  | [] => trivial
  | (key, e) :: rest =>
    (checkKeys_survives key).bind fun _ _ => (checkKeys_survives e).bind fun _ _ =>
      checkEntryKeys_survive rest

theorem checkChainKeys_survive :
    ∀ rest : List (Comparison × Expression), Survives (checkChainKeys rest)
  | [] => trivial
  | (_, e) :: rest => (checkKeys_survives e).bind fun _ _ => checkChainKeys_survive rest

theorem checkNamedKeys_survive :
    ∀ named : List (String × Expression), Survives (checkNamedKeys named)
  | [] => trivial
  | (_, e) :: rest => (checkKeys_survives e).bind fun _ _ => checkNamedKeys_survive rest

theorem checkOptionalKeys_survive : ∀ e? : Option Expression, Survives (checkOptionalKeys e?)
  | none => trivial
  | some e => checkKeys_survives e

theorem checkArgumentKeys_survive : ∀ arguments : Arguments, Survives (checkArgumentKeys arguments)
  | .mk positional named spread spreadNamed =>
    (checkAllKeys_survive positional).bind fun _ _ =>
      (checkNamedKeys_survive named).bind fun _ _ =>
        (checkOptionalKeys_survive spread).bind fun _ _ => checkOptionalKeys_survive spreadNamed

end

theorem computed_prepares (e : Expression) {otherwise : Preparation Expression}
    (parts : Prepares Bare otherwise) : Prepares Bare (computed e otherwise) := by
  have checked := checkKeys_survives e
  unfold computed
  split
  next fault refused => exact fun _ => checked.of_eq_error refused
  · split
    next v found => exact literal_prepares (constantKind_tame (Option.filter_eq_some_iff.mp found).2)
    · exact parts

section Preparation

variable {soft : Bool}

theorem prepareAll_prepares {items : List Expression}
    (each : ∀ e ∈ items, ∀ soft, Prepares Bare (prepare soft e)) (soft : Bool) :
    Prepares (fun prepared => ∀ e ∈ prepared, Bare e) (prepareAll soft items) := by
  induction items with
  | nil => exact .pure (List.forall_mem_nil _)
  | cons e rest ih =>
    obtain ⟨here, there⟩ := List.forall_mem_cons.mp each
    exact (here soft).bind fun e first => (ih there).bind fun _ rest =>
      .pure (List.forall_mem_cons.mpr ⟨first, rest⟩)

theorem prepareEntries_prepares {entries : List (Expression × Expression)}
    (keys : ∀ entry ∈ entries, ∀ soft, Prepares Bare (prepare soft entry.1))
    (each : ∀ entry ∈ entries, ∀ soft, Prepares Bare (prepare soft entry.2)) (soft : Bool) :
    Prepares (fun prepared => ∀ entry ∈ prepared, Bare entry.1 ∧ Bare entry.2)
      (prepareEntries soft entries) := by
  induction entries with
  | nil => exact .pure (List.forall_mem_nil _)
  | cons entry rest ih =>
    obtain ⟨named, later⟩ := List.forall_mem_cons.mp keys
    obtain ⟨here, there⟩ := List.forall_mem_cons.mp each
    exact (named soft).bind fun key bare => (here soft).bind fun e first =>
      (ih later there).bind fun _ rest => .pure (List.forall_mem_cons.mpr ⟨⟨bare, first⟩, rest⟩)

theorem prepareChain_prepares {rest : List (Comparison × Expression)}
    (each : ∀ link ∈ rest, ∀ soft, Prepares Bare (prepare soft link.2)) (soft : Bool) :
    Prepares (fun prepared => ∀ link ∈ prepared, Bare link.2) (prepareChain soft rest) := by
  induction rest with
  | nil => exact .pure (List.forall_mem_nil _)
  | cons link rest ih =>
    obtain ⟨here, there⟩ := List.forall_mem_cons.mp each
    exact (here soft).bind fun e first => (ih there).bind fun _ rest =>
      .pure (List.forall_mem_cons.mpr ⟨first, rest⟩)

theorem prepareOptional_prepares {e? : Option Expression}
    (each : ∀ e ∈ e?, ∀ soft, Prepares Bare (prepare soft e)) (soft : Bool) :
    Prepares (fun prepared => ∀ e ∈ prepared, Bare e) (prepareOptional soft e?) := by
  cases e? with
  | none => exact .pure forall_mem_none
  | some e =>
    exact (each e rfl soft).bind fun _ bare => .pure (forall_mem_some bare)

/-- Arguments by position stay by position. -/
theorem prepareArguments_prepares {others : List Expression}
    (each : ∀ e ∈ others, ∀ soft, Prepares Bare (prepare soft e)) (soft : Bool) :
    Prepares (fun prepared => ∃ others : List Expression,
        prepared = .mk others [] none none ∧ ∀ e ∈ others, Bare e)
      (prepareArguments soft (.mk others [] none none)) := by
  intro sound
  show Caught _ (prepareAll soft others sound >>= fun ended =>
    Except.ok (Arguments.mk ended.1 [] none none, ended.2))
  exact (prepareAll_prepares each soft sound).bind fun ended bare => ⟨ended.1, rfl, bare⟩

theorem prepare_prepares {e : Expression} (bare : Bare e) : ∀ soft, Prepares Bare (prepare soft e) := by
  induction bare with
  | constant tame => exact fun _ => literal_prepares tame
  | name word => exact fun _ => .pure (.name word)
  | tuple _ ih => exact fun soft => (prepareAll_prepares ih soft).bind fun _ each => .pure (.tuple each)
  | list _ ih => exact fun soft => (prepareAll_prepares ih soft).bind fun _ each => .pure (.list each)
  | dictionary _ _ keys each =>
    intro soft
    refine (prepareEntries_prepares keys each soft).bind fun _ both => ?_
    exact .pure (.dictionary (fun entry listed => (both entry listed).1)
      fun entry listed => (both entry listed).2)
  | member word _ ih =>
    exact fun soft => computed_prepares _ ((ih soft).bind fun _ bare => .pure (.member word bare))
  | item _ _ single ih index =>
    intro soft
    rw [prepare]
    · -- What the index is prepared to may be anything bare, a slice included.
      refine computed_prepares _ ((ih soft).bind fun _ bare => ?_)
      exact (index soft).bind fun _ chosen => .pure (.subscript bare chosen)
    · exact single
  | part _ _ _ _ ih first last stride =>
    intro soft
    rw [prepare]
    refine computed_prepares _ ((ih soft).bind fun _ bare => ?_)
    refine (prepareOptional_prepares first soft).bind fun _ first => ?_
    refine (prepareOptional_prepares last soft).bind fun _ last => ?_
    exact (prepareOptional_prepares stride soft).bind fun _ stride =>
      .pure (.part bare first last stride)
  | slice _ _ _ first last stride =>
    intro soft
    refine markUnsound_prepares.bind fun _ _ => ?_
    refine (prepareOptional_prepares first soft).bind fun _ first => ?_
    refine (prepareOptional_prepares last soft).bind fun _ last => ?_
    exact (prepareOptional_prepares stride soft).bind fun _ stride => .pure (.slice first last stride)
  | filter word _ ih =>
    intro soft
    refine computed_prepares _ (.of_known ((ih soft).bind fun _ bare => ?_))
    exact .pure (.filter word bare)
  | test word _ _ ih others =>
    intro soft
    refine computed_prepares _ (.of_known ((ih soft).bind fun _ bare => ?_))
    refine (prepareArguments_prepares others soft).bind fun _ plain => ?_
    obtain ⟨others, rfl, each⟩ := plain
    exact .pure (.test word bare each)
  | unary operator _ ih =>
    exact fun soft => computed_prepares _ ((ih soft).bind fun _ bare => .pure (.unary operator bare))
  | binary operator _ _ first second =>
    intro soft
    refine computed_prepares _ ((first soft).bind fun _ first => ?_)
    exact (second soft).bind fun _ second => .pure (.binary operator first second)
  | compare _ _ ih each =>
    intro soft
    refine computed_prepares _ ((ih soft).bind fun _ bare => ?_)
    exact (prepareChain_prepares each soft).bind fun _ each => .pure (.compare bare each)
  | concat _ ih =>
    intro soft
    exact computed_prepares _ ((prepareAll_prepares ih soft).bind fun _ each => .pure (.concat each))
  | conditional _ _ _ judged first second =>
    intro soft
    -- The parts of a conditional are prepared softly, wherever it stands itself.
    refine computed_prepares _ ((first true).bind fun _ first => ?_)
    refine (judged true).bind fun _ judged => ?_
    exact (prepareOptional_prepares second true).bind fun _ second =>
      .pure (.conditional judged first second)

end Preparation

/-! ### Expression texts -/

theorem read_ends {s : List Char} (absent : ')' ∉ s) : Confined Foreseen Bare (read s) := by
  have foreseen (fault : Fault) (unreadable : Unreadable fault) : Foreseen fault := by
    rcases unreadable with rfl | rfl
    · exact .inl rfl
    · exact .inr (.inr rfl)
  have ends := (Parser.reads (20 * ((tokens s).length + 2))).conditional (tokens s)
    (tokens_admissible absent)
  refine (ends.mono foreseen fun _ => id).bind fun ended bare => ?_
  dsimp only
  split
  · exact bare.1
  · exact .inl rfl

theorem compile_ends {s : List Char} (absent : ')' ∉ s) :
    Confined Foreseen (fun program => Bare program.expression) (compile s) := by
  refine (read_ends absent).bind fun e bare => ?_
  refine (foreseen_of_caught (prepare_prepares bare false true)).bind fun ended bare => ?_
  dsimp only
  split
  · exact bare
  · exact .inr (.inr rfl)

/-- A text without a closing parenthesis, in a scope of tame values, gives a tame value or ends in a
fault that is foreseen. -/
theorem evaluate_ends {s : List Char} {scope : Scope} (absent : ')' ∉ s)
    (tame : Mapping.Tame scope) : Confined Foreseen Tame (evaluate s scope) :=
  (compile_ends absent).bind fun _ bare => value_ends tame bare

end StaticSite.Expression
