import StaticSite.Operation.Arithmetic
import StaticSite.Proofs.Operation.Streams

/-!
# Operators on tame values

Operators on tame values give tame values, or fail in a fault of evaluation. Formatting and comparing
do so whatever the values are.
-/

namespace StaticSite

namespace Value

/-! ### Order -/

mutual

theorem related_survives (relation : Relation) (a b : Value) :
    Survives (related relation a b) := by
  unfold related
  split
  · exact isEvaluation_undefinedFault _
  · exact isEvaluation_undefinedFault _
  -- Texts, escaped or not, are in the order of their characters.
  · trivial
  · trivial
  · trivial
  · trivial
  · exact relatedItems_survives relation _ _
  · exact relatedItems_survives relation _ _
  · trivial
  -- Everything else has to be a number on both sides.
  · split
    · trivial
    · rfl

theorem relatedItems_survives (relation : Relation) (xs ys : List Value) :
    Survives (relatedItems relation xs ys) := by
  match xs, ys with
  | [], [] => trivial
  | [], _ :: _ => trivial
  | _ :: _, [] => trivial
  | x :: xs, y :: ys =>
    rw [relatedItems]
    split
    · exact relatedItems_survives relation xs ys
    · exact related_survives relation x y

end

theorem lessThan_survives (a b : Value) : Survives (lessThan a b) := related_survives .less a b

theorem insertSorted_caught {α : Type} {good : α → Prop} {before : α → α → Except Fault Bool}
    (compared : ∀ a b, Survives (before a b)) {item : α} {sorted : List α} (first : good item)
    (rest : ∀ a ∈ sorted, good a) :
    Caught (fun all => ∀ a ∈ all, good a) (insertSorted before item sorted) := by
  induction sorted with
  | nil => exact List.forall_mem_singleton.mpr first
  | cons other sorted ih =>
    obtain ⟨here, there⟩ := List.forall_mem_cons.mp rest
    rw [insertSorted]
    refine (compared item other).bind fun smaller _ => ?_
    split
    · exact List.forall_mem_cons.mpr ⟨first, rest⟩
    · exact (ih there).bind fun all each => List.forall_mem_cons.mpr ⟨here, each⟩

theorem sortWith_caught {α : Type} {good : α → Prop} {before : α → α → Except Fault Bool}
    (compared : ∀ a b, Survives (before a b)) {items : List α} (each : ∀ a ∈ items, good a) :
    Caught (fun all => ∀ a ∈ all, good a) (sortWith before items) :=
  Confined.foldlM (List.forall_mem_nil good) fun _ sorted a listed =>
    insertSorted_caught compared (each a listed) sorted

end Value

namespace Operation

open StaticSite.Text StaticSite.Value

/-! ### Format strings -/

theorem toFloat_survives (v : Value) : Survives (toFloat v) := by
  unfold toFloat
  split
  · trivial
  · exact isEvaluation_undefinedFault _
  · split
    · split
      · trivial
      · rfl
    · rfl

theorem toInt_survives (v : Value) : Survives (toInt v) := by
  unfold toInt
  split
  · split
    · trivial
    · show Fault.isEvaluation (if _ then _ else _) = true
      split <;> rfl
  · exact isEvaluation_undefinedFault _
  · split
    · trivial
    · rfl

theorem convert_survives (escape : Bool) (flags : Flags) (width : Nat) (precision : Option Nat)
    (conversion : Char) (v : Value) : Survives (convert escape flags width precision conversion v) := by
  unfold convert
  dsimp only
  -- Every value has a text, plain, quoted or in ASCII.
  split
  · trivial
  split
  · trivial
  split
  · trivial
  -- A character comes from its code or from a text of one character.
  split
  · split
    · split
      · rfl
      · trivial
    · split
      · trivial
      · rfl
    · rfl
  split
  · exact (toInt_survives v).map fun _ _ => trivial
  -- In base sixteen and eight a double is no integer.
  split
  · split
    · trivial
    · rfl
  split
  · exact (toFloat_survives v).map fun _ _ => trivial
  · rfl

theorem next_survives (supply : Supply) : Survives supply.next := by
  unfold Supply.next
  split
  · trivial
  · rfl

theorem sizeFront_survives (supply : Supply) (s : List Char) : Survives (sizeFront supply s) := by
  unfold sizeFront
  split
  · refine (next_survives supply).bind fun found _ => ?_
    dsimp only
    split
    · trivial
    · rfl
  · split <;> trivial

theorem fillFormat_survives (escape : Bool) (fuel : Nat) (supply : Supply) (s : List Char) :
    Survives (fillFormat escape fuel supply s) := by
  induction fuel generalizing supply s with
  | zero => cases s <;> rfl
  | succ fuel ih =>
    cases s with
    | nil =>
      rw [fillFormat]
      split
      · trivial
      · rfl
    | cons c s =>
      rw [fillFormat]
      split
      · exact (ih supply s).bind fun _ _ => trivial
      · -- One conversion: what the name chooses, its flags and sizes, and the value for it.
        extract_lets fill
        have filled (chosen : Option Value) (s : List Char) : Survives (fill (chosen, s)) := by
          simp -zeta only [fill]
          refine (sizeFront_survives supply _).bind fun (width, supply, s) _ => ?_
          extract_lets flags width finish
          have finished (precision : Option Nat) (supply : Supply) (s : List Char) :
              Survives (finish (precision, supply, s)) := by
            simp -zeta only [finish]
            extract_lets left
            clear_value left
            cases left with
            | nil => rfl
            | cons conversion rest =>
              have converted (v : Value) (supply : Supply) : Survives (do
                  let text ← convert escape flags width precision conversion v
                  return text ++ (← fillFormat escape fuel supply rest)) :=
                (convert_survives escape flags width precision conversion v).bind fun _ _ =>
                  (ih supply rest).bind fun _ _ => trivial
              dsimp only
              split
              · exact (ih supply rest).bind fun _ _ => trivial
              · cases chosen with
                | some v => exact converted v supply
                | none => exact (next_survives supply).bind fun found _ => converted found.1 found.2
          clear_value finish
          split
          · exact (sizeFront_survives supply _).bind fun _ _ => finished _ _ _
          · exact finished none supply s
        clear_value fill
        split
        · split
          · rfl
          · rfl
          · split
            · exact filled _ _
            · rfl
        · exact filled none s

theorem formatWith_survives (escape : Bool) (s : List Char) (values : Value) :
    Survives (formatWith escape s values) :=
  fillFormat_survives escape _ _ _

/-! ### Arithmetic -/

theorem refuseUndefined_survives (a b : Value) : Survives (refuseUndefined a b) := by
  unfold refuseUndefined
  split
  · exact isEvaluation_undefinedFault _
  · exact isEvaluation_undefinedFault _
  · trivial

theorem repeated_caught {α : Type} (items : List α) (times : Int) :
    Caught (fun all => all ⊆ items) (repeated items times) := by
  unfold repeated
  split
  · rfl
  · intro a inside
    obtain ⟨copy, listed, there⟩ := List.mem_flatten.mp inside
    rw [List.eq_of_mem_replicate listed] at there
    exact there

theorem floatOfInt_survives (n : Int) : Survives (floatOfInt n) := by
  unfold floatOfInt
  split
  · trivial
  · rfl

theorem onNumbers_caught {onInts : Int → Int → Except Fault Value}
    {onFloats : Float → Float → Except Fault Value} (ints : ∀ m n, Caught Tame (onInts m n))
    (floats : ∀ x y, Caught Tame (onFloats x y)) (a b : Value) :
    Caught Tame (onNumbers onInts onFloats a b) := by
  unfold onNumbers
  split
  · exact ints _ _
  · exact (floatOfInt_survives _).bind fun y _ => floats _ y
  · exact (floatOfInt_survives _).bind fun x _ => floats x _
  · exact floats _ _
  · rfl

/-- Operations on numbers that always give one. -/
theorem onNumbers_total (f : Int → Int → Int) (g : Float → Float → Float) (a b : Value) :
    Caught Tame (onNumbers (fun m n => .ok (.int (f m n))) (fun x y => .ok (.float (g x y))) a b) := by
  apply onNumbers_caught
  · exact fun m n => trivial
  · exact fun x y => trivial

theorem append_tame {xs ys : List Value} (first : ItemsTame xs) (second : ItemsTame ys) :
    ItemsTame (xs ++ ys) := by
  refine itemsTame_iff.mpr fun item listed => ?_
  rcases List.mem_append.mp listed with front | back
  · exact itemsTame_iff.mp first item front
  · exact itemsTame_iff.mp second item back

theorem add_caught {a b : Value} (first : a.Tame) (second : b.Tame) : Caught Tame (add a b) := by
  refine (refuseUndefined_survives a b).bind fun _ _ => ?_
  split
  · trivial
  · trivial
  · trivial
  · trivial
  · exact append_tame first second
  · exact append_tame first second
  · exact onNumbers_total (· + ·) (· + ·) a b

theorem subtract_caught (a b : Value) : Caught Tame (subtract a b) :=
  (refuseUndefined_survives a b).bind fun _ _ => onNumbers_total (· - ·) (· - ·) a b

theorem repeatValue?_caught {v : Value} {times : Int} {result : Except Fault Value} (tame : v.Tame)
    (found : repeatValue? v times = some result) : Caught Tame result := by
  unfold repeatValue? at found
  split at found
  · cases found
    exact (repeated_caught _ times).map fun _ _ => trivial
  · cases found
    exact (repeated_caught _ times).map fun _ _ => trivial
  · cases found
    exact (repeated_caught _ times).map fun all same =>
      itemsTame_iff.mpr fun item listed => itemsTame_iff.mp tame item (same listed)
  · cases found
    exact (repeated_caught _ times).map fun all same =>
      itemsTame_iff.mpr fun item listed => itemsTame_iff.mp tame item (same listed)
  · contradiction

theorem multiply_caught {a b : Value} (first : a.Tame) (second : b.Tame) :
    Caught Tame (multiply a b) := by
  have numbers := onNumbers_total (· * ·) (· * ·) a b
  refine (refuseUndefined_survives a b).bind fun _ _ => ?_
  split
  · split
    next repeats => exact repeatValue?_caught first repeats
    · exact numbers
  · split
    next repeats => exact repeatValue?_caught second repeats
    · exact numbers
  · exact numbers

theorem divideInts_caught (m n : Int) : Caught Tame (divideInts m n) := by
  unfold divideInts
  dsimp only
  split
  · rfl
  · split
    · trivial
    · rfl

/-- An operation on doubles that refuses a zero divisor. -/
theorem nonzero_caught (x y : Float) (f : Float → Float → Float) :
    Caught Tame (if y == 0 then .error .divisionByZero else .ok (.float (f x y))) := by
  split
  · rfl
  · trivial

theorem divide_caught (a b : Value) : Caught Tame (divide a b) :=
  (refuseUndefined_survives a b).bind fun _ _ =>
    onNumbers_caught divideInts_caught (fun x y => nonzero_caught x y (· / ·)) a b

/-- An operation on integers that refuses a zero divisor. -/
theorem nonzeroInt_caught (m n : Int) (f : Int → Int → Int) :
    Caught Tame (if n = 0 then .error .divisionByZero else .ok (.int (f m n))) := by
  split
  · rfl
  · trivial

theorem floorDivide_caught (a b : Value) : Caught Tame (floorDivide a b) :=
  (refuseUndefined_survives a b).bind fun _ _ =>
    onNumbers_caught (fun m n => nonzeroInt_caught m n Int.fdiv)
      (fun x y => nonzero_caught x y Double.floorDiv) a b

theorem modulo_caught (a b : Value) : Caught Tame (modulo a b) := by
  unfold modulo
  split
  · exact (formatWith_survives false _ b).map fun _ _ => trivial
  · exact (formatWith_survives true _ b).map fun _ _ => trivial
  · exact (refuseUndefined_survives a b).bind fun _ _ =>
      onNumbers_caught (fun m n => nonzeroInt_caught m n Int.fmod)
        (fun x y => nonzero_caught x y Double.modulo) a b

theorem powerFloats_caught (x y : Float) : Caught Tame (powerFloats x y) := by
  unfold powerFloats
  dsimp only
  split
  · rfl
  -- A negative base under a broken exponent has a complex power.
  split
  · trivial
  -- A result that is too large is a fault, unless an operand was infinite already.
  split
  · rfl
  · trivial

theorem powerInts_caught (m n : Int) : Caught Tame (powerInts m n) := by
  unfold powerInts
  split
  · trivial
  · exact (floatOfInt_survives m).bind fun x _ => (floatOfInt_survives n).bind fun y _ =>
      powerFloats_caught x y

theorem power_caught (a b : Value) : Caught Tame (power a b) :=
  (refuseUndefined_survives a b).bind fun _ _ =>
    onNumbers_caught powerInts_caught powerFloats_caught a b

theorem negate_caught (v : Value) : Caught Tame (negate v) := by
  unfold negate
  split
  · exact isEvaluation_undefinedFault _
  · trivial
  · split
    · trivial
    · rfl

theorem positive_caught (v : Value) : Caught Tame (positive v) := by
  unfold positive
  split
  · exact isEvaluation_undefinedFault _
  · trivial
  · split
    · trivial
    · rfl

/-! ### Operators -/

theorem within_survives {container : Value} (item : Value) (tame : container.Tame) :
    Survives (within item container) := by
  unfold within
  split
  · split
    · trivial
    · rfl
  · split
    · trivial
    · rfl
  · split
    · trivial
    · rfl
  · split
    · trivial
    · rfl
  · refine (stream_caught tame).bind fun s tame => ?_
    -- The fault at the end shows only if the item is not found before it.
    split
    · trivial
    · split
      next fault ends => exact tame.fault fault ends
      · trivial

theorem compareWith_survives {b : Value} (operator : Comparison) (a : Value) (tame : b.Tame) :
    Survives (compareWith operator a b) := by
  cases operator with
  | equal | unequal => trivial
  | less => exact related_survives .less a b
  | lessEqual => exact related_survives .lessEqual a b
  | greater => exact related_survives .greater a b
  | greaterEqual => exact related_survives .greaterEqual a b
  | within => exact within_survives a tame
  | notWithin => exact (within_survives a tame).map fun _ _ => trivial

theorem applyUnary_caught (operator : UnaryOperator) (v : Value) :
    Caught Tame (applyUnary operator v) := by
  cases operator with
  | negate => exact negate_caught v
  | plus => exact positive_caught v
  | not => trivial

theorem applyBinary_caught {a b : Value} (operator : BinaryOperator) (first : a.Tame)
    (second : b.Tame) : Caught Tame (applyBinary operator a b) := by
  cases operator with
  | add => exact add_caught first second
  | subtract => exact subtract_caught a b
  | multiply => exact multiply_caught first second
  | divide => exact divide_caught a b
  | floorDivide => exact floorDivide_caught a b
  | modulo => exact modulo_caught a b
  | power => exact power_caught a b
  | and =>
    rw [applyBinary]
    split
    · exact second
    · exact first
  | or =>
    rw [applyBinary]
    split
    · exact first
    · exact second

end Operation

end StaticSite
