import StaticSite.Proofs.Json.ScriptLiterals
import StaticSite.Proofs.Value.Printing
import StaticSite.Script

/-!
# Values in client scripts

The texts around the literals of a client script are fixed, and of the characters `<` in a script
the first one opens the element and the last one closes it: no literal has one. So the element ends
where its script ends, whatever the values are, and each value is read back from its literal.
-/

namespace StaticSite.Script

open StaticSite.Text

/-- The name of the element, without the brackets of its tags. -/
def tagName : List Char := ['s', 'c', 'r', 'i', 'p', 't']

def opening : List Char := '<' :: tagName

def closing : List Char := '<' :: '/' :: tagName

/-- A text that is one script element, with no second opening tag and no earlier closing tag. -/
structure OneElement (text : List Char) : Prop where
  opens : opening ++ ['>'] <+: text
  closes : closing ++ ['>'] <:+ text
  opensOnce : ∀ front back, text = front ++ opening ++ back → front = []
  closesOnce : ∀ front back, text = front ++ closing ++ back → back = ['>']

variable {front inner back : List Char}

/-- Between the tags there is no bracket, so a tag begins with the bracket of one of them. -/
theorem bracket_eq (free : '<' ∉ inner)
    (cut : opening ++ '>' :: inner ++ (closing ++ ['>']) = front ++ '<' :: back) :
    (front = [] ∧ back = tagName ++ '>' :: inner ++ (closing ++ ['>']))
      ∨ back = '/' :: (tagName ++ ['>']) := by
  have before : '<' ∉ tagName ++ '>' :: inner := by simp [tagName, free]
  have behind : '<' ∉ '/' :: (tagName ++ ['>']) := by decide
  cases front with
  | nil => exact .inl ⟨rfl, (List.cons.inj cut).2.symm⟩
  | cons c front =>
    have rest : tagName ++ '>' :: inner ++ '<' :: '/' :: (tagName ++ ['>'])
        = front ++ '<' :: back := (List.cons.inj cut).2
    exact .inr ((List.append_cons_inj_of_notMem before behind).mp rest).2.2.symm

theorem oneElement_of_notMem (free : '<' ∉ inner) :
    OneElement (opening ++ '>' :: inner ++ (closing ++ ['>'])) where
  opens := ⟨inner ++ (closing ++ ['>']), by simp⟩
  closes := List.suffix_append _ _
  opensOnce front back cut := by
    rw [List.append_assoc front] at cut
    rcases bracket_eq free cut with ⟨start, -⟩ | early
    · exact start
    · -- A closing tag has a slash where an opening tag has a letter.
      have letter := (List.cons.inj early).1
      contradiction
  closesOnce front back cut := by
    rw [List.append_assoc front] at cut
    rcases bracket_eq free cut with ⟨-, early⟩ | last
    · have letter := (List.cons.inj early).1
      contradiction
    · exact List.append_cancel_left (List.cons.inj last).2

/-! ### The texts around literals -/

/-- The text has the opening tag in front and no other bracket. -/
def Begins (front : List Char) : Prop := ∃ rest, front = opening ++ '>' :: rest ∧ '<' ∉ rest

/-- The text has the closing tag at its end and no other bracket. -/
def Finishes (back : List Char) : Prop := ∃ rest, back = rest ++ (closing ++ ['>']) ∧ '<' ∉ rest

theorem oneElement_between (begins : Begins front) (free : '<' ∉ inner)
    (finishes : Finishes back) : OneElement (front ++ inner ++ back) := by
  obtain ⟨first, rfl, before⟩ := begins
  obtain ⟨last, rfl, behind⟩ := finishes
  have whole : '<' ∉ first ++ inner ++ last := by simp [before, free, behind]
  simpa only [List.append_assoc, List.cons_append] using oneElement_of_notMem whole

variable {line : String} {lines : List String}

theorem ofLines_cons (more : lines ≠ []) :
    ofLines (line :: lines) = line.toList ++ '\n' :: ofLines lines := by
  rw [ofLines, String.intercalate_cons_of_ne_nil more]
  simp [ofLines]

/-- A literal is a list of characters, which is all that has to be looked at. -/
theorem notMem_literal {c : Char} {s : List Char} (free : c ∉ s) : c ∉ (String.ofList s).toList := by
  rwa [String.toList_ofList]

theorem notMem_ofLines (each : ∀ line ∈ lines, '<' ∉ line.toList) : '<' ∉ ofLines lines := by
  induction lines with
  | nil => simp [ofLines]
  | cons line lines ih =>
    obtain ⟨here, there⟩ := List.forall_mem_cons.mp each
    cases lines with
    | nil => simpa [ofLines] using here
    | cons next lines =>
      rw [ofLines_cons (List.cons_ne_nil _ _)]
      simp [here, ih there]

theorem begins_ofLines (more : lines ≠ []) (each : ∀ line ∈ lines, '<' ∉ line.toList) :
    Begins (ofLines ("<script>" :: lines)) := by
  refine ⟨'\n' :: ofLines lines, ?_, ?_⟩
  · rw [ofLines_cons more]
    rfl
  · simpa using notMem_ofLines each

theorem finishes_last : Finishes (ofLines ["</script>"]) := ⟨[], rfl, nofun⟩

theorem finishes_cons (here : '<' ∉ line.toList) (rest : Finishes (ofLines lines)) :
    Finishes (ofLines (line :: lines)) := by
  obtain ⟨before, whole, free⟩ := rest
  have more : lines ≠ [] := by
    rintro rfl
    have size := congrArg List.length whole
    simp [ofLines, closing] at size
  refine ⟨line.toList ++ '\n' :: before, ?_, by simp [here, free]⟩
  rw [ofLines_cons more, whole, List.append_assoc, List.cons_append]

theorem authFront_begins : Begins authFront := by
  refine begins_ofLines (List.cons_ne_nil _ _) ?_
  repeat refine List.forall_mem_cons.mpr ⟨notMem_literal (by decide), ?_⟩
  nofun

theorem authBack_finishes : Finishes authBack := by
  unfold authBack
  repeat refine finishes_cons (notMem_literal (by decide)) ?_
  exact finishes_last

theorem postFront_begins : Begins postFront := by
  refine begins_ofLines (List.cons_ne_nil _ _) ?_
  repeat refine List.forall_mem_cons.mpr ⟨notMem_literal (by decide), ?_⟩
  nofun

theorem postBack_finishes : Finishes postBack := by
  unfold postBack
  repeat refine finishes_cons (notMem_literal (by decide)) ?_
  exact finishes_last

theorem notMem_postAddress : '<' ∉ postAddress := by
  refine notMem_ofLines ?_
  repeat refine List.forall_mem_cons.mpr ⟨notMem_literal (by decide), ?_⟩
  nofun

theorem notMem_postToken : '<' ∉ postToken := by
  refine notMem_ofLines ?_
  repeat refine List.forall_mem_cons.mpr ⟨notMem_literal (by decide), ?_⟩
  nofun

/-! ### Literals -/

theorem notMem_scriptLiteral {v : Value} {text : List Char}
    (written : Json.scriptLiteral v = .ok text) : '<' ∉ text := by
  obtain ⟨unescaped, -, rfl⟩ := Fault.map_eq_ok written
  exact Json.notMem_escapeForScript (by decide) unescaped

/-- The literal of a text is there, and is read as the text. -/
theorem scriptLiteral_str (s : String) :
    ∃ text, Json.scriptLiteral (.str s) = .ok text ∧ Json.read text = .ok (.str s) := by
  obtain ⟨text, written⟩ := Json.scriptLiteral_succeeds (.str s)
  obtain ⟨shown, same, reads⟩ := Json.scriptLiteral_reads (.str s) written
  cases same
  exact ⟨text, written, reads⟩

theorem ofString_append (s : String) (t : List Char) :
    Value.ofString (s.toList ++ t) = .str (s ++ String.ofList t) := by
  rw [Value.ofString, String.ofList_append, String.ofList_toList]

/-- A script for posting has three literals: of a name, an address and a token. -/
theorem post_eq_ok_iff {name token : Value} {base endpoint : String} {text : List Char} :
    post name (.str base) (.str endpoint) token = .ok text ↔
      ∃ n a t, Json.scriptLiteral name = .ok n
        ∧ Json.scriptLiteral (.str (base ++ endpoint)) = .ok a
        ∧ token.legible = true
        ∧ Json.scriptLiteral (.str ("Bearer " ++ token.plainString)) = .ok t
        ∧ postFront ++ n ++ postAddress ++ a ++ postToken ++ t ++ postBack = text := by
  have printed (s : String) : (Value.str s).printed = .ok s.toList := rfl
  have address : Value.ofString (base.toList ++ endpoint.toList) = .str (base ++ endpoint) := by
    rw [ofString_append, String.ofList_toList]
  unfold post
  constructor
  · intro ended
    obtain ⟨front, same, ended⟩ := Fault.bind_eq_ok ended
    cases same
    obtain ⟨back, same, ended⟩ := Fault.bind_eq_ok ended
    cases same
    -- The front and the back are texts, so only the literals and the token can fail.
    obtain ⟨n, named, ended⟩ := Fault.bind_eq_ok ended
    obtain ⟨a, addressed, ended⟩ := Fault.bind_eq_ok ended
    obtain ⟨shown, plain, ended⟩ := Fault.bind_eq_ok ended
    obtain ⟨legible, rfl⟩ := Value.printed_eq_ok_iff.mp plain
    obtain ⟨t, signed, whole⟩ := Fault.bind_eq_ok ended
    rw [ofString_append] at signed
    exact ⟨n, a, t, named, address ▸ addressed, legible, signed, Except.ok.inj whole⟩
  · rintro ⟨n, a, t, named, addressed, legible, signed, rfl⟩
    have shown : token.printed = .ok token.plain := Value.printed_eq_ok_iff.mpr ⟨legible, rfl⟩
    have bearer : Value.ofString ("Bearer ".toList ++ token.plain)
        = .str ("Bearer " ++ token.plainString) := ofString_append _ _
    simp only [printed, shown, named, address, addressed, bearer, signed, bind, Except.bind]
    rfl

/-- Values cannot break out of client scripts. A script for posting is there exactly if its name and
its token hold no integer that is too long to be written, a script for signing in always. Each is
one element, and what its literals stand between is the same for all values. The literals are read
as the name (with the members of mappings in another order), the address, the token behind its
scheme, and the endpoint for signing in. -/
theorem values_stay_inside {name token : Value} (nameExact : Json.Exact name)
    (tokenExact : Json.Exact token) (base endpoint login : String) :
    ((∃ text, post name (.str base) (.str endpoint) token = .ok text)
        ↔ name.IsPlain ∧ token.IsPlain)
    ∧ (∀ text, post name (.str base) (.str endpoint) token = .ok text →
        OneElement text ∧ ∃ n a t,
          text = postFront ++ n ++ postAddress ++ a ++ postToken ++ t ++ postBack
          ∧ (∃ shown, Json.Rearranged name shown ∧ Json.read n = .ok shown)
          ∧ Json.read a = .ok (.str (base ++ endpoint))
          ∧ Json.read t = .ok (.str ("Bearer " ++ token.plainString)))
    ∧ ∃ text e, auth (.str login) = .ok text ∧ OneElement text
        ∧ text = authFront ++ e ++ authBack ∧ Json.read e = .ok (.str login) := by
  -- The literals of address, token and endpoint are of strings, which always have one.
  obtain ⟨a, addressed, addressRead⟩ := scriptLiteral_str (base ++ endpoint)
  obtain ⟨t, signed, tokenRead⟩ := scriptLiteral_str ("Bearer " ++ token.plainString)
  obtain ⟨e, ending, loginRead⟩ := scriptLiteral_str login
  refine ⟨?_, ?_, authFront ++ e ++ authBack, e, ?_, ?_, rfl, loginRead⟩
  · rw [← Json.scriptLiteral_isOk_iff nameExact, ← Json.legible_iff_isPlain tokenExact]
    simp only [post_eq_ok_iff]
    constructor
    · rintro ⟨_, n, _, _, named, _, legible, _⟩
      exact ⟨⟨n, named⟩, legible⟩
    · rintro ⟨⟨n, named⟩, legible⟩
      exact ⟨_, n, a, t, named, addressed, legible, signed, rfl⟩
  · intro text ended
    obtain ⟨n, a', t', named, addressed', -, signed', rfl⟩ := post_eq_ok_iff.mp ended
    rw [addressed] at addressed'
    rw [signed] at signed'
    cases addressed'
    cases signed'
    refine ⟨?_, n, a, t, rfl, Json.scriptLiteral_reads nameExact named, addressRead, tokenRead⟩
    -- No literal has a `<`, so none closes the element that it stands in.
    have free : '<' ∉ n ++ postAddress ++ a ++ postToken ++ t := by
      simp [notMem_scriptLiteral named, notMem_scriptLiteral addressed, notMem_scriptLiteral signed,
        notMem_postAddress, notMem_postToken]
    simpa only [List.append_assoc] using oneElement_between postFront_begins free postBack_finishes
  · rw [auth, ending]
    rfl
  · exact oneElement_between authFront_begins (notMem_scriptLiteral ending) authBack_finishes

/-- A name with quotes and a token with a closing tag. -/
theorem values_stay_inside_tag :
    Json.Exact (.str "a\"b") ∧ Json.Exact (.list [.str "t</script>", .int 1])
    ∧ ∃ text, post (.str "a\"b") (.str "https://x.example") (.str "/p")
        (.list [.str "t</script>", .int 1]) = .ok text ∧ OneElement text := by
  have name : Json.Exact (.str "a\"b") := .str _
  have token : Json.Exact (.list [.str "t</script>", .int 1]) := by
    refine .list (List.forall_mem_cons.mpr ⟨.str _, List.forall_mem_singleton.mpr (.int 1)⟩)
  obtain ⟨succeeds, inside, -⟩ := values_stay_inside name token "https://x.example" "/p" "/login"
  have plain : (Value.list [.str "t</script>", .int 1]).IsPlain :=
    .list (List.forall_mem_cons.mpr ⟨.str _, List.forall_mem_singleton.mpr (.int (by decide))⟩)
  obtain ⟨text, ended⟩ := succeeds.mpr ⟨.str _, plain⟩
  exact ⟨name, token, text, ended, (inside text ended).1⟩

end StaticSite.Script
