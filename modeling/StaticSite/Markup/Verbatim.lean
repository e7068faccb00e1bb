import StaticSite.Fault
import StaticSite.Markup.Element
import StaticSite.Number.Decimal

/-!
# Verbatim elements

Elements whose text must not change are taken out of the markup before it is processed and put
back at the end. A store keeps the fragments of one render; a fragment's token names its place in
the store and carries the store's nonce, so that no text of a page can be taken for a token.
-/

namespace StaticSite.Markup

open StaticSite.Text

/-- The fragments taken out so far, oldest first. -/
structure Store where
  nonce : List Char
  fragments : List (List Char)

namespace Store

def empty (nonce : List Char) : Store := ⟨nonce, []⟩

def size (store : Store) : Nat := store.fragments.length

/-- What every token of the store starts with. -/
def tokenStart (store : Store) : List Char := "%%VERBATIM_".toList ++ store.nonce ++ ['_']

def tokenEnd : List Char := ['%', '%']

/-- The token of the fragment at a place. -/
def token (store : Store) (place : Int) : List Char :=
  store.tokenStart ++ Decimal.intText place ++ tokenEnd

/-- Keeps a fragment after all others. -/
def add (store : Store) (fragment : List Char) : Store :=
  { store with fragments := store.fragments ++ [fragment] }

/-- The token that the next fragment will have. -/
def nextToken (store : Store) : List Char := store.token store.size

/-- The fragment at an index; a negative one counts from the end. -/
def get (store : Store) (index : Int) : Except Fault (List Char) :=
  let place := if index < 0 then index + store.size else index
  if place < 0 then .error .missingIndex
  else match store.fragments[place.toNat]? with
    | some fragment => .ok fragment
    | none => .error .missingIndex

/-- Tokens are read with decimal digits of any script. -/
def tokenFront? (store : Store) (s : List Char) : Option (Nat × List Char) :=
  (dropFront? store.tokenStart s).bind fun body =>
    match body.takeWhile isDecimal with
    | [] => none
    | digits => (dropFront? tokenEnd (body.dropWhile isDecimal)).map fun rest =>
      (digits.foldl (fun n c => n * 10 + (decimalValue? c).getD 0) 0, rest)

theorem tokenFront?_suffix {store : Store} {s rest : List Char} {place : Nat}
    (found : store.tokenFront? s = some (place, rest)) :
    ∃ front, s = store.tokenStart ++ front ++ rest := by
  simp only [tokenFront?, Option.bind_eq_some_iff] at found
  obtain ⟨body, started, found⟩ := found
  split at found
  · simp at found
  · simp only [Option.map_eq_some_iff, Prod.mk.injEq] at found
    obtain ⟨tail, closed, _, rfl⟩ := found
    refine ⟨body.takeWhile isDecimal ++ tokenEnd, ?_⟩
    rw [dropFront?_eq_some_iff.mp started]
    have whole := List.takeWhile_append_dropWhile (p := isDecimal) (l := body)
    rw [dropFront?_eq_some_iff.mp closed] at whole
    simp only [List.append_assoc] at whole ⊢
    rw [whole]

theorem tokenStart_length_pos (store : Store) : 0 < store.tokenStart.length := by
  unfold tokenStart
  simp

/-- Recognises the tokens of a store. -/
def tokens (store : Store) : Scanner Nat where
  run := store.tokenFront?
  shorter found := by
    obtain ⟨front, same⟩ := tokenFront?_suffix found
    have longer := tokenStart_length_pos store
    simp only [same, List.length_append]
    omega
  suffix found := by
    obtain ⟨front, same⟩ := tokenFront?_suffix found
    exact ⟨_, same⟩

end Store

/-- Replaces the items among pieces by the tokens of their sources. -/
def keepPieces (store : Store) : List (Piece Unit) → List Char × Store
  | [] => ([], store)
  | .plain c :: pieces =>
    let (text, final) := keepPieces store pieces
    (c :: text, final)
  | .found _ source :: pieces =>
    let (text, final) := keepPieces (store.add source) pieces
    (store.nextToken ++ text, final)

/-- Takes every element of the given tags out of a markup. -/
def protectElements (tags : List (List Char)) (s : List Char) (store : Store) : List Char × Store :=
  keepPieces store ((elements tags).pieces s)

def verbatimTags : List (List Char) :=
  [['p', 'r', 'e'], ['c', 'o', 'd', 'e'], ['t', 'e', 'x', 't', 'a', 'r', 'e', 'a']]

/-- Takes every verbatim element out of a markup. -/
def protect (s : List Char) (store : Store) : List Char × Store :=
  protectElements verbatimTags s store

def restorePieces (store : Store) : List (Piece Nat) → Except Fault (List Char)
  | [] => .ok []
  | .plain c :: pieces => (restorePieces store pieces).map (c :: ·)
  | .found place _ :: pieces => do
    let fragment ← store.get place
    return fragment ++ (← restorePieces store pieces)

/-- Puts the fragments back. A token beyond the store is a fault; a store that never kept a
fragment has no tokens. -/
def restore (s : List Char) (store : Store) : Except Fault (List Char) :=
  if store.fragments.isEmpty then .ok s else restorePieces store (store.tokens.pieces s)

end StaticSite.Markup
