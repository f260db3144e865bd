import BaseApi.Proofs.Reading.Tokens

/-!
# What a text writes

`Json.Reads cs tree rest` says that `cs` starts with the value `tree` and goes on with `rest`. It
has one rule for each form of a value, and its trees keep every member of an object, also those
whose keys come again, in the order of the text. `Json.Spells` is the same for a whole text.

Main statements: a value takes at least one character (`Reads.length_lt`), and a text starts with at
most one value (`Reads.unique`).
-/

namespace BaseApi.Json

open Fallible

/-! ## The rules -/

/-- A literal, a string or a number at the start of a text, and what follows it. -/
inductive ReadsScalar : List Char → Json → List Char → Prop where
  | null {inner rest : List Char} (letters : literal ['u', 'l', 'l'] inner = .ok rest) :
      ReadsScalar ('n' :: inner) null rest
  | yes {inner rest : List Char} (letters : literal ['r', 'u', 'e'] inner = .ok rest) :
      ReadsScalar ('t' :: inner) (bool true) rest
  | no {inner rest : List Char} (letters : literal ['a', 'l', 's', 'e'] inner = .ok rest) :
      ReadsScalar ('f' :: inner) (bool false) rest
  | text {inner rest : List Char} {value : String}
      (body : stringBody [] inner = .ok (value, rest)) :
      ReadsScalar ('"' :: inner) (str value) rest
  | numeral {c : Char} {inner rest : List Char} {value : Number}
      (starts : c = '-' ∨ c.isDigit = true) (digits : number (c :: inner) = .ok (value, rest)) :
      ReadsScalar (c :: inner) (num value) rest

mutual

/-- The value at the start of a text, behind blanks, and what follows it. -/
inductive Reads : List Char → Json → List Char → Prop where
  | scalar {cs rest : List Char} {value : Json} (token : ReadsScalar (skipBlanks cs) value rest) :
      Reads cs value rest
  | array {cs inner rest : List Char} {items : List Json} (opens : skipBlanks cs = '[' :: inner)
      (elements : ReadsElements true inner items rest) : Reads cs (arr items) rest
  | object {cs inner rest : List Char} {members : List (String × Json)}
      (opens : skipBlanks cs = '{' :: inner) (entries : ReadsMembers true inner members rest) :
      Reads cs (obj members) rest

/-- The elements up to the end of an array, and what follows its bracket; the first argument says
that none has come yet. -/
inductive ReadsElements : Bool → List Char → List Json → List Char → Prop where
  | closed {first : Bool} {cs rest : List Char} (next : nextElement first cs = .ok (.closed rest)) :
      ReadsElements first cs [] rest
  | entry {first : Bool} {cs start after rest : List Char} {item : Json} {items : List Json}
      (next : nextElement first cs = .ok (.entry start)) (head : Reads start item after)
      (tail : ReadsElements false after items rest) : ReadsElements first cs (item :: items) rest

/-- The members up to the end of an object, and what follows its brace; the first argument says
that none has come yet. -/
inductive ReadsMembers : Bool → List Char → List (String × Json) → List Char → Prop where
  | closed {first : Bool} {cs rest : List Char} (next : nextMember first cs = .ok (.closed rest)) :
      ReadsMembers first cs [] rest
  | entry {first : Bool} {cs start named valued after rest : List Char} {key : String}
      {item : Json} {members : List (String × Json)}
      (next : nextMember first cs = .ok (.entry start))
      (name : stringBody [] start = .ok (key, named)) (separator : colon named = .ok valued)
      (head : Reads valued item after) (tail : ReadsMembers false after members rest) :
      ReadsMembers first cs ((key, item) :: members) rest

end

/-- The text is the value with blanks around it. -/
def Spells (text : String) (tree : Json) : Prop :=
  ∃ rest, Reads text.toList tree rest ∧ skipBlanks rest = []

/-- Blanks before a value do not matter. -/
theorem Reads.skipBlanks {cs rest : List Char} {tree : Json} (read : Reads cs tree rest) :
    Reads (Json.skipBlanks cs) tree rest := by
  cases read with
  | scalar token => exact .scalar (by rwa [skipBlanks_skipBlanks])
  | array opens elements => exact .array (by rwa [skipBlanks_skipBlanks]) elements
  | object opens entries => exact .object (by rwa [skipBlanks_skipBlanks]) entries

/-! ## From entry to entry -/

theorem nextElement_eq_closed_iff {first : Bool} {cs rest : List Char} :
    nextElement first cs = .ok (.closed rest) ↔ skipBlanks cs = ']' :: rest := by
  unfold nextElement
  split
  · next ends => simp [refuse, ends]
  · next closes => simp [closes]
  · next continues => split <;> simp [refuse, continues]
  · next unclosed => simpa using unclosed rest
  · next unclosed _ => simpa [refuse] using unclosed rest

/-- An element starts where the text does, or after a comma. -/
theorem nextElement_eq_entry {first : Bool} {cs start : List Char}
    (next : nextElement first cs = .ok (.entry start)) :
    ∃ text, skipBlanks text = start ∧
      (first = true ∧ text = cs ∨ first = false ∧ skipBlanks cs = ',' :: text) := by
  unfold nextElement at next
  split at next
  · cases next
  · cases next
  · next text continues =>
      split at next
      · cases next
      · cases next
      · cases next
        exact ⟨text, rfl, .inr ⟨rfl, continues⟩⟩
  · cases next
    exact ⟨cs, rfl, .inl ⟨rfl, rfl⟩⟩
  · cases next

theorem keyStart_eq_ok_iff {cs : List Char} {walk : Walk} :
    keyStart cs = .ok walk ↔ ∃ start, cs = '"' :: start ∧ walk = .entry start := by
  unfold keyStart
  split
  · simp [refuse]
  · simp [eq_comm]
  · simp [refuse]
  · next notQuote _ =>
      simp only [refuse, reduceCtorEq, false_iff, not_exists, not_and]
      exact fun start same => absurd same (notQuote start)

theorem nextMember_eq_closed_iff {first : Bool} {cs rest : List Char} :
    nextMember first cs = .ok (.closed rest) ↔ skipBlanks cs = '}' :: rest := by
  unfold nextMember
  split
  · next ends => simp [refuse, ends]
  · next closes => simp [closes]
  · next continues => simp [keyStart_eq_ok_iff, continues]
  · next unclosed => simpa [keyStart_eq_ok_iff] using unclosed rest
  · next unclosed _ => simpa [refuse] using unclosed rest

/-- A key starts where the text does, or after a comma. -/
theorem nextMember_eq_entry {first : Bool} {cs start : List Char}
    (next : nextMember first cs = .ok (.entry start)) :
    ∃ text, skipBlanks text = '"' :: start ∧
      (first = true ∧ text = cs ∨ first = false ∧ skipBlanks cs = ',' :: text) := by
  unfold nextMember at next
  split at next
  · cases next
  · cases next
  · next text continues =>
      obtain ⟨_, quoted, same⟩ := keyStart_eq_ok_iff.mp next
      cases same
      exact ⟨text, quoted, .inr ⟨rfl, continues⟩⟩
  · obtain ⟨_, quoted, same⟩ := keyStart_eq_ok_iff.mp next
    cases same
    exact ⟨cs, quoted, .inl ⟨rfl, rfl⟩⟩
  · cases next

theorem colon_eq_ok_iff {cs rest : List Char} :
    colon cs = .ok rest ↔ skipBlanks cs = ':' :: rest := by
  unfold colon
  split
  · next ends => simp [refuse, ends]
  · next separates => simp [separates]
  · next other => simpa [refuse] using other rest

/-! ## Scalars -/

/-- No other value starts the way a number does. -/
theorem ne_of_startsNumber {c : Char} (starts : c = '-' ∨ c.isDigit = true) :
    c ≠ 'n' ∧ c ≠ 't' ∧ c ≠ 'f' ∧ c ≠ '"' ∧ c ≠ '[' ∧ c ≠ '{' := by
  refine ⟨?_, ?_, ?_, ?_, ?_, ?_⟩ <;>
    · rintro rfl
      exact absurd starts (by decide)

theorem scalar_eq_ok_iff {cs rest : List Char} {value : Json} :
    scalar cs = .ok (value, rest) ↔ ReadsScalar cs value rest := by
  constructor
  · intro read
    unfold scalar at read
    split at read
    · cases read
    · obtain ⟨after, letters, same⟩ := bind_eq_ok_iff.mp read
      cases same
      exact .null letters
    · obtain ⟨after, letters, same⟩ := bind_eq_ok_iff.mp read
      cases same
      exact .yes letters
    · obtain ⟨after, letters, same⟩ := bind_eq_ok_iff.mp read
      cases same
      exact .no letters
    · obtain ⟨⟨text, after⟩, body, same⟩ := bind_eq_ok_iff.mp read
      cases same
      exact .text body
    · split at read
      · next starts =>
          obtain ⟨⟨number, after⟩, digits, same⟩ := bind_eq_ok_iff.mp read
          cases same
          exact .numeral starts digits
      · cases read
  · intro token
    cases token with
    | null letters => simp [scalar, letters]
    | yes letters => simp [scalar, letters]
    | no letters => simp [scalar, letters]
    | text body => simp [scalar, body]
    | numeral starts digits =>
        obtain ⟨notN, notT, notF, notQuote, -, -⟩ := ne_of_startsNumber starts
        simp [scalar, starts, digits]

theorem ReadsScalar.not_opens {cs inner rest : List Char} {value : Json} {c : Char}
    (opener : c = '[' ∨ c = '{') (opens : cs = c :: inner) : ¬ ReadsScalar cs value rest := by
  rintro token
  rcases opener with rfl | rfl <;> subst opens <;> cases token with
  | numeral starts digits => exact absurd starts (by decide)

/-! ## The opening character

The first character of a value tells its form. -/

section Opening

variable {cs inner after : List Char} {tree : Json}

theorem Reads.eq_null (read : Reads cs tree after) (opens : Json.skipBlanks cs = 'n' :: inner) :
    tree = null ∧ literal ['u', 'l', 'l'] inner = .ok after := by
  cases read with
  | scalar token =>
      rw [opens] at token
      cases token with
      | null letters => exact ⟨rfl, letters⟩
      | numeral starts digits => exact absurd starts (by decide)
  | array bracket elements => cases opens.symm.trans bracket
  | object brace entries => cases opens.symm.trans brace

theorem Reads.eq_str (read : Reads cs tree after) (opens : Json.skipBlanks cs = '"' :: inner) :
    ∃ text, tree = str text ∧ stringBody [] inner = .ok (text, after) := by
  cases read with
  | scalar token =>
      rw [opens] at token
      cases token with
      | text body => exact ⟨_, rfl, body⟩
      | numeral starts digits => exact absurd starts (by decide)
  | array bracket elements => cases opens.symm.trans bracket
  | object brace entries => cases opens.symm.trans brace

theorem Reads.eq_arr (read : Reads cs tree after) (opens : Json.skipBlanks cs = '[' :: inner) :
    ∃ items, tree = arr items ∧ ReadsElements true inner items after := by
  cases read with
  | scalar token => exact absurd token (ReadsScalar.not_opens (.inl rfl) opens)
  | array bracket elements =>
      cases opens.symm.trans bracket
      exact ⟨_, rfl, elements⟩
  | object brace entries => cases opens.symm.trans brace

theorem Reads.eq_obj (read : Reads cs tree after) (opens : Json.skipBlanks cs = '{' :: inner) :
    ∃ members, tree = obj members ∧ ReadsMembers true inner members after := by
  cases read with
  | scalar token => exact absurd token (ReadsScalar.not_opens (.inr rfl) opens)
  | array bracket elements => cases opens.symm.trans bracket
  | object brace entries =>
      cases opens.symm.trans brace
      exact ⟨_, rfl, entries⟩

theorem Reads.opens_null (read : Reads cs null after) :
    ∃ inner, Json.skipBlanks cs = 'n' :: inner := by
  cases read with
  | scalar token =>
      generalize Json.skipBlanks cs = start at token ⊢
      cases token with
      | null letters => exact ⟨_, rfl⟩

theorem Reads.opens_str {text : String} (read : Reads cs (str text) after) :
    ∃ inner, Json.skipBlanks cs = '"' :: inner := by
  cases read with
  | scalar token =>
      generalize Json.skipBlanks cs = start at token ⊢
      cases token with
      | text body => exact ⟨_, rfl⟩

theorem Reads.opens_arr {items : List Json} (read : Reads cs (arr items) after) :
    ∃ inner, Json.skipBlanks cs = '[' :: inner := by
  cases read with
  | scalar token =>
      generalize Json.skipBlanks cs = start at token
      cases token
  | array opens elements => exact ⟨_, opens⟩

theorem Reads.opens_obj {members : List (String × Json)} (read : Reads cs (obj members) after) :
    ∃ inner, Json.skipBlanks cs = '{' :: inner := by
  cases read with
  | scalar token =>
      generalize Json.skipBlanks cs = start at token
      cases token
  | object opens entries => exact ⟨_, opens⟩

end Opening

/-! ## Progress -/

theorem ReadsScalar.length_lt {cs rest : List Char} {value : Json}
    (token : ReadsScalar cs value rest) : rest.length < cs.length := by
  cases token with
  | null letters | yes letters | no letters =>
      exact Nat.lt_succ_of_le (length_le_of_literal letters)
  | text body =>
      exact Nat.lt_succ_of_lt (length_lt_of_skipString (skipString_of_stringBody body))
  | numeral starts digits => exact length_lt_of_skipNumber (skipNumber_of_number digits)

theorem length_lt_of_skipBlanks {cs rest : List Char} {c : Char}
    (opens : skipBlanks cs = c :: rest) : rest.length < cs.length := by
  have short := length_skipBlanks_le cs
  rw [opens, List.length_cons] at short
  exact short

theorem length_le_of_nextElement {first : Bool} {cs start : List Char}
    (next : nextElement first cs = .ok (.entry start)) : start.length ≤ cs.length := by
  obtain ⟨text, rfl, ⟨-, rfl⟩ | ⟨-, continues⟩⟩ := nextElement_eq_entry next
  · exact length_skipBlanks_le text
  · exact (length_skipBlanks_le text).trans (length_lt_of_skipBlanks continues).le

/-- The value of a member is shorter than the text that starts with its key. -/
theorem length_lt_of_member {first : Bool} {cs start named valued : List Char} {key : String}
    (next : nextMember first cs = .ok (.entry start))
    (name : stringBody [] start = .ok (key, named)) (separator : colon named = .ok valued) :
    valued.length < cs.length := by
  have started : start.length < cs.length := by
    obtain ⟨text, quoted, ⟨-, rfl⟩ | ⟨-, continues⟩⟩ := nextMember_eq_entry next
    · exact length_lt_of_skipBlanks quoted
    · exact (length_lt_of_skipBlanks quoted).trans (length_lt_of_skipBlanks continues)
  calc valued.length < named.length := length_lt_of_skipBlanks (colon_eq_ok_iff.mp separator)
    _ < start.length := length_lt_of_skipString (skipString_of_stringBody name)
    _ < cs.length := started

mutual

/-- A value takes at least one character. -/
theorem Reads.length_lt {cs rest : List Char} {tree : Json} :
    Reads cs tree rest → rest.length < cs.length
  | .scalar token => token.length_lt.trans_le (length_skipBlanks_le cs)
  | .array opens elements => elements.length_lt.trans (length_lt_of_skipBlanks opens)
  | .object opens entries => entries.length_lt.trans (length_lt_of_skipBlanks opens)

theorem ReadsElements.length_lt {first : Bool} {cs rest : List Char} {items : List Json} :
    ReadsElements first cs items rest → rest.length < cs.length
  | .closed next => length_lt_of_skipBlanks (nextElement_eq_closed_iff.mp next)
  | .entry next head tail =>
      (tail.length_lt.trans head.length_lt).trans_le (length_le_of_nextElement next)

theorem ReadsMembers.length_lt {first : Bool} {cs rest : List Char}
    {members : List (String × Json)} :
    ReadsMembers first cs members rest → rest.length < cs.length
  | .closed next => length_lt_of_skipBlanks (nextMember_eq_closed_iff.mp next)
  | .entry next name separator head tail =>
      (tail.length_lt.trans head.length_lt).trans (length_lt_of_member next name separator)

end

/-! ## Uniqueness -/

theorem ReadsScalar.unique {cs rest rest' : List Char} {value value' : Json}
    (token : ReadsScalar cs value rest) (token' : ReadsScalar cs value' rest') :
    value = value' ∧ rest = rest' := by
  have same := (scalar_eq_ok_iff.mpr token).symm.trans (scalar_eq_ok_iff.mpr token')
  simpa using same

mutual

/-- A text starts with at most one value. -/
theorem Reads.unique {cs rest rest' : List Char} {tree tree' : Json} :
    Reads cs tree rest → Reads cs tree' rest' → tree = tree' ∧ rest = rest'
  | .scalar token, .scalar token' => token.unique token'
  | .scalar token, .array opens _ => absurd token (ReadsScalar.not_opens (.inl rfl) opens)
  | .scalar token, .object opens _ => absurd token (ReadsScalar.not_opens (.inr rfl) opens)
  | .array opens _, .scalar token => absurd token (ReadsScalar.not_opens (.inl rfl) opens)
  | .object opens _, .scalar token => absurd token (ReadsScalar.not_opens (.inr rfl) opens)
  | .array opens _, .object opens' _ => by simp [opens] at opens'
  | .object opens _, .array opens' _ => by simp [opens] at opens'
  | .array opens elements, .array opens' elements' => by
      cases opens.symm.trans opens'
      obtain ⟨rfl, rfl⟩ := elements.unique elements'
      exact ⟨rfl, rfl⟩
  | .object opens entries, .object opens' entries' => by
      cases opens.symm.trans opens'
      obtain ⟨rfl, rfl⟩ := entries.unique entries'
      exact ⟨rfl, rfl⟩

theorem ReadsElements.unique {first : Bool} {cs rest rest' : List Char} {items items' : List Json} :
    ReadsElements first cs items rest → ReadsElements first cs items' rest' →
      items = items' ∧ rest = rest'
  | .closed next, .closed next' => by
      cases next.symm.trans next'
      exact ⟨rfl, rfl⟩
  | .closed next, .entry next' _ _ => by cases next.symm.trans next'
  | .entry next _ _, .closed next' => by cases next.symm.trans next'
  | .entry next head tail, .entry next' head' tail' => by
      cases next.symm.trans next'
      obtain ⟨rfl, rfl⟩ := head.unique head'
      obtain ⟨rfl, rfl⟩ := tail.unique tail'
      exact ⟨rfl, rfl⟩

theorem ReadsMembers.unique {first : Bool} {cs rest rest' : List Char}
    {members members' : List (String × Json)} :
    ReadsMembers first cs members rest → ReadsMembers first cs members' rest' →
      members = members' ∧ rest = rest'
  | .closed next, .closed next' => by
      cases next.symm.trans next'
      exact ⟨rfl, rfl⟩
  | .closed next, .entry next' _ _ _ _ => by cases next.symm.trans next'
  | .entry next _ _ _ _, .closed next' => by cases next.symm.trans next'
  | .entry next name separator head tail, .entry next' name' separator' head' tail' => by
      cases next.symm.trans next'
      cases name.symm.trans name'
      cases separator.symm.trans separator'
      obtain ⟨rfl, rfl⟩ := head.unique head'
      obtain ⟨rfl, rfl⟩ := tail.unique tail'
      exact ⟨rfl, rfl⟩

end

/-- A text writes at most one value. -/
theorem Spells.unique {text : String} {tree tree' : Json} (spelled : Spells text tree)
    (spelled' : Spells text tree') : tree = tree' := by
  obtain ⟨_, read, -⟩ := spelled
  obtain ⟨_, read', -⟩ := spelled'
  exact (read.unique read').1

end BaseApi.Json
