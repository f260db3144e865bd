import BaseApi.Json.Record
import BaseApi.Proofs.Insertion
import BaseApi.Proofs.Reading.Decoders

/-!
# Records of texts and of values

From a text a record takes each of its keys once; from a value, where each key comes once anyway, it
takes what came last. `Json.KeysOnce` says of a tree that no key of a record comes twice, also not
in the records inside it. Main statement: on such trees, and on no others, a record reads from a
text what it reads from the value of the text (`Record.follows`).
-/

namespace BaseApi

open Fallible Json

/-! ## Keys that come once -/

/-- As an object the value has each of these keys at most once, and as an object or an array of
fields, what it holds for a key satisfies the condition that comes with the key. -/
def Json.KeysOnce (fields : Entries (Json → Prop)) : Json → Prop
  | obj members =>
      (∀ field ∈ fields, (Entries.keys members).count field.1 ≤ 1) ∧
        ∀ member ∈ members, ∀ nested, fields.lookup member.1 = some nested → nested member.2
  | arr items => ∀ pair ∈ fields.zip items, pair.1.2 pair.2
  | _ => True

/-- Reading the field fills it and empties no field of the list. -/
def RecordField.FillsAmong {σ : Type} (field : RecordField σ) (all : List (RecordField σ)) : Prop :=
  ∀ (draft next : σ) (value : Json), (field.fill draft).ofJson value = .ok next →
    ∀ other ∈ all, other.key = field.key ∨ other.isFilled draft = true →
      other.isFilled next = true

namespace Record

variable {σ α : Type}

/-- Reading any field fills it and empties no other. -/
def IsLawful (record : Record σ α) : Prop :=
  ∀ field ∈ record.fields, field.FillsAmong record.fields

/-- The field has a key and reads from text as from a value, under the condition that comes with
the key. -/
def FieldFollows (field : RecordField σ) (nested : String × (Json → Prop)) : Prop :=
  field.key = nested.1 ∧ ∀ draft, (field.fill draft).Follows nested.2

/-! ## The members of an object -/

/-- What reading a member of an object does to the draft. -/
def MemberStep (record : Record σ α) (draft : σ) (member : String × Json) (next : σ) : Prop :=
  match record.field? member.1 with
  | none => draft = next
  | some field =>
      field.isFilled draft = false ∧ (field.fill draft).ofJson member.2 = .ok next

theorem memberStep_of_unknown {record : Record σ α} {draft next : σ} {member : String × Json}
    (unknown : record.field? member.1 = none) :
    record.MemberStep draft member next ↔ draft = next := by
  simp only [MemberStep, unknown]

theorem memberStep_of_known {record : Record σ α} {draft next : σ} {member : String × Json}
    {field : RecordField σ} (known : record.field? member.1 = some field) :
    record.MemberStep draft member next ↔
      field.isFilled draft = false ∧ (field.fill draft).ofJson member.2 = .ok next := by
  simp only [MemberStep, known]

theorem membersOfJson_cons_iff {record : Record σ α} {draft last : σ} {member : String × Json}
    {members : Entries Json} :
    record.membersOfJson draft (member :: members) = .ok last ↔
      ∃ next, record.MemberStep draft member next ∧
        record.membersOfJson next members = .ok last := by
  cases known : record.field? member.1 with
  | none => simp [membersOfJson, known, memberStep_of_unknown known]
  | some field =>
      cases filled : field.isFilled draft with
      | true => simp [membersOfJson, known, memberStep_of_known known, filled]
      | false => simp [membersOfJson, known, memberStep_of_known known, filled, bind_eq_ok_iff]

theorem mem_of_field? {record : Record σ α} {key : String} {field : RecordField σ}
    (found : record.field? key = some field) : field ∈ record.fields ∧ field.key = key := by
  refine ⟨List.mem_of_find?_eq_some found, ?_⟩
  simpa using List.find?_some found

/-- A step that succeeds keeps the fields that are filled. -/
theorem MemberStep.keeps {record : Record σ α} (lawful : record.IsLawful) {draft next : σ}
    {member : String × Json} (step : record.MemberStep draft member next) {field : RecordField σ}
    (declared : field ∈ record.fields) (filled : field.isFilled draft = true) :
    field.isFilled next = true := by
  cases known : record.field? member.1 with
  | none =>
      rw [memberStep_of_unknown known] at step
      rwa [← step]
  | some other =>
      rw [memberStep_of_known known] at step
      exact lawful other (mem_of_field? known).1 draft next _ step.2 field declared (.inr filled)

/-- A key whose field is filled does not come again. -/
theorem not_mem_keys_of_isFilled {record : Record σ α} (lawful : record.IsLawful)
    {draft last : σ} {members : Entries Json} (read : record.membersOfJson draft members = .ok last)
    {key : String} {field : RecordField σ} (known : record.field? key = some field)
    (filled : field.isFilled draft = true) : key ∉ Entries.keys members := by
  induction members generalizing draft with
  | nil => exact List.not_mem_nil
  | cons member members ih =>
      obtain ⟨next, step, others⟩ := membersOfJson_cons_iff.mp read
      have later := ih others (step.keeps lawful (mem_of_field? known).1 filled)
      rw [Entries.keys_cons, List.mem_cons, not_or]
      refine ⟨?_, later⟩
      rintro rfl
      rw [memberStep_of_known known, filled] at step
      exact Bool.noConfusion step.1

/-- An object that is read has each key of the record at most once. -/
theorem count_keys_le_one {record : Record σ α} (lawful : record.IsLawful) {draft last : σ}
    {members : Entries Json} (read : record.membersOfJson draft members = .ok last)
    {key : String} {field : RecordField σ} (known : record.field? key = some field) :
    (Entries.keys members).count key ≤ 1 := by
  induction members generalizing draft with
  | nil => exact Nat.zero_le 1
  | cons member members ih =>
      obtain ⟨next, step, others⟩ := membersOfJson_cons_iff.mp read
      rw [Entries.keys_cons]
      by_cases same : member.1 = key
      · subst same
        have declared := (mem_of_field? known).1
        have filled := lawful field declared draft next _ ((memberStep_of_known known).mp step).2
          field declared (.inl rfl)
        have absent := not_mem_keys_of_isFilled lawful others known filled
        rw [List.count_cons_self, List.count_eq_zero_of_not_mem absent]
      · rw [List.count_cons_of_ne same]
        exact ih others

/-! ## Merging repeated keys -/

/-- Only the members with a key of the record are read. -/
theorem membersOfJson_filter (record : Record σ α) (draft : σ) (members : Entries Json) :
    record.membersOfJson draft (members.filter fun member => (record.field? member.1).isSome) =
      record.membersOfJson draft members := by
  induction members generalizing draft with
  | nil => rfl
  | cons member members ih =>
      cases known : record.field? member.1 with
      | none => simp [membersOfJson, known, ih]
      | some field => simp [membersOfJson, known, ih]

/-- A record that reads an object finds each of its keys at most once, so merging touches only keys
that it does not have. -/
theorem membersOfJson_eq_ok_iff_merge {record : Record σ α} (lawful : record.IsLawful)
    {draft last : σ} {members : Entries Json} :
    record.membersOfJson draft members = .ok last ↔
      record.membersOfJson draft (Entries.merge members) = .ok last ∧
        ∀ key, (record.field? key).isSome = true → (Entries.keys members).count key ≤ 1 := by
  have same (once : ∀ key, (record.field? key).isSome = true →
      (Entries.keys members).count key ≤ 1) :
      record.membersOfJson draft (Entries.merge members) =
        record.membersOfJson draft members := by
    rw [← membersOfJson_filter, Entries.filter_merge once, membersOfJson_filter]
  constructor
  -- Only a successful reading shows that no key came twice, since it stops at the second.
  · intro read
    have once : ∀ key, (record.field? key).isSome = true →
        (Entries.keys members).count key ≤ 1 := by
      intro key declared
      obtain ⟨field, known⟩ := Option.isSome_iff_exists.mp declared
      exact count_keys_le_one lawful read known
    exact ⟨(same once).trans read, once⟩
  · rintro ⟨read, once⟩
    exact (same once).symm.trans read

/-! ## An object in a text -/

theorem folds_memberStep_iff {record : Record σ α} {holds : String × Json → Prop} {draft last : σ}
    {members : List (String × Json)} :
    Folds (fun draft member next => record.MemberStep draft (member.1, member.2.merged) next ∧
        holds member) draft members last ↔
      record.membersOfJson draft (members.map fun member => (member.1, member.2.merged)) =
          .ok last ∧ ∀ member ∈ members, holds member := by
  induction members generalizing draft with
  | nil => simp [Folds, membersOfJson]
  | cons member members ih =>
      simp only [Folds, List.map_cons, membersOfJson_cons_iff, ih, List.forall_mem_cons]
      constructor
      · rintro ⟨next, ⟨step, first⟩, others, rest⟩
        exact ⟨⟨next, step, others⟩, first, rest⟩
      · rintro ⟨⟨next, step, others⟩, first, rest⟩
        exact ⟨next, ⟨step, first⟩, others, rest⟩

section Matching

variable {record : Record σ α} {fields : Entries (Json → Prop)}
  (matched : List.Forall₂ FieldFollows record.fields fields)

include matched

theorem field?_cases (key : String) :
    record.field? key = none ∧ fields.lookup key = none ∨
      ∃ field nested, record.field? key = some field ∧ fields.lookup key = some nested ∧
        ∀ draft, (field.fill draft).Follows nested := by
  unfold field?
  generalize record.fields = declared at matched ⊢
  induction matched with
  | nil => exact .inl ⟨rfl, rfl⟩
  | @cons field nested _ _ follows others ih =>
      obtain ⟨name, condition⟩ := nested
      obtain ⟨rfl, reads⟩ := follows
      by_cases same : field.key = key
      · exact .inr ⟨field, condition, by simp [same], by simp [same], reads⟩
      · have differs : (key == field.key) = false := by simpa using Ne.symm same
        simpa [same, List.lookup_cons, differs] using ih

theorem forall_declared_iff {holds : String → Prop} :
    (∀ key, (record.field? key).isSome = true → holds key) ↔ ∀ field ∈ fields, holds field.1 := by
  have keys : record.fields.map RecordField.key = Entries.keys fields := by
    generalize record.fields = declared at matched ⊢
    induction matched with
    | nil => rfl
    | cons follows _ ih => rw [List.map_cons, Entries.keys_cons, follows.1, ih]
  have declared (key : String) :
      (record.field? key).isSome = true ↔ key ∈ Entries.keys fields := by
    rw [← keys]
    simp [field?]
  simp only [declared, Entries.keys, List.forall_mem_map]

/-- An object without repeated keys of the record is read like the object with its keys merged. -/
theorem membersOfJson_eq_ok_iff_merged (lawful : record.IsLawful) {draft last : σ}
    (members : List (String × Json)) :
    record.membersOfJson draft (members.map fun member => (member.1, member.2.merged)) =
        .ok last ↔
      record.membersOfJson draft
          (Entries.merge (members.map fun member => (member.1, member.2.merged))) = .ok last ∧
        ∀ field ∈ fields, (Entries.keys members).count field.1 ≤ 1 := by
  rw [membersOfJson_eq_ok_iff_merge lawful, keys_map_merged]
  exact and_congr_right' (forall_declared_iff matched)

theorem memberOfText_eq_ok_iff {limit : Nat} {named valued after : List Char} {item : Json}
    (separator : colon named = .ok valued) (read : Reads valued item after)
    (short : valued.length ≤ limit) (key : String) (draft next : σ) (rest : List Char) :
    record.memberOfText limit key draft named = .ok (next, rest) ↔
      rest = after ∧ record.MemberStep draft (key, item.merged) next ∧
        ∀ nested, fields.lookup key = some nested → nested item := by
  rcases field?_cases matched key with ⟨unknown, free⟩ | ⟨field, nested, known, asked, follows⟩
  · have passed := read.skipValue (Nat.mul_le_mul_left 2 short)
    have fromText : record.memberOfText limit key draft named = .ok (draft, after) := by
      simp [memberOfText, unknown, separator, passed, bind, Except.bind, pure, Except.pure]
    rw [fromText, memberStep_of_unknown unknown, free]
    simp [eq_comm, and_comm]
  · rw [memberStep_of_known known, asked]
    cases filled : field.isFilled draft with
    | true => simp [memberOfText, known, filled]
    | false =>
        have fromText : record.memberOfText limit key draft named =
            (field.fill draft).ofText limit valued := by
          simp [memberOfText, known, filled, separator, bind, Except.bind]
        rw [fromText, follows draft read short]
        simp

theorem foldObject_eq_ok_iff {limit : Nat} {cs after : List Char} {members : List (String × Json)}
    (entries : ReadsMembers true cs members after) (short : cs.length ≤ limit) (draft last : σ)
    (rest : List Char) :
    foldObject (record.memberOfText limit) limit true draft cs = .ok (last, rest) ↔
      rest = after ∧
        record.membersOfJson draft (members.map fun member => (member.1, member.2.merged)) =
            .ok last ∧
        ∀ member ∈ members, ∀ nested, fields.lookup member.1 = some nested → nested member.2 := by
  rw [← folds_memberStep_iff]
  exact Json.foldObject_eq_ok_iff
    (fun separator read inside key draft next rest =>
      memberOfText_eq_ok_iff matched separator read inside key draft next rest)
    entries short short draft last rest

end Matching

/-! ## An array of fields -/

/-- The items fill the first fields in order, none is left over, and the draft can be finished. -/
def ElementsGive (record : Record σ α) (declared : List (RecordField σ)) (count : Nat) (draft : σ)
    (items : List Json) (result : α) : Prop :=
  ∃ read last, elementsOfJson declared count draft items = .ok (read, last) ∧
    record.finishArray read last = .ok result ∧ count + items.length ≤ read

section Elements

variable {record : Record σ α} {declared : List (RecordField σ)} {count : Nat} {draft : σ}
  {result : α}

theorem elementsGive_nil_iff :
    record.ElementsGive declared count draft [] result ↔
      record.finishArray count draft = .ok result := by
  cases declared <;> simp [ElementsGive, elementsOfJson]

theorem not_elementsGive_cons {item : Json} {items : List Json} :
    ¬ record.ElementsGive [] count draft (item :: items) result := by
  rintro ⟨read, last, same, -, complete⟩
  cases same
  simp only [List.length_cons] at complete
  omega

theorem elementsGive_cons_iff {field : RecordField σ} {item : Json} {items : List Json} :
    record.ElementsGive (field :: declared) count draft (item :: items) result ↔
      ∃ next, (field.fill draft).ofJson item = .ok next ∧
        record.ElementsGive declared (count + 1) next items result := by
  have lengths : count + (items.length + 1) = count + 1 + items.length := by omega
  simp only [ElementsGive, elementsOfJson, bind_eq_ok_iff, List.length_cons, lengths]
  constructor
  · rintro ⟨read, last, ⟨next, filled, others⟩, finished⟩
    exact ⟨next, filled, read, last, others, finished⟩
  · rintro ⟨next, filled, read, last, others, finished⟩
    exact ⟨read, last, ⟨next, filled, others⟩, finished⟩

theorem ofJson_arr_eq_ok_iff {items : List Json} :
    record.decoder.ofJson (arr items) = .ok result ↔
      record.ElementsGive record.fields 0 record.blank items result := by
  simp only [decoder, ElementsGive, bind_eq_ok_iff, Prod.exists, Nat.zero_add]
  constructor
  · rintro ⟨read, last, taken, value, finished, complete⟩
    split at complete
    · cases complete
    · cases complete
      exact ⟨read, last, taken, finished, by omega⟩
  · rintro ⟨read, last, taken, finished, complete⟩
    exact ⟨read, last, taken, result, finished, if_neg (by omega)⟩

end Elements

theorem closeArray_eq_ok_iff {cs rest : List Char} :
    closeArray cs = .ok rest ↔ skipBlanks cs = ']' :: rest := by
  unfold closeArray
  split
  · next ends => simp [refuse, ends]
  · next closes => simp [closes]
  · next continues => split <;> simp [refuse, continues]
  · next _ unclosed _ => simpa [refuse] using unclosed rest

theorem elementsOfText_of_closed {record : Record σ α} {limit count : Nat}
    {field : RecordField σ} {declared : List (RecordField σ)} {draft : σ} {cs rest : List Char}
    (next : nextElement (count == 0) cs = .ok (.closed rest)) :
    record.elementsOfText limit (field :: declared) count draft cs =
      (record.finishArray count draft).map fun result => (result, rest) := by
  rw [elementsOfText, next]
  rfl

theorem elementsOfText_of_entry {record : Record σ α} {limit count : Nat}
    {field : RecordField σ} {declared : List (RecordField σ)} {draft : σ} {cs start : List Char}
    (next : nextElement (count == 0) cs = .ok (.entry start)) :
    record.elementsOfText limit (field :: declared) count draft cs =
      (field.fill draft).ofText limit start >>= fun read =>
        record.elementsOfText limit declared (count + 1) read.1 read.2 := by
  rw [elementsOfText, next]
  rfl

theorem elementsOfText_eq_ok_iff (record : Record σ α) {limit : Nat}
    {declared : List (RecordField σ)} {fields : Entries (Json → Prop)}
    (matched : List.Forall₂ FieldFollows declared fields) {count : Nat} {draft : σ}
    {cs after : List Char} {items : List Json}
    (elements : ReadsElements (count == 0) cs items after) (short : cs.length ≤ limit)
    (result : α) (rest : List Char) :
    record.elementsOfText limit declared count draft cs = .ok (result, rest) ↔
      rest = after ∧ record.ElementsGive declared count draft (items.map merged) result ∧
        ∀ pair ∈ fields.zip items, pair.1.2 pair.2 := by
  -- The induction is on the fields: a text with more elements than fields is refused at the end of
  -- the fields, a value only once all of its elements are counted.
  induction matched generalizing count draft cs items with
  | nil =>
      simp only [elementsOfText, bind_eq_ok_iff, pure_eq_ok_iff, Prod.mk.injEq]
      cases elements with
      | closed next =>
          have closing := closeArray_eq_ok_iff.mpr (nextElement_eq_closed_iff.mp next)
          simp [closing, elementsGive_nil_iff, eq_comm, and_comm]
      | entry next head tail =>
          have unclosed (rest : List Char) : closeArray cs ≠ .ok rest := by
            intro closing
            have closed : nextElement (count == 0) cs = .ok (.closed rest) :=
              nextElement_eq_closed_iff.mpr (closeArray_eq_ok_iff.mp closing)
            cases next.symm.trans closed
          simp [unclosed, not_elementsGive_cons]
  | @cons field nested declared fields follows others ih =>
      cases elements with
      | closed next =>
          rw [elementsOfText_of_closed next, map_eq_ok_iff, List.map_nil, elementsGive_nil_iff]
          constructor
          · rintro ⟨_, finished, ⟨⟩⟩
            exact ⟨rfl, finished, by simp⟩
          · rintro ⟨rfl, finished, -⟩
            exact ⟨result, finished, rfl⟩
      | @entry _ _ start middle _ item items next head tail =>
          have started : start.length ≤ cs.length := length_le_of_nextElement next
          have progress : middle.length < start.length := head.length_lt
          have fill := follows.2 draft head (started.trans short)
          have remaining (draft : σ) := @ih (count + 1) draft middle items tail (by omega)
          simp only [List.map_cons, elementsGive_cons_iff, List.zip_cons_cons,
            List.forall_mem_cons]
          rw [elementsOfText_of_entry next, bind_eq_ok_iff, Prod.exists]
          constructor
          · rintro ⟨filled, _, taken, walked⟩
            obtain ⟨rfl, taken, first⟩ := (fill filled _).mp taken
            obtain ⟨rfl, given, rest⟩ := (remaining filled).mp walked
            exact ⟨rfl, ⟨filled, taken, given⟩, first, rest⟩
          · rintro ⟨rfl, ⟨filled, taken, given⟩, first, rest⟩
            exact ⟨filled, middle, (fill filled middle).mpr ⟨rfl, taken, first⟩,
              (remaining filled).mpr ⟨rfl, given, rest⟩⟩

/-! ## Both forms -/

theorem ofJson_obj_eq_ok_iff {record : Record σ α} {members : Entries Json} {result : α} :
    record.decoder.ofJson (obj members) = .ok result ↔
      ∃ last, record.membersOfJson record.blank members = .ok last ∧
        record.finishObject last = .ok result := by
  simp only [decoder, bind_eq_ok_iff]

theorem ofText_of_brace {record : Record σ α} {limit : Nat} {cs inner : List Char}
    (opens : skipBlanks cs = '{' :: inner) :
    record.decoder.ofText limit cs =
      foldObject (record.memberOfText limit) limit true record.blank inner >>= fun read =>
        (record.finishObject read.1).map fun result => (result, read.2) := by
  simp only [decoder, opens]
  rfl

theorem ofText_of_bracket {record : Record σ α} {limit : Nat} {cs inner : List Char}
    (opens : skipBlanks cs = '[' :: inner) :
    record.decoder.ofText limit cs =
      record.elementsOfText limit record.fields 0 record.blank inner := by
  simp only [decoder, opens]

theorem opens_of_ofText {record : Record σ α} {limit : Nat} {cs : List Char}
    {read : α × List Char} (taken : record.decoder.ofText limit cs = .ok read) :
    ∃ inner, skipBlanks cs = '{' :: inner ∨ skipBlanks cs = '[' :: inner := by
  simp only [decoder] at taken
  split at taken
  · next inner opens => exact ⟨inner, .inl opens⟩
  · next inner opens => exact ⟨inner, .inr opens⟩
  · exact absurd taken (Decoder.mismatchInText_ne_ok _ _ _)

/-- A record reads from a text what it reads from the value of the text, exactly if no key of it
comes twice. -/
theorem follows {record : Record σ α} (lawful : record.IsLawful) {fields : Entries (Json → Prop)}
    (matched : List.Forall₂ FieldFollows record.fields fields) :
    record.decoder.Follows (KeysOnce fields) := by
  intro limit cs after tree read short result rest
  cases tree with
  | obj members =>
      obtain ⟨inner, opens⟩ := read.opens_obj
      obtain ⟨_, ⟨⟩, entries⟩ := read.eq_obj opens
      have inside := (length_lt_of_skipBlanks opens).le.trans short
      rw [ofText_of_brace opens, bind_eq_ok_iff, merged_obj, ofJson_obj_eq_ok_iff]
      constructor
      · rintro ⟨⟨last, _⟩, walked, finished⟩
        obtain ⟨_, given, same⟩ := map_eq_ok_iff.mp finished
        cases same
        obtain ⟨rfl, taken, nested⟩ :=
          (foldObject_eq_ok_iff matched entries inside record.blank last _).mp walked
        obtain ⟨taken, once⟩ := (membersOfJson_eq_ok_iff_merged matched lawful members).mp taken
        exact ⟨rfl, ⟨last, taken, given⟩, once, nested⟩
      · rintro ⟨rfl, ⟨last, taken, finished⟩, once, nested⟩
        have taken := (membersOfJson_eq_ok_iff_merged matched lawful members).mpr ⟨taken, once⟩
        have walked := (foldObject_eq_ok_iff matched entries inside record.blank last rest).mpr
          ⟨rfl, taken, nested⟩
        exact ⟨_, walked, map_eq_ok_iff.mpr ⟨result, finished, rfl⟩⟩
  | arr items =>
      obtain ⟨inner, opens⟩ := read.opens_arr
      obtain ⟨_, ⟨⟩, elements⟩ := read.eq_arr opens
      have inside := (length_lt_of_skipBlanks opens).le.trans short
      rw [ofText_of_bracket opens, merged_arr, ofJson_arr_eq_ok_iff]
      have fromStart : ReadsElements (0 == 0) inner items after := elements
      exact elementsOfText_eq_ok_iff record matched fromStart inside result rest
  | null | bool | num | str =>
      constructor
      · intro taken
        obtain ⟨inner, opens | opens⟩ := opens_of_ofText taken
        · obtain ⟨_, ⟨⟩, _⟩ := read.eq_obj opens
        · obtain ⟨_, ⟨⟩, _⟩ := read.eq_arr opens
      · rintro ⟨-, accepted, -⟩
        cases accepted

end Record

end BaseApi
