import BaseApi.Json.Printer
import BaseApi.Proofs.Insertion
import BaseApi.Proofs.Reading.Values

/-!
# Reading what was printed

A value that is written in any layout reads back as itself (`IsRecordTree.spells_write`), whatever
characters its texts have: `stringBody_escapeChar` undoes the escape of one character. The values in
question are those that records are written as, which hold no numbers and no repeated key.
-/

namespace BaseApi.Json

/-! ## Strings -/

theorem stringBody_of_plain {c : Char} (notQuote : c ≠ '"') (notBackslash : c ≠ '\\')
    (printable : 0x20 ≤ c.toNat) (read rest : List Char) :
    stringBody read (c :: rest) = stringBody (c :: read) rest := by
  rw [stringBody.eq_7 read c rest notQuote (fun h _ => notBackslash h)
    (fun _ _ _ _ _ h _ => notBackslash h) (fun _ h _ => notBackslash h)
    (fun _ _ h _ => notBackslash h)]
  simp [Nat.not_lt.mpr printable]

/-- The two digits of a control read back as its code. -/
theorem hex4?_digitChar : ∀ n : Fin 32,
    hex4? '0' '0' (Nat.digitChar (n.val / 16)) (Nat.digitChar (n.val % 16)) = some n.val := by
  decide

theorem stringBody_escapeChar (c : Char) (read rest : List Char) :
    stringBody read (escapeChar c ++ rest) = stringBody (c :: read) rest := by
  unfold escapeChar
  split
  case h_8 notQuote notBackslash _ _ _ _ _ =>
    split
    · next control =>
        have low : isLowSurrogate c.toNat = false := by simp [isLowSurrogate]; omega
        have high : isHighSurrogate c.toNat = false := by simp [isHighSurrogate]; omega
        simp only [List.cons_append, List.nil_append]
        rw [stringBody.eq_4, hex4?_digitChar ⟨c.toNat, control⟩]
        simp [low, high]
    · next printable =>
        exact stringBody_of_plain notQuote notBackslash (by omega) read rest
  all_goals simp [stringBody, shortEscape?]

theorem stringBody_flatMap_escapeChar (cs read rest : List Char) :
    stringBody read (cs.flatMap escapeChar ++ '"' :: rest) =
      .ok (String.ofList (read.reverse ++ cs), rest) := by
  induction cs generalizing read with
  | nil => simp [stringBody]
  | cons c cs ih =>
      rw [List.flatMap_cons, List.append_assoc, stringBody_escapeChar, ih]
      simp

/-- A text that is written reads back, from after its opening quote. -/
theorem stringBody_renderString (text : String) (rest : List Char) :
    ∃ inner, renderString text ++ rest = '"' :: inner ∧ stringBody [] inner = .ok (text, rest) := by
  refine ⟨text.toList.flatMap escapeChar ++ '"' :: rest, by simp [renderString], ?_⟩
  rw [stringBody_flatMap_escapeChar]
  simp

/-! ## Blanks -/

/-- The layout puts nothing but blanks between the tokens. -/
structure Layout.IsBlank (layout : Layout) : Prop where
  newline : ∀ depth, ∀ c ∈ layout.newline depth, Json.isBlank c = true
  afterColon : ∀ c ∈ layout.afterColon, Json.isBlank c = true

theorem Layout.isBlank_compact : Layout.compact.IsBlank where
  newline _ _ member := absurd member List.not_mem_nil
  afterColon _ member := absurd member List.not_mem_nil

theorem Layout.isBlank_pretty : Layout.pretty.IsBlank where
  newline depth c member := by
    rcases List.mem_cons.mp member with rfl | indent
    · rfl
    · rw [List.eq_of_mem_replicate indent]
      rfl
  afterColon c member := by
    rw [List.mem_singleton.mp member]
    rfl

theorem skipBlanks_append {blanks : List Char} (blank : ∀ c ∈ blanks, isBlank c = true)
    (cs : List Char) : skipBlanks (blanks ++ cs) = skipBlanks cs :=
  List.dropWhile_append_of_pos blank

theorem skipBlanks_cons {c : Char} (solid : isBlank c = false) (cs : List Char) :
    skipBlanks (c :: cs) = c :: cs := by
  simp [skipBlanks, solid]

theorem Reads.of_skipBlanks {cs rest : List Char} {tree : Json}
    (read : Reads (Json.skipBlanks cs) tree rest) : Reads cs tree rest := by
  cases read with
  | scalar token => exact .scalar (by rwa [skipBlanks_skipBlanks] at token)
  | array opens elements => exact .array (by rwa [skipBlanks_skipBlanks] at opens) elements
  | object opens entries => exact .object (by rwa [skipBlanks_skipBlanks] at opens) entries

theorem Reads.append_blanks {blanks cs rest : List Char} {tree : Json}
    (blank : ∀ c ∈ blanks, isBlank c = true) (read : Reads cs tree rest) :
    Reads (blanks ++ cs) tree rest := by
  apply Reads.of_skipBlanks
  rw [skipBlanks_append blank]
  exact read.skipBlanks

/-! ## From entry to entry -/

theorem nextElement_true_of_opens {cs rest : List Char} {c : Char}
    (opens : skipBlanks cs = c :: rest) (notClosing : c ≠ ']') :
    nextElement true cs = .ok (.entry (c :: rest)) := by
  simp [nextElement, opens, notClosing]

theorem nextElement_false_of_opens {cs rest : List Char} {c : Char}
    (opens : skipBlanks cs = c :: rest) (notClosing : c ≠ ']') :
    nextElement false (',' :: cs) = .ok (.entry (c :: rest)) := by
  have comma : skipBlanks (',' :: cs) = ',' :: cs := skipBlanks_cons (by decide) cs
  simp [nextElement, comma, opens, notClosing]

theorem nextMember_true_of_opens {cs start : List Char} (opens : skipBlanks cs = '"' :: start) :
    nextMember true cs = .ok (.entry start) := by
  simp [nextMember, opens, keyStart]

theorem nextMember_false_of_opens {cs start : List Char} (opens : skipBlanks cs = '"' :: start) :
    nextMember false (',' :: cs) = .ok (.entry start) := by
  have comma : skipBlanks (',' :: cs) = ',' :: cs := skipBlanks_cons (by decide) cs
  simp [nextMember, comma, opens, keyStart]

/-! ## Values -/

/-- What records are written as: there are no numbers, and no object repeats a key. -/
inductive IsRecordTree : Json → Prop where
  | null : IsRecordTree null
  | bool (value : Bool) : IsRecordTree (bool value)
  | str (text : String) : IsRecordTree (str text)
  | arr {items : List Json} (each : ∀ item ∈ items, IsRecordTree item) : IsRecordTree (arr items)
  | obj {members : List (String × Json)} (once : (Entries.keys members).Nodup)
      (each : ∀ member ∈ members, IsRecordTree member.2) : IsRecordTree (obj members)

/-- The text of a value starts with a character that is no blank and closes no array. -/
theorem IsRecordTree.render_opens {tree : Json} (isRecordTree : IsRecordTree tree)
    (layout : Layout) (depth : Nat) :
    ∃ c cs, render layout depth tree = c :: cs ∧ isBlank c = false ∧ c ≠ ']' := by
  cases isRecordTree with
  | null => exact ⟨_, _, by rw [render], by decide, by decide⟩
  | bool value => cases value <;> exact ⟨_, _, by rw [render], by decide, by decide⟩
  | str text => exact ⟨_, _, by rw [render, renderString], by decide, by decide⟩
  | @arr items each => cases items <;> exact ⟨_, _, by rw [render], by decide, by decide⟩
  | @obj members once each =>
      rcases members with _ | ⟨⟨key, item⟩, members⟩ <;>
        exact ⟨_, _, by rw [render], by decide, by decide⟩

section Printed

variable {layout : Layout} (blank : layout.IsBlank)

include blank

theorem readsElements_renderItems {items : List Json}
    (reads : ∀ item ∈ items, IsRecordTree item ∧
      ∀ depth rest, Reads (render layout depth item ++ rest) item rest)
    (depth outer : Nat) (rest : List Char) :
    ReadsElements false (renderItems layout depth items ++ (layout.newline outer ++ ']' :: rest))
      items rest := by
  induction items with
  | nil =>
      apply ReadsElements.closed
      rw [nextElement_eq_closed_iff, renderItems, List.nil_append,
        skipBlanks_append (blank.newline outer), skipBlanks_cons (by decide)]
  | cons item items ih =>
      rw [List.forall_mem_cons] at reads
      obtain ⟨⟨isRecordTree, read⟩, others⟩ := reads
      obtain ⟨c, cs, starts, solid, notClosing⟩ := isRecordTree.render_opens layout depth
      have head := read depth (renderItems layout depth items ++
        (layout.newline outer ++ ']' :: rest))
      rw [starts] at head
      have opens : skipBlanks (layout.newline depth ++ (render layout depth item ++
          (renderItems layout depth items ++ (layout.newline outer ++ ']' :: rest)))) =
          c :: (cs ++ (renderItems layout depth items ++
            (layout.newline outer ++ ']' :: rest))) := by
        rw [skipBlanks_append (blank.newline depth), starts]
        exact skipBlanks_cons solid _
      simp only [renderItems, List.cons_append, List.append_assoc]
      exact .entry (nextElement_false_of_opens opens notClosing) head (ih others)

/-- A member from its key on. -/
theorem readsMembers_of_key {first : Bool} {cs : List Char} {key : String} {item : Json}
    {members : List (String × Json)} {text rest : List Char}
    (next : ∀ start, renderString key ++ (':' :: (layout.afterColon ++ text)) = '"' :: start →
      nextMember first cs = .ok (.entry start)) {after : List Char} (head : Reads text item after)
    (tail : ReadsMembers false after members rest) :
    ReadsMembers first cs ((key, item) :: members) rest := by
  obtain ⟨start, quoted, name⟩ :=
    stringBody_renderString key (':' :: (layout.afterColon ++ text))
  have separator : colon (':' :: (layout.afterColon ++ text)) = .ok (layout.afterColon ++ text) :=
    colon_eq_ok_iff.mpr (skipBlanks_cons (by decide) _)
  exact .entry (next start quoted) name separator (head.append_blanks blank.afterColon) tail

theorem readsMembers_renderMembers {members : List (String × Json)}
    (reads : ∀ member ∈ members,
      ∀ depth rest, Reads (render layout depth member.2 ++ rest) member.2 rest)
    (depth outer : Nat) (rest : List Char) :
    ReadsMembers false
      (renderMembers layout depth members ++ (layout.newline outer ++ '}' :: rest))
      members rest := by
  induction members with
  | nil =>
      apply ReadsMembers.closed
      rw [nextMember_eq_closed_iff, renderMembers, List.nil_append,
        skipBlanks_append (blank.newline outer), skipBlanks_cons (by decide)]
  | cons member members ih =>
      obtain ⟨key, item⟩ := member
      rw [List.forall_mem_cons] at reads
      simp only [renderMembers, List.cons_append, List.append_assoc]
      refine readsMembers_of_key blank ?_ (reads.1 depth _) (ih reads.2)
      intro start quoted
      apply nextMember_false_of_opens
      rw [skipBlanks_append (blank.newline depth), quoted]
      exact skipBlanks_cons (by decide) start

/-- A value that is written reads back, whatever follows it. -/
theorem IsRecordTree.reads_render {tree : Json} (isRecordTree : IsRecordTree tree) (depth : Nat)
    (rest : List Char) : Reads (render layout depth tree ++ rest) tree rest := by
  induction isRecordTree generalizing depth rest with
  | null => exact .scalar (.null rfl)
  | bool value =>
      cases value with
      | true => exact .scalar (.yes rfl)
      | false => exact .scalar (.no rfl)
  | str text =>
      obtain ⟨inner, quoted, body⟩ := stringBody_renderString text rest
      rw [render, quoted]
      exact .scalar (.text body)
  | @arr items each ih =>
      cases items with
      | nil => exact .array rfl (.closed rfl)
      | cons item items =>
          rw [List.forall_mem_cons] at each ih
          obtain ⟨c, cs, starts, solid, notClosing⟩ := each.1.render_opens layout (depth + 1)
          have head := ih.1 (depth + 1) (renderItems layout (depth + 1) items ++
            (layout.newline depth ++ ']' :: rest))
          have others := readsElements_renderItems blank
            (fun item member => ⟨each.2 item member, ih.2 item member⟩) (depth + 1) depth rest
          rw [starts] at head
          simp only [render, List.cons_append, List.append_assoc, List.nil_append]
          refine .array (skipBlanks_cons (by decide) _) (.entry ?_ head others)
          apply nextElement_true_of_opens _ notClosing
          rw [skipBlanks_append (blank.newline (depth + 1)), starts]
          exact skipBlanks_cons solid _
  | @obj members once each ih =>
      rcases members with _ | ⟨⟨key, item⟩, members⟩
      · exact .object rfl (.closed rfl)
      · rw [List.forall_mem_cons] at ih
        have others := readsMembers_renderMembers blank ih.2 (depth + 1) depth rest
        simp only [render, List.cons_append, List.append_assoc, List.nil_append]
        refine .object (skipBlanks_cons (by decide) _)
          (readsMembers_of_key blank ?_ (ih.1 (depth + 1) _) others)
        intro start quoted
        apply nextMember_true_of_opens
        rw [skipBlanks_append (blank.newline (depth + 1)), quoted]
        exact skipBlanks_cons (by decide) start

theorem IsRecordTree.spells_write {tree : Json} (isRecordTree : IsRecordTree tree) :
    Spells (write layout tree) tree := by
  have read := isRecordTree.reads_render blank 0 []
  rw [List.append_nil] at read
  exact ⟨[], by rwa [write, String.toList_ofList], rfl⟩

end Printed

/-! ## Repeated keys -/

theorem sublist_keys_optionalMember (key : String) (value : Option Json) :
    (Entries.keys (optionalMember key value)).Sublist [key] := by
  cases value with
  | none => exact List.nil_sublist _
  | some value => exact List.Sublist.refl _

theorem IsRecordTree.merged {tree : Json} (isRecordTree : IsRecordTree tree) :
    tree.merged = tree := by
  induction isRecordTree with
  | null | bool | str => rfl
  | arr each ih => rw [merged_arr, List.map_congr_left ih, List.map_id']
  | @obj members once each ih =>
      have same : members.map (fun member => (member.1, member.2.merged)) = members := by
        rw [List.map_congr_left fun member among => by rw [ih member among], List.map_id']
      rw [merged_obj, same, Entries.merge_eq_self once]

end BaseApi.Json
