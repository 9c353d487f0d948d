import Passbook.Proofs.Json.Literal
import Passbook.Proofs.Text.Encoding

/-!
Objects of number literals as texts. An entry is a key of plain characters and a literal, and such an object is
read entry by entry (`readEntries_chars`): it gives what its literals are read as under their keys, and cannot be
read if one of them cannot (`readBytes_objectText`).
-/

set_option autoImplicit false
set_option relaxedAutoImplicit false

-- What holds of all members of a list is decided along the list, whatever else is imported.
attribute [local instance (high)] List.decidableBAll

namespace Passbook.Json

open Decimal (IsNumeralChar Mark)
open Text (IsOneByte)

/-- A character that stands for itself in a text of JSON. -/
structure IsKeyChar (c : Char) : Prop where
  noQuote : c ≠ '"'
  noEscape : c ≠ '\\'
  shown : 0x20 ≤ c.toNat
  oneByte : IsOneByte c

instance (c : Char) : Decidable (IsKeyChar c) :=
  decidable_of_iff (c ≠ '"' ∧ c ≠ '\\' ∧ 0x20 ≤ c.toNat ∧ IsOneByte c)
    ⟨fun ⟨noQuote, noEscape, shown, oneByte⟩ ↦ ⟨noQuote, noEscape, shown, oneByte⟩,
      fun key ↦ ⟨key.noQuote, key.noEscape, key.shown, key.oneByte⟩⟩

/-- An entry of an object: a number literal under a key. -/
structure LiteralEntry where
  key : String
  plain : ∀ c ∈ key.toList, IsKeyChar c
  literal : Literal

namespace LiteralEntry

/-- The characters of an entry. -/
def chars (entry : LiteralEntry) : List Char :=
  '"' :: (entry.key.toList ++ '"' :: ':' :: entry.literal.chars)

/-- What an entry is read as. -/
def reading (entry : LiteralEntry) : Except Fault (String × Json) :=
  entry.literal.reading.map (entry.key, ·)

end LiteralEntry

theorem exists_readings {entries : List LiteralEntry}
    (readable : ∀ entry ∈ entries, ∃ found, entry.literal.IsReadAs found) :
    ∃ read, entries.mapM LiteralEntry.reading = .ok read := by
  induction entries with
  | nil => exact ⟨[], rfl⟩
  | cons entry rest ih =>
    obtain ⟨found, isRead⟩ := readable entry List.mem_cons_self
    obtain ⟨later, read⟩ := ih fun other member ↦ readable other (List.mem_cons_of_mem entry member)
    refine ⟨(entry.key, found) :: later, ?_⟩
    rw [List.mapM_cons, read, LiteralEntry.reading, entry.literal.isReadAs_iff.1 isRead]
    rfl

/-- The characters of entries, and the brace behind them. -/
def entriesChars : List LiteralEntry → List Char
  | [] => ['\x7d']
  | [entry] => entry.chars ++ ['\x7d']
  | entry :: next :: rest => entry.chars ++ ',' :: entriesChars (next :: rest)

/-- The text of an object. -/
def objectText (entries : List LiteralEntry) : String := String.ofList ('\x7b' :: entriesChars entries)

/-! ### Reading -/

theorem skipSpace_of_head {cursor : Cursor} (solid : ∀ c ∈ cursor.rest.head?, Cursor.isSpace c = false) :
    cursor.skipSpace = cursor := by
  obtain ⟨place, rest⟩ := cursor
  have none : rest.takeWhile Cursor.isSpace = [] := by
    cases rest with
    | nil => rfl
    | cons c others => rw [List.takeWhile_cons, solid c rfl]; rfl
  rw [Cursor.skipSpace, none]
  rfl

theorem skip_cons (place : Nat) (c : Char) (rest : List Char) :
    Cursor.skip ⟨place, c :: rest⟩ 1 = ⟨place + 1, rest⟩ :=
  rfl

/-- Plain characters up to the closing mark are gathered as they are. -/
theorem readTextFrom_plain (start : Nat) {key : List Char} (plain : ∀ c ∈ key, IsKeyChar c)
    (rest : List Char) {more : Nat} (enough : key.length < more) (gathered : Gathered) (place : Nat) :
    readTextFrom start more gathered ⟨place, key ++ '"' :: rest⟩ =
      .ok ({ gathered with reversed := key.reverse ++ gathered.reversed },
        ⟨place + key.length + 1, rest⟩) := by
  induction key generalizing more gathered place with
  | nil =>
    obtain ⟨more, rfl⟩ := Nat.exists_eq_add_one.2 enough
    rfl
  | cons c key ih =>
    obtain ⟨more, rfl⟩ := Nat.exists_eq_add_one.2 (Nat.zero_lt_of_lt enough)
    have isKey := plain c List.mem_cons_self
    have low : c.toNat < 0x80 := isKey.oneByte.2
    have pushed : gathered.push c.toNat = { gathered with reversed := c :: gathered.reversed } := by
      have noHalf : (Text.isHighHalf c.toNat || Text.isLowHalf c.toNat) = false := by
        simp only [Text.isHighHalf, Text.isLowHalf, Bool.or_eq_false_iff, Bool.and_eq_false_iff,
          decide_eq_false_iff_not]
        omega
      rw [Gathered.push, noHalf, Char.ofNat_toNat]
      rfl
    have goesOn := ih (fun d member ↦ plain d (List.mem_cons_of_mem c member))
      (Nat.lt_of_succ_lt_succ enough) { gathered with reversed := c :: gathered.reversed } (place + 1)
    rw [readTextFrom]
    dsimp only [List.cons_append]
    split
    · next same => cases same
    · next same => exact absurd (List.cons.inj same).1 isKey.noQuote
    · next same => exact absurd (List.cons.inj same).1 isKey.noEscape
    · next same => exact absurd (List.cons.inj same).1 isKey.noEscape
    · next same => exact absurd (List.cons.inj same).1 isKey.noEscape
    · next d behind _ _ _ same =>
      obtain ⟨rfl, rfl⟩ := List.cons.inj same
      rw [if_neg (Nat.not_lt.2 isKey.shown), pushed, Cursor.skip]
      refine goesOn.trans ?_
      rw [List.reverse_cons, List.append_assoc, List.length_cons]
      have place : place + 1 + key.length + 1 = place + (key.length + 1) + 1 := by omega
      rw [place]
      rfl

/-- A key of plain characters is read up to its closing mark. -/
theorem readText_key (entry : LiteralEntry) (rest : List Char) (place : Nat) :
    ∃ gathered : Gathered, readText ⟨place, entry.key.toList ++ '"' :: rest⟩ =
        .ok (gathered, ⟨place + entry.key.toList.length + 1, rest⟩) ∧
      ∀ value, gathered.entry value = (entry.key, value) := by
  have enough : entry.key.toList.length < (entry.key.toList ++ '"' :: rest).length + 1 := by
    rw [List.length_append]
    omega
  refine ⟨_, readTextFrom_plain _ entry.plain rest enough {} place, fun value ↦ ?_⟩
  simp [Gathered.entry, Gathered.content]

/-- What stands behind a literal in an object is none of it. -/
theorem ends_of_mark {mark : Char} (isMark : mark = ',' ∨ mark = '\x7d') (rest : List Char) :
    Ends (mark :: rest) := by
  intro c head
  obtain rfl := Option.some.inj head
  rcases isMark with rfl | rfl <;> decide

/-- A literal begins with a digit or a minus sign. -/
theorem head_literal (literal : Literal) (rest : List Char) :
    ∀ c ∈ (literal.chars ++ rest).head?, Cursor.isSpace c = false := by
  obtain ⟨first, others, same, digit⟩ := literal.numeral.whole.exists_cons
  have range := Text.toNat_of_isDigit digit
  have solid : Cursor.isSpace first = false := by
    have apart (c : Char) (low : c.toNat < 48) : first ≠ c := by
      rintro rfl
      omega
    simp [Cursor.isSpace, apart]
  rw [Literal.chars, List.append_assoc, chars_append_eq, same]
  intro c head
  cases sign : literal.negative with
  | true =>
    rw [sign] at head
    obtain rfl := Option.some.inj head
    rfl
  | false =>
    rw [sign] at head
    obtain rfl := Option.some.inj head
    exact solid

theorem exists_quote {entries : List LiteralEntry} (some : entries ≠ []) :
    ∃ rest, entriesChars entries = '"' :: rest := by
  cases entries with
  | nil => exact absurd rfl some
  | cons entry rest => cases rest <;> exact ⟨_, rfl⟩

theorem head_entriesChars {entries : List LiteralEntry} (some : entries ≠ []) :
    ∀ c ∈ (entriesChars entries).head?, Cursor.isSpace c = false := by
  obtain ⟨rest, quote⟩ := exists_quote some
  rw [quote]
  intro c head
  obtain rfl := Option.some.inj head
  rfl

theorem length_le_entriesChars (entries : List LiteralEntry) :
    entries.length ≤ (entriesChars entries).length := by
  induction entries with
  | nil => exact Nat.zero_le _
  | cons entry rest ih =>
    cases rest with
    | nil => simp [entriesChars]
    | cons next rest =>
      rw [entriesChars, List.length_append]
      simp only [List.length_cons] at ih ⊢
      omega

/-- The key of an entry and the literal behind it are read, and then what follows. -/
theorem readEntries_cons (more depth place : Nat) (entry : LiteralEntry) {mark : Char}
    (isMark : mark = ',' ∨ mark = '\x7d') (rest : List Char) :
    readEntries (more + 2) depth ⟨place, entry.chars ++ mark :: rest⟩ = (do
      let read ← entry.reading
      let behind : Cursor := ⟨place + entry.chars.length, mark :: rest⟩
      if mark = ',' then
        let (entries, next) ← readEntries (more + 1) depth (behind.skip 1).skipSpace
        return (read :: entries, next)
      else return ([read], behind.skip 1)) := by
  obtain ⟨gathered, readKey, named⟩ :=
    readText_key entry (':' :: (entry.literal.chars ++ mark :: rest)) (place + 1)
  have colon : Cursor.skipSpace ⟨place + 1 + entry.key.toList.length + 1,
      ':' :: (entry.literal.chars ++ mark :: rest)⟩ = _ :=
    skipSpace_of_head fun c head ↦ by obtain rfl := Option.some.inj head; rfl
  have solid : Cursor.skipSpace ⟨place + 1 + entry.key.toList.length + 1 + 1,
      entry.literal.chars ++ mark :: rest⟩ = _ :=
    skipSpace_of_head (head_literal entry.literal (mark :: rest))
  have behind (place : Nat) : Cursor.skipSpace ⟨place, mark :: rest⟩ = ⟨place, mark :: rest⟩ :=
    skipSpace_of_head fun c head ↦ by
      obtain rfl := Option.some.inj head
      rcases isMark with rfl | rfl <;> rfl
  have length : place + 1 + entry.key.toList.length + 1 + 1 + entry.literal.chars.length =
      place + entry.chars.length := by
    simp only [LiteralEntry.chars, List.length_cons, List.length_append]
    omega
  have value := entry.literal.readValue_append (ends_of_mark isMark rest) more depth
    (place + 1 + entry.key.toList.length + 1 + 1)
  have opening : entry.chars ++ mark :: rest =
      '"' :: (entry.key.toList ++ '"' :: ':' :: (entry.literal.chars ++ mark :: rest)) := by
    simp [LiteralEntry.chars]
  rw [readEntries, opening]
  simp only [skip_cons, readKey, bind, Except.bind, colon, solid, value, length]
  unfold LiteralEntry.reading
  cases entry.literal.reading with
  | error fault => rfl
  | ok found =>
    simp only [Except.map, behind, named]
    rcases isMark with rfl | rfl <;> rfl

/-- The entries of an object are read one after the other. -/
theorem readEntries_chars (entries : List LiteralEntry) (some : entries ≠ []) {more : Nat}
    (enough : entries.length < more) (depth place : Nat) :
    readEntries more depth ⟨place, entriesChars entries⟩ =
      (entries.mapM LiteralEntry.reading).map
        (·, ⟨place + (entriesChars entries).length, []⟩) := by
  induction entries generalizing more place with
  | nil => exact absurd rfl some
  | cons entry rest ih =>
    obtain ⟨more, rfl⟩ : ∃ less, more = less + 2 := ⟨more - 2, by rw [List.length_cons] at enough; omega⟩
    cases rest with
    | nil =>
      rw [entriesChars, readEntries_cons more depth place entry (Or.inr rfl)]
      simp only [List.mapM_cons, List.mapM_nil, bind, Except.bind]
      cases entry.reading with
      | error fault => rfl
      | ok read => simp [Except.map, pure, Except.pure, skip_cons, Nat.add_assoc]
    | cons next rest =>
      have fewer : (next :: rest).length < more + 1 := by
        rw [List.length_cons] at enough
        omega
      have later := ih (by simp) fewer (place + entry.chars.length + 1)
      have solid : Cursor.skipSpace ⟨place + entry.chars.length + 1, entriesChars (next :: rest)⟩ = _ :=
        skipSpace_of_head (head_entriesChars (by simp))
      have length : place + entry.chars.length + 1 + (entriesChars (next :: rest)).length =
          place + (entriesChars (entry :: next :: rest)).length := by
        rw [entriesChars, List.length_append, List.length_cons]
        omega
      rw [entriesChars, readEntries_cons more depth place entry (Or.inl rfl), List.mapM_cons]
      simp only [bind, Except.bind, skip_cons, solid, later, length, if_true]
      cases entry.reading with
      | error fault => rfl
      | ok read => cases (next :: rest).mapM LiteralEntry.reading <;> rfl

/-- An object of literals is read as an object of what they are read as. -/
theorem readChars_object (entries : List LiteralEntry) (some : entries ≠ []) :
    readChars ('\x7b' :: entriesChars entries) =
      (entries.mapM LiteralEntry.reading).map ofEntries := by
  have opening : Cursor.skipSpace ⟨0, '\x7b' :: entriesChars entries⟩ =
      ⟨0, '\x7b' :: entriesChars entries⟩ :=
    skipSpace_of_head fun c head ↦ by obtain rfl := Option.some.inj head; rfl
  have inside : Cursor.skipSpace ⟨0 + 1, entriesChars entries⟩ = ⟨0 + 1, entriesChars entries⟩ :=
    skipSpace_of_head (head_entriesChars some)
  have enough : entries.length < 2 * ('\x7b' :: entriesChars entries).length + 1 := by
    have longer := length_le_entriesChars entries
    rw [List.length_cons]
    omega
  have read := readEntries_chars entries some enough 1 (0 + 1)
  have value : readValue (2 * ('\x7b' :: entriesChars entries).length + 2) 0
      ⟨0, '\x7b' :: entriesChars entries⟩ =
        (entries.mapM LiteralEntry.reading).map
          (ofEntries ·, ⟨0 + 1 + (entriesChars entries).length, []⟩) := by
    rw [readValue]
    simp only [skip_cons, inside, bind, Except.bind]
    rw [if_neg (by decide)]
    split
    · next same =>
      obtain ⟨rest, quote⟩ := exists_quote some
      rw [quote] at same
      cases same
    · rw [read]
      cases entries.mapM LiteralEntry.reading <;> rfl
  rw [readChars, opening, value]
  cases entries.mapM LiteralEntry.reading <;> rfl

/-! ### Bytes -/

theorem isOneByte_of_isNumeralChar {c : Char} (used : IsNumeralChar c) : IsOneByte c := by
  rcases used with digit | other
  · have range := Text.toNat_of_isDigit digit
    exact ⟨by omega, by omega⟩
  · have others : ∀ d ∈ ['.', 'e', 'E', '+', '-'], IsOneByte d := by decide
    exact others c other

theorem isOneByte_of_mem_literal (literal : Literal) : ∀ c ∈ literal.chars, IsOneByte c := by
  intro c member
  rcases List.mem_append.1 member with mark | numeral
  · exact isOneByte_of_isNumeralChar (Mark.isNumeralChar_of_mem_chars _ c mark)
  · exact isOneByte_of_isNumeralChar (literal.numeral.isNumeralChar_of_mem_chars c numeral)

theorem isOneByte_of_mem_entry (entry : LiteralEntry) : ∀ c ∈ entry.chars, IsOneByte c := by
  intro c member
  rcases List.mem_cons.1 member with rfl | member
  · decide
  rcases List.mem_append.1 member with key | member
  · exact (entry.plain c key).oneByte
  rcases List.mem_cons.1 member with rfl | member
  · decide
  rcases List.mem_cons.1 member with rfl | literal
  · decide
  · exact isOneByte_of_mem_literal entry.literal c literal

theorem isOneByte_of_mem_entries (entries : List LiteralEntry) :
    ∀ c ∈ entriesChars entries, IsOneByte c := by
  induction entries with
  | nil => decide
  | cons entry rest ih =>
    cases rest with
    | nil =>
      intro c member
      rcases List.mem_append.1 member with inside | brace
      · exact isOneByte_of_mem_entry entry c inside
      · obtain rfl := List.mem_singleton.1 brace
        decide
    | cons next rest =>
      intro c member
      rcases List.mem_append.1 member with inside | member
      · exact isOneByte_of_mem_entry entry c inside
      rcases List.mem_cons.1 member with rfl | behind
      · decide
      · exact ih c behind

/-- The bytes of an object of literals give what its literals are read as, or no value if one of them gives
none. -/
theorem readBytes_objectText (entries : List LiteralEntry) (some : entries ≠ []) :
    readBytes (Text.bytes (objectText entries)) =
      (entries.mapM LiteralEntry.reading).map ofEntries := by
  have plain : ∀ c ∈ '\x7b' :: entriesChars entries, IsOneByte c := by
    intro c member
    rcases List.mem_cons.1 member with rfl | inside
    · decide
    · exact isOneByte_of_mem_entries entries c inside
  rw [objectText, readBytes, Text.decode?_bytes plain]
  exact readChars_object entries some

/-! ### What stands under a key -/

/-- A value that takes the place of others under a key is found there. -/
theorem lookup_map_replace (entries : List (String × Json)) (key : String) (value : Json)
    (there : ∃ entry ∈ entries, entry.1 = key) :
    (entries.map fun entry ↦ if entry.1 == key then (key, value) else entry).lookup key =
      some value := by
  induction entries with
  | nil =>
    obtain ⟨_, member, -⟩ := there
    cases member
  | cons first rest ih =>
    by_cases same : first.1 = key
    · simp [same]
    · have later : ∃ entry ∈ rest, entry.1 = key := by
        obtain ⟨entry, member, named⟩ := there
        rcases List.mem_cons.1 member with rfl | behind
        · exact absurd named same
        · exact ⟨entry, behind, named⟩
      have apart : (key == first.1) = false := by simpa using fun back ↦ same back.symm
      rw [List.map_cons, if_neg (by simpa using same), List.lookup_cons, apart]
      exact ih later

theorem lookup_putEntry (entries : List (String × Json)) (key : String) (value : Json) :
    (putEntry entries key value).reverse.lookup key = some value := by
  unfold putEntry
  split
  · next taken =>
    rw [← List.map_reverse]
    refine lookup_map_replace entries.reverse key value ?_
    obtain ⟨entry, member, same⟩ := List.any_eq_true.1 taken
    exact ⟨entry, List.mem_reverse.2 member, by simpa using same⟩
  · simp

/-- The last of all entries counts. -/
theorem lookup_ofEntries (entries : List (String × Json)) (key : String) (value : Json) :
    entry? (ofEntries (entries ++ [(key, value)])) key = some value := by
  unfold ofEntries entry?
  rw [List.foldl_append]
  exact lookup_putEntry _ key value

end Passbook.Json
