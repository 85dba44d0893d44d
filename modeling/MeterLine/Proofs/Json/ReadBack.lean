import MeterLine.Json.Parser
import MeterLine.Json.Printer
import MeterLine.Proofs.Json.Numerals

/-!
# Reading documents back

A document that was written is read back: texts of any characters, lists, and
records whose names differ from each other.  What a number is read back as is
told by a relation, because a measurement comes back as a number of double
precision.
-/

namespace MeterLine.Json

theorem hexValue?_lowerHexDigit {value : Nat} (small : value < 16) :
    hexValue? (lowerHexDigit value) = some value := by
  have known : ∀ digit : Fin 16,
      hexValue? (lowerHexDigit digit.val) = some digit.val := by decide
  exact known ⟨value, small⟩

theorem readCode_control {character : Char} (control : character.toNat < 32)
    (rest : List Char) :
    readCode ('0' :: '0' :: lowerHexDigit (character.toNat / 16) ::
      lowerHexDigit (character.toNat % 16) :: rest) =
      some (character, rest) := by
  have high := hexValue?_lowerHexDigit
    (show character.toNat / 16 < 16 by omega)
  have low := hexValue?_lowerHexDigit
    (show character.toNat % 16 < 16 by omega)
  have zero : hexValue? '0' = some 0 := by decide
  have code : ((0 * 16 + 0) * 16 + character.toNat / 16) * 16 +
      character.toNat % 16 = character.toNat := by omega
  have whole : readHex ('0' :: '0' :: lowerHexDigit (character.toNat / 16) ::
      lowerHexDigit (character.toNat % 16) :: rest) =
        some (character.toNat, rest) := by
    simp only [readHex, high, low, zero, Option.bind_eq_bind,
      Option.bind_some, code]
  have unpaired : isHighUnit character.toNat = false ∧
      isLowUnit character.toNat = false := by
    simp only [isHighUnit, isLowUnit, Bool.and_eq_false_iff,
      decide_eq_false_iff_not]
    omega
  simp [readCode, whole, unpaired, Char.ofNat_toNat]

theorem readChars_escapeChar (fuel : Nat) (character : Char)
    (rest : List Char) :
    readChars (fuel + 1) (escapeChar character ++ rest) =
      (readChars fuel rest).map fun read =>
        (character :: read.1, read.2) := by
  unfold escapeChar
  split
  case isTrue same => subst same; rfl
  split
  case isTrue same => subst same; rfl
  split
  case isTrue same => subst same; rfl
  split
  case isTrue same => subst same; rfl
  split
  case isTrue same => subst same; rfl
  split
  case isTrue same => subst same; rfl
  split
  case isTrue same => subst same; rfl
  split
  case isTrue control =>
      simp [readChars, readEscape, readCode_control control]
  case isFalse quote slash _ _ _ _ _ printed =>
      simp [readChars, quote, slash, printed]

theorem readChars_text (characters : List Char) {fuel : Nat}
    (enough : characters.length < fuel) (rest : List Char) :
    readChars fuel (characters.flatMap escapeChar ++ '"' :: rest) =
      some (characters, rest) := by
  induction characters generalizing fuel with
  | nil =>
      obtain ⟨fuel, rfl⟩ := Nat.exists_eq_succ_of_ne_zero
        (Nat.ne_of_gt enough)
      rfl
  | cons character characters induction =>
      obtain ⟨fuel, rfl⟩ := Nat.exists_eq_succ_of_ne_zero
        (Nat.ne_of_gt (Nat.lt_of_le_of_lt (Nat.zero_le _) enough))
      rw [List.flatMap_cons, List.append_assoc, readChars_escapeChar,
        induction (Nat.lt_of_succ_lt_succ enough)]
      rfl

theorem length_le_escaped (characters : List Char) :
    characters.length ≤ (characters.flatMap escapeChar).length := by
  induction characters with
  | nil => exact Nat.le_refl 0
  | cons character characters induction =>
      have here : 0 < (escapeChar character).length := by
        unfold escapeChar
        repeat' split
        all_goals exact Nat.succ_pos _
      rw [List.flatMap_cons, List.length_append, List.length_cons]
      omega

theorem readText_escaped (text : String) (rest : List Char) :
    readText (text.toList.flatMap escapeChar ++ '"' :: rest) =
      some (text, rest) := by
  have enough : text.toList.length <
      (text.toList.flatMap escapeChar ++ '"' :: rest).length + 1 := by
    have le := length_le_escaped text.toList
    rw [List.length_append]
    omega
  rw [readText, readChars_text text.toList enough]
  simp

/-- A number is written as a numeral, and the numeral is read as another
number. -/
structure Number.ReadsAs (written read : Number) : Prop where
  begins : ∃ first digits, written.chars = first :: digits ∧
    (first.isDigit = true ∨ first = '-')
  reads : ∀ {rest : List Char}, Breaks rest →
    readNumber (written.chars ++ rest) = some (read, rest)

mutual

inductive ReadsAs : Json → Json → Prop where
  | null : ReadsAs .null .null
  | bool (value : Bool) : ReadsAs (.bool value) (.bool value)
  | number {written read : Number} :
      written.ReadsAs read → ReadsAs (.number written) (.number read)
  | text (value : String) : ReadsAs (.text value) (.text value)
  | list {written read : List Json} :
      ItemsReadAs written read → ReadsAs (.list written) (.list read)
  | record {written read : List Field} :
      (written.map Prod.fst).Nodup → FieldsReadAs written read →
      ReadsAs (.record written) (.record read)

inductive ItemsReadAs : List Json → List Json → Prop where
  | nil : ItemsReadAs [] []
  | cons {written read : Json} {items others : List Json} :
      ReadsAs written read → ItemsReadAs items others →
      ItemsReadAs (written :: items) (read :: others)

inductive FieldsReadAs : List Field → List Field → Prop where
  | nil : FieldsReadAs [] []
  | cons (name : String) {written read : Json}
      {fields others : List Field} :
      ReadsAs written read → FieldsReadAs fields others →
      FieldsReadAs ((name, written) :: fields) ((name, read) :: others)

end

theorem Number.readsAs_natural {value : Nat} (small : value < 2 ^ 64) :
    (Number.natural value).ReadsAs (.natural value) := by
  have leading := leading_toDigits value
  obtain ⟨first, digits, known⟩ := List.exists_cons_of_ne_nil leading.nonempty
  have numeric : first.isDigit = true :=
    leading.digit first (by simp [known])
  refine ⟨⟨first, digits, known, Or.inl numeric⟩, ?_⟩
  intro rest breaks
  have read := readUnsigned_toDigits small breaks
  rw [known] at read
  simp only [Number.chars, known]
  unfold readNumber
  split
  case h_1 same =>
      obtain ⟨rfl, _⟩ := List.cons.inj same
      cases numeric
  case h_2 => exact read

theorem isSpace_of_numeric {first : Char}
    (numeric : first.isDigit = true ∨ first = '-') :
    isSpace first = false ∧ first ≠ ']' := by
  rcases numeric with digit | rfl
  · have other : ∀ {character : Char}, character.isDigit = false →
        first ≠ character := by
      rintro character none_ rfl
      rw [digit] at none_
      cases none_
    simp [isSpace, other]
  · decide

theorem ReadsAs.begins {written read : Json} (reads : ReadsAs written read) :
    ∃ first rest, written.chars = first :: rest ∧ isSpace first = false ∧
      first ≠ ']' := by
  cases reads with
  | null => exact ⟨_, _, rfl, by decide, by decide⟩
  | bool value => cases value <;> exact ⟨_, _, rfl, by decide, by decide⟩
  | number reads =>
      obtain ⟨first, digits, known, numeric⟩ := reads.begins
      exact ⟨first, digits, known, isSpace_of_numeric numeric⟩
  | text value => exact ⟨_, _, rfl, by decide, by decide⟩
  | list items => cases items <;> exact ⟨_, _, rfl, by decide, by decide⟩
  | record _ fields =>
      cases fields <;> exact ⟨_, _, rfl, by decide, by decide⟩

theorem skipSpace_of_begins {first : Char} (solid : isSpace first = false)
    (rest : List Char) : skipSpace (first :: rest) = first :: rest := by
  simp [skipSpace, solid]

theorem ReadsAs.skipSpace {written read : Json} (reads : ReadsAs written read)
    (rest : List Char) :
    Json.skipSpace (written.chars ++ rest) = written.chars ++ rest := by
  obtain ⟨first, more, known, solid, _⟩ := reads.begins
  rw [known]
  exact skipSpace_of_begins solid _

theorem skipSpace_items (items : List Json) (rest : List Char) :
    skipSpace (itemsChars items ++ rest) = itemsChars items ++ rest := by
  cases items <;> exact skipSpace_of_begins (by decide) _

theorem skipSpace_fields (fields : List Field) (rest : List Char) :
    skipSpace (fieldsChars fields ++ rest) = fieldsChars fields ++ rest := by
  cases fields <;> exact skipSpace_of_begins (by decide) _

theorem breaks_items (items : List Json) (rest : List Char) :
    Breaks (itemsChars items ++ rest) := by
  cases items <;> rintro _ ⟨⟩ <;> decide

theorem breaks_fields (fields : List Field) (rest : List Char) :
    Breaks (fieldsChars fields ++ rest) := by
  cases fields <;> rintro _ ⟨⟩ <;> decide

theorem put_of_new {name : String} {value : Json} {fields : List Field}
    (new : name ∉ fields.map Prod.fst) :
    put name value fields = fields ++ [(name, value)] := by
  induction fields with
  | nil => rfl
  | cons field fields induction =>
      simp only [List.map_cons, List.mem_cons, not_or] at new
      rw [put, if_neg (Ne.symm new.1), induction new.2]
      rfl

theorem readValue_of_numeric {first : Char}
    (numeric : first.isDigit = true ∨ first = '-') (fuel : Nat)
    (rest : List Char) :
    readValue (fuel + 1) (first :: rest) =
      (readNumber (first :: rest)).map fun read =>
        (.number read.1, read.2) := by
  rcases numeric with digit | rfl
  · rw [readValue]
    all_goals
      rintro _ same
      obtain ⟨rfl, _⟩ := List.cons.inj same
      cases digit
  · rfl

/-- What is read with some fuel. -/
structure ReadsWith (fuel : Nat) : Prop where
  value : ∀ {written read : Json} (rest : List Char),
    ReadsAs written read → written.chars.length ≤ fuel → Breaks rest →
    readValue fuel (written.chars ++ rest) = some (read, rest)
  items : ∀ {written read : List Json} (rest : List Char),
    ItemsReadAs written read → (itemsChars written).length ≤ fuel →
    readItems fuel (itemsChars written ++ rest) = some (read, rest)
  field : ∀ (name : String) {written read : Json} (rest : List Char),
    ReadsAs written read → written.chars.length < fuel → Breaks rest →
    readField fuel (textChars name ++ ':' :: (written.chars ++ rest)) =
      some ((name, read), rest)
  fields : ∀ {written read before : List Field} (rest : List Char),
    FieldsReadAs written read →
    (before.map Prod.fst ++ written.map Prod.fst).Nodup →
    (fieldsChars written).length ≤ fuel →
    readFields fuel before (fieldsChars written ++ rest) =
      some (before ++ read, rest)

namespace ReadsWith

theorem zero : ReadsWith 0 := by
  constructor
  · intro written read rest reads enough _
    obtain ⟨first, more, known, _⟩ := reads.begins
    rw [known] at enough
    cases enough
  · intro written read rest reads enough
    cases reads <;> cases enough
  · intro name written read rest _ enough
    cases enough
  · intro written read before rest reads _ enough
    cases reads <;> cases enough

variable {fuel : Nat}

theorem succ_items (reads : ReadsWith fuel) {written read : List Json}
    (rest : List Char) (items : ItemsReadAs written read)
    (enough : (itemsChars written).length ≤ fuel + 1) :
    readItems (fuel + 1) (itemsChars written ++ rest) = some (read, rest) := by
  cases items with
  | nil => rfl
  | @cons written read items others item more =>
      simp only [itemsChars, List.cons_append, List.length_cons,
        List.length_append] at enough
      have here := reads.value (itemsChars items ++ rest) item (by omega)
        (breaks_items items rest)
      have there := reads.items rest more (by omega)
      simp only [itemsChars, List.cons_append, List.append_assoc, readItems,
        item.skipSpace, here, skipSpace_items, there, Option.map_some]

theorem succ_field (reads : ReadsWith fuel) (name : String)
    {written read : Json} (rest : List Char) (value : ReadsAs written read)
    (enough : written.chars.length < fuel + 1) (breaks : Breaks rest) :
    readField (fuel + 1) (textChars name ++ ':' :: (written.chars ++ rest)) =
      some ((name, read), rest) := by
  have text := readText_escaped name (':' :: (written.chars ++ rest))
  have colon : Json.skipSpace (':' :: (written.chars ++ rest)) =
      ':' :: (written.chars ++ rest) := skipSpace_of_begins (by decide) _
  have here := reads.value rest value (Nat.le_of_lt_succ enough) breaks
  simp only [textChars, List.cons_append, List.append_assoc,
    List.nil_append, readField, text, colon, value.skipSpace, here,
    Option.map_some]

theorem succ_fields (reads : ReadsWith fuel) {written read before : List Field}
    (rest : List Char) (fields : FieldsReadAs written read)
    (distinct : (before.map Prod.fst ++ written.map Prod.fst).Nodup)
    (enough : (fieldsChars written).length ≤ fuel + 1) :
    readFields (fuel + 1) before (fieldsChars written ++ rest) =
      some (before ++ read, rest) := by
  cases fields with
  | nil =>
      rw [List.append_nil]
      rfl
  | @cons name written read fields others value more =>
      have quoted : 0 < (textChars name).length := Nat.succ_pos _
      simp only [fieldsChars, List.cons_append, List.length_cons,
        List.length_append, List.append_assoc] at enough
      have here := reads.field name (fieldsChars fields ++ rest) value
        (by omega) (breaks_fields fields rest)
      have new : name ∉ before.map Prod.fst := by
        intro old
        exact (List.nodup_append.mp distinct).2.2 name old name
          List.mem_cons_self rfl
      have still : ((before ++ [(name, read)]).map Prod.fst ++
          fields.map Prod.fst).Nodup := by
        simpa using distinct
      have there := reads.fields rest more still (by omega)
      have begins : Json.skipSpace (textChars name ++ ':' ::
          (written.chars ++ (fieldsChars fields ++ rest))) =
            textChars name ++ ':' ::
              (written.chars ++ (fieldsChars fields ++ rest)) :=
        skipSpace_of_begins (by decide) _
      simp only [fieldsChars, List.cons_append, List.append_assoc, readFields,
        begins, here, put_of_new new, skipSpace_fields, there,
        List.nil_append]

theorem succ_value (reads : ReadsWith fuel) {written read : Json}
    (rest : List Char) (value : ReadsAs written read)
    (enough : written.chars.length ≤ fuel + 1) (breaks : Breaks rest) :
    readValue (fuel + 1) (written.chars ++ rest) = some (read, rest) := by
  cases value with
  | null => rfl
  | bool value => cases value <;> rfl
  | number number =>
      obtain ⟨first, digits, known, numeric⟩ := number.begins
      have here := number.reads breaks
      simp only [Json.chars]
      rw [known, List.cons_append] at here ⊢
      rw [readValue_of_numeric numeric, here]
      rfl
  | text value =>
      have here := readText_escaped value rest
      simp only [Json.chars, textChars, List.cons_append, List.append_assoc,
        List.nil_append, readValue, here, Option.map_some]
  | list items =>
      cases items with
      | nil => rfl
      | @cons written read items others item more =>
          simp only [Json.chars, List.cons_append, List.length_cons,
            List.length_append] at enough
          have here := reads.value (itemsChars items ++ rest) item
            (by omega) (breaks_items items rest)
          have there := reads.items rest more (by omega)
          obtain ⟨first, behind, known, _, going⟩ := item.begins
          have begins := item.skipSpace (itemsChars items ++ rest)
          simp only [Json.chars, List.cons_append, List.append_assoc,
            readValue, begins]
          split
          case h_1 same =>
              rw [known] at same
              exact (going (List.cons.inj same).1).elim
          case h_2 =>
              simp only [here, skipSpace_items, there, Option.map_some]
  | record distinct fields =>
      cases fields with
      | nil => rfl
      | @cons name written read fields others value more =>
          have quoted : 0 < (textChars name).length := Nat.succ_pos _
          simp only [Json.chars, List.cons_append, List.length_cons,
            List.length_append, List.append_assoc] at enough
          have here := reads.field name (fieldsChars fields ++ rest) value
            (by omega) (breaks_fields fields rest)
          have still : (([(name, read)] : List Field).map Prod.fst ++
              fields.map Prod.fst).Nodup := distinct
          have there := reads.fields rest more still (by omega)
          have begins : Json.skipSpace (textChars name ++ ':' ::
              (written.chars ++ (fieldsChars fields ++ rest))) =
                textChars name ++ ':' ::
                  (written.chars ++ (fieldsChars fields ++ rest)) :=
            skipSpace_of_begins (by decide) _
          simp only [Json.chars, List.cons_append, List.append_assoc,
            readValue, begins]
          split
          case h_1 same => cases (List.cons.inj same).1
          case h_2 =>
              simp only [here, skipSpace_fields, there, Option.map_some]
              rfl

theorem all (fuel : Nat) : ReadsWith fuel := by
  induction fuel with
  | zero => exact zero
  | succ fuel induction =>
      constructor
      · exact induction.succ_value
      · exact induction.succ_items
      · exact induction.succ_field
      · exact induction.succ_fields

end ReadsWith

/-- A document that is written is read back. -/
theorem parse_render {written read : Json} (reads : ReadsAs written read) :
    parse written.render = some read := by
  have breaks : Breaks [] := breaks_nil
  have enough : written.chars.length ≤ 2 * written.chars.length + 2 := by
    omega
  have value := (ReadsWith.all _).value [] reads enough breaks
  have begins := reads.skipSpace []
  rw [List.append_nil] at value begins
  rw [parse, render, String.toList_ofList, parseChars, begins, value]
  rfl

end MeterLine.Json
