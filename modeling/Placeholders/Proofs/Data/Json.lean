import Placeholders.Data.Json
import Placeholders.Proofs.Text.Numeral

/-!
# Records that are read back

A record of texts, written with a line for every field, is read as that record: whatever the names and
texts are, and however often a name occurs.

* A string is read character by character (`readString?_escapeChar`), each from its escape.
* A stretch of a document is `Lexed` into tokens if it gives these whatever stands after it. Stretches
  that stand one after the other are lexed into all their tokens, so that a whole record is put together
  from its strings, signs and blanks (`lexed_pretty`).
* What the tokens of a field come to does not depend on the fields before it (`foldlM_fields`).

Nothing is read from blanks only, of whatever kind they are (`read?_of_isBlank`).
-/

namespace Placeholders.Data.Json

open Placeholders.Text

/-! ## 1. Strings -/

/-- The escape of a control character has two digits that are not zero, and they say which one it is. -/
theorem digits?_hexDigit : ∀ n < 0x20,
    Text.digits? 16 ['0', '0', hexDigit (n / 16), hexDigit (n % 16)] = some n := by
  decide

/-- **Every character is read from its escape.** -/
theorem readString?_escapeChar (fuel : Nat) (soFar : List Char) (c : Char) (rest : List Char) :
    readString? (fuel + 1) soFar true (escapeChar c ++ rest) =
      readString? fuel (c :: soFar) true rest := by
  unfold escapeChar
  split
  case h_8 hquote hslash _ _ _ _ _ =>
    split
    · rename_i hcontrol
      have hbelow : c.toNat < 0xD800 := Nat.lt_trans hcontrol (by decide)
      simp [readString?, readUnicode?, readUnit?, digits?_hexDigit c.toNat hcontrol, hbelow]
    · rename_i hcontrol
      have hc : ¬ c = '"' ∧ ¬ c = '\\' := ⟨hquote, hslash⟩
      simp [readString?, hc, hcontrol]
  all_goals simp [readString?, simpleEscape?]

theorem length_escapeChar_pos (c : Char) : 0 < (escapeChar c).length := by
  unfold escapeChar
  split
  case h_8 => split <;> exact Nat.succ_pos _
  all_goals exact Nat.succ_pos _

/-- **A string is read up to its closing quote.** -/
theorem readString?_escaped {s : List Char} {fuel : Nat} (soFar rest : List Char)
    (hfuel : (s.flatMap escapeChar ++ '"' :: rest).length < fuel) :
    readString? fuel soFar true (s.flatMap escapeChar ++ '"' :: rest) =
      some (some (soFar.reverse ++ s), rest) := by
  obtain ⟨fuel, rfl⟩ := Nat.exists_eq_add_one_of_ne_zero (Nat.ne_zero_of_lt hfuel)
  induction s generalizing fuel soFar with
  | nil => simp [readString?]
  | cons c s ih =>
      rw [List.flatMap_cons, List.append_assoc] at hfuel ⊢
      rw [List.length_append] at hfuel
      have hpos := length_escapeChar_pos c
      obtain ⟨left, rfl⟩ := Nat.exists_eq_add_one_of_ne_zero
        (show fuel ≠ 0 by omega)
      rw [readString?_escapeChar, ih (c :: soFar) left (by omega)]
      simp

/-! ## 2. Tokens -/

/-- A stretch of a document that gives certain tokens, whatever stands before and after it. -/
def Lexed (s : List Char) (tokens : List Token) : Prop :=
  ∀ (fuel : Nat) (before : List Token) (rest : List Char), (s ++ rest).length < fuel →
    ∃ left, rest.length < left ∧
      readTokens? fuel before (s ++ rest) = readTokens? left (tokens.reverse ++ before) rest

theorem lexed_nil : Lexed [] [] := fun fuel _ _ hfuel => ⟨fuel, hfuel, rfl⟩

theorem Lexed.append {s t : List Char} {tokens more : List Token} (hs : Lexed s tokens)
    (ht : Lexed t more) : Lexed (s ++ t) (tokens ++ more) := by
  intro fuel before rest hfuel
  rw [List.append_assoc] at hfuel ⊢
  obtain ⟨middle, hmiddle, hfirst⟩ := hs fuel before (t ++ rest) hfuel
  obtain ⟨left, hleft, hsecond⟩ := ht middle (tokens.reverse ++ before) rest hmiddle
  refine ⟨left, hleft, ?_⟩
  rw [hfirst, hsecond, List.reverse_append, List.append_assoc]

/-- Blanks between tokens do not matter. -/
theorem lexed_space {c : Char} (hc : isSpace c = true) : Lexed [c] [] := by
  intro fuel before rest hfuel
  obtain ⟨fuel, rfl⟩ := Nat.exists_eq_add_one_of_ne_zero (Nat.ne_zero_of_lt hfuel)
  refine ⟨fuel + 1, Nat.lt_of_succ_lt hfuel, ?_⟩
  simp [readTokens?, hc]

theorem lexed_sign {c : Char} (hc : isSign c = true) (hspace : isSpace c = false) :
    Lexed [c] [.sign c] := by
  intro fuel before rest hfuel
  obtain ⟨fuel, rfl⟩ := Nat.exists_eq_add_one_of_ne_zero (Nat.ne_zero_of_lt hfuel)
  refine ⟨fuel, Nat.lt_of_succ_lt_succ hfuel, ?_⟩
  simp [readTokens?, readToken?, hspace, hc]

/-- **A string in its quotes is one token.** -/
theorem lexed_quote (s : String) : Lexed (quote s).toList [.string (some s)] := by
  intro fuel before rest hfuel
  obtain ⟨fuel, rfl⟩ := Nat.exists_eq_add_one_of_ne_zero (Nat.ne_zero_of_lt hfuel)
  have hquote : (quote s).toList ++ rest = '"' :: (s.toList.flatMap escapeChar ++ '"' :: rest) := by
    simp [quote]
  rw [hquote] at hfuel ⊢
  have hread := readString?_escaped (s := s.toList) [] rest (Nat.lt_of_succ_lt hfuel)
  have hspace : isSpace '"' = false := by decide
  have hsign : isSign '"' = false := by decide
  refine ⟨fuel, ?_, ?_⟩
  · rw [List.length_cons, List.length_append, List.length_cons] at hfuel
    omega
  · simp [readTokens?, readToken?, hspace, hsign, hread]

/-- Stretches with signs between them. -/
theorem lexed_intercalate {α : Type} {separator : List Char} {sign : List Token}
    (hsign : Lexed separator sign) {line : α → List Char} {tokens : α → List Token}
    (h : ∀ a, Lexed (line a) (tokens a)) (items : List α) :
    Lexed (separator.intercalate (items.map line)) (sign.intercalate (items.map tokens)) := by
  induction items with
  | nil => exact lexed_nil
  | cons first rest ih =>
      cases rest with
      | nil => simpa using h first
      | cons second rest =>
          simp only [List.map_cons, List.intercalate_cons_cons] at ih ⊢
          exact ((h first).append hsign).append ih

/-! ## 3. Records of texts -/

/-- The fields of a record that holds nothing but texts. -/
def textFields (fields : List (String × String)) : List (String × Datum) :=
  fields.map fun field => (field.1, .text field.2)

/-- The line of a field. -/
def fieldLine (field : String × String) : String := quote field.1 ++ ": " ++ quote field.2

/-- The tokens of a field. -/
def fieldTokens (field : String × String) : List Token :=
  [.string (some field.1), .sign ':', .string (some field.2)]

theorem prettyFields_textFields (indent : String) (fields : List (String × String)) :
    prettyFields indent (textFields fields) = fields.map fieldLine := by
  induction fields with
  | nil => rfl
  | cons field rest ih =>
      rw [textFields, List.map_cons, prettyFields, ← textFields, ih]
      rfl

theorem lexed_fieldLine (field : String × String) :
    Lexed ("  " ++ fieldLine field).toList (fieldTokens field) := by
  have hblank : Lexed [' '] [] := lexed_space (by decide)
  have hcolon : Lexed [':'] [.sign ':'] := lexed_sign (by decide) (by decide)
  have hline := (hblank.append hblank).append
    (((lexed_quote field.1).append hcolon).append (hblank.append (lexed_quote field.2)))
  simpa [fieldLine, fieldTokens] using hline

/-- The tokens of a record. -/
def recordTokens (fields : List (String × String)) : List Token :=
  .sign '\x7b' :: [.sign ','].intercalate (fields.map fieldTokens) ++ [.sign '\x7d']

/-- **A record is lexed into its braces, names, colons, texts and commas.** -/
theorem lexed_pretty (fields : List (String × String)) :
    Lexed (pretty "" (.record (textFields fields))).toList (recordTokens fields) := by
  have hopen : Lexed ['\x7b'] [.sign '\x7b'] := lexed_sign (by decide) (by decide)
  have hclose : Lexed ['\x7d'] [.sign '\x7d'] := lexed_sign (by decide) (by decide)
  have hbreak : Lexed ['\n'] [] := lexed_space (by decide)
  have hcomma : Lexed [',', '\n'] [.sign ','] :=
    (lexed_sign (c := ',') (by decide) (by decide)).append hbreak
  rw [pretty, prettyFields_textFields, bracketed]
  cases fields with
  | nil => simpa [openBrace, closeBrace, recordTokens] using hopen.append hclose
  | cons first rest =>
      have hlines := lexed_intercalate hcomma lexed_fieldLine (first :: rest)
      have hall := ((hopen.append hbreak).append hlines).append (hbreak.append hclose)
      simpa [openBrace, closeBrace, recordTokens, Function.comp_def, String.toList_intercalate] using hall

/-! ## 4. Reading -/

/-- A record that is being read, with some fields so far. -/
def Reading.within (fields : List (String × Datum)) (expect : Expect) : Reading :=
  { frames := [.record fields "" true], expect }

theorem foldlM_fieldTokens (before : List (String × Datum)) (field : String × String) {expect : Expect}
    (h : expect = .firstName ∨ expect = .name) :
    (fieldTokens field).foldlM Reading.step? (.within before expect) =
      some (.within ((field.1, .text field.2) :: before) .afterValue) := by
  rcases h with rfl | rfl <;> rfl

/-- **Fields are read one after the other**, whatever has been read before. -/
theorem foldlM_fields {fields : List (String × String)} (hne : fields ≠ [])
    (before : List (String × Datum)) {expect : Expect} (h : expect = .firstName ∨ expect = .name) :
    ([.sign ','].intercalate (fields.map fieldTokens)).foldlM Reading.step? (.within before expect) =
      some (.within ((textFields fields).reverse ++ before) .afterValue) := by
  induction fields generalizing before expect with
  | nil => exact absurd rfl hne
  | cons first rest ih =>
      cases rest with
      | nil => simpa [textFields] using foldlM_fieldTokens before first h
      | cons second rest =>
          have hcomma : ∀ fields, [Token.sign ','].foldlM Reading.step? (.within fields .afterValue) =
              some (.within fields .name) := fun _ => rfl
          rw [List.map_cons, List.map_cons, List.intercalate_cons_cons, ← List.map_cons,
            List.foldlM_append, List.foldlM_append, foldlM_fieldTokens before first h]
          simp only [Option.bind_eq_bind, Option.bind_some, hcomma]
          rw [ih (List.cons_ne_nil _ _) _ (.inr rfl)]
          simp [textFields]

theorem foldlM_recordTokens (fields : List (String × String)) :
    (recordTokens fields).foldlM Reading.step? {} =
      some { expect := .afterValue, result := some (.record (textFields fields)) } := by
  cases fields with
  | nil => rfl
  | cons first rest =>
      have hopen : Reading.step? {} (.sign '\x7b') = some (.within [] .firstName) := rfl
      have hclose : ∀ fields, [Token.sign '\x7d'].foldlM Reading.step? (.within fields .afterValue) =
          some { expect := .afterValue, result := some (.record fields.reverse) } := fun _ => rfl
      rw [recordTokens, List.cons_append, List.foldlM_cons, hopen, Option.bind_eq_bind, Option.bind_some,
        List.foldlM_append, foldlM_fields (List.cons_ne_nil _ _) [] (.inl rfl), Option.bind_eq_bind,
        Option.bind_some, hclose, List.append_nil, List.reverse_reverse]

/-- **A record of texts is read as it has been written.** -/
theorem read?_pretty (fields : List (String × String)) :
    read? (pretty "" (.record (textFields fields))) = some (.record (textFields fields)) := by
  obtain ⟨left, hleft, htokens⟩ := lexed_pretty fields _ [] [] (by
    rw [List.append_nil]
    exact Nat.lt_succ_self _)
  obtain ⟨left, rfl⟩ := Nat.exists_eq_add_one_of_ne_zero (Nat.ne_zero_of_lt hleft)
  rw [List.append_nil] at htokens
  have hend : readTokens? (left + 1) ((recordTokens fields).reverse ++ []) [] =
      some (recordTokens fields) := by
    simp [readTokens?]
  rw [hend] at htokens
  simp [read?, htokens, foldlM_recordTokens]

/-! ## 5. Blanks -/

/-- No number starts with a blank. -/
theorem readNumber?_of_isBlank {c : Char} (hc : isBlank c = true) (s : List Char) :
    readNumber? (c :: s) = none := by
  have hminus : c ≠ '-' := by
    rintro rfl
    exact absurd hc (by decide)
  have hdigit : c.isDigit = false := Bool.eq_false_iff.mpr fun hdigit => by
    rw [isBlank_of_isDigit hdigit] at hc
    cases hc
  have hdigits : readDigits? (c :: s) = none := by simp [readDigits?, hdigit]
  unfold readNumber?
  split
  rename_i negative rest hsign
  split at hsign
  · rename_i heq
    exact absurd (List.cons.inj heq).1 hminus
  · obtain ⟨-, rfl⟩ := Prod.mk.inj hsign
    rw [hdigits]
    rfl

/-- No token starts with a blank. -/
theorem readToken?_of_isBlank {c : Char} (hc : isBlank c = true) (fuel : Nat) (s : List Char) :
    readToken? fuel (c :: s) = none := by
  have hsign : isSign c = false := Bool.eq_false_iff.mpr fun hsign => by
    have hnone : ['[', ']', '\x7b', '\x7d', ',', ':'].all (!isBlank ·) = true := by decide
    have hother := List.all_eq_true.mp hnone c (List.contains_iff_mem.mp hsign)
    rw [hc] at hother
    cases hother
  rw [readToken?, hsign, if_neg Bool.false_ne_true, readNumber?_of_isBlank hc, Option.map_none]
  -- no letter that a word starts with is a blank, nor is a quote
  all_goals
    rintro rfl
    exact absurd hc (by decide)

/-- **Nothing is read from blanks**, be they blanks of JSON or others. -/
theorem read?_of_isBlank {source : String} (h : ∀ c ∈ source.toList, isBlank c = true) :
    read? source = none := by
  cases hrest : source.toList.dropWhile isSpace with
  | nil => simp [read?, readTokens?, hrest]
  | cons c rest =>
      have hc : isBlank c = true :=
        h c ((List.dropWhile_suffix isSpace).subset (hrest ▸ List.mem_cons_self))
      simp [read?, readTokens?, hrest, readToken?_of_isBlank hc]

end Placeholders.Data.Json
