import Placeholders.Proofs.Markup.Delimiters
import Placeholders.Proofs.Text.Cutting

/-!
# Escapes

* What may not stand at a place does not stand in what is escaped for it.
* To escape a text is to replace one character after another, the ampersand first: what the other
  replacements put in has an ampersand of its own (`escapeText_eq`, `escapeAttribute_eq`).
* A reference is short and has no characters outside of ASCII, so that a semicolon within ten octets of an
  ampersand is needed for anything to be read (`decode_eq_self`).
-/

namespace Placeholders.Markup

open Placeholders.Text

variable {s name : List Char} {c d : Char}

/-! ## 1. One character after another -/

/-- The text with a character replaced. -/
def replaceChar (c : Char) (written : String) (s : List Char) : List Char :=
  replaceAll [([c], ())] (fun _ => written.toList) s

/-- Where every literal is a single character, all characters are looked at on their own. -/
theorem replaceChar_eq (c : Char) (written : String) (s : List Char) :
    replaceChar c written s = s.flatMap fun d => if d = c then written.toList else [d] := by
  have hproper : Lexicon.Proper [([c], ())] := fun e he => by
    rw [List.mem_singleton.mp he]
    exact List.cons_ne_nil c []
  induction s with
  | nil => exact hproper.replaceAll_nil _
  | cons d s ih =>
      rw [List.flatMap_cons, ← ih]
      by_cases hd : d = c
      · have hfound : Lexicon.startOf? [([c], ())] ([c] ++ s) = some ([c], ()) := by
          simp [Lexicon.startOf?]
        have hcut : cut [([c], ())] (c :: s) = .hit [c] () :: cut [([c], ())] s :=
          hproper.cut_append_of_some hfound
        rw [hd, if_pos rfl, replaceChar, replaceAll, hcut, List.flatMap_cons]
        rfl
      · have hnone : Lexicon.startOf? [([c], ())] (d :: s) = none := by
          simp [Lexicon.startOf?, Ne.symm hd]
        rw [if_neg hd, replaceChar, hproper.replaceAll_cons_of_none hnone]
        rfl

/-- **Between tags the ampersand is replaced first**, and then what begins and ends a tag. -/
theorem escapeText_eq (s : List Char) : escapeText s =
    replaceChar '>' "&gt;" (replaceChar '<' "&lt;" (replaceChar '&' "&amp;" s)) := by
  simp only [replaceChar_eq, List.flatMap_assoc, escapeText]
  refine List.flatMap_congr fun c _ => ?_
  by_cases hamp : c = '&'
  · rw [hamp]
    decide
  by_cases hlt : c = '<'
  · rw [hlt]
    decide
  by_cases hgt : c = '>'
  · rw [hgt]
    decide
  have hplain : escapeTextChar c = [c] := by simp [escapeTextChar, hamp, hlt, hgt]
  rw [hplain, if_neg hamp, List.flatMap_singleton, if_neg hlt, List.flatMap_singleton, if_neg hgt]

theorem escapeAttribute_eq (s : List Char) :
    escapeAttribute s = replaceChar '"' "&quot;" (replaceChar '&' "&amp;" s) := by
  simp only [replaceChar_eq, List.flatMap_assoc, escapeAttribute]
  refine List.flatMap_congr fun c _ => ?_
  by_cases hamp : c = '&'
  · rw [hamp]
    decide
  by_cases hquote : c = '"'
  · rw [hquote]
    decide
  have hplain : escapeAttributeChar c = [c] := by simp [escapeAttributeChar, hamp, hquote]
  rw [hplain, if_neg hamp, List.flatMap_singleton, if_neg hquote]

/-- Nothing that ends a place in markup stands in what is escaped for all of them. -/
theorem not_mem_escape (hc : c ∈ ['<', '>', '"', '\'']) (s : List Char) : c ∉ escape s := by
  intro h
  obtain ⟨d, _, hd⟩ := List.mem_flatMap.mp h
  have hwritten : ['<', '>', '"', '\''].all fun c => ['&', '<', '>', '"', '\''].all fun d =>
      !(escapeChar d).contains c := by decide
  by_cases hspecial : d ∈ ['&', '<', '>', '"', '\'']
  · have habsent := List.all_eq_true.mp (List.all_eq_true.mp hwritten c hc) d hspecial
    simp [hd] at habsent
  · have hplain : escapeChar d = [d] := by
      unfold escapeChar
      split <;> simp_all
    rw [hplain, List.mem_singleton] at hd
    exact hspecial (hd ▸ List.mem_cons_of_mem _ hc)

/-! ## 2. What is no reference -/

theorem utf8Size_of_le (h : d ≤ '\x7f') : d.utf8Size = 1 := if_pos h

/-- A text of ASCII has as many octets as characters. -/
theorem utf8ByteSize_of_ascii (h : ∀ d ∈ s, d.utf8Size = 1) : (String.ofList s).utf8ByteSize = s.length := by
  induction s with
  | nil => rfl
  | cons c s ih =>
      obtain ⟨hc, hs⟩ := List.forall_mem_cons.mp h
      rw [String.ofList_cons, String.utf8ByteSize_append, String.utf8ByteSize_singleton, hc, ih hs,
        List.length_cons, Nat.add_comm]

theorem utf8Size_of_digitValue? {n : Nat} (h : digitValue? d = some n) : d.utf8Size = 1 := by
  unfold digitValue? at h
  split_ifs at h with hdigit hsmall hcapital
  · exact utf8Size_of_le (Char.le_trans hdigit.2 (by decide))
  · exact utf8Size_of_le (Char.le_trans hsmall.2 (by decide))
  · exact utf8Size_of_le (Char.le_trans hcapital.2 (by decide))

theorem utf8Size_of_digitsFrom {base value n : Nat} (h : digitsFrom base value s = some n) :
    ∀ d ∈ s, d.utf8Size = 1 := by
  induction s generalizing value with
  | nil => exact fun d hd => absurd hd List.not_mem_nil
  | cons c s ih =>
      rw [digitsFrom] at h
      cases hc : digitValue? c with
      | none => simp [hc] at h
      | some k =>
          simp only [hc] at h
          split at h
          · exact List.forall_mem_cons.mpr ⟨utf8Size_of_digitValue? hc, ih h⟩
          · cases h

theorem utf8Size_of_unsigned? {base bound n : Nat} (h : unsigned? base bound s = some n) :
    ∀ d ∈ s, d.utf8Size = 1 := by
  have hdigits : ∀ {t : List Char}, digits? base t = some n → ∀ d ∈ t, d.utf8Size = 1 := by
    intro t ht
    unfold digits? at ht
    split at ht
    · cases ht
    · exact utf8Size_of_digitsFrom ht
  have hvalue := (Option.filter_eq_some_iff.mp h).1
  split at hvalue
  · exact List.forall_mem_cons.mpr ⟨rfl, hdigits hvalue⟩
  · exact hdigits hvalue

/-- **Only names of ASCII characters stand for anything.** -/
theorem utf8Size_of_referenced? (h : referenced? name = some c) : ∀ d ∈ name, d.utf8Size = 1 := by
  have hnamed : namedCharacters.all fun entry => entry.1.all fun d => d.utf8Size == 1 := by decide
  have hhash : ∀ {digits : List Char}, (∀ d ∈ digits, d.utf8Size = 1) →
      ∀ d ∈ '#' :: digits, d.utf8Size = 1 := fun h => List.forall_mem_cons.mpr ⟨rfl, h⟩
  unfold referenced? at h
  split at h
  · rename_i hlookup
    obtain ⟨before, after, heq, _⟩ := List.lookup_eq_some_iff.mp hlookup
    have hentry := List.all_eq_true.mp hnamed (name, _) (heq ▸ List.mem_append_right before List.mem_cons_self)
    exact fun d hd => beq_iff_eq.mp (List.all_eq_true.mp hentry d hd)
  · split at h
    · obtain ⟨n, hn, _⟩ := Option.bind_eq_some_iff.mp h
      exact hhash (List.forall_mem_cons.mpr ⟨rfl, utf8Size_of_unsigned? hn⟩)
    · obtain ⟨n, hn, _⟩ := Option.bind_eq_some_iff.mp h
      exact hhash (List.forall_mem_cons.mpr ⟨rfl, utf8Size_of_unsigned? hn⟩)
    · obtain ⟨n, hn, _⟩ := Option.bind_eq_some_iff.mp h
      exact hhash (utf8Size_of_unsigned? hn)
    · cases h

/-- What is read as a reference is a name that is not too long, and a semicolon. -/
theorem exists_of_reference? {n : Nat} (h : reference? s = some (c, n)) :
    ∃ name after, s = name ++ ';' :: after ∧ name.length ≤ nameLimit ∧ referenced? name = some c := by
  unfold reference? at h
  dsimp only at h
  generalize hname : (s.take (nameLimit + 1)).takeWhile (· != ';') = name at h
  split at h
  · rename_i hshort
    obtain ⟨d, hd, heq⟩ := Option.map_eq_some_iff.mp h
    cases heq
    have hsplit : name ++ (s.take (nameLimit + 1)).dropWhile (· != ';') = s.take (nameLimit + 1) :=
      hname ▸ List.takeWhile_append_dropWhile
    cases hrest : (s.take (nameLimit + 1)).dropWhile (· != ';') with
    | nil =>
        have hlength := congrArg List.length hsplit
        rw [hrest, List.append_nil, List.length_take] at hlength
        omega
    | cons e rest =>
        have hsemicolon : e = ';' := by
          have hhead := List.head_dropWhile_not (· != ';') (l := s.take (nameLimit + 1)) (by simp [hrest])
          simpa [hrest] using hhead
        refine ⟨name, rest ++ s.drop (nameLimit + 1), ?_, hshort.1, hd⟩
        rw [← List.cons_append, ← List.append_assoc, ← hsemicolon, ← hrest, hsplit, List.take_append_drop]
  · cases h

/-- After every ampersand the next semicolon is more than ten octets away. -/
def Unreferring (s : List Char) : Prop :=
  ∀ before name after, s = before ++ '&' :: (name ++ ';' :: after) →
    10 < (String.ofList ('&' :: name)).utf8ByteSize

/-- It is enough to look at what may be a name after each ampersand. -/
instance : DecidablePred Unreferring := fun s =>
  decidable_of_iff (∀ t ∈ s.tails, ∀ name ∈ t.tail.inits, '&' :: (name ++ [';']) <+: t →
      10 < (String.ofList ('&' :: name)).utf8ByteSize) <| by
    simp only [List.mem_tails, List.mem_inits]
    constructor
    · rintro h before name after rfl
      refine h _ ⟨before, rfl⟩ name ⟨';' :: after, rfl⟩ ⟨after, ?_⟩
      rw [List.cons_append, List.append_assoc, List.singleton_append]
    · rintro h _ ⟨before, rfl⟩ name _ ⟨after, rfl⟩
      refine h before name after ?_
      rw [List.cons_append, List.append_assoc, List.singleton_append]

theorem Unreferring.tail (h : Unreferring (c :: s)) : Unreferring s :=
  fun before name after heq => h (c :: before) name after (by rw [heq, List.cons_append])

/-- **What cannot be a reference stays as it is written.** By induction on the text. Whatever would be read
    after an ampersand has a name, and the semicolon behind this would be too near. -/
theorem decode_eq_self (h : Unreferring s) : decode s = s := by
  induction s with
  | nil => simp [decode]
  | cons c s ih =>
      rw [decode, ih h.tail]
      split
      · rename_i hamp
        obtain rfl : c = '&' := by simpa using hamp
        cases hreference : reference? s with
        | none => rfl
        | some found =>
            obtain ⟨name, after, rfl, hlength, hname⟩ := exists_of_reference? hreference
            have hnear := h [] name after rfl
            have hascii : ∀ d ∈ '&' :: name, d.utf8Size = 1 :=
              List.forall_mem_cons.mpr ⟨rfl, utf8Size_of_referenced? hname⟩
            rw [utf8ByteSize_of_ascii hascii, List.length_cons] at hnear
            unfold nameLimit at hlength
            omega
      · rfl

/-! ## 3. Both ways -/

/-- **Reading undoes escaping.** What is escaped reads as what it was, whichever place it was escaped for,
    and nothing stands in it that would end this place. Where no semicolon is near after an ampersand reading
    changes nothing. -/
theorem decode_undoes_escapes (s : List Char) :
    (decode (escape s) = s ∧ decode (escapeText s) = s ∧ decode (escapeAttribute s) = s) ∧
    ('<' ∉ escape s ∧ '>' ∉ escape s ∧ '"' ∉ escape s ∧ '\'' ∉ escape s) ∧
    '<' ∉ escapeText s ∧ '"' ∉ escapeAttribute s ∧
    escapeText s = replaceChar '>' "&gt;" (replaceChar '<' "&lt;" (replaceChar '&' "&amp;" s)) ∧
    escapeAttribute s = replaceChar '"' "&quot;" (replaceChar '&' "&amp;" s) ∧
    (Unreferring s → decode s = s) :=
  ⟨⟨decode_escape s, decode_escapeText s, decode_escapeAttribute s⟩,
    ⟨not_mem_escape (by decide) s, not_mem_escape (by decide) s, not_mem_escape (by decide) s,
      not_mem_escape (by decide) s⟩,
    lt_not_mem_escapeText s, quote_not_mem_escapeAttribute s, escapeText_eq s, escapeAttribute_eq s,
    decode_eq_self⟩

/-- A text with a lone ampersand, a name that is too long, and a reference without an end. -/
def unfinished : List Char := "a & b &thetasymbol; c &amp".toList

theorem decode_undoes_escapes_of_unfinished :
    Unreferring unfinished ∧ decode unfinished = unfinished ∧ decode (escape unfinished) = unfinished ∧
      decode (escapeAttribute unfinished) = unfinished ∧
      escapeText unfinished = "a &amp; b &amp;thetasymbol; c &amp;amp".toList := by
  have hfar : Unreferring unfinished := by decide +kernel
  obtain ⟨⟨hall, _, hattribute⟩, _, _, _, _, _, hkept⟩ := decode_undoes_escapes unfinished
  exact ⟨hfar, hkept hfar, hall, hattribute, by decide⟩

end Placeholders.Markup
