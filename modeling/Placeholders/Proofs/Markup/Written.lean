import Placeholders.Proofs.Markup.Delimiters

/-!
# Tokens of what is written

Each piece that `Tree.render` writes is read as one token, whatever follows it. Only a text must be
followed by a `<` or by nothing.

* `IsTag` and `AreAttributes` say what tags and attributes are read back as they are written. Of a name
  that is no more than an `IsTagName`, the opening tag is read back, but the closing tag is trimmed.
* `tokens_renderOpening` is about the whole tag of an element; what follows the tag of a raw element is
  part of its token.
-/

namespace Placeholders.Markup

open Placeholders.Text Placeholders.Markup.Tree

/-! ## 1. Names -/

/-- Tags that an opening tag is read back with. -/
structure IsTagName (tag : String) : Prop where
  first : tag.toList.head?.any Char.isLower = true
  plain : ∀ c ∈ tag.toList, c.isUpper = false ∧ isTagChar c = true

/-- Tags that are read back as they are written. -/
structure IsTag (tag : String) : Prop where
  first : tag.toList.head?.any Char.isLower = true
  plain : ∀ c ∈ tag.toList, c.isUpper = false ∧ isBlank c = false ∧ c ≠ '>' ∧ c ≠ '/'

/-- Attributes that are read back as they are written. Their values are arbitrary. -/
structure AreAttributes (attributes : Attributes) : Prop where
  named : ∀ name ∈ attributes.map (·.1), name ≠ ""
  distinct : (attributes.map (·.1)).Nodup
  plain : ∀ name ∈ attributes.map (·.1), ∀ c ∈ name.toList,
    c.isUpper = false ∧ isAsciiBlank c = false ∧ c ≠ '=' ∧ c ≠ '>' ∧ c ≠ '/'

/-- Characters are looked at one by one, and not by going through all there are. -/
instance (tag : String) : Decidable (IsTag tag) :=
  decidable_of_iff
    (tag.toList.head?.any Char.isLower = true ∧
      tag.toList.all (fun c => !c.isUpper && !isBlank c && c != '>' && c != '/') = true)
    ⟨fun h => ⟨h.1, by simpa [and_assoc] using h.2⟩,
      fun h => ⟨h.first, by simpa [and_assoc] using h.plain⟩⟩

instance (attributes : Attributes) : Decidable (AreAttributes attributes) :=
  decidable_of_iff
    ((attributes.map (·.1)).all (fun name => name != "") = true ∧ (attributes.map (·.1)).Nodup ∧
      (attributes.map (·.1)).all (fun name => name.toList.all fun c =>
        !c.isUpper && !isAsciiBlank c && c != '=' && c != '>' && c != '/') = true)
    ⟨fun h => ⟨by simpa using h.1, h.2.1, by simpa [and_assoc] using h.2.2⟩,
      fun h => ⟨by simpa using h.named, h.distinct, by simpa [and_assoc] using h.plain⟩⟩

/-- Only the names of attributes matter. -/
theorem AreAttributes.of_map_fst {attributes revised : Attributes} (h : AreAttributes attributes)
    (hnames : revised.map (·.1) = attributes.map (·.1)) : AreAttributes revised where
  named := hnames ▸ h.named
  distinct := hnames ▸ h.distinct
  plain := hnames ▸ h.plain

namespace IsTagName

variable {tag : String} (h : IsTagName tag)

include h

theorem lower_eq : lower tag.toList = tag.toList :=
  lower_eq_self fun c hc => (h.plain c hc).1

theorem gt_not_mem : '>' ∉ tag.toList := fun hmem =>
  absurd (h.plain '>' hmem).2 (by decide)

theorem exists_cons : ∃ c s, tag.toList = c :: s ∧ c.isAlpha = true := by
  have hfirst := h.first
  cases hcons : tag.toList with
  | nil => simp [hcons] at hfirst
  | cons c s =>
      rw [hcons, List.head?_cons, Option.any_some] at hfirst
      have halpha : (c.isUpper || c.isLower) = true := by rw [hfirst, Bool.or_true]
      exact ⟨c, s, rfl, halpha⟩

end IsTagName

namespace IsTag

variable {tag : String} (h : IsTag tag)

include h

theorem isTagName : IsTagName tag := by
  refine ⟨h.first, fun c hc => ?_⟩
  obtain ⟨hupper, hblank, hgt, hslash⟩ := h.plain c hc
  have hascii : isAsciiBlank c = false := by
    rw [← Bool.not_eq_true] at hblank ⊢
    exact fun hc => hblank (isBlank_of_isAsciiBlank hc)
  simp [isTagChar, hupper, hascii, hgt, hslash]

theorem trim_eq : trim tag.toList = tag.toList :=
  trim_eq_self fun c hc => (h.plain c hc).2.1

end IsTag

/-! ## 2. Attributes -/

theorem readValue?_escapeAttribute (value rest : List Char) :
    readValue? ('"' :: (escapeAttribute value ++ '"' :: rest)) = some (escapeAttribute value, rest) :=
  cutAt?_singleton_append (quote_not_mem_escapeAttribute value) rest

theorem readAttribute?_written {c : Char} {name : List Char}
    (hname : ∀ d ∈ c :: name, isNameChar d = true) (value rest : List Char) :
    readAttribute? c (name ++ '=' :: '"' :: (escapeAttribute value ++ '"' :: rest)) =
      some ((c :: name, value), rest) := by
  obtain ⟨hc, hrest⟩ := List.forall_mem_cons.mp hname
  have hne : (c == '=') = false := by
    rw [← Bool.not_eq_true, beq_iff_eq]
    rintro rfl
    exact absurd hc (by decide)
  have heq : isNameChar '=' = false := by decide
  simp only [readAttribute?, hne, Bool.false_eq_true, if_false, takeWhile_append_cons hrest heq,
    dropWhile_append_cons hrest heq]
  rw [List.dropWhile_cons_of_neg (by decide)]
  simp only
  rw [List.dropWhile_cons_of_neg (by decide), readValue?_escapeAttribute]
  simp [decode_escapeAttribute]

theorem tagRest?_of_end {s rest : List Char} (h : s.dropWhile isAsciiBlank = '>' :: rest)
    (attributes : Attributes) (slash : Bool) :
    tagRest? attributes slash s = some ((attributes, slash), rest) := by
  unfold tagRest?
  split <;> simp_all

theorem tagRest?_of_attribute {s rest after name value : List Char} {c : Char}
    (h : s.dropWhile isAsciiBlank = c :: rest) (hgt : c ≠ '>') (hslash : c ≠ '/')
    (hread : readAttribute? c rest = some ((name, value), after)) (attributes : Attributes)
    (slash : Bool) :
    tagRest? attributes slash s = tagRest? (addAttribute attributes name value) false after := by
  conv_lhs => unfold tagRest?
  split
  · simp_all
  · rename_i hs
    obtain ⟨rfl, rfl⟩ := List.cons.inj (h.symm.trans hs)
    rw [if_neg (by simpa using hgt), if_neg (by simpa using hslash)]
    split
    · simp_all
    · rename_i hfound
      rw [hread] at hfound
      cases hfound
      rfl

theorem addAttribute_of_new {attributes : Attributes} {name : String} (hne : name ≠ "")
    (hlower : lower name.toList = name.toList) (hnew : name ∉ attributes.map (·.1)) (value : String) :
    addAttribute attributes name.toList value.toList = attributes ++ [(name, value)] := by
  have hany : (attributes.any fun entry => entry.1 == name) = false := by
    rw [List.any_eq_false]
    intro entry hentry heq
    exact hnew (List.mem_map.mpr ⟨entry, hentry, by simpa using heq⟩)
  have hempty : name.isEmpty = false := by simpa using hne
  simp [addAttribute, hlower, hany, hempty]

/-- **Attributes are read as they are written**, up to the end of the tag. -/
theorem tagRest?_written {before attributes : Attributes} (h : AreAttributes (before ++ attributes))
    (rest : List Char) :
    tagRest? before false (attributes.flatMap renderAttribute ++ '>' :: rest) =
      some ((before ++ attributes, false), rest) := by
  induction attributes generalizing before with
  | nil =>
      rw [List.flatMap_nil, List.nil_append, List.append_nil]
      exact tagRest?_of_end (List.dropWhile_cons_of_neg (by decide)) before false
  | cons entry attributes ih =>
      obtain ⟨name, value⟩ := entry
      have hmem : name ∈ (before ++ (name, value) :: attributes).map (·.1) := by simp
      have hplain := h.plain name hmem
      have hne := h.named name hmem
      have hnew : name ∉ before.map (·.1) := by
        have hdistinct := h.distinct
        rw [List.map_append, List.nodup_append] at hdistinct
        exact fun hin => hdistinct.2.2 name hin name (by simp) rfl
      obtain ⟨c, s, hname⟩ := List.exists_cons_of_ne_nil fun hnil : name.toList = [] =>
        hne (String.toList_eq_nil_iff.mp hnil)
      have hchars : ∀ d ∈ c :: s, isNameChar d = true := by
        intro d hd
        obtain ⟨_, hblank, heq, hgt, hslash⟩ := hplain d (hname ▸ hd)
        simp [isNameChar, hblank, heq, hgt, hslash]
      obtain ⟨_, hblank, _, hgt, hslash⟩ := hplain c (by simp [hname])
      have hwritten : ((name, value) :: attributes).flatMap renderAttribute ++ '>' :: rest =
          ' ' :: c :: (s ++ '=' :: '"' :: (escapeAttribute value.toList ++
            '"' :: (attributes.flatMap renderAttribute ++ '>' :: rest))) := by
        simp [renderAttribute, hname]
      rw [hwritten, tagRest?_of_attribute ?_ hgt hslash (readAttribute?_written hchars value.toList _),
        ← hname, addAttribute_of_new hne (lower_eq_self fun d hd => (hplain d hd).1) hnew, ih]
      · simp
      · simpa using h
      · rw [List.dropWhile_cons_of_pos (by decide), List.dropWhile_cons_of_neg (by simp [hblank])]

/-! ## 3. Pieces -/

theorem tokens_of_markup? {s rest : List Char} {token : Token} (h : markup? s = some (token, rest)) :
    tokens ('<' :: s) = token :: tokens rest := by
  have hnext : next '<' s = (token, rest) := by simp [next, h]
  rw [tokens, hnext]

/-- **The tag that opens an element is read as it is written.** -/
theorem tokens_renderOpening {tag : String} {attributes : Attributes} (htag : IsTagName tag)
    (hattributes : AreAttributes attributes) (rest : List Char) :
    tokens (renderOpening tag attributes ++ rest) =
      (tagToken tag attributes false rest).1 :: tokens (tagToken tag attributes false rest).2 := by
  obtain ⟨c, s, hcons, halpha⟩ := htag.exists_cons
  have hend : ∃ d more, attributes.flatMap renderAttribute ++ '>' :: rest = d :: more ∧
      isTagChar d = false := by
    cases attributes with
    | nil => exact ⟨'>', rest, rfl, by decide⟩
    | cons entry attributes => exact ⟨' ', _, rfl, by decide⟩
  obtain ⟨d, more, hmore, hd⟩ := hend
  have hchars : ∀ d ∈ tag.toList, isTagChar d = true := fun d hd => (htag.plain d hd).2
  have hrest : tagRest? [] false (attributes.flatMap renderAttribute ++ '>' :: rest) =
      some ((attributes, false), rest) :=
    tagRest?_written (show AreAttributes ([] ++ attributes) from hattributes) rest
  have htag? : tag? (tag.toList ++ (attributes.flatMap renderAttribute ++ '>' :: rest)) =
      some (tagToken tag attributes false rest) := by
    rw [tag?, hmore, takeWhile_append_cons hchars hd, dropWhile_append_cons hchars hd, ← hmore,
      hrest, htag.lower_eq, String.ofList_toList]
    rfl
  have hmarkup : markup? (tag.toList ++ (attributes.flatMap renderAttribute ++ '>' :: rest)) =
      some (tagToken tag attributes false rest) := by
    rw [← htag?, hcons]
    unfold markup?
    split <;> simp_all
  have hwritten : renderOpening tag attributes ++ rest =
      '<' :: (tag.toList ++ (attributes.flatMap renderAttribute ++ '>' :: rest)) := by
    simp [renderOpening]
  rw [hwritten]
  exact tokens_of_markup? hmarkup

/-- What the tag that closes an element is read as. -/
theorem tokens_renderClosing_trim {tag : String} (hgt : '>' ∉ tag.toList) (rest : List Char) :
    tokens (renderClosing tag ++ rest) =
      .closing (String.ofList (lower (trim tag.toList))) :: tokens rest := by
  have hmarkup : markup? ('/' :: (tag.toList ++ '>' :: rest)) =
      some (.closing (String.ofList (lower (trim tag.toList))), rest) := by
    simp [markup?, cutAt?_singleton_append hgt]
  have hwritten : renderClosing tag ++ rest = '<' :: '/' :: (tag.toList ++ '>' :: rest) := by
    simp [renderClosing]
  rw [hwritten]
  exact tokens_of_markup? hmarkup

/-- **The tag that closes an element is read as it is written.** -/
theorem tokens_renderClosing {tag : String} (htag : IsTagName tag)
    (htrim : trim tag.toList = tag.toList) (rest : List Char) :
    tokens (renderClosing tag ++ rest) = .closing tag :: tokens rest := by
  rw [tokens_renderClosing_trim htag.gt_not_mem, htrim, htag.lower_eq, String.ofList_toList]

theorem not_isVoid_of_isRaw {tag : String} (h : isRaw tag = true) : isVoid tag = false := by
  simp only [isRaw, Bool.or_eq_true, beq_iff_eq] at h
  rcases h with rfl | rfl <;> decide

theorem unbordered_of_isRaw {tag : String} (h : isRaw tag = true) :
    Unbordered ('<' :: '/' :: tag.toList) := by
  simp only [isRaw, Bool.or_eq_true, beq_iff_eq] at h
  rcases h with rfl | rfl <;> decide

/-- **A raw element is read as it is written**, if what it holds does not close it. -/
theorem tokens_raw {tag : String} {attributes : Attributes} (htag : IsTag tag)
    (hattributes : AreAttributes attributes) (hraw : isRaw tag = true) {content : List Char}
    (hcontent : ¬ '<' :: '/' :: tag.toList <:+: lower content) (rest : List Char) :
    tokens (renderOpening tag attributes ++ (content ++ (renderClosing tag ++ rest))) =
      .raw tag attributes (String.ofList content) :: .closing tag :: tokens rest := by
  have hlower : lower ('<' :: '/' :: tag.toList) = '<' :: '/' :: tag.toList := by
    have := htag.isTagName.lower_eq
    simp_all [lower]
  have hclosing : renderClosing tag ++ rest = '<' :: '/' :: tag.toList ++ '>' :: rest := by
    simp [renderClosing]
  have htoken : tagToken tag attributes false (content ++ (renderClosing tag ++ rest)) =
      (.raw tag attributes (String.ofList content), renderClosing tag ++ rest) := by
    rw [hclosing]
    simp only [tagToken, not_isVoid_of_isRaw hraw, hraw, Bool.or_self, Bool.false_eq_true, if_false,
      if_true]
    rw [cutBefore_append (unbordered_of_isRaw hraw) hlower (List.cons_ne_nil _ _) hcontent]
  rw [tokens_renderOpening htag.isTagName hattributes, htoken]
  exact congrArg _ (tokens_renderClosing htag.isTagName htag.trim_eq rest)

/-- **A comment is read as it is written**, if its end does not stand in it. -/
theorem tokens_renderComment {body : String} (h : ¬ ['-', '-', '>'] <:+: body.toList)
    (rest : List Char) :
    tokens (renderComment body ++ rest) = .comment body :: tokens rest := by
  have hmarkup : markup? ('!' :: '-' :: '-' :: (body.toList ++ (['-', '-', '>'] ++ rest))) =
      some (.comment body, rest) := by
    simp only [markup?]
    rw [cutAt_append (by decide) (by decide) h, String.ofList_toList]
  have hwritten : renderComment body ++ rest =
      '<' :: '!' :: '-' :: '-' :: (body.toList ++ (['-', '-', '>'] ++ rest)) := by
    simp [renderComment]
  rw [hwritten]
  exact tokens_of_markup? hmarkup

/-- The word that is written for a declaration. It is read in small letters. -/
def writtenWord : List Char := ['D', 'O', 'C', 'T', 'Y', 'P', 'E']

/-- What is written after the word. -/
def writtenDeclaration (declaration : String) : List Char :=
  if declaration.isEmpty then [] else ' ' :: declaration.toList

theorem trim_writtenDeclaration {declaration : String}
    (htrim : trim declaration.toList = declaration.toList) :
    trim (writtenDeclaration declaration) = declaration.toList ∧
      trim (writtenWord ++ writtenDeclaration declaration) =
        writtenWord ++ writtenDeclaration declaration := by
  unfold writtenDeclaration
  split
  · rename_i hempty
    obtain rfl : declaration = "" := by simpa using hempty
    exact ⟨rfl, rfl⟩
  · rename_i hempty
    have hne : declaration.toList ≠ [] := by simpa using hempty
    constructor
    · rw [trim, List.dropWhile_cons_of_pos (by decide)]
      exact htrim
    · have hend := trimEnd_append (trimEnd_of_trim htrim) hne (writtenWord ++ [' '])
      rw [List.append_assoc, List.singleton_append] at hend
      exact hend

/-- **A declaration is read as it is written**, if it is trimmed and the end of a tag does not stand in
    it. -/
theorem tokens_renderDoctype {declaration : String}
    (htrim : trim declaration.toList = declaration.toList) (hgt : '>' ∉ declaration.toList)
    (rest : List Char) :
    tokens (renderDoctype declaration ++ rest) = .doctype declaration :: tokens rest := by
  obtain ⟨hafter, hwhole⟩ := trim_writtenDeclaration htrim
  have hdeclaration : Markup.declaration (writtenWord ++ writtenDeclaration declaration) =
      .doctype declaration := by
    have hlength : doctypeWord.length = writtenWord.length := rfl
    simp only [Markup.declaration, hwhole, hlength, List.take_left, List.drop_left, hafter,
      String.ofList_toList]
    exact if_pos (by decide)
  have hout : '>' ∉ writtenWord ++ writtenDeclaration declaration := by
    unfold writtenDeclaration
    split <;> simp [writtenWord, hgt]
  have hmarkup : markup? ('!' :: (writtenWord ++ writtenDeclaration declaration ++ '>' :: rest)) =
      some (.doctype declaration, rest) := by
    obtain ⟨s, hs⟩ : ∃ s, writtenWord ++ writtenDeclaration declaration = 'D' :: s := ⟨_, rfl⟩
    have hcut : cutAt ['>'] ('D' :: (s ++ '>' :: rest)) = ('D' :: s, rest) := by
      rw [cutAt, ← List.cons_append, ← hs, cutAt?_singleton_append hout]
      rfl
    rw [← hdeclaration, hs, List.cons_append]
    change some (Markup.declaration (cutAt ['>'] ('D' :: (s ++ '>' :: rest))).1,
      (cutAt ['>'] ('D' :: (s ++ '>' :: rest))).2) = _
    rw [hcut]
  have hwritten : renderDoctype declaration ++ rest =
      '<' :: '!' :: (writtenWord ++ writtenDeclaration declaration ++ '>' :: rest) := by
    simp [renderDoctype, writtenWord, writtenDeclaration]
  rw [hwritten]
  exact tokens_of_markup? hmarkup

/-- What can follow a text: nothing, or what begins with a `<`. -/
def EndsText (rest : List Char) : Prop := rest = [] ∨ ∃ s, rest = '<' :: s

/-- What is read of a text ends where something else begins. -/
theorem textToken_append (c : Char) {s : List Char} (hs : '<' ∉ s) {rest : List Char}
    (hrest : EndsText rest) :
    textToken c (s ++ rest) = (.text (String.ofList (decode (c :: s))), rest) := by
  have hinside : ∀ d ∈ s, (d != '<') = true := by
    intro d hd
    rw [bne_iff_ne]
    rintro rfl
    exact hs hd
  unfold textToken
  rw [List.takeWhile_append_of_pos hinside, List.dropWhile_append_of_pos hinside]
  rcases hrest with rfl | ⟨more, rfl⟩ <;> simp

theorem tokens_append_of_endsText {s : List Char} (hne : s ≠ []) (hs : '<' ∉ s) {rest : List Char}
    (hrest : EndsText rest) :
    tokens (s ++ rest) = .text (String.ofList (decode s)) :: tokens rest := by
  obtain ⟨c, s, rfl⟩ := List.exists_cons_of_ne_nil hne
  obtain ⟨hc, hs⟩ := not_or.mp (List.mem_cons.not.mp hs)
  have hnext : next c (s ++ rest) = textToken c (s ++ rest) :=
    if_neg fun heq => hc (beq_iff_eq.mp heq).symm
  rw [List.cons_append, tokens, hnext, textToken_append c hs hrest]

/-- **A text is read as it is written**, if it is followed by something else. -/
theorem tokens_escapeText {content : String} (hne : content ≠ "") {rest : List Char}
    (hrest : EndsText rest) :
    tokens (escapeText content.toList ++ rest) = .text content :: tokens rest := by
  have hwritten : escapeText content.toList ≠ [] :=
    escapeText_ne_nil fun hnil => hne (String.toList_eq_nil_iff.mp hnil)
  rw [tokens_append_of_endsText hwritten (lt_not_mem_escapeText _) hrest, decode_escapeText,
    String.ofList_toList]

end Placeholders.Markup
