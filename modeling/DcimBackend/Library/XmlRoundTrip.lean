import DcimBackend.Library.Xml
import Mathlib.Data.List.TakeWhile

/-!
# Reading what has been written

A document that the writer has written is read back as the element it was written from, as long as
its texts have no characters that XML has not, and no carriage return: `read_document`.  A carriage
return is written as it is, and read as the end of a line.

The proof follows the writer: the escape of one character first, then a text, a name, an attribute
and the declarations in front of a tag, and last a content, by the recursion of the writer over
elements and what they hold.  `Reads` is what all these parts have in common: from the text that
has been written the reader goes on to a text, with one thing built in place of another.  So the
parts compose, and no lemma looks at a document as a whole.

Of the writer little has to be known: that it never writes a character that would end a name or a
value (`InName`, `InValue`), and that the prefixes under which it writes a tag are in scope where
the tag stands (`Resolves`).
-/

namespace DcimBackend.Library.Xml

/-! ### Contents -/

namespace Content

variable (a b c : Content)

@[simp] theorem text_append_text (chars more : List Char) :
    (.text chars ++ .text more : Content) = .text (chars ++ more) := rfl

@[simp] theorem text_append_element (chars before : List Char) (tag : QName) :
    (.text chars ++ .element before tag a b : Content) = .element (chars ++ before) tag a b := rfl

@[simp] theorem element_append (before : List Char) (tag : QName) :
    (.element before tag a b ++ c : Content) = .element before tag a (b ++ c) := rfl

@[simp] theorem nil_append : (.text [] ++ a : Content) = a := by
  cases a with
  | text chars => rfl
  | element before tag inner after => rfl

@[simp] theorem append_nil : a ++ .text [] = a := by
  induction a with
  | text chars => rw [text_append_text, List.append_nil]
  | element before tag inner after _ ih => rw [element_append, ih]

theorem append_assoc : a ++ b ++ c = a ++ (b ++ c) := by
  induction a with
  | text chars =>
      cases b with
      | text more =>
          cases c with
          | text last => simp
          | element before tag inner after => simp
      | element before tag inner after => simp
  | element before tag inner after _ ih => rw [element_append, element_append, element_append, ih]

end Content

/-! ### Characters of names -/

section Names

variable {c d : Char} {pre name cs : List Char}

/-- A character that may stand in a written name. -/
def InName (c : Char) : Prop := isNameChar c ∨ c = ':'

instance (c : Char) : Decidable (InName c) := inferInstanceAs (Decidable (_ ∨ _))

theorem inName_of_isNameStart (h : isNameStart c) : InName c := Or.inl (by simp [isNameChar, h])

theorem ne_of_inName (h : InName c) (hd : ¬InName d) : c ≠ d := fun heq => hd (heq ▸ h)

theorem ne_colon_of_isNameChar (h : isNameChar c) : c ≠ ':' := by
  rintro rfl
  exact absurd h (by decide)

theorem isXmlChar_of_inName (h : InName c) : isXmlChar c := by
  have hrange : 0x2D ≤ c.toNat ∧ c.toNat ≠ 0xFFFE ∧ c.toNat ≠ 0xFFFF := by
    rcases h with h | rfl
    · simp only [isNameChar, isNameStart, inRanges, List.any_cons, List.any_nil, Bool.or_false,
        Bool.or_eq_true, Bool.and_eq_true, decide_eq_true_eq] at h
      omega
    · decide
  simp [isXmlChar, hrange.2, show 0x20 ≤ c.toNat by omega]

/-- A name as it is written: its first character is no colon. -/
def IsWritten : List Char → Prop
  | [] => False
  | c :: rest => isNameStart c ∧ ∀ d ∈ rest, InName d

theorem isNcName_iff : isNcName name ↔
    ∃ c rest, name = c :: rest ∧ isNameStart c ∧ ∀ d ∈ rest, isNameChar d := by
  cases name with
  | nil => simp [isNcName]
  | cons c rest => simp [isNcName]

theorem isNameChar_of_isNcName (h : isNcName name) : ∀ c ∈ name, isNameChar c := by
  obtain ⟨c, rest, rfl, hstart, hrest⟩ := isNcName_iff.mp h
  exact List.forall_mem_cons.mpr ⟨by simp [isNameChar, hstart], hrest⟩

theorem isWritten_joinName (hpre : pre = [] ∨ isNcName pre) (hname : isNcName name) :
    IsWritten (joinName pre name) := by
  unfold joinName
  split
  · obtain ⟨c, rest, rfl, hstart, hrest⟩ := isNcName_iff.mp hname
    exact ⟨hstart, fun d hd => Or.inl (hrest d hd)⟩
  · rename_i hne
    obtain ⟨c, rest, rfl, hstart, hrest⟩ := isNcName_iff.mp (hpre.resolve_left hne)
    refine ⟨hstart, fun d hd => ?_⟩
    rcases List.mem_append.mp hd with hd | hd
    · exact Or.inl (hrest d hd)
    · rcases List.mem_cons.mp hd with rfl | hd
      · exact Or.inr rfl
      · exact Or.inl (isNameChar_of_isNcName hname d hd)

theorem inName_of_isWritten (h : IsWritten name) : ∀ c ∈ name, InName c := by
  cases name with
  | nil => exact h.elim
  | cons c rest => exact List.forall_mem_cons.mpr ⟨inName_of_isNameStart h.1, h.2⟩

/-- A written name falls into the parts that it was made of. -/
theorem splitName_joinName (hpre : pre = [] ∨ isNcName pre) (hname : isNcName name) :
    splitName (joinName pre name) = some (pre, name) := by
  have hplain : ∀ {cs : List Char}, isNcName cs → ∀ c ∈ cs, decide (c ≠ ':') = true :=
    fun hcs c hc => decide_eq_true (ne_colon_of_isNameChar (isNameChar_of_isNcName hcs c hc))
  unfold splitName joinName
  split
  · rename_i hnil
    rw [List.takeWhile_eq_self_iff.mpr (hplain hname), List.dropWhile_eq_nil_iff.mpr (hplain hname)]
    simp [hname, hnil]
  · rename_i hne
    have hnc := hpre.resolve_left hne
    rw [List.takeWhile_append_of_pos (hplain hnc), List.dropWhile_append_of_pos (hplain hnc)]
    simp [hnc, hname]

end Names

/-! ### Feeding a reader -/

namespace Reader

variable {r : Reader} {b : Builder} {c : Char} {text rest : List Char}

@[simp] theorem feed_nil : feed r [] = some r := rfl

@[simp] theorem feed_cons : feed r (c :: text) = (r.step c).bind (feed · text) := rfl

theorem feed_append : feed r (text ++ rest) = (feed r text).bind (feed · rest) :=
  List.foldlM_append

theorem feed_singleton : feed r [c] = r.step c := by
  rw [feed_cons]
  cases r.step c with
  | none => rfl
  | some r => rfl

/-- Characters that a place collects. -/
theorem feed_collect (place : List Char → Place) {P : Char → Prop} {cs more : List Char}
    (hstep : ∀ cs c, P c → step ⟨place cs, b⟩ c = some ⟨place (cs ++ [c]), b⟩)
    (hmore : ∀ c ∈ more, P c) : feed ⟨place cs, b⟩ more = some ⟨place (cs ++ more), b⟩ := by
  induction more generalizing cs with
  | nil => rw [feed_nil, List.append_nil]
  | cons c more ih =>
      rw [List.forall_mem_cons] at hmore
      rw [feed_cons, hstep cs c hmore.1, Option.bind_some, ih hmore.2, List.append_assoc]
      rfl

end Reader

/-- From a text, the reader goes on to a text, and from `b` to `b'`. -/
def Reads (b : Builder) (text : List Char) (b' : Builder) : Prop :=
  ∀ brackets, ∃ brackets', Reader.feed ⟨.content brackets, b⟩ text = some ⟨.content brackets', b'⟩

section Reading

variable {b b₁ b₂ : Builder} {frame : Frame} {frames : List Frame} {root : Option Element}
  {c : Char} {text rest name written : List Char} {inner : Content} {bindings : Scope}

theorem reads_nil : Reads b [] b := fun brackets => ⟨brackets, rfl⟩

theorem Reads.append (h : Reads b text b₁) (hrest : Reads b₁ rest b₂) :
    Reads b (text ++ rest) b₂ := by
  intro brackets
  obtain ⟨brackets', htext⟩ := h brackets
  obtain ⟨last, hrest⟩ := hrest brackets'
  exact ⟨last, by rw [Reader.feed_append, htext, Option.bind_some, hrest]⟩

/-- The element with more behind what it holds. -/
def Frame.hold (frame : Frame) (c : Content) : Frame := { frame with content := frame.content ++ c }

theorem Frame.hold_hold (c d : Content) : (frame.hold c).hold d = frame.hold (c ++ d) := by
  unfold Frame.hold
  rw [Content.append_assoc]

/-- A character is escaped as one of the three references, or not at all. -/
theorem escapeChar_cases {P : Char → List Char → Prop} (hamp : P '&' "&amp;".toList)
    (hlt : P '<' "&lt;".toList) (hgt : P '>' "&gt;".toList)
    (hself : ∀ c, c ≠ '&' → c ≠ '<' → c ≠ '>' → P c [c]) (c : Char) : P c (escapeChar c) := by
  unfold escapeChar
  split
  · rename_i heq
    exact heq ▸ hamp
  split
  · rename_i heq
    exact heq ▸ hlt
  split
  · rename_i heq
    exact heq ▸ hgt
  · rename_i hne hne' hne''
    exact hself c hne hne' hne''

/-- An escaped character is the character itself. -/
theorem reads_escapeChar (c : Char) :
    Reads ⟨frame :: frames, root⟩ (escapeChar c) ⟨frame.hold (.text [c]) :: frames, root⟩ := by
  refine @escapeChar_cases (fun c cs =>
    Reads ⟨frame :: frames, root⟩ cs ⟨frame.hold (.text [c]) :: frames, root⟩) ?_ ?_ ?_ ?_ c
  · exact fun brackets => ⟨0, rfl⟩
  · exact fun brackets => ⟨0, rfl⟩
  · exact fun brackets => ⟨0, rfl⟩
  · intro c hamp hlt hgt brackets
    refine ⟨if c = ']' then brackets + 1 else 0, ?_⟩
    simp [Reader.step, Reader.stepContent, Builder.literal, Builder.data, Frame.hold, hamp, hlt,
      hgt]

/-- An escaped text is the text itself. -/
theorem reads_escape (chars : List Char) :
    Reads ⟨frame :: frames, root⟩ (escape chars) ⟨frame.hold (.text chars) :: frames, root⟩ := by
  unfold escape
  induction chars generalizing frame with
  | nil =>
      have hsame : frame.hold (.text []) = frame := by
        unfold Frame.hold
        rw [Content.append_nil]
      rw [List.flatMap_nil, hsame]
      exact reads_nil
  | cons c chars ih =>
      have htail := @ih (frame.hold (.text [c]))
      rw [Frame.hold_hold] at htail
      rw [List.flatMap_cons]
      exact (reads_escapeChar c).append htail

/-! ### Tags -/

/-- The name of a start tag. -/
theorem feed_startName (hname : IsWritten name) (brackets : ℕ) :
    Reader.feed ⟨.content brackets, b⟩ ('<' :: name) = some ⟨.startName name, b⟩ := by
  cases name with
  | nil => exact hname.elim
  | cons c rest =>
      have hslash : c ≠ '/' := ne_of_inName (inName_of_isNameStart hname.1) (by decide)
      have hbang : c ≠ '!' := ne_of_inName (inName_of_isNameStart hname.1) (by decide)
      have hfirst : Reader.step ⟨.markup, b⟩ c = some ⟨.startName [c], b⟩ := by
        simp [Reader.step, Reader.stepMarkup, Reader.move, hslash, hbang, hname.1]
      rw [Reader.feed_cons, show Reader.step ⟨.content brackets, b⟩ '<' = some ⟨.markup, b⟩ from rfl,
        Option.bind_some, Reader.feed_cons, hfirst, Option.bind_some]
      exact Reader.feed_collect .startName (fun cs d (hd : InName d) => if_pos hd) hname.2

/-- The reader is behind a name or a value of a start tag, where the tag may end. -/
structure AtTagEnd (b : Builder) (tag : Tag) (r : Reader) : Prop where
  builder : r.builder = b
  step : ∀ c, isBlank c ∨ c = '>' → r.step c = Reader.stepTagEnd ⟨.content 0, b⟩ tag c

theorem not_inName_of_tagEnd (hc : isBlank c ∨ c = '>') : ¬InName c := by
  rcases hc with hc | rfl
  · simp only [isBlank, decide_eq_true_eq, List.mem_cons, List.not_mem_nil, or_false] at hc
    rcases hc with rfl | rfl | rfl | rfl <;> decide
  · decide

theorem atTagEnd_startName : AtTagEnd b { name := name } ⟨.startName name, b⟩ where
  builder := rfl
  step _ hc := if_neg (not_inName_of_tagEnd hc)

theorem atTagEnd_inTag (tag : Tag) : AtTagEnd b tag ⟨.inTag tag false, b⟩ where
  builder := rfl
  step c _ := by
    show Reader.stepInTag _ tag false c = _
    rw [Reader.stepInTag, if_neg fun h => Bool.false_ne_true h.1]
    rfl

theorem isWritten_declarationName {pre : List Char} (hpre : pre = [] ∨ isNcName pre) :
    IsWritten (declarationName pre) := by
  unfold declarationName
  split
  · exact isWritten_joinName (Or.inl rfl) (by decide)
  · rename_i hne
    exact isWritten_joinName (Or.inr (by decide)) (hpre.resolve_left hne)

/-- A tag with one more attribute. -/
def Tag.with (tag : Tag) (name value : List Char) : Tag :=
  { tag with attributes := tag.attributes ++ [(name, value)], attrName := name, value := value }

/-- A character that stands for itself in the value of an attribute. -/
def InValue (c : Char) : Prop :=
  isXmlChar c ∧ c ≠ '&' ∧ c ≠ '<' ∧ c ≠ '"' ∧ (isBlank c → c = ' ')

theorem inValue_of_plainSpace {space : List Char} (h : plainSpace space) :
    ∀ c ∈ space, InValue c := by
  intro c hc
  have hplain := List.all_eq_true.mp (Bool.and_eq_true .. ▸ h).2 c hc
  simp only [Bool.and_eq_true, Bool.not_eq_true', decide_eq_false_iff_not, List.mem_cons,
    List.not_mem_nil, or_false, not_or] at hplain
  obtain ⟨hchar, hamp, hlt, -, hquote, htab, hlf, hcr⟩ := hplain
  refine ⟨hchar, hamp, hlt, hquote, fun hblank => ?_⟩
  simp only [isBlank, decide_eq_true_eq, List.mem_cons, List.not_mem_nil, or_false, htab, hlf,
    hcr] at hblank
  exact hblank

theorem step_value {tag : Tag} (h : InValue c) :
    Reader.step ⟨.value tag '"', b⟩ c =
      some ⟨.value { tag with value := tag.value ++ [c] } '"', b⟩ := by
  obtain ⟨-, hamp, hlt, hquote, hblank⟩ := h
  have hsame : (if isBlank c then ' ' else c) = c := by
    split
    · rename_i hspace
      exact (hblank hspace).symm
    · rfl
  simp [Reader.step, Reader.stepValue, Reader.move, hamp, hlt, hquote, hsame]

/-- A declaration is an attribute. -/
theorem feed_declaration {tag : Tag} {r : Reader} (hr : AtTagEnd b tag r)
    {binding : List Char × List Char} (hpre : binding.1 = [] ∨ isNcName binding.1)
    (hspace : plainSpace binding.2) :
    Reader.feed r (Prefixes.declaration binding) =
      some ⟨.inTag (tag.with (declarationName binding.1) binding.2) false, b⟩ := by
  have hwritten := isWritten_declarationName hpre
  unfold Prefixes.declaration
  generalize declarationName binding.1 = name at hwritten ⊢
  cases name with
  | nil => exact hwritten.elim
  | cons c rest =>
      have hblank : r.step ' ' = some ⟨.inTag tag true, b⟩ := hr.step ' ' (Or.inl rfl)
      have hfirst : Reader.step ⟨.inTag tag true, b⟩ c =
          some ⟨.attrName { tag with attrName := [c] }, b⟩ := if_pos ⟨rfl, hwritten.1⟩
      have hname : Reader.feed ⟨.attrName { tag with attrName := [c] }, b⟩ rest =
          some ⟨.attrName { tag with attrName := c :: rest }, b⟩ :=
        Reader.feed_collect (fun cs => .attrName { tag with attrName := cs })
          (fun cs d (hd : InName d) => if_pos hd) hwritten.2
      have hvalue : Reader.feed ⟨.value { tag with attrName := c :: rest, value := [] } '"', b⟩
          binding.2 = some ⟨.value { tag with attrName := c :: rest, value := binding.2 } '"', b⟩ :=
        Reader.feed_collect (fun cs => .value { tag with attrName := c :: rest, value := cs } '"')
          (fun cs d hd => step_value hd) (inValue_of_plainSpace hspace)
      rw [Reader.feed_cons, hblank, Option.bind_some, List.cons_append, Reader.feed_cons, hfirst,
        Option.bind_some, Reader.feed_append, hname, Option.bind_some, Reader.feed_cons,
        show Reader.step ⟨.attrName { tag with attrName := c :: rest }, b⟩ '=' =
          some ⟨.quote { tag with attrName := c :: rest }, b⟩ from rfl,
        Option.bind_some, Reader.feed_cons,
        show Reader.step ⟨.quote { tag with attrName := c :: rest }, b⟩ '"' =
          some ⟨.value { tag with attrName := c :: rest, value := [] } '"', b⟩ from rfl,
        Option.bind_some, Reader.feed_append, hvalue, Option.bind_some]
      rfl

/-- The attributes of some declarations. -/
def attributesOf (bindings : Scope) : List (List Char × List Char) :=
  bindings.map fun binding => (declarationName binding.1, binding.2)

/-- The declarations of a tag are its attributes. -/
theorem feed_declarations {tag : Tag} {r : Reader} (hr : AtTagEnd b tag r)
    (hbindings : ∀ binding ∈ bindings,
      (binding.1 = [] ∨ isNcName binding.1) ∧ plainSpace binding.2) :
    ∃ tag' r', Reader.feed r (bindings.flatMap Prefixes.declaration) = some r' ∧
      AtTagEnd b tag' r' ∧ tag'.name = tag.name ∧
      tag'.attributes = tag.attributes ++ attributesOf bindings := by
  induction bindings generalizing tag r with
  | nil => exact ⟨tag, r, rfl, hr, rfl, (List.append_nil _).symm⟩
  | cons binding bindings ih =>
      rw [List.forall_mem_cons] at hbindings
      obtain ⟨⟨hpre, hspace⟩, hbindings⟩ := hbindings
      obtain ⟨tag', r', hfeed, hr', hname, hattributes⟩ :=
        ih (atTagEnd_inTag (tag.with (declarationName binding.1) binding.2)) hbindings
      refine ⟨tag', r', ?_, hr', hname, ?_⟩
      · rw [List.flatMap_cons, Reader.feed_append, feed_declaration hr hpre hspace,
          Option.bind_some, hfeed]
      · rw [hattributes, Tag.with, List.append_assoc]
        rfl

/-- The name of an end tag. -/
theorem feed_stopTag (hname : IsWritten name) (brackets : ℕ) :
    Reader.feed ⟨.content brackets, b⟩ ("</".toList ++ (name ++ ['>'])) =
      Reader.built (b.stop name) := by
  have hstart : Reader.feed ⟨.content brackets, b⟩ "</".toList = some ⟨.stopName [], b⟩ := rfl
  have hcollect : Reader.feed ⟨.stopName [], b⟩ name = some ⟨.stopName name, b⟩ :=
    Reader.feed_collect .stopName (fun cs c (hc : InName c) => if_pos hc)
      (inName_of_isWritten hname)
  rw [Reader.feed_append, hstart, Option.bind_some, Reader.feed_append, hcollect,
    Option.bind_some]
  exact Reader.feed_singleton

/-- **An element**, if its start tag can be read, and what it holds. -/
theorem feed_writeElement {tag : QName} {scope : Scope} (hname : IsWritten name)
    (hbindings : ∀ binding ∈ bindings,
      (binding.1 = [] ∨ isNcName binding.1) ∧ plainSpace binding.2)
    (hstart : b.start name (attributesOf bindings) =
      some { b with frames := ⟨name, tag, scope, .text []⟩ :: b.frames })
    (hinner : Reads ⟨⟨name, tag, scope, .text []⟩ :: b.frames, b.root⟩ written
      ⟨⟨name, tag, scope, inner⟩ :: b.frames, b.root⟩) (brackets : ℕ) :
    Reader.feed ⟨.content brackets, b⟩
        (writeElement name (bindings.flatMap Prefixes.declaration) inner written) =
      Reader.built (Builder.stop ⟨⟨name, tag, scope, inner⟩ :: b.frames, b.root⟩ name) := by
  obtain ⟨tag', r, hfeed, hr, hname', hattributes⟩ :=
    feed_declarations (@atTagEnd_startName b name) hbindings
  have hopen : b.start tag'.name tag'.attributes =
      some { b with frames := ⟨name, tag, scope, .text []⟩ :: b.frames } := by
    rw [hname', hattributes]
    exact hstart
  unfold writeElement
  rw [← List.cons_append, Reader.feed_append, feed_startName hname, Option.bind_some,
    Reader.feed_append, hfeed, Option.bind_some]
  split
  · rename_i hempty
    subst hempty
    have hblank : r.step ' ' = some ⟨.inTag tag' true, b⟩ := hr.step ' ' (Or.inl rfl)
    have hslash : Reader.step ⟨.inTag tag' true, b⟩ '/' = some ⟨.slash tag', b⟩ := rfl
    have hstop : Reader.step ⟨.slash tag', b⟩ '>' =
        Reader.built (Builder.stop ⟨⟨name, tag, scope, .text []⟩ :: b.frames, b.root⟩ name) := by
      show (b.start tag'.name tag'.attributes).bind _ = _
      rw [hopen, Option.bind_some, hname']
    show Reader.feed r [' ', '/', '>'] = _
    rw [Reader.feed_cons, hblank, Option.bind_some, Reader.feed_cons, hslash, Option.bind_some,
      Reader.feed_singleton, hstop]
  · have hend : r.step '>' =
        some ⟨.content 0, ⟨⟨name, tag, scope, .text []⟩ :: b.frames, b.root⟩⟩ := by
      rw [hr.step '>' (Or.inr rfl)]
      show Reader.built (b.start tag'.name tag'.attributes) = _
      rw [hopen]
      rfl
    obtain ⟨brackets', hread⟩ := hinner 0
    rw [Reader.feed_cons, hend, Option.bind_some, Reader.feed_append, hread, Option.bind_some,
      feed_stopTag hname]

/-! ### Scopes -/

/-- The scope has the prefixes under which a tag is written. -/
def Resolves (p : Prefixes) (scope : Scope) (tag : QName) : Prop :=
  IsWritten (p.name tag) ∧ scope.tag (p.name tag) = some tag

/-- An element without declarations opens in the scope that it stands in. -/
theorem start_inner {p : Prefixes} {tag : QName} (h : Resolves p frame.scope tag) :
    Builder.start ⟨frame :: frames, root⟩ (p.name tag) (attributesOf []) =
      some ⟨⟨p.name tag, tag, frame.scope, .text []⟩ :: frame :: frames, root⟩ := by
  have hscope : Builder.scope ⟨frame :: frames, root⟩ = frame.scope := rfl
  unfold Builder.start
  rw [if_neg (by simp)]
  simp [attributesOf, hscope, Scope.allows, h.2]

/-- **What has been written of a content is read** into the innermost open element. -/
theorem reads_write {p : Prefixes} {c : Content} (hc : ∀ tag ∈ c.tags, Resolves p frame.scope tag) :
    Reads ⟨frame :: frames, root⟩ (c.write p) ⟨frame.hold c :: frames, root⟩ := by
  induction c generalizing frame frames with
  | text chars => exact reads_escape chars
  | element before tag inner after ihinner ihafter =>
      simp only [Content.tags, List.forall_mem_cons, List.forall_mem_append] at hc
      obtain ⟨htag, hinner, hafter⟩ := hc
      have hheld : (((frame.hold (.text before)).hold (.element [] tag inner (.text []))).hold
          after) = frame.hold (.element before tag inner after) := by
        rw [Frame.hold_hold, Frame.hold_hold, Content.element_append, Content.nil_append,
          Content.text_append_element, List.append_nil]
      have helement : Reads ⟨frame.hold (.text before) :: frames, root⟩
          (writeElement (p.name tag) [] inner (inner.write p))
          ⟨(frame.hold (.text before)).hold (.element [] tag inner (.text [])) :: frames, root⟩ := by
        intro brackets
        have hin := @ihinner ⟨p.name tag, tag, frame.scope, .text []⟩
          (frame.hold (.text before) :: frames) hinner
        have hhold : Frame.hold ⟨p.name tag, tag, frame.scope, .text []⟩ inner =
            ⟨p.name tag, tag, frame.scope, inner⟩ := by
          unfold Frame.hold
          rw [Content.nil_append]
        rw [hhold] at hin
        have hopen : Builder.start ⟨frame.hold (.text before) :: frames, root⟩ (p.name tag)
            (attributesOf []) = _ := start_inner htag
        have hread := feed_writeElement htag.1 (by simp) hopen hin brackets
        refine ⟨0, hread.trans ?_⟩
        show Reader.built (if _ then _ else none) = _
        rw [if_pos rfl]
        rfl
      have hall := (reads_escape before).append (helement.append (ihafter hafter))
      rw [hheld] at hall
      exact hall

end Reading

/-! ### The root -/

section Root

variable {p : Prefixes} {e : Element} {tag : QName} {bindings : Scope}
  {binding : List Char × List Char}

theorem ne_of_precedes {a b : List Char} (h : precedes a b) : a ≠ b := by
  rintro rfl
  have hlex := (List.lex_eq_true_iff_lex _).mp h
  exact List.lex_irrefl (fun c hc => lt_irrefl c.toNat (of_decide_eq_true hc)) a hlex

/-- A prefix that is declared once has its namespace. -/
theorem find_append_of_mem {outer : Scope} (hsorted : bindings.Pairwise fun a b => precedes a.1 b.1)
    (hmem : binding ∈ bindings) : Scope.find (bindings ++ outer) binding.1 = some binding.2 := by
  induction bindings with
  | nil => cases hmem
  | cons first bindings ih =>
      obtain ⟨hfirst, hsorted⟩ := List.pairwise_cons.mp hsorted
      unfold Scope.find at ih ⊢
      rw [List.cons_append]
      rcases List.mem_cons.mp hmem with rfl | hmem
      · rw [List.find?_cons_of_pos (by simp), Option.map_some]
      · have hne : first.1 ≠ binding.1 := ne_of_precedes (hfirst binding hmem)
        rw [List.find?_cons_of_neg (by simpa using hne)]
        exact ih hsorted hmem

/-- A tag that is covered is written under a prefix of its namespace. -/
theorem Prefixes.Covers.exists_binding (h : p.Covers tag) :
    ∃ binding ∈ p.bindings, binding.2 = tag.space ∧
      p.name tag = joinName binding.1 tag.localName := by
  obtain ⟨binding, hmem, hspace⟩ := h.2
  cases hfound : p.bindings.find? fun binding => binding.2 = tag.space with
  | none =>
      have hnone := List.find?_eq_none.mp hfound binding hmem
      simp [hspace] at hnone
  | some found =>
      have hfspace := List.find?_some hfound
      refine ⟨found, List.mem_of_find?_eq_some hfound, by simpa using hfspace, ?_⟩
      unfold Prefixes.name
      rw [hfound, Option.elim_some]

/-- The declarations of some tags resolve each of them. -/
theorem resolves_used {tags : List QName} {outer : Scope} (hcovers : p.Covers tag)
    (htag : tag ∈ tags) : Resolves p (p.used tags ++ outer) tag := by
  obtain ⟨binding, hmem, hspace, hname⟩ := hcovers.exists_binding
  have hpre := (p.allowed binding hmem).1
  have hused : binding ∈ p.used tags := by
    unfold Prefixes.used
    rw [List.mem_filter]
    exact ⟨hmem, List.any_eq_true.mpr ⟨tag, htag, decide_eq_true hspace.symm⟩⟩
  have hfind : Scope.find (p.used tags ++ outer) binding.1 = some binding.2 :=
    find_append_of_mem (p.sorted.filter _) hused
  constructor
  · rw [hname]
    exact isWritten_joinName hpre hcovers.1
  · unfold Scope.tag
    rw [hname, splitName_joinName hpre hcovers.1, Option.bind_some]
    split
    · rename_i hnil
      rw [show binding.1 = [] from hnil] at hfind
      rw [hfind, Option.getD_some, hspace]
    · rw [hfind, Option.map_some, hspace]

theorem declaredPrefix_declarationName {pre : List Char} (hpre : pre = [] ∨ isNcName pre) :
    declaredPrefix (declarationName pre) = some pre := by
  unfold declarationName
  split
  · rename_i hnil
    rw [hnil]
    rfl
  · rename_i hne
    have hsplit : splitName (joinName xmlns pre) = some (xmlns, pre) :=
      splitName_joinName (Or.inr (by decide)) (hpre.resolve_left hne)
    have hcolon : joinName xmlns pre ≠ xmlns := by
      unfold joinName
      rw [if_neg (by decide)]
      intro heq
      have hlength := congrArg List.length heq
      simp at hlength
    unfold declaredPrefix
    rw [if_neg hcolon, hsplit, Option.bind_some, if_pos rfl]

/-- What the attributes of declarations declare. -/
theorem filterMap_attributesOf (hpre : ∀ binding ∈ bindings, binding.1 = [] ∨ isNcName binding.1) :
    (attributesOf bindings).filterMap (fun entry =>
      (declaredPrefix entry.1).map fun pre => (pre, entry.2)) = bindings := by
  unfold attributesOf
  rw [List.filterMap_map]
  induction bindings with
  | nil => rfl
  | cons binding bindings ih =>
      rw [List.forall_mem_cons] at hpre
      rw [List.filterMap_cons_some, ih hpre.2]
      show (declaredPrefix (declarationName binding.1)).map _ = _
      rw [declaredPrefix_declarationName hpre.1, Option.map_some]

/-- Declarations of different prefixes are all that a tag's attributes are. -/
theorem allows_attributesOf {scope : Scope} (hsorted : bindings.Pairwise fun a b => precedes a.1 b.1)
    (hpre : ∀ binding ∈ bindings, binding.1 = [] ∨ isNcName binding.1) :
    scope.allows (attributesOf bindings) = true := by
  have hnames : (attributesOf bindings).map (·.1) =
      bindings.map fun binding => declarationName binding.1 := List.map_map
  have hothers : ((attributesOf bindings).map (·.1)).filter
      (fun name => declaredPrefix name = none) = [] := by
    rw [hnames, List.filter_eq_nil_iff]
    intro name hname
    obtain ⟨binding, hbinding, rfl⟩ := List.mem_map.mp hname
    rw [declaredPrefix_declarationName (hpre binding hbinding)]
    simp
  have hnodup : ((attributesOf bindings).map (·.1)).Nodup := by
    rw [hnames]
    refine List.pairwise_map.mpr (hsorted.imp_of_mem fun {a b} ha hb hlt heq => ?_)
    have hdeclared := congrArg declaredPrefix heq
    rw [declaredPrefix_declarationName (hpre a ha),
      declaredPrefix_declarationName (hpre b hb)] at hdeclared
    exact absurd (Option.some.inj hdeclared) (ne_of_precedes hlt)
  simp only [Scope.allows, hothers, hnodup, decide_true, List.all_nil, List.map_nil,
    List.nodup_nil, Bool.and_self]

/-- The start tag of a root. -/
theorem start_root (he : ∀ tag ∈ e.tags, p.Covers tag) :
    Builder.start {} (p.name e.tag) (attributesOf (p.used e.tags)) =
      some ⟨[⟨p.name e.tag, e.tag, p.used e.tags ++ [(xmlPrefix, xmlSpace)], .text []⟩], none⟩ := by
  have hused : ∀ binding ∈ p.used e.tags, binding ∈ p.bindings :=
    fun binding hbinding => (List.mem_filter.mp hbinding).1
  have hpre := fun binding hbinding => (p.allowed binding (hused binding hbinding)).1
  have hbindable : (p.used e.tags).all bindable = true :=
    List.all_eq_true.mpr fun binding hbinding => (p.allowed binding (hused binding hbinding)).2.2
  have hsorted : (p.used e.tags).Pairwise fun a b => precedes a.1 b.1 := p.sorted.filter _
  have hscope : Builder.scope {} = [(xmlPrefix, xmlSpace)] := rfl
  have htag := @resolves_used p e.tag e.tags [(xmlPrefix, xmlSpace)]
    (he e.tag List.mem_cons_self) List.mem_cons_self
  unfold Builder.start
  rw [if_neg (by simp)]
  dsimp only
  rw [filterMap_attributesOf hpre, hscope, if_pos ⟨hbindable, allows_attributesOf hsorted hpre⟩,
    htag.2, Option.map_some]

/-- **The root is read** from what has been written of it. -/
theorem feed_write (he : ∀ tag ∈ e.tags, p.Covers tag) (brackets : ℕ) :
    Reader.feed ⟨.content brackets, {}⟩ (e.write p) =
      some ⟨.content 0, { frames := [], root := some e }⟩ := by
  have hbindings : ∀ binding ∈ p.used e.tags,
      (binding.1 = [] ∨ isNcName binding.1) ∧ plainSpace binding.2 := by
    intro binding hbinding
    obtain ⟨hpre, hspace, -⟩ := p.allowed binding (List.mem_filter.mp hbinding).1
    exact ⟨hpre, hspace⟩
  have htag := @resolves_used p e.tag e.tags [(xmlPrefix, xmlSpace)]
    (he e.tag List.mem_cons_self) List.mem_cons_self
  have hinner := @reads_write
    ⟨p.name e.tag, e.tag, p.used e.tags ++ [(xmlPrefix, xmlSpace)], .text []⟩ [] none p e.content
    fun tag htag => resolves_used (he tag (List.mem_cons_of_mem _ htag)) (List.mem_cons_of_mem _ htag)
  rw [Frame.hold, Content.nil_append] at hinner
  unfold Element.write
  rw [feed_writeElement htag.1 hbindings (start_root he) hinner brackets]
  show Reader.built (if _ then _ else none) = _
  rw [if_pos rfl]
  rfl

end Root

/-! ### Ends of lines -/

section Newlines

variable {text rest : List Char} {c : Char}

theorem newlines_append_of_not_mem (h : '\r' ∉ text) :
    newlines (text ++ rest) = text ++ newlines rest := by
  induction text with
  | nil => rfl
  | cons c text ih =>
      rw [List.mem_cons, not_or] at h
      rw [List.cons_append, newlines, if_neg fun heq => h.1 heq.symm, ih h.2]
      rfl

/-- Two texts that no end of a line connects. -/
theorem newlines_append (h : rest.head? ≠ some '\n') :
    newlines (text ++ rest) = newlines text ++ newlines rest := by
  induction text with
  | nil => rfl
  | cons c text ih =>
      have hhead : (text ++ rest).head? = some '\n' ↔ text.head? = some '\n' := by
        cases text with
        | nil => simpa using h
        | cons d text => simp
      rw [List.cons_append, newlines, newlines, ih]
      simp only [hhead]
      split
      · split
        · rfl
        · rfl
      · rfl

theorem newlines_eq_nil_iff : newlines text = [] ↔ text = [] := by
  induction text with
  | nil => simp [newlines]
  | cons c text ih =>
      rw [newlines]
      split
      · split
        · rename_i hhead
          rw [ih]
          constructor
          · rintro rfl
            cases hhead
          · intro h
            cases h
        · simp
      · simp

theorem not_mem_newlines : '\r' ∉ newlines text := by
  induction text with
  | nil => simp [newlines]
  | cons c text ih =>
      rw [newlines]
      split
      · split
        · exact ih
        · simp [ih]
      · rename_i hne
        simp [ih, Ne.symm hne]

theorem newlines_eq_self_iff : newlines text = text ↔ '\r' ∉ text := by
  constructor
  · intro h
    rw [← h]
    exact not_mem_newlines
  · intro h
    have happend := @newlines_append_of_not_mem text [] h
    rwa [List.append_nil, newlines, List.append_nil] at happend

theorem not_mem_escapeChar (h : c ≠ '\r') : '\r' ∉ escapeChar c := by
  refine @escapeChar_cases (fun c cs => c ≠ '\r' → '\r' ∉ cs) ?_ ?_ ?_ ?_ c h
  · decide
  · decide
  · decide
  · exact fun c _ _ _ hne => by simpa using hne.symm

theorem head?_escape : (escape text).head? = some '\n' ↔ text.head? = some '\n' := by
  cases text with
  | nil => rfl
  | cons c text =>
      show (escapeChar c ++ escape text).head? = some '\n' ↔ some c = some '\n'
      refine @escapeChar_cases (fun c cs => (cs ++ escape text).head? = some '\n' ↔
        some c = some '\n') ?_ ?_ ?_ ?_ c
      · simp
      · simp
      · simp
      · exact fun c _ _ _ => Iff.rfl

/-- The references of an escaped text hold no ends of lines. -/
theorem newlines_escape : newlines (escape text) = escape (newlines text) := by
  induction text with
  | nil => rfl
  | cons c text ih =>
      have hcons : ∀ d rest, escape (d :: rest) = escapeChar d ++ escape rest := fun d rest => rfl
      rw [hcons, newlines]
      split
      · rename_i hcr
        subst hcr
        show newlines ('\r' :: escape text) = _
        rw [newlines, if_pos rfl, ih]
        simp only [head?_escape]
        split
        · rfl
        · rfl
      · rename_i hne
        rw [newlines_append_of_not_mem (not_mem_escapeChar hne), ih, hcons]

end Newlines

section Lines

variable {p : Prefixes} {c : Content} {e : Element} {tag : QName}
  {name declarations written written' rest : List Char} {inner inner' : Content}

theorem Content.map_newlines_eq_nil_iff : c.map newlines = .text [] ↔ c = .text [] := by
  cases c with
  | text chars => simp [Content.map, newlines_eq_nil_iff]
  | element before tag inner after => simp [Content.map]

@[simp] theorem Content.tags_map (f : List Char → List Char) : (c.map f).tags = c.tags := by
  induction c with
  | text chars => rfl
  | element before tag inner after ihinner ihafter =>
      rw [Content.map, Content.tags, Content.tags, ihinner, ihafter]

@[simp] theorem Element.tags_map (f : List Char → List Char) : (e.map f).tags = e.tags :=
  congrArg (e.tag :: ·) (Content.tags_map f)

theorem Content.map_eq_self_iff {f : List Char → List Char} :
    c.map f = c ↔ ∀ text ∈ c.texts, f text = text := by
  induction c with
  | text chars => simp [Content.map, Content.texts]
  | element before tag inner after ihinner ihafter =>
      simp only [Content.map, Content.texts, Content.element.injEq, List.forall_mem_cons,
        List.forall_mem_append, ihinner, ihafter, true_and]

/-- A name with a text around it has no end of a line. -/
theorem newlines_writeElement (hname : '\r' ∉ name) (hdeclarations : '\r' ∉ declarations)
    (hempty : inner' = .text [] ↔ inner = .text [])
    (hinner : ∀ rest : List Char, rest.head? ≠ some '\n' →
      newlines (written ++ rest) = written' ++ newlines rest) :
    newlines (writeElement name declarations inner written ++ rest) =
      writeElement name declarations inner' written' ++ newlines rest := by
  have hplain : ∀ behind : List Char, '\r' ∉ behind →
      '\r' ∉ '<' :: (name ++ (declarations ++ behind)) := by
    intro behind hbehind
    simp [hname, hdeclarations, hbehind]
  unfold writeElement
  simp only [hempty]
  split
  · exact newlines_append_of_not_mem (hplain _ (by decide))
  · have hend : '\r' ∉ "</".toList ++ (name ++ ['>']) := by simp [hname]
    have hsplit : ∀ w : List Char,
        '<' :: (name ++ (declarations ++ '>' :: (w ++ ("</".toList ++ (name ++ ['>']))))) ++ rest =
          '<' :: (name ++ (declarations ++ ['>'])) ++
            (w ++ (("</".toList ++ (name ++ ['>'])) ++ rest)) := by
      intro w
      simp
    rw [hsplit, newlines_append_of_not_mem (hplain _ (by decide)), hinner _ (by simp),
      newlines_append_of_not_mem hend]
    simp

theorem inName_name (hcovers : p.Covers tag) : ∀ c ∈ p.name tag, InName c := by
  obtain ⟨binding, hmem, -, hname⟩ := hcovers.exists_binding
  rw [hname]
  exact inName_of_isWritten (isWritten_joinName (p.allowed binding hmem).1 hcovers.1)

/-- The ends of lines of a content are those of its texts. -/
theorem newlines_write (hc : ∀ tag ∈ c.tags, p.Covers tag) (hrest : rest.head? ≠ some '\n') :
    newlines (c.write p ++ rest) = (c.map newlines).write p ++ newlines rest := by
  induction c generalizing rest with
  | text chars =>
      rw [Content.write, newlines_append hrest, newlines_escape]
      rfl
  | element before tag inner after ihinner ihafter =>
      simp only [Content.tags, List.forall_mem_cons, List.forall_mem_append] at hc
      obtain ⟨htag, hinner, hafter⟩ := hc
      have hname : '\r' ∉ p.name tag := fun hmem => absurd (inName_name htag _ hmem) (by decide)
      have helement := @newlines_writeElement (p.name tag) [] (inner.write p)
        ((inner.map newlines).write p) (after.write p ++ rest) inner (inner.map newlines) hname
        (by simp) Content.map_newlines_eq_nil_iff fun rest hrest => ihinner hinner hrest
      rw [Content.write, List.append_assoc, List.append_assoc, newlines_append (by simp [writeElement]),
        newlines_escape, helement, ihafter hafter hrest, Content.map, Content.write,
        List.append_assoc, List.append_assoc]

/-- The characters of the declarations. -/
theorem declarations_used (tags : List QName) :
    ∀ c ∈ (p.used tags).flatMap Prefixes.declaration, isXmlChar c ∧ c ≠ '\r' := by
  intro c hc
  obtain ⟨binding, hbinding, hc⟩ := List.mem_flatMap.mp hc
  obtain ⟨hpre, hspace, -⟩ := p.allowed binding (List.mem_filter.mp hbinding).1
  simp only [Prefixes.declaration, List.mem_cons, List.mem_append, List.not_mem_nil,
    or_false] at hc
  rcases hc with rfl | hc | rfl | rfl | hc | rfl
  · decide
  · have hname := inName_of_isWritten (isWritten_declarationName hpre) c hc
    exact ⟨isXmlChar_of_inName hname, ne_of_inName hname (by decide)⟩
  · decide
  · decide
  · have hvalue := inValue_of_plainSpace hspace c hc
    refine ⟨hvalue.1, ?_⟩
    rintro rfl
    exact absurd (hvalue.2.2.2.2 (by decide)) (by decide)
  · decide

theorem Element.newlines_write (he : ∀ tag ∈ e.tags, p.Covers tag) :
    newlines (e.write p) = (e.map newlines).write p := by
  have hname : '\r' ∉ p.name e.tag :=
    fun hmem => absurd (inName_name (he e.tag List.mem_cons_self) _ hmem) (by decide)
  have hdeclarations : '\r' ∉ (p.used e.tags).flatMap Prefixes.declaration :=
    fun hmem => (declarations_used e.tags _ hmem).2 rfl
  have helement := @newlines_writeElement _ _ (e.content.write p) ((e.content.map newlines).write p) []
    _ _ hname hdeclarations (@Content.map_newlines_eq_nil_iff e.content)
    fun rest hrest => Xml.newlines_write (fun tag htag => he tag (List.mem_cons_of_mem _ htag)) hrest
  rw [List.append_nil, newlines, List.append_nil] at helement
  unfold Element.write
  rw [helement, Element.tags_map]
  rfl

/-! ### Characters that XML has not -/

theorem all_escape (text : List Char) :
    (escape text).all isXmlChar = text.all isXmlChar := by
  unfold escape
  rw [List.all_flatMap]
  refine List.all_congr rfl fun c => ?_
  refine @escapeChar_cases (fun c cs => cs.all isXmlChar = isXmlChar c) ?_ ?_ ?_ ?_ c
  · decide
  · decide
  · decide
  · exact fun c _ _ _ => Bool.and_true _

theorem all_writeElement (hname : name.all isXmlChar) (hdeclarations : declarations.all isXmlChar)
    (hempty : inner = .text [] → written = []) :
    (writeElement name declarations inner written).all isXmlChar = written.all isXmlChar := by
  have hopen : isXmlChar '<' = true := by decide
  unfold writeElement
  split
  · rename_i hinner
    have hend : (" />".toList).all isXmlChar = true := by decide
    rw [hempty hinner, List.all_cons, List.all_append, List.all_append, hname, hdeclarations,
      hend, hopen]
    rfl
  · have hend : ("</".toList).all isXmlChar = true := by decide
    have hclose : isXmlChar '>' = true := by decide
    simp only [List.all_cons, List.all_append, hname, hdeclarations, hend, hclose, hopen,
      List.all_nil, Bool.and_true, Bool.true_and]

theorem all_name (hcovers : p.Covers tag) : (p.name tag).all isXmlChar :=
  List.all_eq_true.mpr fun c hc => isXmlChar_of_inName (inName_name hcovers c hc)

/-- What is written has only characters of XML exactly if the texts have. -/
theorem all_write (hc : ∀ tag ∈ c.tags, p.Covers tag) :
    (c.write p).all isXmlChar = c.texts.all (·.all isXmlChar) := by
  induction c with
  | text chars =>
      rw [Content.write, all_escape, Content.texts, List.all_cons, List.all_nil, Bool.and_true]
  | element before tag inner after ihinner ihafter =>
      simp only [Content.tags, List.forall_mem_cons, List.forall_mem_append] at hc
      obtain ⟨htag, hinner, hafter⟩ := hc
      have hempty : inner = .text [] → inner.write p = [] := by
        rintro rfl
        rfl
      rw [Content.write, List.all_append, List.all_append, all_escape,
        all_writeElement (all_name htag) rfl hempty, ihinner hinner, ihafter hafter, Content.texts,
        List.all_cons, List.all_append]

theorem Element.all_write (he : ∀ tag ∈ e.tags, p.Covers tag) :
    (e.write p).all isXmlChar = e.texts.all (·.all isXmlChar) := by
  have hempty : e.content = .text [] → e.content.write p = [] := by
    intro hcontent
    rw [hcontent]
    rfl
  have hdeclarations : ((p.used e.tags).flatMap Prefixes.declaration).all isXmlChar :=
    List.all_eq_true.mpr fun c hc => (declarations_used e.tags c hc).1
  unfold Element.write
  rw [all_writeElement (all_name (he e.tag List.mem_cons_self)) hdeclarations hempty,
    Xml.all_write fun tag htag => he tag (List.mem_cons_of_mem _ htag)]
  rfl

/-! ### The round trip -/

/-- **What is read of a document that has been written**: the element, with every end of a line a
line feed, unless a text has a character that XML has not. -/
theorem read_document (he : ∀ tag ∈ e.tags, p.Covers tag) :
    read (e.document p) =
      if e.texts.all (·.all isXmlChar) then some (e.map newlines) else none := by
  have hall : (e.document p).all isXmlChar = e.texts.all (·.all isXmlChar) := by
    have hdeclaration : xmlDeclaration.all isXmlChar = true := by decide
    rw [Element.document, List.all_append, hdeclaration, Element.all_write he, Bool.true_and]
  have hbody : behindDeclaration (newlines (e.document p)) =
      some ('\n' :: (e.map newlines).write p) := by
    rw [Element.document, newlines_append_of_not_mem (by decide), Element.newlines_write he]
    rfl
  have hblank : Reader.step {} '\n' = some {} := rfl
  have hread := feed_write (e := e.map newlines) (p := p)
    (fun tag htag => he tag (Element.tags_map newlines ▸ htag)) 0
  unfold read
  rw [hall, hbody, Option.bind_some, Reader.feed_cons, hblank, Option.bind_some, hread,
    Option.bind_some]
  rfl

/-- A document is read as it was written exactly if its texts have only characters of XML, and no
carriage return. -/
theorem read_document_eq_some_iff (he : ∀ tag ∈ e.tags, p.Covers tag) :
    read (e.document p) = some e ↔ ∀ text ∈ e.texts, ∀ c ∈ text, isXmlChar c ∧ c ≠ '\r' := by
  have hmap : e.map newlines = e ↔ ∀ text ∈ e.texts, '\r' ∉ text := by
    simp only [← newlines_eq_self_iff]
    rw [Element.texts, ← Content.map_eq_self_iff]
    exact ⟨congrArg Element.content, fun h => congrArg (Element.mk e.tag) h⟩
  rw [read_document he]
  constructor
  · intro h text htext c hc
    split at h
    · rename_i hall
      have hchars := List.all_eq_true.mp (List.all_eq_true.mp hall text htext) c hc
      refine ⟨hchars, ?_⟩
      rintro rfl
      exact hmap.mp (Option.some.inj h) text htext hc
    · cases h
  · intro h
    have hall : e.texts.all (·.all isXmlChar) = true :=
      List.all_eq_true.mpr fun text htext => List.all_eq_true.mpr fun c hc => (h text htext c hc).1
    rw [if_pos hall, hmap.mpr fun text htext hmem => (h text htext _ hmem).2 rfl]

end Lines

end DcimBackend.Library.Xml
