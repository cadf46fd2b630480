import DcimBackend.Library.Xml

/-!
# The names of what has been read

Whatever a reader is fed, the elements that it builds have names of XML: `isNcName_of_read`.

A reader has many places but touches its builder in few ways.  `Grows` lists them: characters, a
start tag, an end tag, one after the other.  `grows_step` is the only lemma that looks at the
places, one case for each; the invariant `Named` is then about the builder alone.

The name of an element is known when its start tag ends, long before the element is complete, so
the invariant has to hold of the open elements too.
-/

namespace DcimBackend.Library.Xml

/-! ### Names -/

section Names

variable {name : List Char} {scope : Scope}

/-- The local part of a name is one. -/
theorem isNcName_of_splitName {parts : List Char × List Char} (h : splitName name = some parts) :
    isNcName parts.2 := by
  unfold splitName at h
  dsimp only at h
  split at h
  · split at h
    · rename_i hname
      cases h
      exact hname
    · cases h
  · split at h
    · rename_i hnames
      cases h
      exact hnames.2
    · cases h

theorem isNcName_of_tag {tag : QName} (h : scope.tag name = some tag) : isNcName tag.localName := by
  unfold Scope.tag at h
  obtain ⟨parts, hparts, htag⟩ := Option.bind_eq_some_iff.mp h
  have hlocal := isNcName_of_splitName hparts
  split at htag
  · cases htag
    exact hlocal
  · obtain ⟨space, -, rfl⟩ := Option.map_eq_some_iff.mp htag
    exact hlocal

end Names

/-! ### Builders -/

namespace Content

theorem tags_append (a b : Content) : (a ++ b).tags = a.tags ++ b.tags := by
  induction a with
  | text chars =>
      cases b with
      | text more => rfl
      | element before tag inner after => rfl
  | element before tag inner after _ ih =>
      show tag :: (inner.tags ++ (after ++ b).tags) = tag :: (inner.tags ++ after.tags) ++ b.tags
      rw [ih, List.cons_append, List.append_assoc]

end Content

/-- Some tags have names of XML. -/
def NcNames (tags : List QName) : Prop := ∀ tag ∈ tags, isNcName tag.localName

namespace Builder

/-- What a builder has built bears names of XML. -/
structure Named (b : Builder) : Prop where
  frames : ∀ frame ∈ b.frames, NcNames (frame.tag :: frame.content.tags)
  root : ∀ root, b.root = some root → NcNames root.tags

/-- How a builder comes from another one. -/
inductive Grows : Builder → Builder → Prop
  | refl (b : Builder) : Grows b b
  | data {b b' : Builder} (chars : List Char) (h : b.data chars = some b') : Grows b b'
  | start {b b' : Builder} (name : List Char) (attributes : List (List Char × List Char))
      (h : b.start name attributes = some b') : Grows b b'
  | stop {b b' : Builder} (name : List Char) (h : b.stop name = some b') : Grows b b'
  | trans {b b' b'' : Builder} (h : Grows b b') (h' : Grows b' b'') : Grows b b''

variable {b b' : Builder}

theorem named_empty : Named {} where
  frames _ h := (List.not_mem_nil h).elim
  root _ h := by cases h

theorem Named.data (h : b.Named) {chars : List Char} (hdata : b.data chars = some b') :
    b'.Named := by
  unfold Builder.data at hdata
  split at hdata
  · cases hdata
  rename_i frame frames hframes
  obtain rfl := Option.some.inj hdata
  obtain ⟨hframe, hrest⟩ := List.forall_mem_cons.mp (hframes ▸ h.frames)
  refine ⟨List.forall_mem_cons.mpr ⟨?_, hrest⟩, h.root⟩
  show NcNames (frame.tag :: (frame.content ++ .text chars).tags)
  rw [Content.tags_append]
  show NcNames (frame.tag :: (frame.content.tags ++ []))
  rwa [List.append_nil]

theorem Named.start (h : b.Named) {name : List Char} {attributes : List (List Char × List Char)}
    (hstart : b.start name attributes = some b') : b'.Named := by
  unfold Builder.start at hstart
  split at hstart
  · cases hstart
  dsimp only at hstart
  split at hstart
  swap
  · cases hstart
  obtain ⟨tag, htag, rfl⟩ := Option.map_eq_some_iff.mp hstart
  refine ⟨List.forall_mem_cons.mpr ⟨?_, h.frames⟩, h.root⟩
  intro other hother
  rw [List.mem_singleton.mp hother]
  exact isNcName_of_tag htag

theorem Named.stop (h : b.Named) {name : List Char} (hstop : b.stop name = some b') :
    b'.Named := by
  unfold Builder.stop at hstop
  split at hstop
  · cases hstop
  rename_i frame frames hframes
  obtain ⟨hframe, hrest⟩ := List.forall_mem_cons.mp (hframes ▸ h.frames)
  split at hstop
  swap
  · cases hstop
  split at hstop
  · obtain rfl := Option.some.inj hstop
    refine ⟨fun other hother => (List.not_mem_nil hother).elim, fun root hroot => ?_⟩
    cases hroot
    exact hframe
  · rename_i parent frames
    obtain rfl := Option.some.inj hstop
    obtain ⟨hparent, hothers⟩ := List.forall_mem_cons.mp hrest
    refine ⟨List.forall_mem_cons.mpr ⟨?_, hothers⟩, h.root⟩
    -- The element joins the tags of its parent.
    show NcNames (parent.tag :: (parent.content ++
      .element [] frame.tag frame.content (.text [])).tags)
    rw [Content.tags_append]
    intro tag htag
    rcases List.mem_cons.mp htag with rfl | hinside
    · exact hparent _ List.mem_cons_self
    rcases List.mem_append.mp hinside with hold | hnew
    · exact hparent tag (List.mem_cons_of_mem _ hold)
    · refine hframe tag ?_
      rcases List.mem_cons.mp hnew with rfl | hcontent
      · exact List.mem_cons_self
      · exact List.mem_cons_of_mem _ ((List.append_nil frame.content.tags) ▸ hcontent)

theorem Named.grows (h : b.Named) (hgrows : Grows b b') : b'.Named := by
  induction hgrows with
  | refl => exact h
  | data chars hdata => exact h.data hdata
  | start name attributes hstart => exact h.start hstart
  | stop name hstop => exact h.stop hstop
  | trans _ _ ih ih' => exact ih' (ih h)

theorem grows_literal {c : Char} (h : b.literal c = some b') : Grows b b' := by
  unfold literal at h
  split at h
  · obtain rfl := Option.some.inj h
    exact .refl _
  · exact .data _ h

end Builder

/-! ### Readers -/

namespace Reader

open Builder

variable {r r' : Reader} {c : Char}

/-- A reader that moves has built nothing. -/
theorem grows_move {place : Place} (h : some (r.move place) = some r') :
    Grows r.builder r'.builder := by
  obtain rfl := Option.some.inj h
  exact .refl _

theorem grows_openTag {tag : Tag} (h : r.openTag tag = some r') :
    Grows r.builder r'.builder := by
  obtain ⟨b, hstart, rfl⟩ := Option.map_eq_some_iff.mp h
  exact .start _ _ hstart

theorem grows_stepTagEnd {tag : Tag} (h : r.stepTagEnd tag c = some r') :
    Grows r.builder r'.builder := by
  unfold stepTagEnd at h
  split at h
  · exact grows_move h
  split at h
  · exact grows_openTag h
  split at h
  · exact grows_move h
  · cases h

theorem grows_stepCdata {brackets : ℕ} (h : r.stepCdata brackets c = some r') :
    Grows r.builder r'.builder := by
  unfold stepCdata at h
  split at h
  · split at h
    · obtain ⟨b, hdata, rfl⟩ := Option.map_eq_some_iff.mp h
      exact .data _ hdata
    · exact grows_move h
  split at h
  · exact grows_move h
  · obtain ⟨b, hdata, rfl⟩ := Option.map_eq_some_iff.mp h
    exact .data _ hdata

theorem grows_stepEquals {tag : Tag} (h : r.stepEquals tag c = some r') :
    Grows r.builder r'.builder := by
  unfold stepEquals at h
  split at h
  · exact grows_move h
  split at h
  · exact grows_move h
  · cases h

theorem grows_stepSlash {tag : Tag} (h : r.stepSlash tag c = some r') :
    Grows r.builder r'.builder := by
  unfold stepSlash at h
  split at h
  · obtain ⟨b, hstart, hbuilt⟩ := Option.bind_eq_some_iff.mp h
    obtain ⟨b', hstop, rfl⟩ := Option.map_eq_some_iff.mp hbuilt
    exact .trans (.start _ _ hstart) (.stop _ hstop)
  · cases h

theorem grows_stepStopGap {name : List Char} (h : r.stepStopGap name c = some r') :
    Grows r.builder r'.builder := by
  unfold stepStopGap at h
  split at h
  · exact grows_move h
  split at h
  · obtain ⟨b, hstop, rfl⟩ := Option.map_eq_some_iff.mp h
    exact .stop _ hstop
  · cases h

/-- **What a step builds.** -/
theorem grows_step (h : r.step c = some r') : Grows r.builder r'.builder := by
  unfold step at h
  split at h
  case h_1 brackets =>
    unfold stepContent at h
    split at h
    · exact grows_move h
    split at h
    · exact grows_move h
    split at h
    · cases h
    · obtain ⟨b, hliteral, rfl⟩ := Option.map_eq_some_iff.mp h
      exact grows_literal hliteral
  case h_2 name =>
    unfold stepReference at h
    split at h
    · obtain ⟨referred, -, hbuilt⟩ := Option.bind_eq_some_iff.mp h
      obtain ⟨b, hdata, rfl⟩ := Option.map_eq_some_iff.mp hbuilt
      exact .data _ hdata
    · exact grows_move h
  case h_3 =>
    unfold stepMarkup at h
    split at h
    · exact grows_move h
    split at h
    · exact grows_move h
    split at h
    · exact grows_move h
    · cases h
  case h_4 chars =>
    unfold stepBang at h
    dsimp only at h
    split at h
    · exact grows_move h
    split at h
    · split at h
      · cases h
      · exact grows_move h
    split at h
    · exact grows_move h
    · cases h
  case h_5 dashes =>
    unfold stepComment at h
    split at h
    · split at h
      · exact grows_move h
      · cases h
    · exact grows_move h
  case h_6 brackets => exact grows_stepCdata h
  case h_7 name =>
    unfold stepStartName at h
    split at h
    · exact grows_move h
    · exact grows_stepTagEnd h
  case h_8 tag gap =>
    unfold stepInTag at h
    split at h
    · exact grows_move h
    · exact grows_stepTagEnd h
  case h_9 tag =>
    unfold stepAttrName at h
    split at h
    · exact grows_move h
    · exact grows_stepEquals h
  case h_10 tag => exact grows_stepEquals h
  case h_11 tag =>
    unfold stepQuote at h
    split at h
    · exact grows_move h
    split at h
    · exact grows_move h
    · cases h
  case h_12 tag quote =>
    unfold stepValue at h
    split at h
    · exact grows_move h
    split at h
    · cases h
    split at h
    · exact grows_move h
    · exact grows_move h
  case h_13 tag quote name =>
    unfold stepValueReference at h
    split at h
    · obtain ⟨referred, -, rfl⟩ := Option.map_eq_some_iff.mp h
      exact .refl _
    · exact grows_move h
  case h_14 tag => exact grows_stepSlash h
  case h_15 name =>
    unfold stepStopName at h
    split at h
    · exact grows_move h
    · exact grows_stepStopGap h
  case h_16 name => exact grows_stepStopGap h

theorem named_feed {text : List Char} (h : r.feed text = some r') (hnamed : r.builder.Named) :
    r'.builder.Named := by
  induction text generalizing r with
  | nil =>
      obtain rfl := Option.some.inj h
      exact hnamed
  | cons c text ih =>
      obtain ⟨next, hstep, hrest⟩ := Option.bind_eq_some_iff.mp h
      exact ih hrest (hnamed.grows (grows_step hstep))

end Reader

/-- The elements of a content bear its tags. -/
theorem tag_of_within {content : Content} {e : Element} (h : e ∈ Element.within content) :
    e.tag ∈ content.tags := by
  induction content with
  | text chars => cases h
  | element before tag inner after ihInner ihAfter =>
      rcases List.mem_cons.mp h with rfl | hrest
      · exact List.mem_cons_self
      refine List.mem_cons_of_mem _ (List.mem_append.mpr ?_)
      rcases List.mem_append.mp hrest with hinner | hafter
      · exact Or.inl (ihInner hinner)
      · exact Or.inr (ihAfter hafter)

/-- **Every element of a document has a name of XML.** -/
theorem isNcName_of_read {text : List Char} {root e : Element} (h : read text = some root)
    (he : e ∈ root.iter) : isNcName e.tag.localName := by
  have hroot : NcNames root.tags := by
    unfold read at h
    split at h
    swap
    · cases h
    obtain ⟨body, -, hread⟩ := Option.bind_eq_some_iff.mp h
    obtain ⟨r, hfeed, hfinish⟩ := Option.bind_eq_some_iff.mp hread
    have hnamed := Reader.named_feed hfeed Builder.named_empty
    unfold Reader.finish at hfinish
    split at hfinish
    · split at hfinish
      · exact hnamed.root root hfinish
      · cases hfinish
    · cases hfinish
  rcases List.mem_cons.mp he with rfl | hinside
  · exact hroot _ List.mem_cons_self
  · exact hroot _ (List.mem_cons_of_mem _ (tag_of_within hinside))

/-- A name holds no brace. -/
theorem brace_notMem_of_isNcName {name : List Char} (h : isNcName name) : '}' ∉ name := by
  have hchar : ∀ c ∈ name, isNameChar c := by
    cases name with
    | nil => exact fun _ hc => (List.not_mem_nil hc).elim
    | cons first rest =>
        obtain ⟨hfirst, hrest⟩ := Bool.and_eq_true_iff.mp h
        refine List.forall_mem_cons.mpr ⟨?_, List.all_eq_true.mp hrest⟩
        unfold isNameChar
        rw [hfirst, Bool.true_or]
  intro hbrace
  have hname := hchar _ hbrace
  revert hname
  decide

end DcimBackend.Library.Xml
