import Mathlib.Data.List.Basic
import Mathlib.Tactic.Common

/-!
# Documents of elements and texts

XML in the way of Python's `ElementTree`: elements with qualified names, and texts in front of,
between and behind them.  The writer declares the namespaces that a document uses at its root,
under prefixes that are given, and writes no attributes besides.

The reader goes through a document one character at a time, in the way of the recommendation: it
makes every end of a line a line feed, resolves prefixes and references, and refuses a document
that is not well-formed.  It knows attributes, comments and CDATA sections; document type
declarations and processing instructions it refuses.

The reader is a machine with a place and a builder, and a document is fed to it character by
character, so that reading a concatenation is feeding one part after the other.  `Place` has one
case for each kind of position in the grammar.  A step fails where no document can go on in this
way; a document that ends in the middle of something fails at its end.

An element has names with their namespaces.  Prefixes are resolved where its start tag ends, in
the scope of the open elements and of its own declarations.
-/

namespace DcimBackend.Library.Xml

/-! ### Characters and names -/

/-- `Char`: not every control character is one. -/
def isXmlChar (c : Char) : Bool :=
  c ∈ ['\t', '\n', '\r'] || (0x20 ≤ c.toNat && c.toNat ≠ 0xFFFE && c.toNat ≠ 0xFFFF)

/-- `S`. -/
def isBlank (c : Char) : Bool := c ∈ [' ', '\t', '\n', '\r']

/-- A character of some ranges. -/
def inRanges (ranges : List (ℕ × ℕ)) (c : Char) : Bool :=
  ranges.any fun range => range.1 ≤ c.toNat && c.toNat ≤ range.2

/-- `NameStartChar`, but for the colon. -/
def isNameStart (c : Char) : Bool :=
  inRanges [(0x41, 0x5A), (0x5F, 0x5F), (0x61, 0x7A), (0xC0, 0xD6), (0xD8, 0xF6), (0xF8, 0x2FF),
    (0x370, 0x37D), (0x37F, 0x1FFF), (0x200C, 0x200D), (0x2070, 0x218F), (0x2C00, 0x2FEF),
    (0x3001, 0xD7FF), (0xF900, 0xFDCF), (0xFDF0, 0xFFFD), (0x10000, 0xEFFFF)] c

/-- `NameChar`, but for the colon. -/
def isNameChar (c : Char) : Bool :=
  isNameStart c || inRanges [(0x2D, 0x2E), (0x30, 0x39), (0xB7, 0xB7), (0x300, 0x36F),
    (0x203F, 0x2040)] c

/-- `NCName`. -/
def isNcName : List Char → Bool
  | [] => false
  | c :: rest => isNameStart c && rest.all isNameChar

/-- A qualified name: a namespace, which is empty for none, and a local name. -/
structure QName where
  space : List Char
  localName : List Char
deriving DecidableEq

/-- A name under a prefix. -/
def joinName (pre name : List Char) : List Char := if pre = [] then name else pre ++ ':' :: name

/-- The prefix and the local name of a name as it is written. -/
def splitName (name : List Char) : Option (List Char × List Char) :=
  let first := name.takeWhile (· ≠ ':')
  match name.dropWhile (· ≠ ':') with
  | [] => if isNcName first then some ([], first) else none
  | _ :: rest => if isNcName first ∧ isNcName rest then some (first, rest) else none

/-! ### Documents -/

/-- What an element holds: a text, or an element behind a text, and what stands behind it. -/
inductive Content
  | text (chars : List Char)
  | element (before : List Char) (tag : QName) (inner : Content) (after : Content)
deriving DecidableEq

namespace Content

/-- One content behind another. -/
def append : Content → Content → Content
  | .text chars, .text more => .text (chars ++ more)
  | .text chars, .element before tag inner after => .element (chars ++ before) tag inner after
  | .element before tag inner after, more => .element before tag inner (after.append more)

instance : Append Content := ⟨append⟩

/-- The text in front of the first element: `Element.text`. -/
def lead : Content → List Char
  | .text chars => chars
  | .element before _ _ _ => before

/-- All texts. -/
def texts : Content → List (List Char)
  | .text chars => [chars]
  | .element before _ inner after => before :: (inner.texts ++ after.texts)

/-- All tags. -/
def tags : Content → List QName
  | .text _ => []
  | .element _ tag inner after => tag :: (inner.tags ++ after.tags)

/-- The texts through a function. -/
def map (f : List Char → List Char) : Content → Content
  | .text chars => .text (f chars)
  | .element before tag inner after => .element (f before) tag (inner.map f) (after.map f)

end Content

/-- An element. -/
structure Element where
  tag : QName
  content : Content := .text []
deriving DecidableEq

namespace Element

def texts (e : Element) : List (List Char) := e.content.texts

def tags (e : Element) : List QName := e.tag :: e.content.tags

def map (f : List Char → List Char) (e : Element) : Element := { e with content := e.content.map f }

/-- The elements of a content, in the order of the document. -/
def within : Content → List Element
  | .text _ => []
  | .element _ tag inner after => ⟨tag, inner⟩ :: (within inner ++ within after)

/-- `Element.iter`. -/
def iter (e : Element) : List Element := e :: within e.content

end Element

/-! ### Namespaces -/

def xmlns : List Char := "xmlns".toList

def xmlPrefix : List Char := "xml".toList

def xmlSpace : List Char := "http://www.w3.org/XML/1998/namespace".toList

def xmlnsSpace : List Char := "http://www.w3.org/2000/xmlns/".toList

/-- The namespaces of prefixes.  The default namespace has the empty prefix. -/
abbrev Scope := List (List Char × List Char)

/-- The namespace of a prefix. -/
def Scope.find (scope : Scope) (pre : List Char) : Option (List Char) :=
  (List.find? (·.1 = pre) scope).map (·.2)

/-- A declaration that the recommendation allows.  Only the default namespace may be none. -/
def bindable (binding : List Char × List Char) : Bool :=
  binding.1 ≠ xmlns && (binding.1 = xmlPrefix ↔ binding.2 = xmlSpace) && binding.2 ≠ xmlnsSpace &&
    (binding.1 = [] || binding.2 ≠ [])

/-- The name of the attribute that declares a prefix. -/
def declarationName (pre : List Char) : List Char := if pre = [] then xmlns else joinName xmlns pre

/-- The prefix that an attribute declares, if it is a declaration. -/
def declaredPrefix (name : List Char) : Option (List Char) :=
  if name = xmlns then some []
  else (splitName name).bind fun parts => if parts.1 = xmlns then some parts.2 else none

/-- What a tag's name stands for. -/
def Scope.tag (scope : Scope) (name : List Char) : Option QName :=
  (splitName name).bind fun parts =>
    if parts.1 = [] then some ⟨(scope.find []).getD [], parts.2⟩
    else (scope.find parts.1).map (⟨·, parts.2⟩)

/-- What an attribute's name stands for.  Without a prefix it has no namespace. -/
def Scope.attribute (scope : Scope) (name : List Char) : Option QName :=
  (splitName name).bind fun parts =>
    if parts.1 = [] then some ⟨[], parts.2⟩ else (scope.find parts.1).map (⟨·, parts.2⟩)

/-- The attributes of a tag, which need names of their own. -/
def Scope.allows (scope : Scope) (attributes : List (List Char × List Char)) : Bool :=
  let others := (attributes.map (·.1)).filter fun name => declaredPrefix name = none
  (attributes.map (·.1)).Nodup && others.all (fun name => (scope.attribute name).isSome) &&
    (others.map scope.attribute).Nodup

/-! ### The writer -/

/-- `_escape_cdata`, on one character. -/
def escapeChar (c : Char) : List Char :=
  if c = '&' then "&amp;".toList
  else if c = '<' then "&lt;".toList
  else if c = '>' then "&gt;".toList
  else [c]

/-- `_escape_cdata`. -/
def escape (chars : List Char) : List Char := chars.flatMap escapeChar

/-- A namespace that needs no references in a declaration. -/
def plainSpace (space : List Char) : Bool :=
  space ≠ [] && space.all fun c =>
    isXmlChar c && !decide (c ∈ ['&', '<', '>', '"', '\t', '\n', '\r'])

/-- The order of texts: that of their code points. -/
def precedes (a b : List Char) : Bool := List.lex a b fun x y => decide (x.toNat < y.toNat)

/-- The prefixes under which namespaces are written, in their order. -/
structure Prefixes where
  bindings : Scope
  sorted : bindings.Pairwise fun a b => precedes a.1 b.1
  allowed : ∀ binding ∈ bindings,
    (binding.1 = [] ∨ isNcName binding.1) ∧ plainSpace binding.2 ∧ bindable binding

namespace Prefixes

variable (p : Prefixes)

/-- The name of a tag. -/
def name (tag : QName) : List Char :=
  joinName ((p.bindings.find? (·.2 = tag.space)).elim [] (·.1)) tag.localName

/-- The declarations of the namespaces that some tags use: `_namespaces`. -/
def used (tags : List QName) : Scope :=
  p.bindings.filter fun binding => tags.any fun tag => tag.space = binding.2

/-- A declaration. -/
def declaration (binding : List Char × List Char) : List Char :=
  ' ' :: (declarationName binding.1 ++ ('=' :: '"' :: (binding.2 ++ ['"'])))

/-- A tag that the prefixes have a name for. -/
def Covers (tag : QName) : Prop :=
  isNcName tag.localName ∧ ∃ binding ∈ p.bindings, binding.2 = tag.space

instance (tag : QName) : Decidable (p.Covers tag) := inferInstanceAs (Decidable (_ ∧ _))

end Prefixes

/-- `_serialize_xml` around what has been written of a content.  An element without content is
one tag. -/
def writeElement (name declarations : List Char) (inner : Content) (written : List Char) :
    List Char :=
  '<' :: (name ++ (declarations ++
    if inner = .text [] then " />".toList
    else '>' :: (written ++ ("</".toList ++ (name ++ ['>'])))))

/-- A content. -/
def Content.write (p : Prefixes) : Content → List Char
  | .text chars => escape chars
  | .element before tag inner after =>
      escape before ++ (writeElement (p.name tag) [] inner (inner.write p) ++ after.write p)

/-- The root of a document. -/
def Element.write (p : Prefixes) (e : Element) : List Char :=
  writeElement (p.name e.tag) ((p.used e.tags).flatMap Prefixes.declaration) e.content
    (e.content.write p)

/-- The declaration of the version and the encoding. -/
def xmlDeclaration : List Char := "<?xml version='1.0' encoding='utf-8'?>\n".toList

/-- `ElementTree.tostring(element, encoding="utf-8", xml_declaration=True)`. -/
def Element.document (p : Prefixes) (e : Element) : List Char := xmlDeclaration ++ e.write p

/-! ### The tree of a reader -/

/-- An open element: its name as it is written, what that stands for, the namespaces in scope, and
what it holds so far. -/
structure Frame where
  name : List Char
  tag : QName
  scope : Scope
  content : Content := .text []

/-- `TreeBuilder`: the open elements, the innermost first, and the root when it is complete. -/
structure Builder where
  frames : List Frame := []
  root : Option Element := none

namespace Builder

variable (b : Builder)

/-- Characters, which only an open element holds. -/
def data (chars : List Char) : Option Builder :=
  match b.frames with
  | [] => none
  | frame :: frames =>
      some { b with frames := { frame with content := frame.content ++ .text chars } :: frames }

/-- A character that stands for itself.  Outside the root there may be blanks. -/
def literal (c : Char) : Option Builder :=
  if b.frames = [] ∧ isBlank c then some b else b.data [c]

/-- The namespaces in scope. -/
def scope : Scope := b.frames.head?.elim [(xmlPrefix, xmlSpace)] (·.scope)

/-- A start tag.  There is one root. -/
def start (name : List Char) (attributes : List (List Char × List Char)) : Option Builder :=
  if b.frames = [] ∧ b.root ≠ none then none
  else
    let bindings := attributes.filterMap fun entry =>
      (declaredPrefix entry.1).map fun pre => (pre, entry.2)
    let scope : Scope := bindings ++ b.scope
    if bindings.all bindable ∧ scope.allows attributes then
      (scope.tag name).map fun tag =>
        { b with frames := { name := name, tag := tag, scope := scope } :: b.frames }
    else none

/-- An end tag, which bears the name of the innermost open element. -/
def stop (name : List Char) : Option Builder :=
  match b.frames with
  | [] => none
  | frame :: frames =>
      if frame.name = name then
        match frames with
        | [] => some { frames := [], root := some ⟨frame.tag, frame.content⟩ }
        | parent :: frames =>
            some { b with
              frames := { parent with
                content := parent.content ++ .element [] frame.tag frame.content (.text []) } ::
                  frames }
      else none

end Builder

/-! ### The reader -/

/-- The digits of a character reference in base ten or sixteen. -/
def referenceNumber (base : ℕ) (digits : List Char) : Option ℕ :=
  if digits = [] then none
  else digits.foldlM (fun number c =>
    let digit := if c.isDigit then c.toNat - 48 else c.toLower.toNat - 87
    if (c.isDigit || 'a' ≤ c.toLower && c.toLower ≤ 'f') ∧ digit < base then
      some (number * base + digit)
    else none) 0

/-- The character of a number. -/
def numbered (number : ℕ) : Option Char :=
  if (Char.ofNat number).toNat = number ∧ isXmlChar (Char.ofNat number) then
    some (Char.ofNat number)
  else none

/-- What stands between `&` and `;`. -/
def resolveReference (name : List Char) : Option Char :=
  if name = "amp".toList then some '&'
  else if name = "lt".toList then some '<'
  else if name = "gt".toList then some '>'
  else if name = "quot".toList then some '"'
  else if name = "apos".toList then some '\''
  else match name with
    | '#' :: 'x' :: digits => (referenceNumber 16 digits).bind numbered
    | '#' :: digits => (referenceNumber 10 digits).bind numbered
    | _ => none

/-- A start tag under way: its name, its attributes so far, and the next one. -/
structure Tag where
  name : List Char
  attributes : List (List Char × List Char) := []
  attrName : List Char := []
  value : List Char := []

/-- Where a reader stands. -/
inductive Place
  /-- In a text, behind some closing brackets. -/
  | content (brackets : ℕ)
  | reference (name : List Char)
  /-- Behind `<`. -/
  | markup
  /-- Behind `<!`. -/
  | bang (chars : List Char)
  | comment (dashes : ℕ)
  | cdata (brackets : ℕ)
  | startName (name : List Char)
  /-- Between attributes, behind a blank or not. -/
  | inTag (tag : Tag) (gap : Bool)
  | attrName (tag : Tag)
  | equals (tag : Tag)
  | quote (tag : Tag)
  | value (tag : Tag) (quote : Char)
  | valueReference (tag : Tag) (quote : Char) (name : List Char)
  /-- Behind the slash of a tag without content. -/
  | slash (tag : Tag)
  | stopName (name : List Char)
  | stopGap (name : List Char)

/-- A reader: where it stands, and what it has built. -/
structure Reader where
  place : Place := .content 0
  builder : Builder := {}

namespace Reader

variable (r : Reader)

/-- The reader at another place. -/
def move (place : Place) : Reader := { r with place := place }

/-- The reader in a text, with what has been built. -/
def built (builder : Option Builder) : Option Reader := builder.map (⟨.content 0, ·⟩)

/-- A character of a text.  `]]>` is no text. -/
def stepContent (brackets : ℕ) (c : Char) : Option Reader :=
  if c = '<' then some (r.move .markup)
  else if c = '&' then some (r.move (.reference []))
  else if c = '>' ∧ 2 ≤ brackets then none
  else (r.builder.literal c).map (⟨.content (if c = ']' then brackets + 1 else 0), ·⟩)

/-- A character of a reference in a text. -/
def stepReference (name : List Char) (c : Char) : Option Reader :=
  if c = ';' then (resolveReference name).bind fun referred => built (r.builder.data [referred])
  else some (r.move (.reference (name ++ [c])))

/-- What kind of markup it is. -/
def stepMarkup (c : Char) : Option Reader :=
  if c = '/' then some (r.move (.stopName []))
  else if c = '!' then some (r.move (.bang []))
  else if isNameStart c then some (r.move (.startName [c]))
  else none

/-- `--` or `[CDATA[`. -/
def stepBang (chars : List Char) (c : Char) : Option Reader :=
  let chars := chars ++ [c]
  if chars = "--".toList then some (r.move (.comment 0))
  else if chars = "[CDATA[".toList then
    if r.builder.frames = [] then none else some (r.move (.cdata 0))
  else if chars.isPrefixOf "--".toList || chars.isPrefixOf "[CDATA[".toList then
    some (r.move (.bang chars))
  else none

/-- A character of a comment, which holds no `--`. -/
def stepComment (dashes : ℕ) (c : Char) : Option Reader :=
  if dashes = 2 then if c = '>' then some (r.move (.content 0)) else none
  else some (r.move (.comment (if c = '-' then dashes + 1 else 0)))

/-- A character of a CDATA section, which `]]>` ends. -/
def stepCdata (brackets : ℕ) (c : Char) : Option Reader :=
  if c = ']' then
    if brackets = 2 then (r.builder.data [c]).map (⟨.cdata 2, ·⟩)
    else some (r.move (.cdata (brackets + 1)))
  else if c = '>' ∧ brackets = 2 then some (r.move (.content 0))
  else (r.builder.data (List.replicate brackets ']' ++ [c])).map (⟨.cdata 0, ·⟩)

/-- The end of a start tag. -/
def openTag (tag : Tag) : Option Reader := built (r.builder.start tag.name tag.attributes)

/-- A character behind a name or a value in a start tag: a blank, or an end of the tag. -/
def stepTagEnd (tag : Tag) (c : Char) : Option Reader :=
  if isBlank c then some (r.move (.inTag tag true))
  else if c = '>' then r.openTag tag
  else if c = '/' then some (r.move (.slash tag))
  else none

/-- A character of the name of a start tag. -/
def stepStartName (name : List Char) (c : Char) : Option Reader :=
  if isNameChar c ∨ c = ':' then some (r.move (.startName (name ++ [c])))
  else r.stepTagEnd { name := name } c

/-- A character between attributes. -/
def stepInTag (tag : Tag) (gap : Bool) (c : Char) : Option Reader :=
  if gap ∧ isNameStart c then some (r.move (.attrName { tag with attrName := [c] }))
  else r.stepTagEnd tag c

/-- A character behind the name of an attribute. -/
def stepEquals (tag : Tag) (c : Char) : Option Reader :=
  if isBlank c then some (r.move (.equals tag))
  else if c = '=' then some (r.move (.quote tag))
  else none

/-- A character of the name of an attribute. -/
def stepAttrName (tag : Tag) (c : Char) : Option Reader :=
  if isNameChar c ∨ c = ':' then
    some (r.move (.attrName { tag with attrName := tag.attrName ++ [c] }))
  else r.stepEquals tag c

/-- A character in front of the value of an attribute. -/
def stepQuote (tag : Tag) (c : Char) : Option Reader :=
  if isBlank c then some (r.move (.quote tag))
  else if c = '"' ∨ c = '\'' then some (r.move (.value { tag with value := [] } c))
  else none

/-- A character of a value, in which every blank is a space. -/
def stepValue (tag : Tag) (quote c : Char) : Option Reader :=
  if c = quote then
    some (r.move (.inTag
      { tag with attributes := tag.attributes ++ [(tag.attrName, tag.value)] } false))
  else if c = '<' then none
  else if c = '&' then some (r.move (.valueReference tag quote []))
  else
    some (r.move (.value { tag with value := tag.value ++ [if isBlank c then ' ' else c] } quote))

/-- A character of a reference in a value. -/
def stepValueReference (tag : Tag) (quote : Char) (name : List Char) (c : Char) : Option Reader :=
  if c = ';' then
    (resolveReference name).map fun referred =>
      r.move (.value { tag with value := tag.value ++ [referred] } quote)
  else some (r.move (.valueReference tag quote (name ++ [c])))

/-- The end of a tag without content: a start tag and an end tag. -/
def stepSlash (tag : Tag) (c : Char) : Option Reader :=
  if c = '>' then
    (r.builder.start tag.name tag.attributes).bind fun builder => built (builder.stop tag.name)
  else none

/-- A character behind the name of an end tag. -/
def stepStopGap (name : List Char) (c : Char) : Option Reader :=
  if isBlank c then some (r.move (.stopGap name))
  else if c = '>' then built (r.builder.stop name)
  else none

/-- A character of the name of an end tag. -/
def stepStopName (name : List Char) (c : Char) : Option Reader :=
  if isNameChar c ∨ c = ':' then some (r.move (.stopName (name ++ [c]))) else r.stepStopGap name c

/-- One character. -/
def step (c : Char) : Option Reader :=
  match r.place with
  | .content brackets => r.stepContent brackets c
  | .reference name => r.stepReference name c
  | .markup => r.stepMarkup c
  | .bang chars => r.stepBang chars c
  | .comment dashes => r.stepComment dashes c
  | .cdata brackets => r.stepCdata brackets c
  | .startName name => r.stepStartName name c
  | .inTag tag gap => r.stepInTag tag gap c
  | .attrName tag => r.stepAttrName tag c
  | .equals tag => r.stepEquals tag c
  | .quote tag => r.stepQuote tag c
  | .value tag quote => r.stepValue tag quote c
  | .valueReference tag quote name => r.stepValueReference tag quote name c
  | .slash tag => r.stepSlash tag c
  | .stopName name => r.stepStopName name c
  | .stopGap name => r.stepStopGap name c

/-- A text. -/
def feed (text : List Char) : Option Reader := text.foldlM step r

/-- The end of the document, behind its root. -/
def finish : Option Element :=
  match r.place with
  | .content _ => if r.builder.frames = [] then r.builder.root else none
  | _ => none

end Reader

/-- What stands behind the first `?>`. -/
def behindInstruction : List Char → Option (List Char)
  | [] => none
  | c :: rest =>
      if c = '?' ∧ rest.head? = some '>' then some rest.tail else behindInstruction rest

/-- What stands behind the declaration of the version and the encoding, if there is one, which is
not looked into. -/
def behindDeclaration (text : List Char) : Option (List Char) :=
  if "<?xml".toList.isPrefixOf text ∧ ((text.drop 5).head?.elim false isBlank) then
    behindInstruction text
  else some text

/-- Every end of a line is a line feed. -/
def newlines : List Char → List Char
  | [] => []
  | c :: rest =>
      if c = '\r' then if rest.head? = some '\n' then newlines rest else '\n' :: newlines rest
      else c :: newlines rest

/-- The root of a document, if it is well-formed. -/
def read (text : List Char) : Option Element :=
  if text.all isXmlChar then
    (behindDeclaration (newlines text)).bind fun body =>
      (Reader.feed {} body).bind Reader.finish
  else none

end DcimBackend.Library.Xml
