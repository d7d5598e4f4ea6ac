import DotBinding.Proofs.Dot.Reading
import DotBinding.Proofs.Dot.Scanning
import DotBinding.Proofs.Value.Writable
import DotBinding.Template
import Mathlib.Data.List.Basic

/-!
# Reading attributes back

A bundle of attributes that is written into the attribute list of a node is read back key by key.
Each value is read back as its text, unless that text is plain but for one line feed at its end:
it is written without quotes, and the line feed is passed over.
-/

namespace DotBinding

namespace Dot.AttributeText

open Grammar Scanner

/-- An ASCII word, which may begin with an underscore. -/
def isWord : List Char → Bool
  | [] => false
  | c :: rest => (c.isAlpha || c == '_') && rest.all (fun d => d.isAlphanum || d == '_')

/-- A plain text with a line feed behind it. -/
def isPlainLine (cs : List Char) : Bool :=
  cs.getLast? == some '\n' && isPlain cs.dropLast

/-- The text that a text is read back as. -/
def readBack (s : String) : String :=
  if isPlainLine s.toList then String.ofList s.toList.dropLast else s

lemma readBack_eq_self_iff (s : String) : readBack s = s ↔ isPlainLine s.toList = false := by
  unfold readBack
  split
  · next h =>
    simp only [h, Bool.true_eq_false, iff_false]
    intro hs
    have hdrop : s.toList.dropLast = s.toList := by
      rw [← String.toList_ofList (l := s.toList.dropLast), hs]
    have hlength := congrArg List.length hdrop
    rw [List.length_dropLast] at hlength
    have hnil : s.toList = [] := List.length_eq_zero_iff.mp (by omega)
    rw [hnil] at h
    cases h
  · next h => simp [h]

/-- The item that a plain text is. -/
def plainItem (cs : List Char) : Lexeme :=
  if isWord cs then .word (String.ofList cs) else .numeral (String.ofList cs)

/-- The item that a text is written as. -/
def textItem (s : String) : Lexeme :=
  if isPlainLine s.toList then plainItem s.toList.dropLast
  else if isPlain s.toList then plainItem s.toList
  else .quoted (String.ofList (escape s.toList))

lemma id?_plainItem (cs : List Char) : (plainItem cs).id? = some (String.ofList cs) := by
  unfold plainItem
  split <;> rfl

lemma id?_textItem (s : String) : (textItem s).id? = some (readBack s) := by
  unfold textItem readBack
  split
  · exact id?_plainItem _
  · split
    · rw [id?_plainItem, String.ofList_toList]
    · simp [Lexeme.id?, unescape_escape]

/-! ## Splitting what is written -/

section Splits

variable {stop : Char} {rest : List Char}

lemma splits_word (cs : List Char) (hcs : isWord cs = true) (hstop : isStop stop = true) :
    Splits (cs ++ stop :: rest) [.word (String.ofList cs)] (stop :: rest) := by
  cases cs with
  | nil => cases hcs
  | cons c w =>
    rw [isWord, Bool.and_eq_true, List.all_eq_true] at hcs
    refine Splits.word hcs.1 ?_ (isStop_iff.mp hstop).1
    intro d hd
    have hpart := hcs.2 d hd
    simp only [Char.isAlphanum, Bool.or_eq_true] at hpart
    simp only [isWordPart, isWordStart, isAsciiWordStart, Bool.or_eq_true]
    rcases hpart with (halpha | hdigit) | hunderscore
    · exact Or.inl (Or.inl (Or.inl halpha))
    · exact Or.inr hdigit
    · exact Or.inl (Or.inl (Or.inr hunderscore))

lemma isPlain_cases {cs : List Char} (h : isPlain cs = true) :
    isWord cs = true ∨ ∃ c w, cs = c :: w ∧ Numeral.length? (c :: w) = some (w.length + 1) := by
  cases cs with
  | nil => cases h
  | cons c w =>
    rw [isPlain, Bool.or_eq_true] at h
    rcases h with h | h
    · exact Or.inl h
    · exact Or.inr ⟨c, w, rfl, eq_of_beq h⟩

lemma splits_plain {cs : List Char} (hcs : isPlain cs = true) (hstop : isStop stop = true) :
    Splits (cs ++ stop :: rest) [plainItem cs] (stop :: rest) := by
  unfold plainItem
  split
  · next hword => exact splits_word cs hword hstop
  · next hword =>
    rcases isPlain_cases hcs with hword' | ⟨c, w, rfl, hnumeral⟩
    · exact absurd hword' hword
    · obtain ⟨-, hdigit, hpoint⟩ := isStop_iff.mp hstop
      exact Splits.numeral hnumeral hdigit hpoint

lemma splits_encodeText (s : String) (hstop : isStop stop = true)
    (hblank : Text.isBlank stop = false) :
    Splits ((encodeText s).toList ++ stop :: rest) [textItem s] (stop :: rest) := by
  have hbare : isBare s.toList = (isPlain s.toList || isPlainLine s.toList) := rfl
  unfold encodeText textItem
  rw [hbare]
  -- both cases without quotes split as a plain text; a line feed behind it is white space
  by_cases hline : isPlainLine s.toList = true
  · rw [hline, Bool.or_true, if_pos rfl, if_pos rfl]
    rw [isPlainLine, Bool.and_eq_true, beq_iff_eq] at hline
    have hrow : s.toList ++ stop :: rest = s.toList.dropLast ++ '\n' :: stop :: rest := by
      rw [← List.singleton_append (x := '\n'), ← List.append_assoc,
        List.dropLast_append_getLast? '\n' hline.1]
    rw [hrow]
    exact (splits_plain hline.2 (by decide +kernel)).trans
      (Splits.blank (by decide) (by decide) (by decide) hblank)
  · rw [if_neg hline]
    by_cases hplain : isPlain s.toList = true
    · rw [hplain, Bool.true_or, if_pos rfl, if_pos rfl]
      exact splits_plain hplain hstop
    · rw [if_neg hplain, if_neg (by simp [hplain, hline]), enclose, String.toList_ofList]
      rw [List.append_assoc]
      exact Splits.quoted s.toList (stop :: rest)

end Splits

/-! ## The attribute list that is written -/

def pairTree (e : String × String) (separator : Option Separator) : AttributeTree :=
  ⟨⟨.word e.1, rfl⟩, ⟨textItem e.2, by rw [id?_textItem]; rfl⟩, separator⟩

/-- The tree of pairs joined by commas. -/
def listTree : List (String × String) → ListTree
  | [] => []
  | [e] => [pairTree e none]
  | e :: f :: rest => pairTree e (some .comma) :: listTree (f :: rest)

def pairString (e : String × String) : String :=
  e.1 ++ "=" ++ encodeText e.2

lemma toAttribute_pairTree (e : String × String) (separator : Option Separator) :
    (pairTree e separator).toAttribute = ⟨e.1, readBack e.2⟩ := by
  have hvalue : (pairTree e separator).value.text = readBack e.2 := by
    simp [pairTree, IdItem.text, id?_textItem]
  rw [AttributeTree.toAttribute, hvalue]
  rfl

lemma map_toAttribute_listTree (entries : List (String × String)) :
    (listTree entries).map AttributeTree.toAttribute =
      entries.map fun e => ⟨e.1, readBack e.2⟩ := by
  induction entries using listTree.induct with
  | case1 => rfl
  | case2 e => rw [listTree, List.map_singleton, List.map_singleton, toAttribute_pairTree]
  | case3 e f rest ih => rw [listTree, List.map_cons, List.map_cons, toAttribute_pairTree, ih]

lemma splits_pairString {e : String × String} (he : isWord e.1.toList = true) {stop : Char}
    (hstop : isStop stop = true) (hblank : Text.isBlank stop = false) (rest : List Char) :
    Splits ((pairString e).toList ++ stop :: rest) [.word e.1, .mark .equals, textItem e.2]
      (stop :: rest) := by
  have hkey : Splits (e.1.toList ++ '=' :: ((encodeText e.2).toList ++ stop :: rest))
      [.word (String.ofList e.1.toList)] _ := splits_word e.1.toList he (by decide +kernel)
  have hpair := hkey.trans ((Splits.mark .equals _).trans (splits_encodeText e.2 hstop hblank))
  rw [String.ofList_toList] at hpair
  simpa [pairString, String.toList_append] using hpair

lemma splits_listTree (entries : List (String × String))
    (hkeys : ∀ e ∈ entries, isWord e.1.toList = true) {stop : Char} (hstop : isStop stop = true)
    (hblank : Text.isBlank stop = false) (rest : List Char) :
    Splits ((",".intercalate (entries.map pairString)).toList ++ stop :: rest)
      ((listTree entries).flatMap AttributeTree.items) (stop :: rest) := by
  induction entries using listTree.induct with
  | case1 => exact .done _
  | case2 e =>
    have he := hkeys e List.mem_cons_self
    exact splits_pairString he hstop hblank rest
  | case3 e f more ih =>
    have he := hkeys e List.mem_cons_self
    have hmore := ih fun e' he' => hkeys e' (List.mem_cons_of_mem _ he')
    have hcomma : isStop ',' = true := by decide +kernel
    have hpair := (splits_pairString he hcomma (by decide) _).trans
      ((Splits.mark .comma _).trans hmore)
    rw [List.map_cons, List.map_cons, String.intercalate_cons_cons, String.toList_append,
      String.toList_append]
    simpa [listTree, AttributeTree.items, pairTree, optionItems, Separator.mark] using hpair

/-! ## Bundles -/

/-- A map from texts, in order. -/
def bundle (entries : List (String × Value)) : Value :=
  .map (entries.map fun e => (.text e.1, e.2))

def textPairs (entries : List (String × Value)) : List (String × String) :=
  entries.map fun e => (e.1, textOf e.2)

lemma map_readBack_textPairs (entries : List (String × Value)) :
    (textPairs entries).map (fun e => (⟨e.1, readBack e.2⟩ : Attribute)) =
      entries.map fun e => ⟨e.1, readBack (textOf e.2)⟩ :=
  List.map_map

/-- What can only fail with the fault of its argument fails on a list with the first fault. -/
lemma mapM_eq_elim {α β ε : Type} {f : α → Except ε β} {fault? : α → Option ε} {value : α → β}
    (h : ∀ a, f a = (fault? a).elim (.ok (value a)) .error) (items : List α) :
    items.mapM f = (items.findSome? fault?).elim (.ok (items.map value)) .error := by
  induction items with
  | nil => rfl
  | cons a rest ih =>
    rw [List.mapM_cons, h, ih, List.findSome?_cons]
    cases fault? a with
    | some e => rfl
    | none => cases rest.findSome? fault? <;> rfl

/-- The first result is found where there is one for the first time. -/
lemma findSome?_of_find? {α β : Type} {f : α → Option β} {p : α → Bool} {items : List α} {a : α}
    (hp : ∀ b ∈ items, p b = (f b).isSome) (h : items.find? p = some a) :
    items.findSome? f = f a := by
  induction items with
  | nil => cases h
  | cons b rest ih =>
    obtain ⟨hb, hrest⟩ := List.forall_mem_cons.mp hp
    rw [List.find?_cons, hb] at h
    rw [List.findSome?_cons]
    cases hf : f b with
    | some result =>
      rw [hf] at h
      obtain rfl := Option.some.inj h
      exact hf.symm
    | none =>
      rw [hf] at h
      exact ih hrest h

/-- What keeps an entry of a map from being written. -/
def entryFault? (e : String × Value) : Option Error :=
  if e.2.isNull then some (.noValue (.text e.1))
  else if e.2.isWritable then none else some .tooLong

lemma entryFault?_eq_none_iff {e : String × Value} :
    entryFault? e = none ↔ e.2 ≠ .null ∧ e.2.isWritable = true := by
  rw [entryFault?, ne_eq, ← Value.isNull_iff]
  cases e.2.isNull <;> simp

lemma encodeEntry_text (e : String × Value) :
    encodeEntry (.text e.1, e.2) =
      (entryFault? e).elim (.ok (pairString (e.1, textOf e.2))) .error := by
  change (if e.2.isNull then _ else pairText (.text e.1) e.2) = _
  rw [entryFault?]
  cases e.2.isNull with
  | true => rfl
  | false =>
    change pairText (.text e.1) e.2 = _
    rw [pairText]
    cases e.2.isWritable <;> rfl

/-- A map is written entry by entry, up to the first that cannot be written. -/
lemma encode_bundle_eq (entries : List (String × Value)) :
    encode (bundle entries) = (entries.findSome? entryFault?).elim
      (.ok (",".intercalate ((textPairs entries).map pairString))) .error := by
  rw [bundle, encode, List.mapM_map]
  change (entries.mapM fun e => encodeEntry (.text e.1, e.2)).map _ = _
  rw [mapM_eq_elim encodeEntry_text, textPairs, List.map_map]
  cases entries.findSome? entryFault? <;> rfl

lemma encode_bundle {entries : List (String × Value)} (hvalues : ∀ e ∈ entries, e.2 ≠ .null)
    (hwritable : ∀ e ∈ entries, e.2.isWritable = true) :
    encode (bundle entries) = .ok (",".intercalate ((textPairs entries).map pairString)) := by
  have hnone : entries.findSome? entryFault? = none :=
    List.findSome?_eq_none_iff.mpr fun e he =>
      entryFault?_eq_none_iff.mpr ⟨hvalues e he, hwritable e he⟩
  rw [encode_bundle_eq, hnone]
  rfl

/-- With a number too long in it, a map is turned down at the first value that is null or has such
a number. -/
lemma exists_encode_bundle_of_tooLong {entries : List (String × Value)}
    (h : ∃ e ∈ entries, e.2.isWritable = false) :
    ∃ e, entries.find? (fun e => e.2.isNull || !e.2.isWritable) = some e ∧
      encode (bundle entries) =
        .error (if e.2.isNull then .noValue (.text e.1) else .tooLong) := by
  obtain ⟨e', he', hlong⟩ := h
  have hsome : (entries.find? fun e => e.2.isNull || !e.2.isWritable).isSome := by
    rw [List.find?_isSome]
    exact ⟨e', he', by simp [hlong]⟩
  obtain ⟨e, he⟩ := Option.isSome_iff_exists.mp hsome
  have hfirst : ∀ b ∈ entries, (b.2.isNull || !b.2.isWritable) = (entryFault? b).isSome := by
    intro b _
    rw [entryFault?]
    cases b.2.isNull <;> cases b.2.isWritable <;> rfl
  refine ⟨e, he, ?_⟩
  have hfault : (e.2.isNull || !e.2.isWritable) = true :=
    List.find?_some (p := fun e : String × Value => e.2.isNull || !e.2.isWritable) he
  rw [encode_bundle_eq, findSome?_of_find? hfirst he, entryFault?]
  cases hnull : e.2.isNull with
  | true => rfl
  | false =>
    rw [hnull, Bool.false_or, Bool.not_eq_true'] at hfault
    rw [hfault]
    rfl

lemma encode_bundle_of_tooLong {entries : List (String × Value)}
    (hvalues : ∀ e ∈ entries, e.2 ≠ .null) (h : ∃ e ∈ entries, e.2.isWritable = false) :
    encode (bundle entries) = .error .tooLong := by
  obtain ⟨e, hfind, hencode⟩ := exists_encode_bundle_of_tooLong h
  have hnull : e.2.isNull = false := by
    rw [Bool.eq_false_iff, ne_eq, Value.isNull_iff]
    exact hvalues e (List.mem_of_find?_eq_some hfind)
  rw [hencode, hnull]
  rfl

end Dot.AttributeText

namespace Dot

open Grammar

/-- A text that scans as a derivation is read as what the derivation denotes. -/
lemma parse_eq_ok_of_scans {source : String} {d : Derivation}
    (h : Scans source.toList d.items) : parse source = .ok d.graphs := by
  obtain ⟨ts, hscan, hitems⟩ := h .start
  have hread : readFrom ts.stop .graph ts.items = .ok d.graphs := by
    rw [readFrom_eq_ok_iff, read?_eq_some_iff, hitems]
    exact ⟨d, rfl, rfl⟩
  rw [parse, scan, hscan]
  exact hread

end Dot

namespace Template

open Dot Dot.Grammar Dot.AttributeText

/-- A node with pairs in its attribute list, inside the braces of a directed graph. -/
def nodeTree (entries : List (String × String)) : Derivation :=
  [⟨none, .digraph, ⟨.word "digraph", by decide⟩, none,
    .cons (.node ⟨.word "A", by decide⟩ [listTree entries]) false .nil⟩]

/-- A node with pairs in its attribute list, as it is written. -/
def nodeText (entries : List (String × String)) : String :=
  "A [" ++ ",".intercalate (entries.map pairString) ++ "]"

def nodeGraph (attributes : List Attribute) : Dot.Graph :=
  ⟨.digraph, "", false, [.node ⟨"A", attributes⟩]⟩

lemma parse_nodeText (entries : List (String × String))
    (hkeys : ∀ e ∈ entries, isWord e.1.toList = true) :
    Dot.parse (TemplateKind.digraph.wrap (nodeText entries)) =
      .ok [nodeGraph (entries.map fun e => ⟨e.1, readBack e.2⟩)] := by
  have hspace {stop : Char} {rest : List Char} (hstop : Text.isBlank stop = false) :
      Splits (' ' :: stop :: rest) [] (stop :: rest) :=
    Splits.blank (by decide) (by decide) (by decide) hstop
  have hopening {w : List Char} {m : Mark} {rest : List Char} (hw : isWord w = true)
      (hm : Text.isBlank m.char = false) :
      Splits (w ++ ' ' :: m.char :: rest) [.word (String.ofList w), .mark m] rest :=
    (splits_word w hw (by decide +kernel)).trans ((hspace hm).trans (Splits.mark m rest))
  have hclosing : Splits [']', ' ', '}'] [.mark .closeBracket, .mark .closeBrace] [] :=
    (Splits.mark .closeBracket _).trans ((hspace (by decide)).trans (Splits.mark .closeBrace []))
  have hlist := (splits_listTree entries hkeys (by decide +kernel) (by decide) _).trans hclosing
  have hnode := (hopening (w := ['A']) (m := .openBracket) (by decide) (by decide)).trans hlist
  have hgraph := (hopening (w := "digraph".toList) (m := .openBrace) (by decide) (by decide)).trans
    ((hspace (by decide)).trans hnode)
  have hscan : Scans (TemplateKind.digraph.wrap (nodeText entries)).toList
      (nodeTree entries).items := by
    have hscans := hgraph.scans_append Scans.nil
    simpa [nodeText, TemplateKind.wrap, TemplateKind.name, String.toList_append, Mark.char,
      nodeTree, Derivation.items, GraphTree.items, optionItems, nameItems, BodyTree.items,
      StatementTree.items, ListsTree.items, ListTree.items, semicolonItems] using hscans
  rw [parse_eq_ok_of_scans hscan]
  simp only [nodeTree, Derivation.graphs, List.map_singleton, GraphTree.graph, BodyTree.statements,
    StatementTree.statement, ListsTree.attributes, List.flatMap_singleton,
    map_toAttribute_listTree]
  rfl

def nodeParts (entries : List (String × Value)) : List Part :=
  [.value (.text "A ["), .value (bundle entries), .value (.text "]")]

/-- A bundle between two texts. -/
def aroundBundle (before after : String) (entries : List (String × Value)) : List Part :=
  [.value (.text before), .value (bundle entries), .value (.text after)]

lemma describe_aroundBundle (before after : String) {entries : List (String × Value)}
    (hvalues : ∀ e ∈ entries, e.2 ≠ .null) (hwritable : ∀ e ∈ entries, e.2.isWritable = true) :
    Part.describe (aroundBundle before after entries) =
      .ok (before ++ ",".intercalate ((textPairs entries).map pairString) ++ after) := by
  have hbundle : Part.describeValue (bundle entries) =
      .ok (",".intercalate ((textPairs entries).map pairString)) :=
    encode_bundle hvalues hwritable
  rw [Part.describe, aroundBundle]
  simp only [List.mapM_cons, List.mapM_nil, Part.textPart, hbundle]
  rfl

/-- A bundle with too long a number in it makes no template. -/
lemma build_aroundBundle_of_tooLong (kind : TemplateKind) (before after : String)
    {entries : List (String × Value)} (hvalues : ∀ e ∈ entries, e.2 ≠ .null)
    (h : ∃ e ∈ entries, e.2.isWritable = false) :
    build kind (aroundBundle before after entries) = .error (.attributes .tooLong) := by
  have hbundle : Part.describeValue (bundle entries) = .error .tooLong :=
    encode_bundle_of_tooLong hvalues h
  have hdescribe : Part.describe (aroundBundle before after entries) = .error .tooLong := by
    rw [Part.describe, aroundBundle]
    simp only [List.mapM_cons, List.mapM_nil, Part.textPart, hbundle]
    rfl
  have hregistry : Registry.ofList
      ((aroundBundle before after entries).filterMap Part.transform?) = .ok .empty := rfl
  rw [build, hregistry, hdescribe]
  rfl

lemma build_eq {kind : TemplateKind} {parts : List Part} {registry : Registry} {body : String}
    (hregistry : Registry.ofList (parts.filterMap Part.transform?) = .ok registry)
    (hbody : Part.describe parts = .ok body) :
    build kind parts = ((Dot.parse (kind.wrap body)).mapError .parse).map fun graphs =>
      ⟨kind.wrap body, graphs, registry⟩ := by
  rw [build, hregistry, hbody]
  change ((Dot.parse (kind.wrap body)).mapError Error.parse).bind _ = _
  cases Dot.parse (kind.wrap body) <;> rfl

lemma build_eq_ok {kind : TemplateKind} {parts : List Part} {registry : Registry} {body : String}
    {graphs : List Dot.Graph}
    (hregistry : Registry.ofList (parts.filterMap Part.transform?) = .ok registry)
    (hbody : Part.describe parts = .ok body)
    (hgraphs : Dot.parse (kind.wrap body) = .ok graphs) :
    build kind parts = .ok ⟨kind.wrap body, graphs, registry⟩ := by
  rw [build_eq hregistry hbody, hgraphs]
  rfl

/-- A template with a bundle in the attribute list of a node has that node only, with the keys of
the bundle in its order, and each value read back. These are the texts of the values exactly when
no text is plain but for a line feed at its end. A bundle with too long a number in a value makes no
template at all. -/
theorem graphs_of_bundle (entries : List (String × Value))
    (hkeys : ∀ e ∈ entries, isWord e.1.toList = true) (hvalues : ∀ e ∈ entries, e.2 ≠ .null) :
    ((∀ e ∈ entries, e.2.isWritable = true) →
      ∃ t, build .digraph (nodeParts entries) = .ok t ∧
        t.graphs = [nodeGraph (entries.map fun e => ⟨e.1, readBack (textOf e.2)⟩)] ∧
        (t.graphs = [nodeGraph (entries.map fun e => ⟨e.1, textOf e.2⟩)] ↔
          ∀ e ∈ entries, isPlainLine (textOf e.2).toList = false)) ∧
    ((∃ e ∈ entries, e.2.isWritable = false) →
      build .digraph (nodeParts entries) = .error (.attributes .tooLong)) := by
  refine ⟨fun hwritable => ?_, build_aroundBundle_of_tooLong .digraph "A [" "]" hvalues⟩
  have hpairs : ∀ e ∈ textPairs entries, isWord e.1.toList = true := by
    intro e he
    obtain ⟨e', he', rfl⟩ := List.mem_map.mp he
    exact hkeys e' he'
  have hparse := parse_nodeText (textPairs entries) hpairs
  rw [map_readBack_textPairs] at hparse
  have hdescribe : Part.describe (nodeParts entries) = .ok (nodeText (textPairs entries)) :=
    describe_aroundBundle "A [" "]" hvalues hwritable
  refine ⟨_, build_eq_ok rfl hdescribe hparse, rfl, ?_⟩
  simp only [nodeGraph, List.cons.injEq, Dot.Graph.mk.injEq, Statement.node.injEq,
    NodeDeclaration.mk.injEq, true_and, and_true, List.map_inj_left, Attribute.mk.injEq,
    readBack_eq_self_iff]

/-- A line feed behind a word is lost, and nothing is made of a number of 4301 digits. -/
theorem graphs_of_lineFeed :
    (∀ e ∈ [("k", Value.text "abc\n"), ("n", .bool true)], isWord e.1.toList = true) ∧
    (∀ e ∈ [("k", Value.text "abc\n"), ("n", .bool true)], e.2 ≠ .null) ∧
    (∃ t, build .digraph (nodeParts [("k", .text "abc\n"), ("n", .bool true)]) = .ok t ∧
      t.graphs = [nodeGraph [⟨"k", "abc"⟩, ⟨"n", "true"⟩]] ∧
      t.graphs ≠ [nodeGraph [⟨"k", "abc\n"⟩, ⟨"n", "true"⟩]]) ∧
    build .digraph (nodeParts [("k", .lengthy)]) = .error (.attributes .tooLong) := by
  have hkeys : ∀ e ∈ [("k", Value.text "abc\n"), ("n", .bool true)], isWord e.1.toList = true := by
    decide
  have hvalues : ∀ e ∈ [("k", Value.text "abc\n"), ("n", .bool true)], e.2 ≠ .null := by
    simp
  obtain ⟨t, hbuild, hgraphs, hiff⟩ := (graphs_of_bundle _ hkeys hvalues).1 (by decide)
  refine ⟨hkeys, hvalues, ⟨t, hbuild, ?_, ?_⟩, ?_⟩
  · have htext : readBack (textOf (.text "abc\n")) = "abc" := by decide
    have hbool : readBack (textOf (.bool true)) = "true" := by decide
    rw [hgraphs, List.map_cons, List.map_cons, List.map_nil, htext, hbool]
  · intro h
    have hplain := hiff.mp h ("k", .text "abc\n") List.mem_cons_self
    revert hplain
    decide
  · exact (graphs_of_bundle [("k", .lengthy)] (List.forall_mem_singleton.mpr rfl)
      (List.forall_mem_singleton.mpr nofun)).2
        ⟨_, List.mem_singleton_self _, Value.isWritable_lengthy⟩

end Template

end DotBinding
