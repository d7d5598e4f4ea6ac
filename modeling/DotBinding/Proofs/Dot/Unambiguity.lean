import DotBinding.Proofs.Dot.Reading

/-!
# Unambiguity

A row of items has one derivation at most. Each part of a tree is recovered, together with the
place where it ends, from any row that begins with its items, as long as what follows does not go
on with that part.
-/

namespace DotBinding.Dot

namespace Grammar

/-- The row does not begin with an item of a kind. -/
def StartsOff (P : Lexeme → Prop) (items : List Lexeme) : Prop :=
  ∀ l rest, items = l :: rest → ¬P l

/-- The items that go on with the statement in front of them. -/
def GoesOn (l : Lexeme) : Prop :=
  l = .mark .openBracket ∨ l = .mark .equals ∨ ∃ op, l = .edgeOp op

/-- The items that a block may go on or end with. -/
def InBody (l : Lexeme) : Prop :=
  l = .mark .openBrace ∨ l = .mark .closeBrace ∨ l.id?.isSome = true

lemma startsOff_cons {P : Lexeme → Prop} {l : Lexeme} {rest : List Lexeme} (h : ¬P l) :
    StartsOff P (l :: rest) := by
  intro l' rest' hrow
  obtain ⟨rfl, rfl⟩ := List.cons.inj hrow
  exact h

lemma StartsOff.imp {P Q : Lexeme → Prop} {items : List Lexeme} (h : StartsOff Q items)
    (hPQ : ∀ l, P l → Q l) : StartsOff P items :=
  fun l rest hrow hP => h l rest hrow (hPQ l hP)

lemma ne_mark_of_isSome_id? {l : Lexeme} (h : l.id?.isSome = true) (m : Mark) : l ≠ .mark m := by
  rintro rfl
  simp at h

lemma NameItem.isSome_id? (n : NameItem) : n.val.id?.isSome = true := by
  obtain ⟨text, htext⟩ := Option.isSome_iff_exists.mp n.property
  rw [(Lexeme.name?_eq_some_iff.mp htext).2]
  rfl

lemma NameItem.keyword?_eq_none (n : NameItem) : n.val.keyword? = none := by
  obtain ⟨text, htext⟩ := Option.isSome_iff_exists.mp n.property
  exact (Lexeme.name?_eq_some_iff.mp htext).1

lemma KeywordItem.isSome_id? {k : Keyword} (i : KeywordItem k) : i.val.id?.isSome = true := by
  obtain ⟨l, hl⟩ := i
  change l.id?.isSome = true
  cases l <;> simp_all [Lexeme.id?]

lemma KeywordItem.eq_of_val_eq {k k' : Keyword} {i : KeywordItem k} {i' : KeywordItem k'}
    (h : i.val = i'.val) : k = k' := by
  have hk : some k = some k' := by rw [← i.property, h, i'.property]
  exact Option.some.inj hk

lemma NameItem.val_ne_keyword {k : Keyword} (n : NameItem) (i : KeywordItem k) :
    n.val ≠ i.val := by
  intro h
  have hk := n.keyword?_eq_none
  rw [h, i.property] at hk
  contradiction

/-- An optional item is told from what follows when nothing that follows begins like it. -/
lemma optionItems_append_inj {α : Type} {f : α → Lexeme} (hf : ∀ a b, f a = f b → a = b)
    {o o' : Option α} {r r' : List Lexeme} (hr : StartsOff (fun l => ∃ a, l = f a) r)
    (hr' : StartsOff (fun l => ∃ a, l = f a) r')
    (h : optionItems (fun a => [f a]) o ++ r = optionItems (fun a => [f a]) o' ++ r') :
    o = o' ∧ r = r' := by
  cases o with
  | none =>
    cases o' with
    | none => exact ⟨rfl, h⟩
    | some b => exact absurd ⟨b, rfl⟩ (hr (f b) r' h)
  | some a =>
    cases o' with
    | none => exact absurd ⟨a, rfl⟩ (hr' (f a) r h.symm)
    | some b =>
      obtain ⟨hab, hrr⟩ := List.cons.inj h
      rw [hf a b hab]
      exact ⟨rfl, hrr⟩

/-! ## Attribute lists and links -/

lemma Separator.mark_injective (s s' : Separator)
    (h : Lexeme.mark s.mark = Lexeme.mark s'.mark) : s = s' := by
  cases s <;> cases s' <;> first | rfl | cases h

lemma ListTree.startsOff_separator (t : ListTree) (r : List Lexeme) :
    StartsOff (fun l => ∃ s : Separator, l = .mark s.mark)
      (t.flatMap AttributeTree.items ++ .mark .closeBracket :: r) := by
  cases t with
  | nil =>
    apply startsOff_cons
    rintro ⟨s, h⟩
    cases s <;> cases h
  | cons a t =>
    apply startsOff_cons
    rintro ⟨s, h⟩
    exact ne_mark_of_isSome_id? a.key.property s.mark h

lemma ListTree.append_inj (t t' : ListTree) (r r' : List Lexeme)
    (h : t.flatMap AttributeTree.items ++ .mark .closeBracket :: r =
      t'.flatMap AttributeTree.items ++ .mark .closeBracket :: r') : t = t' ∧ r = r' := by
  induction t generalizing t' with
  | nil =>
    cases t' with
    | nil => exact ⟨rfl, (List.cons.inj h).2⟩
    | cons a' t' =>
      exact absurd (List.cons.inj h).1.symm (ne_mark_of_isSome_id? a'.key.property _)
  | cons a t ih =>
    cases t' with
    | nil => exact absurd (List.cons.inj h).1 (ne_mark_of_isSome_id? a.key.property _)
    | cons a' t' =>
      obtain ⟨key, value, separator⟩ := a
      obtain ⟨key', value', separator'⟩ := a'
      simp only [List.flatMap_cons, AttributeTree.items, List.cons_append, List.append_assoc,
        List.cons.injEq, true_and] at h
      obtain ⟨hkey, hvalue, hrest⟩ := h
      obtain ⟨rfl, hrow⟩ := optionItems_append_inj Separator.mark_injective
        (ListTree.startsOff_separator t r) (ListTree.startsOff_separator t' r') hrest
      obtain ⟨rfl, hr⟩ := ih t' hrow
      rw [Subtype.ext hkey, Subtype.ext hvalue]
      exact ⟨rfl, hr⟩

lemma ListsTree.append_inj (ts ts' : ListsTree) {r r' : List Lexeme}
    (hr : StartsOff (· = .mark .openBracket) r) (hr' : StartsOff (· = .mark .openBracket) r')
    (h : ts.items ++ r = ts'.items ++ r') : ts = ts' ∧ r = r' := by
  induction ts generalizing ts' with
  | nil =>
    cases ts' with
    | nil => exact ⟨rfl, h⟩
    | cons t' ts' => exact absurd rfl (hr _ _ h)
  | cons t ts ih =>
    cases ts' with
    | nil => exact absurd rfl (hr' _ _ h.symm)
    | cons t' ts' =>
      simp only [ListsTree.items, List.flatMap_cons, ListTree.items, List.cons_append,
        List.append_assoc, List.nil_append, List.cons.injEq, true_and] at h
      obtain ⟨rfl, hrest⟩ := ListTree.append_inj t t' _ _ h
      obtain ⟨rfl, hrow⟩ := ih ts' hrest
      exact ⟨rfl, hrow⟩

lemma linkItems_append_inj (links links' : List LinkTree) {r r' : List Lexeme}
    (hr : StartsOff (fun l => ∃ op, l = .edgeOp op) r)
    (hr' : StartsOff (fun l => ∃ op, l = .edgeOp op) r')
    (h : links.flatMap LinkTree.items ++ r = links'.flatMap LinkTree.items ++ r') :
    links = links' ∧ r = r' := by
  induction links generalizing links' with
  | nil =>
    cases links' with
    | nil => exact ⟨rfl, h⟩
    | cons t' links' => exact absurd ⟨t'.op, rfl⟩ (hr _ _ h)
  | cons t links ih =>
    cases links' with
    | nil => exact absurd ⟨t.op, rfl⟩ (hr' _ _ h.symm)
    | cons t' links' =>
      obtain ⟨op, name⟩ := t
      obtain ⟨op', name'⟩ := t'
      simp only [List.flatMap_cons, LinkTree.items, List.cons_append, List.nil_append,
        List.cons.injEq, Lexeme.edgeOp.injEq] at h
      obtain ⟨hop, hname, hrest⟩ := h
      obtain ⟨rfl, hrow⟩ := ih links' hrest
      rw [hop, Subtype.ext hname]
      exact ⟨rfl, hrow⟩

lemma ListsTree.startsOff_append (ts : ListsTree) {r : List Lexeme} (hr : StartsOff GoesOn r) :
    StartsOff (fun l => l = .mark .equals ∨ ∃ op, l = .edgeOp op) (ts.items ++ r) := by
  cases ts with
  | nil => exact hr.imp fun l hl => Or.inr hl
  | cons t ts =>
    apply startsOff_cons
    simp

/-! ## Statements and blocks -/

lemma StatementTree.exists_items_eq (t : StatementTree) :
    ∃ l rest, t.items = l :: rest ∧ (l = .mark .openBrace ∨ l.id?.isSome = true) := by
  cases t with
  | attributes target keyword lists =>
    exact ⟨keyword.val, _, rfl, Or.inr keyword.isSome_id?⟩
  | subgraph opening body =>
    rcases opening with _ | ⟨keyword, name⟩
    · exact ⟨.mark .openBrace, _, rfl, Or.inl rfl⟩
    · exact ⟨keyword.val, _, rfl, Or.inr keyword.isSome_id?⟩
  | assignment key value => exact ⟨key.val, _, rfl, Or.inr key.isSome_id?⟩
  | edge first link links lists => exact ⟨first.val, _, rfl, Or.inr first.isSome_id?⟩
  | node name lists => exact ⟨name.val, _, rfl, Or.inr name.isSome_id?⟩

lemma StatementTree.append_ne_closeBrace (t : StatementTree) (r r' : List Lexeme) :
    t.items ++ r ≠ .mark .closeBrace :: r' := by
  obtain ⟨l, rest, ht, hl⟩ := t.exists_items_eq
  rw [ht, List.cons_append]
  intro h
  obtain rfl := (List.cons.inj h).1
  rcases hl with hl | hl
  · cases hl
  · simp at hl

lemma BodyTree.exists_append_eq (b : BodyTree) (r : List Lexeme) :
    ∃ l rest, b.items ++ .mark .closeBrace :: r = l :: rest ∧ InBody l := by
  cases b with
  | nil => exact ⟨.mark .closeBrace, r, rfl, Or.inr (Or.inl rfl)⟩
  | cons t semicolon b =>
    obtain ⟨l, rest, ht, hl⟩ := t.exists_items_eq
    rw [BodyTree.items, ht]
    refine ⟨l, _, rfl, ?_⟩
    rcases hl with hl | hl
    · exact Or.inl hl
    · exact Or.inr (Or.inr hl)

lemma BodyTree.startsOff_append {P : Lexeme → Prop} (hP : ∀ l, InBody l → ¬P l) (b : BodyTree)
    (r : List Lexeme) : StartsOff P (b.items ++ .mark .closeBrace :: r) := by
  obtain ⟨l, rest, hb, hl⟩ := b.exists_append_eq r
  rw [hb]
  exact startsOff_cons (hP l hl)

lemma InBody.not_goesOn {l : Lexeme} (h : InBody l) : ¬GoesOn l := by
  rintro (rfl | rfl | ⟨op, rfl⟩) <;> simp [InBody] at h

lemma InBody.ne_semicolon {l : Lexeme} (h : InBody l) : l ≠ .mark .semicolon := by
  rintro rfl
  simp [InBody] at h

lemma semicolonItems_append_inj {semicolon semicolon' : Bool} {r r' : List Lexeme}
    (hr : StartsOff (· = .mark .semicolon) r) (hr' : StartsOff (· = .mark .semicolon) r')
    (h : semicolonItems semicolon ++ r = semicolonItems semicolon' ++ r') :
    semicolon = semicolon' ∧ r = r' := by
  cases semicolon with
  | false =>
    cases semicolon' with
    | false => exact ⟨rfl, h⟩
    | true => exact absurd rfl (hr _ _ h)
  | true =>
    cases semicolon' with
    | false => exact absurd rfl (hr' _ _ h.symm)
    | true => exact ⟨rfl, (List.cons.inj h).2⟩

lemma startsOff_behind (semicolon : Bool) (b : BodyTree) (r : List Lexeme) :
    StartsOff GoesOn (semicolonItems semicolon ++ (b.items ++ .mark .closeBrace :: r)) := by
  cases semicolon with
  | false => exact b.startsOff_append (fun l hl => hl.not_goesOn) r
  | true =>
    apply startsOff_cons
    simp [GoesOn]

lemma nameItems_append_inj (n n' : Option NameItem) {r r' : List Lexeme}
    (h : nameItems n ++ .mark .openBrace :: r = nameItems n' ++ .mark .openBrace :: r') :
    n = n' ∧ r = r' := by
  have hbrace (row : List Lexeme) :
      StartsOff (fun l => ∃ n : NameItem, l = n.val) (.mark .openBrace :: row) := by
    apply startsOff_cons
    rintro ⟨n, hn⟩
    exact ne_mark_of_isSome_id? n.isSome_id? _ hn.symm
  obtain ⟨rfl, hrow⟩ := optionItems_append_inj (f := fun n : NameItem => n.val)
    (fun a b hab => Subtype.ext hab) (hbrace r) (hbrace r') h
  exact ⟨rfl, (List.cons.inj hrow).2⟩

lemma OpeningTree.append_inj (o o' : OpeningTree) {r r' : List Lexeme}
    (h : o.items ++ .mark .openBrace :: r = o'.items ++ .mark .openBrace :: r') :
    o = o' ∧ r = r' := by
  rcases o with _ | ⟨keyword, name⟩
  · rcases o' with _ | ⟨keyword', name'⟩
    · exact ⟨rfl, (List.cons.inj h).2⟩
    · exact absurd (List.cons.inj h).1.symm (ne_mark_of_isSome_id? keyword'.isSome_id? _)
  · rcases o' with _ | ⟨keyword', name'⟩
    · exact absurd (List.cons.inj h).1 (ne_mark_of_isSome_id? keyword.isSome_id? _)
    · obtain ⟨hkeyword, hrest⟩ := List.cons.inj h
      obtain rfl : keyword = keyword' := Subtype.ext hkeyword
      obtain ⟨rfl, hrow⟩ := nameItems_append_inj name name' hrest
      exact ⟨rfl, hrow⟩

lemma Target.keyword_injective (target target' : Target)
    (h : target.keyword = target'.keyword) : target = target' := by
  cases target <;> cases target' <;> first | rfl | cases h

lemma Target.keyword_ne_subgraph (target : Target) : target.keyword ≠ .subgraph := by
  cases target <;> simp [Target.keyword]

namespace StatementTree

variable {t : StatementTree} {r row : List Lexeme}

lemma eq_attributes {target : Target} {keyword : KeywordItem target.keyword}
    (h : t.items ++ r = keyword.val :: row) :
    ∃ lists, t = .attributes target keyword lists ∧ row = lists.items ++ r := by
  cases t with
  | attributes target' keyword' lists =>
    obtain ⟨hkeyword, hrow⟩ := List.cons.inj h
    obtain rfl := Target.keyword_injective target' target (KeywordItem.eq_of_val_eq hkeyword)
    obtain rfl : keyword' = keyword := Subtype.ext hkeyword
    exact ⟨lists, rfl, hrow.symm⟩
  | subgraph opening body =>
    rcases opening with _ | ⟨keyword', name⟩
    · exact absurd (List.cons.inj h).1.symm (ne_mark_of_isSome_id? keyword.isSome_id? _)
    · have hkeyword := KeywordItem.eq_of_val_eq (List.cons.inj h).1
      exact absurd hkeyword.symm (Target.keyword_ne_subgraph target)
  | assignment key value => exact absurd (List.cons.inj h).1 (key.val_ne_keyword keyword)
  | edge first link links lists => exact absurd (List.cons.inj h).1 (first.val_ne_keyword keyword)
  | node name lists => exact absurd (List.cons.inj h).1 (name.val_ne_keyword keyword)

lemma eq_subgraph {opening : OpeningTree}
    (h : t.items ++ r = opening.items ++ .mark .openBrace :: row) :
    ∃ body, t = .subgraph opening body ∧ row = body.items ++ .mark .closeBrace :: r := by
  have hname (n : NameItem) (rest : List Lexeme)
      (hn : n.val :: rest = opening.items ++ .mark .openBrace :: row) : False := by
    rcases opening with _ | ⟨keyword, name⟩
    · exact ne_mark_of_isSome_id? n.isSome_id? _ (List.cons.inj hn).1
    · exact n.val_ne_keyword keyword (List.cons.inj hn).1
  cases t with
  | attributes target keyword lists =>
    rcases opening with _ | ⟨keyword', name⟩
    · exact absurd (List.cons.inj h).1 (ne_mark_of_isSome_id? keyword.isSome_id? _)
    · have hkeyword := KeywordItem.eq_of_val_eq (List.cons.inj h).1
      exact absurd hkeyword (Target.keyword_ne_subgraph target)
  | subgraph opening' body =>
    simp only [StatementTree.items, List.append_assoc, List.cons_append, List.nil_append] at h
    obtain ⟨rfl, hrow⟩ := OpeningTree.append_inj opening' opening h
    exact ⟨body, rfl, hrow.symm⟩
  | assignment key value => exact (hname key _ h).elim
  | edge first link links lists => exact (hname first _ h).elim
  | node name lists => exact (hname name _ h).elim

lemma eq_named {n : NameItem} (h : t.items ++ r = n.val :: row) :
    (∃ value, t = .assignment n value ∧ row = .mark .equals :: value.val :: r) ∨
    (∃ link links lists, t = .edge n link links lists ∧
      row = (link :: links).flatMap LinkTree.items ++ (lists.items ++ r)) ∨
    ∃ lists, t = .node n lists ∧ row = lists.items ++ r := by
  cases t with
  | attributes target keyword lists =>
    exact absurd (List.cons.inj h).1.symm (n.val_ne_keyword keyword)
  | subgraph opening body =>
    rcases opening with _ | ⟨keyword, name⟩
    · exact absurd (List.cons.inj h).1.symm (ne_mark_of_isSome_id? n.isSome_id? _)
    · exact absurd (List.cons.inj h).1.symm (n.val_ne_keyword keyword)
  | assignment key value =>
    obtain ⟨hkey, hrow⟩ := List.cons.inj h
    obtain rfl : key = n := Subtype.ext hkey
    exact Or.inl ⟨value, rfl, hrow.symm⟩
  | edge first link links lists =>
    obtain ⟨hfirst, hrow⟩ := List.cons.inj h
    obtain rfl : first = n := Subtype.ext hfirst
    refine Or.inr (Or.inl ⟨link, links, lists, rfl, ?_⟩)
    rw [← hrow]
    simp
  | node name lists =>
    obtain ⟨hname, hrow⟩ := List.cons.inj h
    obtain rfl : name = n := Subtype.ext hname
    exact Or.inr (Or.inr ⟨lists, rfl, hrow.symm⟩)

end StatementTree

mutual

theorem StatementTree.append_inj (t t' : StatementTree) (r r' : List Lexeme)
    (hr : StartsOff GoesOn r) (hr' : StartsOff GoesOn r') (h : t.items ++ r = t'.items ++ r') :
    t = t' ∧ r = r' := by
  have hbracket : StartsOff (· = .mark .openBracket) r := hr.imp fun l hl => Or.inl hl
  have hbracket' : StartsOff (· = .mark .openBracket) r' := hr'.imp fun l hl => Or.inl hl
  match t with
  | .attributes target keyword lists =>
    obtain ⟨lists', rfl, hrow⟩ := StatementTree.eq_attributes h.symm
    obtain ⟨rfl, hrest⟩ := ListsTree.append_inj lists lists' hbracket hbracket' hrow
    exact ⟨rfl, hrest⟩
  | .subgraph opening body =>
    rw [StatementTree.items, List.append_assoc, List.cons_append, List.append_assoc] at h
    obtain ⟨body', rfl, hrow⟩ := StatementTree.eq_subgraph h.symm
    obtain ⟨rfl, hrest⟩ := BodyTree.append_inj body body' r r' hrow
    exact ⟨rfl, hrest⟩
  -- the item behind the name tells an assignment, an edge and a node apart
  | .assignment key value =>
    rcases StatementTree.eq_named h.symm with
      ⟨value', rfl, hrow⟩ | ⟨link', links', lists', rfl, hrow⟩ | ⟨lists', rfl, hrow⟩
    · obtain ⟨hvalue, hrest⟩ := List.cons.inj (List.cons.inj hrow).2
      obtain rfl : value = value' := Subtype.ext hvalue
      exact ⟨rfl, hrest⟩
    · cases (List.cons.inj hrow).1
    · exact absurd (Or.inl rfl) (lists'.startsOff_append hr' _ _ hrow.symm)
  | .edge first link links lists =>
    have hlists := (lists.startsOff_append hr).imp fun l hl => Or.inr hl
    rcases StatementTree.eq_named h.symm with
      ⟨value', rfl, hrow⟩ | ⟨link', links', lists', rfl, hrow⟩ | ⟨lists', rfl, hrow⟩
    · cases (List.cons.inj hrow).1
    · have hlists' := (lists'.startsOff_append hr').imp fun l hl => Or.inr hl
      obtain ⟨hlinks, hbehind⟩ := linkItems_append_inj (link :: links) (link' :: links') hlists
        hlists' (by simpa using hrow)
      obtain ⟨rfl, rfl⟩ := List.cons.inj hlinks
      obtain ⟨rfl, hrest⟩ := ListsTree.append_inj lists lists' hbracket hbracket' hbehind
      exact ⟨rfl, hrest⟩
    · exact absurd (Or.inr ⟨link.op, rfl⟩) (lists'.startsOff_append hr' _ _ hrow.symm)
  | .node name lists =>
    rcases StatementTree.eq_named h.symm with
      ⟨value', rfl, hrow⟩ | ⟨link', links', lists', rfl, hrow⟩ | ⟨lists', rfl, hrow⟩
    · exact absurd (Or.inl rfl) (lists.startsOff_append hr _ _ hrow)
    · exact absurd (Or.inr ⟨link'.op, rfl⟩) (lists.startsOff_append hr _ _ hrow)
    · obtain ⟨rfl, hrest⟩ := ListsTree.append_inj lists lists' hbracket hbracket' hrow
      exact ⟨rfl, hrest⟩

theorem BodyTree.append_inj (b b' : BodyTree) (r r' : List Lexeme)
    (h : b.items ++ .mark .closeBrace :: r = b'.items ++ .mark .closeBrace :: r') :
    b = b' ∧ r = r' := by
  match b, b' with
  | .nil, .nil => exact ⟨rfl, (List.cons.inj h).2⟩
  | .nil, .cons t' semicolon' b' =>
    rw [BodyTree.items, BodyTree.items, List.append_assoc] at h
    exact absurd h.symm (t'.append_ne_closeBrace _ _)
  | .cons t semicolon b, .nil =>
    rw [BodyTree.items, BodyTree.items, List.append_assoc] at h
    exact absurd h (t.append_ne_closeBrace _ _)
  | .cons t semicolon b, .cons t' semicolon' b' =>
    simp only [BodyTree.items, List.append_assoc] at h
    obtain ⟨rfl, hbehind⟩ := StatementTree.append_inj t t' _ _ (startsOff_behind semicolon b r)
      (startsOff_behind semicolon' b' r') h
    obtain ⟨rfl, hrest⟩ := semicolonItems_append_inj
      (b.startsOff_append (fun l hl => hl.ne_semicolon) r)
      (b'.startsOff_append (fun l hl => hl.ne_semicolon) r') hbehind
    obtain ⟨rfl, hrow⟩ := BodyTree.append_inj b b' r r' hrest
    exact ⟨rfl, hrow⟩

end

/-! ## Graphs and descriptions -/

lemma GraphKind.keyword_injective (kind kind' : GraphKind)
    (h : kind.keyword = kind'.keyword) : kind = kind' := by
  cases kind <;> cases kind' <;> first | rfl | cases h

lemma GraphTree.append_inj (t t' : GraphTree) (r r' : List Lexeme)
    (h : t.items ++ r = t'.items ++ r') : t = t' ∧ r = r' := by
  obtain ⟨strict, kind, keyword, name, body⟩ := t
  obtain ⟨strict', kind', keyword', name', body'⟩ := t'
  simp only [GraphTree.items, List.append_assoc, List.cons_append, List.nil_append] at h
  have hkind {k : GraphKind} (i : KeywordItem k.keyword) (row : List Lexeme) :
      StartsOff (fun l => ∃ s : KeywordItem .strict, l = s.val) (i.val :: row) := by
    apply startsOff_cons
    rintro ⟨s, hs⟩
    have hk := KeywordItem.eq_of_val_eq hs
    cases k <;> cases hk
  obtain ⟨rfl, hkeyword⟩ := optionItems_append_inj (f := fun s : KeywordItem .strict => s.val)
    (fun a b hab => Subtype.ext hab) (hkind keyword _) (hkind keyword' _) h
  obtain ⟨hval, hname⟩ := List.cons.inj hkeyword
  obtain rfl := GraphKind.keyword_injective kind kind' (KeywordItem.eq_of_val_eq hval)
  obtain rfl : keyword = keyword' := Subtype.ext hval
  obtain ⟨rfl, hbody⟩ := nameItems_append_inj name name' hname
  obtain ⟨rfl, hrow⟩ := BodyTree.append_inj body body' r r' hbody
  exact ⟨rfl, hrow⟩

lemma GraphTree.items_ne_nil (t : GraphTree) : t.items ≠ [] := by
  simp [GraphTree.items]

lemma Derivation.items_injective (d d' : Derivation) (h : d.items = d'.items) : d = d' := by
  induction d generalizing d' with
  | nil =>
    cases d' with
    | nil => rfl
    | cons t' d' => exact absurd (List.append_eq_nil_iff.mp h.symm).1 t'.items_ne_nil
  | cons t d ih =>
    cases d' with
    | nil => exact absurd (List.append_eq_nil_iff.mp h).1 t.items_ne_nil
    | cons t' d' =>
      obtain ⟨rfl, hrest⟩ := GraphTree.append_inj t t' _ _ h
      rw [ih d' hrest]

end Grammar

/-! ## Chains -/

mutual

/-- The edges of a statement at any depth, in the order written. -/
def Statement.edges : Statement → List EdgeDeclaration
  | .node _ => []
  | .edge e => [e]
  | .attributes _ _ => []
  | .subgraph _ statements => edgesOf statements

def edgesOf : List Statement → List EdgeDeclaration
  | [] => []
  | s :: rest => s.edges ++ edgesOf rest

end

def Graph.edges (g : Graph) : List EdgeDeclaration :=
  edgesOf g.statements

namespace Grammar

mutual

lemma StatementTree.two_le_length (t : StatementTree) (e : EdgeDeclaration)
    (he : e ∈ t.statement.edges) : 2 ≤ e.chain.length := by
  cases t with
  | subgraph opening body => exact BodyTree.two_le_length body e he
  | edge first link links lists =>
    obtain rfl := List.mem_singleton.mp he
    simp only [List.length_cons]
    omega
  | _ => cases he

lemma BodyTree.two_le_length (b : BodyTree) (e : EdgeDeclaration)
    (he : e ∈ edgesOf b.statements) : 2 ≤ e.chain.length := by
  cases b with
  | nil => cases he
  | cons t semicolon b =>
    rcases List.mem_append.mp he with ht | hb
    · exact StatementTree.two_le_length t e ht
    · exact BodyTree.two_le_length b e hb

end

end Grammar

open Grammar

lemma edges_subset_edgesOf {s : Statement} {statements : List Statement} (h : s ∈ statements) :
    s.edges ⊆ edgesOf statements := by
  induction statements with
  | nil => cases h
  | cons first rest ih =>
    rw [edgesOf]
    rcases List.mem_cons.mp h with rfl | hrest
    · exact List.subset_append_left _ _
    · exact List.Subset.trans (ih hrest) (List.subset_append_right _ _)

lemma Graph.edgeDeclarations_subset (g : Graph) : g.edgeDeclarations ⊆ g.edges := by
  intro e he
  obtain ⟨s, hs, hse⟩ := List.mem_filterMap.mp he
  cases s with
  | edge e' =>
    obtain rfl := Option.some.inj hse
    exact edges_subset_edgesOf hs (List.mem_singleton.mpr rfl)
  | _ => cases hse

lemma two_le_length_of_mem_edges {source : String} {graphs : List Graph}
    (h : parse source = .ok graphs) {g : Graph} (hg : g ∈ graphs) {e : EdgeDeclaration}
    (he : e ∈ g.edges) : 2 ≤ e.chain.length := by
  unfold parse at h
  cases hscan : scan source with
  | error e' =>
    rw [hscan] at h
    cases h
  | ok tokens =>
    rw [hscan] at h
    have hread := (readFrom_eq_ok_iff tokens.stop .graph tokens.items graphs).mp h
    obtain ⟨d, -, rfl⟩ := (read?_eq_some_iff _ _ _).mp hread
    obtain ⟨t, -, rfl⟩ := List.mem_map.mp hg
    exact BodyTree.two_le_length t.body e he

lemma two_le_length_of_parse {source : String} {graphs : List Graph}
    (h : parse source = .ok graphs) {g : Graph} (hg : g ∈ graphs) {e : EdgeDeclaration}
    (he : e ∈ g.edgeDeclarations) : 2 ≤ e.chain.length :=
  two_le_length_of_mem_edges h hg (g.edgeDeclarations_subset he)

/-- Reading succeeds on the items of a derivation and on nothing else, and gives the graphs that
the derivation denotes. There is one derivation at most, and each edge, at whatever depth, joins at
least two names. -/
theorem readFrom_eq_ok_iff_derivation (stop : Position) (tokens : List Token) :
    (∀ graphs, readFrom stop .graph tokens = .ok graphs ↔
      ∃ d : Derivation, d.items = tokens.map Token.lexeme ∧ d.graphs = graphs) ∧
    (∀ d d' : Derivation, d.items = tokens.map Token.lexeme →
      d'.items = tokens.map Token.lexeme → d = d') ∧
    (∀ graphs, readFrom stop .graph tokens = .ok graphs →
      ∀ g ∈ graphs, ∀ e ∈ g.edges, 2 ≤ e.chain.length) := by
  have hread (graphs : List Graph) : readFrom stop .graph tokens = .ok graphs ↔
      ∃ d : Derivation, d.items = tokens.map Token.lexeme ∧ d.graphs = graphs := by
    rw [readFrom_eq_ok_iff, read?_eq_some_iff]
    simp only [Point.Expects, eq_comm]
  refine ⟨hread, ?_, ?_⟩
  · intro d d' hd hd'
    exact Derivation.items_injective d d' (hd.trans hd'.symm)
  · intro graphs hok g hg e he
    obtain ⟨d, -, rfl⟩ := (hread graphs).mp hok
    obtain ⟨t, -, rfl⟩ := List.mem_map.mp hg
    exact BodyTree.two_le_length t.body e he

end DotBinding.Dot
