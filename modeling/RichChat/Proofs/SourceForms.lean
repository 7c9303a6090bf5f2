import RichChat.Proofs.Literal
import RichChat.Proofs.Started

/-!
# Source forms are read back

The source form of a mention is read back into the mention, and that of an emoji into the emoji
unless runs of underscores in its name pair up and make emphasis (`Node.ofSource_sourceForm`).

A source form is a literal line behind an angle bracket (`Markdown.IsPlain`) and one token. As
underscores are the only marks that can be in it, they alone decide whether its text stays in one
piece for `Token.scan` (`Node.ofSource_eq_iff`).
-/

namespace RichChat

/-- No two runs of underscores in the name of an emoji make emphasis of what is between them, where
the name stands between colons. -/
def CustomEmoji.Unpaired (e : CustomEmoji) : Prop :=
  Markdown.Underscores.Unpaired (Markdown.Underscores.runs ':' 0 (e.name.toList ++ [':']))

instance (e : CustomEmoji) : Decidable e.Unpaired :=
  inferInstanceAs (Decidable (Markdown.Underscores.Unpaired _))

namespace Builder

theorem foldl_text {b : Builder} (hb : b.code = none) (texts : List (List Char)) :
    (texts.map .text).foldl event b = { b with pending := b.pending ++ texts.flatten } := by
  induction texts generalizing b with
  | nil => simp
  | cons text texts ih =>
    have hevent : b.event (.text text) = { b with pending := b.pending ++ text } := by
      simp only [event, hb]
    rw [List.map_cons, List.foldl_cons, hevent,
      ih (show Builder.code { b with pending := b.pending ++ text } = none from hb)]
    simp

end Builder

/-- A paragraph of text with one token has the node of the token in it. -/
theorem Node.ofEvents_paragraph {events : List Event} {cs : List Char} (h : Event.Spell events cs)
    {t : Token} (hscan : Token.scan cs = [t]) {node : Node}
    (ht : ∀ (b : Builder) (link : Bool), b.token link t = b.push [node]) :
    ofEvents (Markdown.Block.around .paragraph events)
      = .mk .document [.mk .paragraph [node]] := by
  obtain ⟨texts, rfl, rfl⟩ := h
  let b : Builder :=
    { top := { kind := .paragraph }, below := [{ kind := .document }], pending := texts.flatten }
  have hstart : Builder.event {} (.start .paragraph) = { b with pending := [] } := rfl
  have hflush : b.flush = { b with pending := [] }.push [node] := by
    rw [Builder.flush, show b.pending = texts.flatten from rfl, hscan, List.foldl_cons,
      List.foldl_nil, ht]
  have hstop : b.event .stop
      = { top := { kind := .document, children := [.mk .paragraph [node]] } } := by
    simp only [Builder.event, Builder.stop, hflush]
    rfl
  rw [ofEvents, Markdown.Block.around, List.cons_append, List.foldl_cons, hstart,
    List.foldl_append, Builder.foldl_text rfl, List.foldl_cons, List.foldl_nil]
  exact congrArg Builder.finish hstop

theorem Container.tag_kind_of_isSpan {c : Container} (h : c.isSpan = true) :
    c.kind.tag = .inline ∨ c.kind.tag = .link := by
  cases c with
  | strong underscores => cases underscores <;> exact .inl rfl
  | emphasis | strikethrough => exact .inl rfl
  | link url => exact .inr rfl
  | _ => cases h

namespace Markdown.Reading

/-- Characters with a property that none of the special ones has. -/
theorem isSpecial_eq_false_of {p : Char → Bool}
    (hp : ['*', '_', '~', '\x60', '\\', '<', '!', '[', ']', '&', ' ', '\t', '\x0b', '\x0c'].all
      (!p ·) = true) {c : Char} (h : p c = true) : isSpecial c = false := by
  rw [← Bool.not_eq_true]
  intro hspecial
  have hc := List.all_eq_true.1 hp c
    (by simpa [isSpecial, Text.isInlineBlank, or_assoc] using hspecial)
  rw [h] at hc
  cases hc

theorem isSpecial_of_isDigit {c : Char} (h : c.isDigit = true) : isSpecial c = false :=
  isSpecial_eq_false_of rfl h

theorem eq_or_isSpecial_of_isWord {c : Char} (h : Text.isWord c = true) :
    c = '_' ∨ isSpecial c = false := by
  by_cases hc : c = '_'
  · exact .inl hc
  · refine .inr (isSpecial_eq_false_of (p := fun c => Text.isWord c && c != '_') rfl ?_)
    simp [h, hc]

theorem IsLiteral.nil : IsLiteral [] := fun c rest h => by simp at h

theorem IsLiteral.cons {c : Char} {cs : List Char}
    (hc : c = '_' ∨ isSpecial c = false ∨ c = '&' ∧ reference? cs = none) (h : IsLiteral cs) :
    IsLiteral (c :: cs) := by
  intro d rest hs
  rcases List.suffix_cons_iff.1 hs with heq | hs
  · cases heq
    exact hc
  · exact h d rest hs

theorem IsLiteral.append {xs ys : List Char} (hx : ∀ c ∈ xs, c = '_' ∨ isSpecial c = false)
    (hy : IsLiteral ys) : IsLiteral (xs ++ ys) := by
  induction xs with
  | nil => exact hy
  | cons x xs ih =>
    obtain ⟨hx, hxs⟩ := List.forall_mem_cons.1 hx
    exact .cons (hx.imp_right .inl) (ih hxs)

/-- The number and the bracket at the end of a source form. -/
theorem isLiteral_numeral {id : UInt64} {digits : List Char} (h : IsNumeral id digits) :
    IsLiteral (digits ++ ['>']) :=
  .append (fun c hc => .inr (isSpecial_of_isDigit (h.isDigit c hc)))
    (.cons (.inr (.inl (by decide))) .nil)

end Markdown.Reading

namespace Markdown

/-- A number and a bracket are no character reference. -/
theorem reference?_numeral {id : UInt64} {digits : List Char} (h : IsNumeral id digits) :
    reference? (digits ++ ['>']) = none := by
  have htake : (digits ++ ['>']).takeWhile Char.isAlphanum = digits :=
    Reading.takeWhile_append_eq
      (fun c hc => by simp [Char.isAlphanum, h.isDigit c hc]) (by simp)
  obtain ⟨d, digits, rfl⟩ := List.exists_cons_of_ne_nil h.ne_nil
  have hd : d ≠ '#' := by
    rintro rfl
    exact absurd (h.isDigit _ List.mem_cons_self) (by decide)
  unfold reference?
  split
  · simp_all
  · simp_all
  · simp_all
  · simp only [htake]
    simp

section Plain

variable {id : UInt64} {digits name : List Char}

theorem isPlain_mention (target : Reference) (h : IsNumeral id digits) :
    IsPlain (target.mark ++ (digits ++ ['>'])) := by
  have hat : '@' ∉ digits ++ ['>'] := by simp [h.not_mem]
  have htail := Reading.isLiteral_numeral h
  have hline {c : Char} (hc : c ∉ target.mark) (hdigit : c.isDigit = false) (hbracket : c ≠ '>') :
      c ∉ target.mark ++ (digits ++ ['>']) := by
    simp [hc, h.not_mem hdigit, hbracket]
  refine ⟨?_, ?_, hline ?_ rfl (by decide), hline ?_ rfl (by decide)⟩
  · cases target with
    | user user => exact .of_mark (.inl rfl) hat
    | role role => exact .of_mark (.inl rfl) (by simpa using hat)
    | channel channel => exact .of_mark (.inr (.inl rfl)) hat
  · cases target with
    | user user => exact .cons (.inr (.inl (by decide))) htail
    | role role =>
      have hrole := Reading.IsLiteral.cons (.inr (.inr ⟨rfl, reference?_numeral h⟩)) htail
      exact .cons (.inr (.inl (by decide))) hrole
    | channel channel => exact .cons (.inr (.inl (by decide))) htail
  · cases target <;> simp [Reference.mark]
  · cases target <;> simp [Reference.mark]

theorem isPlain_emoji (animated : Bool) (hname : ∀ c ∈ name, Text.isWord c = true)
    (h : IsNumeral id digits) :
    IsPlain ((if animated then ['a'] else []) ++ ':' :: (name ++ ':' :: (digits ++ ['>']))) := by
  have hnot {c : Char} (hword : Text.isWord c = false) (hdigit : c.isDigit = false)
      (hmarks : c ≠ ':' ∧ c ≠ '>') : c ∉ name ++ ':' :: (digits ++ ['>']) := by
    have hname' : c ∉ name := fun hmem => by simp [hname c hmem] at hword
    simp [hname', h.not_mem hdigit, hmarks]
  have hat : '@' ∉ name ++ ':' :: (digits ++ ['>']) := hnot (by decide) rfl (by decide)
  have htail : Reading.IsLiteral (':' :: (digits ++ ['>'])) :=
    .cons (.inr (.inl (by decide))) (Reading.isLiteral_numeral h)
  have hbody : Reading.IsLiteral (':' :: (name ++ ':' :: (digits ++ ['>']))) :=
    .cons (.inr (.inl (by decide)))
      (.append (fun c hc => Reading.eq_or_isSpecial_of_isWord (hname c hc)) htail)
  have hfeed : '\n' ∉ name ++ ':' :: (digits ++ ['>']) := hnot (by decide) rfl (by decide)
  have hreturn : '\x0d' ∉ name ++ ':' :: (digits ++ ['>']) := hnot (by decide) rfl (by decide)
  cases animated with
  | false =>
    exact ⟨.of_mark (.inr (.inr rfl)) hat, hbody, by simpa using hfeed, by simpa using hreturn⟩
  | true =>
    exact ⟨.of_animated hat, .cons (.inr (.inl (by decide))) hbody, by simpa using hfeed,
      by simpa using hreturn⟩

end Plain

end Markdown

namespace Node

open Markdown (Underscores IsPlain)

/-- A literal line that is one token gives the leaf of this token alone, unless underscores make
emphasis in it. -/
theorem ofSource_eq_iff {source : String} {body : List Char} (hsource : source.toList = '<' :: body)
    (h : IsPlain body) {t : Token} (hscan : Token.scan source.toList = [t]) {kind : NodeKind}
    (ht : ∀ (b : Builder) (link : Bool), b.token link t = b.push [.leaf kind])
    (hkind : kind.tag ≠ .inline ∧ kind.tag ≠ .link) :
    ofSource source = .mk .document [.mk .paragraph [.leaf kind]]
      ↔ Underscores.Unpaired (Underscores.runs '<' 0 body) := by
  obtain ⟨ps, hps, hinline, hevents⟩ := h.exists_parts
  rw [ofSource, hsource, hevents]
  constructor
  · intro htree
    by_contra hpaired
    obtain ⟨c, hc, hstart⟩ := hps.exists_start_resolve hpaired
    have hcode (language : Option String) :
        .startCode language ∉ Markdown.Block.around .paragraph (Markdown.Delimiter.resolve ps) := by
      have hno : .startCode language ∉ Markdown.Delimiter.resolve ps := fun hmem =>
        absurd (hinline.inline _ hmem) (by simp [Event.isInline])
      simpa [Markdown.Block.around] using hno
    obtain ⟨n, hn, hnode⟩ := exists_mem_preorder_ofEvents hcode
      (List.mem_append_left _ (List.mem_cons_of_mem _ hstart))
    have htag : n.kind.tag = .inline ∨ n.kind.tag = .link := by
      rw [hnode]
      exact Container.tag_kind_of_isSpan hc
    rw [htree] at hn
    simp only [preorder, preorderAll, leaf, List.append_nil, List.mem_cons, List.not_mem_nil,
      or_false] at hn
    rcases hn with rfl | rfl | rfl
    · rcases htag with htag | htag <;> cases htag
    · rcases htag with htag | htag <;> cases htag
    · exact htag.elim hkind.1 hkind.2
  · intro hunpaired
    exact ofEvents_paragraph (hps.spell_resolve hunpaired) (hsource ▸ hscan) ht

theorem ofSource_mention (target : Reference) :
    ofSource target.sourceForm = .mk .document [.mk .paragraph [.leaf (.mention target)]] := by
  have hnumeral := isNumeral_toString target.number
  have hsource : target.sourceForm.toList
      = '<' :: (target.mark ++ ((toString target.number.toNat).toList ++ ['>'])) := by
    simp [Token.toList_sourceForm_mention]
  have hscan : Token.scan target.sourceForm.toList = [.mention target] :=
    Token.scan_eq_singleton (Token.spells_mention target) (by simp [Token.IsText])
      (by simp [Token.Ends])
  have hnone : '_' ∉ target.mark ++ ((toString target.number.toNat).toList ++ ['>']) := by
    have hmark : '_' ∉ target.mark := by cases target <;> simp [Reference.mark]
    simp [hmark]
  refine (ofSource_eq_iff hsource (Markdown.isPlain_mention target hnumeral) hscan
    (fun _ _ => rfl) (by simp [NodeKind.tag])).2 ?_
  rw [Underscores.runs_eq_nil hnone]
  exact List.Pairwise.nil

theorem ofSource_emoji {e : CustomEmoji} (hne : e.name ≠ "")
    (hname : ∀ c ∈ e.name.toList, Text.isWord c = true) :
    ofSource e.sourceForm = .mk .document [.mk .paragraph [.leaf (.emoji e)]]
      ↔ e.Unpaired := by
  have hnumeral := isNumeral_toString e.id.value
  have hsource : e.sourceForm.toList = '<' :: ((if e.animated then ['a'] else [])
      ++ ':' :: (e.name.toList ++ ':' :: ((toString e.id.value.toNat).toList ++ ['>']))) := by
    simp [Token.toList_sourceForm_emoji]
  have hscan : Token.scan e.sourceForm.toList = [.emoji e] :=
    Token.scan_eq_singleton (Token.spells_emoji hne hname) (by simp [Token.IsText])
      (by simp [Token.Ends])
  rw [ofSource_eq_iff hsource (Markdown.isPlain_emoji e.animated hname hnumeral) hscan
    (fun _ _ => rfl) (by simp [NodeKind.tag]), CustomEmoji.Unpaired]
  -- What comes in front of the name and behind it has no underscores.
  have hstart (rest : List Char) :
      Underscores.runs '<' 0 ((if e.animated then ['a'] else []) ++ ':' :: rest)
        = Underscores.runs ':' 0 rest := by
    cases e.animated <;> rfl
  have hnone : '_' ∉ (toString e.id.value.toNat).toList ++ ['>'] := by simp
  rw [hstart, Underscores.runs_append_cons (by decide), Underscores.runs_eq_nil hnone,
    List.append_nil]

/-- Source forms are read back into the only node of a document with one paragraph: that of a
mention always, and that of an emoji unless runs of underscores in its name make emphasis. -/
theorem ofSource_sourceForm (target : Reference) (e : CustomEmoji) :
    ofSource target.sourceForm = .mk .document [.mk .paragraph [.leaf (.mention target)]] ∧
      (e.name ≠ "" → (∀ c ∈ e.name.toList, Text.isWord c = true) →
        (ofSource e.sourceForm = .mk .document [.mk .paragraph [.leaf (.emoji e)]]
          ↔ e.Unpaired)) :=
  ⟨ofSource_mention target, fun hne hname => ofSource_emoji hne hname⟩

/-- A name with underscores within it, and one with an underscore at its start only. -/
theorem ofSource_sourceForm_underscores :
    ofSource (CustomEmoji.mk "a_b_c" ⟨7⟩ true).sourceForm
        = .mk .document [.mk .paragraph [.leaf (.emoji ⟨"a_b_c", ⟨7⟩, true⟩)]] ∧
      ofSource (CustomEmoji.mk "_a" ⟨7⟩ false).sourceForm
        = .mk .document [.mk .paragraph [.leaf (.emoji ⟨"_a", ⟨7⟩, false⟩)]] :=
  have hread (e : CustomEmoji) := (ofSource_sourceForm (.user ⟨7⟩) e).2
  ⟨(hread _ (by decide) (List.all_eq_true.1 rfl)).2 (by decide),
    (hread _ (by decide) (List.all_eq_true.1 rfl)).2 (by decide)⟩

/-- Underscores around a name make emphasis of it. -/
theorem not_ofSource_sourceForm_emphasis :
    (∀ c ∈ "_a_".toList, Text.isWord c = true) ∧
      ofSource (CustomEmoji.mk "_a_" ⟨123⟩ false).sourceForm
        ≠ .mk .document [.mk .paragraph [.leaf (.emoji ⟨"_a_", ⟨123⟩, false⟩)]] := by
  have hname : ∀ c ∈ "_a_".toList, Text.isWord c = true := List.all_eq_true.1 rfl
  refine ⟨hname, fun htree => ?_⟩
  have hunpaired := (ofSource_emoji (e := ⟨"_a_", ⟨123⟩, false⟩) (by decide) hname).1 htree
  exact absurd hunpaired (by decide)

end Node

end RichChat
