import RichChat.Proofs.Unbroken
import RichChat.Proofs.Underscores

/-!
# Literal lines behind an angle bracket

A line that starts with an angle bracket is a paragraph, unless the bracket opens a block of tags
(`events_bracket`). If it opens nothing at all (`OpensNothing`) and no character behind it has a
meaning but underscores (`Reading.IsLiteral`), the events are those that the runs of underscores
make of the line (`IsPlain.exists_parts`).
-/

namespace RichChat.Markdown

/-- A bracket in front of a text opens nothing: no address, no tag and no block of tags. -/
structure OpensNothing (body : List Char) : Prop where
  address : Autolink.scan? body = none
  tag : Tag.inline? (ofChars body) = none
  block : Outline.htmlStart? ('<' :: body) = none

namespace Outline

variable {body : List Char}

theorem indent_bracket (body : List Char) :
    Cursor.indent 4 { rest := '<' :: body } = (0, { rest := '<' :: body }) := by
  rfl

theorem openContainers_bracket (s : Outline) (fuel : Nat) (body : List Char) :
    openContainers fuel s { rest := '<' :: body } = (s, some { rest := '<' :: body }) := by
  cases fuel with
  | zero => rfl
  | succ fuel =>
    have hitem : itemMark? ('<' :: body) = none := by simp [itemMark?]
    rw [openContainers, indent_bracket]
    simp [isThematicBreak, hitem]

theorem openLine_bracket (h : htmlStart? ('<' :: body) = none) :
    openLine {} ⟨'<' :: body, []⟩
      = { leaf := some (.paragraph { before := '\n', atoms := ofChars ('<' :: body) } []) } := by
  have hlevel : headingLevel? ('<' :: body) = none := by simp [headingLevel?]
  have hfence : fence? ('<' :: body) = none := by simp [fence?]
  have hbefore : before { rest := '<' :: body } ⟨'<' :: body, []⟩ = '\n' := by
    simp [before, Cursor.passed]
  have hlist : finishList {} = {} := rfl
  have hbreak : isThematicBreak ('<' :: body) = false := by simp [isThematicBreak]
  rw [openLine]
  dsimp only [List.reverse_nil, followAll, List.length_nil]
  rw [show popMany (0 - 0) ({} : Outline) = {} from rfl, openContainers_bracket]
  dsimp only
  rw [if_neg (by simp [Cursor.isBlank, isBlankText, Text.isInlineBlank]), indent_bracket]
  dsimp only
  rw [if_neg (by decide), openLeaf, hlist]
  dsimp only
  rw [h]
  dsimp only
  rw [hbreak, hlevel, hfence, hbefore]
  rfl

theorem finish_bracket (content : Content) (h : content.atoms.head? = some (.char '<')) :
    finish { leaf := some (.paragraph content []) } = { blocks := [.paragraph content] } := by
  obtain ⟨before, atoms⟩ := content
  obtain ⟨rest, rfl⟩ := List.head?_eq_some_iff.1 h
  rfl

end Outline

theorem events_bracket {body : List Char} (h : Outline.htmlStart? ('<' :: body) = none)
    (hfeed : '\n' ∉ body) (hreturn : '\x0d' ∉ body) :
    events ('<' :: body) = Block.around .paragraph
      (Content.events [] { before := '\n', atoms := ofChars ('<' :: body) }) := by
  have hstep : Outline.step {} ⟨'<' :: body, []⟩
      = { leaf := some (.paragraph { before := '\n', atoms := ofChars ('<' :: body) } []) } := by
    rw [Outline.step]
    dsimp only
    rw [Outline.openLine_bracket h]
    rfl
  have hlines : Line.split ('<' :: body) = [⟨'<' :: body, []⟩] := by
    rw [Line.split_eq (by simpa using hfeed) (by simpa using hreturn)]
    rfl
  rw [events, hlines, List.foldl_cons, List.foldl_nil, hstep, Outline.finish_bracket _ rfl]
  simp [Block.allEvents, Block.events]

namespace OpensNothing

theorem mail?_eq_none {cs : List Char} (h : '@' ∉ cs) : Autolink.mail? cs = none := by
  unfold Autolink.mail?
  dsimp only
  split
  · rename_i rest heq
    have hmem : '@' ∈ cs.drop (cs.takeWhile Autolink.isLocalChar).length :=
      heq ▸ List.mem_cons_self
    exact absurd (List.mem_of_mem_drop hmem) h
  · rfl

theorem opensBlock_eq_false {line : List Char} (hline : line.head? ≠ some '/')
    (h : Tag.blockNames.any (·.toList = (line.takeWhile Char.isAlphanum).map Char.toLower) = false) :
    Tag.opensBlock line = false := by
  unfold Tag.opensBlock
  dsimp only
  split
  · exact absurd rfl hline
  · rw [h, Bool.false_and]

theorem plain?_eq_none {c : Char} (hc : c.isAlpha = false) (hslash : c ≠ '/') (atoms : List Atom) :
    Tag.plain? (.char c :: atoms) = none := by
  unfold Tag.plain?
  split
  · rename_i heq
    cases heq
    exact absurd rfl hslash
  · simp [Tag.name?, hc]

theorem htmlStart?_eq_none {line : List Char} (hend : Tag.blockEnd? line = none)
    (hblock : Tag.opensBlock line = false) (htag : Tag.plain? (ofChars line) = none) :
    Outline.htmlStart? ('<' :: line) = none := by
  simp [Outline.htmlStart?, hend, hblock, Tag.isWholeLine, htag]

/-- The marks of mentions and of emoji open nothing. -/
theorem of_mark {c : Char} (hc : c = '@' ∨ c = '#' ∨ c = ':') {cs : List Char} (hcs : '@' ∉ cs) :
    OpensNothing (c :: cs) := by
  have htag : Tag.plain? (ofChars (c :: cs)) = none := by
    refine plain?_eq_none ?_ ?_ _
    all_goals rcases hc with rfl | rfl | rfl <;> decide
  refine ⟨?_, ?_, htmlStart?_eq_none ?_ ?_ htag⟩
  · have huri : Autolink.uri? (c :: cs) = none := by
      rcases hc with rfl | rfl | rfl <;> simp [Autolink.uri?]
    have hmail : Autolink.mail? (c :: cs) = none := by
      rcases hc with rfl | hc
      · simp [Autolink.mail?, Autolink.isLocalChar]
      · refine mail?_eq_none ?_
        rcases hc with rfl | rfl <;> simpa using hcs
    rw [Autolink.scan?, huri, hmail]
    rfl
  · rcases hc with rfl | rfl | rfl <;> exact htag
  · rcases hc with rfl | rfl | rfl <;> simp [Tag.blockEnd?, Tag.rawNames]
  · refine opensBlock_eq_false ?_ ?_
    all_goals rcases hc with rfl | rfl | rfl <;> simp [Tag.blockNames]

theorem of_animated {cs : List Char} (hcs : '@' ∉ cs) : OpensNothing ('a' :: ':' :: cs) := by
  have htag : Tag.plain? (ofChars ('a' :: ':' :: cs)) = none := by
    simp [ofChars, Tag.plain?, Tag.name?, Tag.attributes?, Tag.skipBlanks, Atom.is, Atom.isNewline,
      Text.isLineBlank, Text.isInlineBlank]
  refine ⟨?_, htag, htmlStart?_eq_none ?_ ?_ htag⟩
  · have huri : Autolink.uri? ('a' :: ':' :: cs) = none := by
      simp [Autolink.uri?, Autolink.isSchemeChar]
    rw [Autolink.scan?, huri, mail?_eq_none (by simpa using hcs)]
    rfl
  · simp [Tag.blockEnd?, Tag.rawNames]
  · exact opensBlock_eq_false (by simp) (by simp [Tag.blockNames])

end OpensNothing

namespace Reading

/-- A text whose characters stand for themselves in inline content, the underscores apart. -/
def IsLiteral (cs : List Char) : Prop :=
  ∀ c rest, c :: rest <:+ cs →
    c = '_' ∨ isSpecial c = false ∨ c = '&' ∧ reference? rest = none

theorem IsLiteral.suffix {cs rest : List Char} (h : IsLiteral cs) (hs : rest <:+ cs) :
    IsLiteral rest := fun c after hc => h c after (hc.trans hs)

variable {r : Reading} {cs : List Char}

theorem drop_ofChars (n : Nat) (cs : List Char) : (ofChars cs).drop n = ofChars (cs.drop n) :=
  List.map_drop.symm

/-- What is skipped only changes the character before the rest. -/
theorem run_skip (definitions : Definitions) (r : Reading) (skipped cs : List Char) :
    run definitions skipped.length r (ofChars (skipped ++ cs))
      = run definitions 0 { r with before := skipped.getLast?.getD r.before } (ofChars cs) := by
  induction skipped generalizing r with
  | nil => rfl
  | cons c skipped ih =>
    rw [List.cons_append, ofChars, List.map_cons, List.length_cons, run, ← ofChars, ih]
    cases skipped <;> rfl

/-- One character and what is read together with it. -/
theorem run_character (definitions : Definitions) (r : Reading) (c : Char) {read rest : List Char}
    {next : Reading}
    (h : r.character definitions c (ofChars (read ++ rest)) = (next, ofChars rest)) :
    run definitions 0 r (ofChars (c :: read ++ rest))
      = run definitions 0 { next with before := (c :: read).getLast?.getD c } (ofChars rest) := by
  rw [List.cons_append, ofChars, List.map_cons, run]
  dsimp only
  rw [← ofChars, h]
  dsimp only
  rw [show (ofChars (read ++ rest)).length - (ofChars rest).length = read.length by simp [ofChars],
    run_skip]
  cases read <;> rfl

theorem takeWhile_append_eq {p : Char → Bool} {xs ys : List Char} (hxs : ∀ c ∈ xs, p c = true)
    (hys : ∀ c ∈ ys.head?, p c = false) : (xs ++ ys).takeWhile p = xs := by
  rw [List.takeWhile_append_of_pos hxs]
  cases ys with
  | nil => simp
  | cons y ys => simp [hys y rfl]

theorem character_underscore (definitions : Definitions) (r : Reading) (n : Nat)
    (h : cs.head? ≠ some '_') {u : Underscores} (hu : u = .between r.before (n + 1) cs.head?) :
    r.character definitions '_' (ofChars (List.replicate n '_' ++ cs))
      = (if u.opens || u.closes then r.add (.run '_' u.length u.opens u.closes)
        else r.text (List.replicate u.length '_'), ofChars cs) := by
  have htake : (List.replicate n '_' ++ cs).takeWhile (· == '_') = List.replicate n '_' :=
    takeWhile_append_eq (by simp) fun c hc => by
      rw [Option.mem_def] at hc
      simpa using fun heq : c = '_' => h (heq ▸ hc)
  have hdrop : (ofChars (List.replicate n '_' ++ cs)).drop n = ofChars cs := by
    rw [drop_ofChars, List.drop_left' List.length_replicate]
  unfold character
  rw [if_pos (by simp)]
  simp only [lineChars_ofChars, htake, List.length_replicate, Nat.add_sub_cancel, hdrop]
  subst hu
  simp [Underscores.between, apply_ite (Prod.mk · (ofChars cs))]

theorem isSpecial_eq_false {c : Char} (h : isSpecial c = false) :
    c ∉ ['*', '_', '~', '\x60', '\\', '<', '!', '[', ']', '&'] ∧ Text.isInlineBlank c = false := by
  simpa [isSpecial] using h

theorem character_word (definitions : Definitions) (r : Reading) {c : Char} {word : List Char}
    (hc : isSpecial c = false) (hword : ∀ d ∈ word, isSpecial d = false)
    (hcs : ∀ d ∈ cs.head?, isSpecial d = true) :
    r.character definitions c (ofChars (word ++ cs)) = (r.text (c :: word), ofChars cs) := by
  have htake : (word ++ cs).takeWhile (!isSpecial ·) = word :=
    takeWhile_append_eq (by simpa using hword) (by simpa using hcs)
  have hdrop : (ofChars (word ++ cs)).drop word.length = ofChars cs := by
    rw [drop_ofChars, List.drop_left]
  obtain ⟨hmarks, hblank⟩ := isSpecial_eq_false hc
  simp only [List.mem_cons, List.not_mem_nil, or_false, not_or] at hmarks
  unfold character
  simp [hmarks, hblank, lineChars_ofChars, htake, hdrop]

theorem character_ampersand (definitions : Definitions) (r : Reading) (h : reference? cs = none) :
    r.character definitions '&' (ofChars cs) = (r.text ['&'], ofChars cs) := by
  unfold character
  simp [lineChars_ofChars, h]

/-- A text is read into some parts. -/
structure Reads (definitions : Definitions) (r : Reading) (cs : List Char) (ps : List Piece) :
    Prop where
  pieces : (run definitions 0 r (ofChars cs)).pieces = ps.reverse ++ r.pieces
  brackets : (run definitions 0 r (ofChars cs)).brackets = r.brackets

theorem Reads.cons {definitions : Definitions} {c : Char} {read after : List Char} {piece : Piece}
    {ps : List Piece}
    (h : r.character definitions c (ofChars (read ++ after)) = (r.add piece, ofChars after))
    (hps : Reads definitions { r.add piece with before := (c :: read).getLast?.getD c } after ps) :
    Reads definitions r (c :: read ++ after) (piece :: ps) := by
  constructor
  · rw [run_character definitions r c h, hps.pieces]
    simp [Reading.add]
  · rw [run_character definitions r c h, hps.brackets]
    rfl

theorem Reads.cons_single {definitions : Definitions} {c : Char} {after : List Char} {piece : Piece}
    {ps : List Piece} (h : r.character definitions c (ofChars after) = (r.add piece, ofChars after))
    (hps : Reads definitions { r.add piece with before := c } after ps) :
    Reads definitions r (c :: after) (piece :: ps) :=
  @Reads.cons r definitions c [] after piece ps h hps

/-- A text is read into the parts that its runs of underscores make of it. -/
def IsParted (definitions : Definitions) (r : Reading) (cs : List Char) : Prop :=
  ∃ ps, Pieces ps cs (Underscores.runs r.before 0 cs) ∧ Reads definitions r cs ps

variable {definitions : Definitions} {after : List Char}

theorem isParted_underscores (n : Nat) (h : after.head? ≠ some '_')
    (hafter : ∀ r, IsParted definitions r after) :
    IsParted definitions r ('_' :: List.replicate n '_' ++ after) := by
  obtain ⟨u, hu⟩ : ∃ u, u = Underscores.between r.before (n + 1) after.head? := ⟨_, rfl⟩
  have hlength : u.length = n + 1 := hu ▸ rfl
  have hmarks : '_' :: List.replicate n '_' = List.replicate u.length '_' := by
    rw [hlength, List.replicate_succ]
  have hruns : Underscores.runs r.before 0 (List.replicate u.length '_' ++ after)
      = u :: Underscores.runs '_' 0 after := by
    rw [Underscores.runs_replicate, hlength, Nat.zero_add,
      Underscores.runs_of_pos n.succ_pos h, hu]
  have hlast : ('_' :: List.replicate n '_').getLast?.getD '_' = '_' := by
    rw [← List.replicate_succ, List.getLast?_replicate, if_neg n.succ_ne_zero, Option.getD_some]
  have hpos : 0 < u.length := hlength ▸ n.succ_pos
  have hcharacter := character_underscore definitions r n h hu
  split at hcharacter
  · obtain ⟨ps, hps, hreads⟩ := hafter { r.add (.run '_' u.length u.opens u.closes) with
      before := ('_' :: List.replicate n '_').getLast?.getD '_' }
    refine ⟨_, ?_, .cons hcharacter hreads⟩
    rw [hlast] at hps
    rw [hmarks, hruns]
    exact .run hpos hps
  · rename_i hidle
    simp only [Bool.or_eq_true, not_or, Bool.not_eq_true] at hidle
    obtain ⟨ps, hps, hreads⟩ := hafter { r.text (List.replicate u.length '_') with
      before := ('_' :: List.replicate n '_').getLast?.getD '_' }
    refine ⟨_, ?_, .cons hcharacter hreads⟩
    rw [hlast] at hps
    rw [hmarks, hruns]
    exact .idle hpos hidle.1 hidle.2 hps

theorem isParted_word {c : Char} {word : List Char} (hc : isSpecial c = false)
    (hword : ∀ d ∈ word, isSpecial d = false) (h : ∀ d ∈ after.head?, isSpecial d = true)
    (hafter : ∀ r, IsParted definitions r after) :
    IsParted definitions r (c :: word ++ after) := by
  have hnone : '_' ∉ c :: word := by
    have hall : ∀ d ∈ c :: word, isSpecial d = false := List.forall_mem_cons.2 ⟨hc, hword⟩
    exact fun hmem => absurd (hall _ hmem) (by decide)
  have hlast : (c :: word).getLast?.getD r.before = (c :: word).getLast?.getD c := by
    simp [List.getLast?_cons]
  obtain ⟨ps, hps, hreads⟩ := hafter { r.text (c :: word) with
    before := (c :: word).getLast?.getD c }
  refine ⟨_, ?_, .cons (character_word definitions r hc hword h) hreads⟩
  rw [Underscores.runs_append hnone, hlast]
  exact .text _ hps

theorem isParted_ampersand (h : reference? after = none)
    (hafter : ∀ r, IsParted definitions r after) : IsParted definitions r ('&' :: after) := by
  obtain ⟨ps, hps, hreads⟩ := hafter { r.text ['&'] with before := '&' }
  exact ⟨_, .text ['&'] hps, .cons_single (character_ampersand definitions r h) hreads⟩

/-- A text starts with the characters that have a property, and goes on with one that has not. -/
theorem exists_takeWhile (p : Char → Bool) (cs : List Char) :
    ∃ xs ys, cs = xs ++ ys ∧ (∀ c ∈ xs, p c = true) ∧ ∀ c ∈ ys.head?, p c = false :=
  ⟨cs.takeWhile p, cs.dropWhile p, List.takeWhile_append_dropWhile.symm,
    fun _ hc => List.mem_takeWhile_imp hc, Token.head?_dropWhile cs⟩

theorem isParted (definitions : Definitions) (h : IsLiteral cs) (r : Reading) :
    IsParted definitions r cs := by
  induction hlen : cs.length using Nat.strong_induction_on generalizing cs r with
  | _ len ih =>
    cases cs with
    | nil => exact ⟨[], .nil, rfl, rfl⟩
    | cons c rest =>
      have hafter {read after : List Char} (hrest : rest = read ++ after) (r : Reading) :
          IsParted definitions r after := by
        have hsuffix : after <:+ c :: rest :=
          hrest ▸ (List.suffix_append read after).trans (List.suffix_cons c _)
        refine ih _ ?_ (h.suffix hsuffix) r rfl
        rw [← hlen, hrest, List.length_cons, List.length_append]
        omega
      rcases h c rest List.suffix_rfl with rfl | hword | ⟨rfl, href⟩
      · obtain ⟨marks, after, rfl, hmarks, hnext⟩ := exists_takeWhile (· == '_') rest
        obtain ⟨n, rfl⟩ : ∃ n, marks = List.replicate n '_' :=
          ⟨_, List.eq_replicate_of_mem (by simpa using hmarks)⟩
        refine isParted_underscores n (fun heq => ?_) (hafter rfl)
        simpa using hnext '_' heq
      · obtain ⟨word, after, rfl, hmarks, hnext⟩ := exists_takeWhile (!isSpecial ·) rest
        exact isParted_word hword (by simpa using hmarks) (by simpa using hnext) (hafter rfl)
      · exact isParted_ampersand href (hafter (List.nil_append rest).symm)

/-- A bracket that opens nothing is text. -/
theorem angle_of_opensNothing {body : List Char} (h : OpensNothing body) (r : Reading) :
    r.angle (ofChars body) = (r.text ['<'], ofChars body) := by
  rw [angle, lineChars_ofChars, h.address, h.tag]

end Reading

/-- Literal text behind a bracket that opens nothing comes out as the parts that its runs of
underscores make of it. -/
theorem exists_parts_content (definitions : Definitions) {body : List Char}
    (h : OpensNothing body) (hbody : Reading.IsLiteral body) (before : Char) :
    ∃ ps, Pieces ps ('<' :: body) (Underscores.runs '<' 0 body) ∧
      Content.events definitions { before, atoms := ofChars ('<' :: body) }
        = Delimiter.resolve ps := by
  have hfirst : Reading.character { before } definitions '<' (ofChars body)
      = (Reading.text { before } ['<'], ofChars body) := by
    simp [Reading.character, Reading.angle_of_opensNothing h]
  obtain ⟨ps, hps, hreads⟩ := Reading.isParted definitions hbody
    { Reading.text { before } ['<'] with before := '<' }
  have hall := Reading.Reads.cons_single hfirst hreads
  refine ⟨_, .text ['<'] hps, ?_⟩
  rw [Content.events, Reading.finish]
  dsimp only
  rw [hall.pieces, hall.brackets]
  simp

/-- What may stand behind an angle bracket in a literal line: nothing with a meaning but
underscores, and no line end. -/
structure IsPlain (body : List Char) : Prop extends OpensNothing body where
  literal : Reading.IsLiteral body
  feed : '\n' ∉ body
  carriage : '\x0d' ∉ body

/-- The events of a literal line are those of a paragraph with the parts that its runs of
underscores make of it. -/
theorem IsPlain.exists_parts {body : List Char} (h : IsPlain body) :
    ∃ ps, Pieces ps ('<' :: body) (Underscores.runs '<' 0 body) ∧
      Event.AreInline (Delimiter.resolve ps) ∧
      events ('<' :: body) = Block.around .paragraph (Delimiter.resolve ps) := by
  obtain ⟨ps, hps, hcontent⟩ := exists_parts_content [] h.toOpensNothing h.literal '\n'
  have hinline := areInline_content [] { before := '\n', atoms := ofChars ('<' :: body) }
  rw [hcontent] at hinline
  exact ⟨ps, hps, hinline, by rw [events_bracket h.block h.feed h.carriage, hcontent]⟩

end RichChat.Markdown
