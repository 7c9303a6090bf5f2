import RichChat.Markdown.Block
import RichChat.Proofs.Nesting

/-!
# Inline content is read into spans

What inline content has of its parts, the events of it have (`meets_content`), if emphasis,
strikethrough and links around events keep it (`Event.Compositional`). Delimiters and brackets are
parts whose meaning comes later, so the invariants say of both stacks that what stands behind each
opener has the property (`State.Meets`, `Reading.Meets`).

So the events of inline content are nested, and only spans start in them (`areInline_content`). With
the blocks around them the events of a whole document are nested (`nested_events`).
-/

namespace RichChat

/-- Whether a container stands within a line of text. -/
def Container.isSpan : Container → Bool
  | .emphasis | .strong _ | .strikethrough | .link _ => true
  | .paragraph | .heading _ | .blockquote | .list _ | .item | .html => false

namespace Event

def isInline : Event → Bool
  | start c => c.isSpan
  | stop | text _ | html _ | code _ | softBreak | hardBreak => true
  | startCode _ | stopCode | rule => false

theorem Nested.append {xs ys : List Event} (hx : Nested xs) (hy : Nested ys) :
    Nested (xs ++ ys) := by
  induction hx with
  | nil => exact hy
  | leaf h _ ih => exact .leaf h ih
  | @code language inner _ h _ ih =>
    rw [List.append_assoc (startCode language :: inner ++ [stopCode])]
    exact .code h ih
  | @container c inner _ h _ _ ih =>
    rw [List.append_assoc (c.around inner)]
    exact .container h ih

/-- Nested events in which nothing but spans starts. -/
structure AreInline (events : List Event) : Prop where
  nested : Nested events
  inline : ∀ e ∈ events, e.isInline = true

namespace AreInline

variable {xs ys : List Event}

theorem nil : AreInline [] := ⟨.nil, by simp⟩

theorem append (hx : AreInline xs) (hy : AreInline ys) : AreInline (xs ++ ys) :=
  ⟨hx.nested.append hy.nested, List.forall_mem_append.2 ⟨hx.inline, hy.inline⟩⟩

theorem leaf {e : Event} (hleaf : e.isLeaf = true) (h : e.isInline = true) : AreInline [e] :=
  ⟨.leaf hleaf .nil, by simpa using h⟩

theorem text (run : List Char) : AreInline [.text run] := leaf rfl rfl

theorem around (hx : AreInline xs) {c : Container} (hc : c.isSpan = true) :
    AreInline (c.around xs) := by
  have hnested := Nested.container (c := c) hx.nested .nil
  rw [List.append_nil] at hnested
  refine ⟨hnested, ?_⟩
  simp only [Container.around, List.cons_append, List.forall_mem_cons, List.forall_mem_append]
  exact ⟨hc, hx.inline, rfl, by simp⟩

end AreInline

/-- A property of events that inline content gets from its parts. Only if there may be several
lines, lines may break and texts may have line feeds in them. -/
structure Compositional (many : Prop) (P : List Event → Prop) : Prop where
  nil : P []
  append : ∀ {xs ys}, P xs → P ys → P (xs ++ ys)
  around : ∀ {xs} {c : Container}, P xs → c.isSpan = true → P (c.around xs)
  text : ∀ {run}, ('\n' ∈ run → many) → P [.text run]
  html : ∀ {run}, ('\n' ∈ run → many) → P [.html run]
  code : ∀ {text : String}, ('\n' ∈ text.toList → many) → P [.code text]
  softBreak : many → P [.softBreak]
  hardBreak : many → P [.hardBreak]

theorem Compositional.flatMap {many : Prop} {P : List Event → Prop} (hP : Compositional many P)
    {α : Type} {f : α → List Event} {as : List α} (h : ∀ a ∈ as, P (f a)) : P (as.flatMap f) := by
  induction as with
  | nil => exact hP.nil
  | cons a as ih =>
    obtain ⟨ha, has⟩ := List.forall_mem_cons.1 h
    exact hP.append ha (ih has)

theorem compositional_areInline : Compositional True AreInline where
  nil := .nil
  append := .append
  around h hc := h.around hc
  text _ := .text _
  html _ := .leaf rfl rfl
  code _ := .leaf rfl rfl
  softBreak _ := .leaf rfl rfl
  hardBreak _ := .leaf rfl rfl

end Event

namespace Markdown

/-- The parts of inline content with a property, a run being marks while its meaning is open. -/
def Piece.Meets (P : List Event → Prop) : Piece → Prop
  | .events es => P es
  | .run mark _ _ _ => ∀ count, P [Delimiter.marks mark count]

namespace Delimiter

open Event (Compositional)

variable {many : Prop} {P : List Event → Prop}

/-- The marks of an opener and what stands behind it have the property. -/
structure Opener.Meets (P : List Event → Prop) (o : Opener) : Prop where
  marks : ∀ count, P [marks o.mark count]
  inner : P o.inner

theorem meets_wrap (hP : Compositional many P) (mark : Char) :
    ∀ (n : Nat) {inner : List Event}, P inner → P (wrap mark n inner)
  | 0, _, h => h
  | 1, _, h => hP.around h (by split <;> rfl)
  | n + 2, _, h => meets_wrap hP mark n (hP.around h (by split <;> rfl))

theorem Opener.meets_flat (hP : Compositional many P) {o : Opener} (h : o.Meets P) : P o.flat :=
  hP.append (h.marks o.count) h.inner

namespace State

/-- What comes before all openers, and the openers, have the property. -/
structure Meets (P : List Event → Prop) (s : State) : Prop where
  done : P s.done
  openers : ∀ o ∈ s.openers, o.Meets P

variable {s : State}

theorem Meets.add (hP : Compositional many P) (h : s.Meets P) {events : List Event}
    (he : P events) : (s.add events).Meets P := by
  have hopeners := h.openers
  unfold State.add
  split
  · exact ⟨hP.append h.done he, hopeners⟩
  · rename_i o os hs
    rw [hs] at hopeners
    obtain ⟨ho, hos⟩ := List.forall_mem_cons.1 hopeners
    exact ⟨h.done, List.forall_mem_cons.2 ⟨⟨ho.marks, hP.append ho.inner he⟩, hos⟩⟩

theorem meets_pair? (hP : Compositional many P) {mark : Char} {length : Nat} {both : Bool}
    {openers rest : List Opener} {o : Opener} {inner : List Event}
    (hs : ∀ o ∈ openers, o.Meets P) (h : pair? mark length both openers = some (o, inner, rest)) :
    P inner ∧ o.Meets P ∧ ∀ o ∈ rest, o.Meets P := by
  induction openers generalizing inner with
  | nil => cases h
  | cons p ps ih =>
    obtain ⟨hp, hps⟩ := List.forall_mem_cons.1 hs
    rw [pair?] at h
    split at h
    · cases h
      exact ⟨hp.inner, hp, hps⟩
    · obtain ⟨⟨p', inner', rest'⟩, hfound, heq⟩ := Option.map_eq_some_iff.1 h
      cases heq
      obtain ⟨hinner, hrest⟩ := ih hps hfound
      exact ⟨hP.append hinner (Opener.meets_flat hP hp), hrest⟩

theorem Meets.close (hP : Compositional many P) (mark : Char) (length : Nat) (both : Bool)
    (fuel count : Nat) (h : s.Meets P) : (close mark length both fuel count s).2.Meets P := by
  induction fuel generalizing count s with
  | zero => exact h
  | succ fuel ih =>
    rw [State.close]
    dsimp only
    split
    · split
      · exact ⟨h.done, h.openers⟩
      · exact h
    · rename_i o inner rest hpair
      obtain ⟨hinner, ho, hrest⟩ :=
        meets_pair? hP (fun o ho => h.openers o (List.mem_of_mem_take ho)) hpair
      have hwrapped := meets_wrap hP mark (min count o.count) hinner
      have hbefore : ∀ p ∈ rest ++ s.openers.drop
          (s.openers.length - if mark = '~' then min s.openers.length s.tildeFloor else 0),
          p.Meets P := by
        refine List.forall_mem_append.2 ⟨hrest, fun p hp => ?_⟩
        exact h.openers p (List.mem_of_mem_drop hp)
      -- The rest of an opener that has marks left waits with the new emphasis behind it.
      have hnext (d : State) : d.Meets P →
          (if min count o.count < count then State.close mark length both fuel
            (count - min count o.count) d else (0, d)).2.Meets P := by
        intro hd
        split
        · exact ih _ hd
        · exact hd
      refine hnext _ ?_
      split
      · exact ⟨h.done, List.forall_mem_cons.2 ⟨⟨ho.marks, hwrapped⟩, hbefore⟩⟩
      · refine Meets.add hP ?_ hwrapped
        exact ⟨h.done, hbefore⟩

theorem Meets.step (hP : Compositional many P) (h : s.Meets P) {p : Piece} (hp : p.Meets P) :
    (s.step p).Meets P := by
  cases p with
  | events events => exact h.add hP hp
  | run mark length opens closes =>
    have hclosed : (if closes then State.close mark length (opens && closes) length length s
        else (length, s)).2.Meets P := by
      split
      · exact h.close hP _ _ _ _ _
      · exact h
    unfold State.step
    dsimp only
    generalize (if closes then State.close mark length (opens && closes) length length s
      else (length, s)) = closed at hclosed ⊢
    split
    · exact hclosed
    · split
      · exact ⟨hclosed.done, List.forall_mem_cons.2 ⟨⟨hp, hP.nil⟩, hclosed.openers⟩⟩
      · exact hclosed.add hP (hp _)

theorem Meets.finish (hP : Compositional many P) (h : s.Meets P) : P s.finish :=
  hP.append h.done (hP.flatMap fun o ho =>
    Opener.meets_flat hP (h.openers o (List.mem_reverse.1 ho)))

end State

theorem meets_resolve (hP : Compositional many P) {pieces : List Piece}
    (h : ∀ p ∈ pieces, p.Meets P) : P (resolve pieces) := by
  have hfold : ∀ (ps : List Piece) {s : State}, s.Meets P → (∀ p ∈ ps, p.Meets P) →
      (ps.foldl State.step s).Meets P := by
    intro ps
    induction ps with
    | nil => exact fun hs _ => hs
    | cons p ps ih =>
      intro s hs hps
      obtain ⟨hp, hps⟩ := List.forall_mem_cons.1 hps
      exact ih (hs.step hP hp) hps
  exact (hfold pieces ⟨hP.nil, by simp⟩ h).finish hP

end Delimiter

/-- Content that has line ends and references to a line feed only if it may have several lines. -/
structure Lined (many : Prop) (atoms : List Atom) : Prop where
  newline : ∀ a ∈ atoms, a.isNewline = true → many
  char : .char '\n' ∈ atoms → many
  reference : ∀ rest text n, .char '&' :: rest <:+ atoms →
    reference? (lineChars rest) = some (text, n) → '\n' ∈ text → many

namespace Lined

variable {many : Prop} {atoms rest : List Atom} {a : Atom}

theorem suffix (h : Lined many atoms) (hs : rest <:+ atoms) : Lined many rest where
  newline a ha := h.newline a (hs.subset ha)
  char hc := h.char (hs.subset hc)
  reference _ _ _ hr := h.reference _ _ _ (hr.trans hs)

theorem tail (h : Lined many (a :: rest)) : Lined many rest := h.suffix (List.suffix_cons a rest)

theorem drop (h : Lined many atoms) (n : Nat) : Lined many (atoms.drop n) :=
  h.suffix (List.drop_suffix n atoms)

theorem of_mem_source (h : Lined many atoms) (ha : a ∈ atoms) (hfeed : '\n' ∈ a.source) :
    many := by
  cases a with
  | char c =>
    obtain rfl := List.mem_singleton.1 hfeed
    exact h.char ha
  | newline ending marks lead => exact h.newline _ ha rfl

theorem of_mem_text (h : Lined many atoms) (ha : a ∈ atoms) (hfeed : '\n' ∈ a.text) : many := by
  cases a with
  | char c => exact h.of_mem_source ha hfeed
  | newline ending marks lead => exact h.newline _ ha rfl

theorem of_mem_lineChars (h : Lined many atoms) (hfeed : '\n' ∈ lineChars atoms) : many := by
  induction atoms with
  | nil => cases hfeed
  | cons a rest ih =>
    cases a with
    | char c =>
      rcases List.mem_cons.1 hfeed with rfl | hrest
      · exact h.char List.mem_cons_self
      · exact ih h.tail hrest
    | newline ending marks lead => cases hfeed

end Lined

namespace Autolink

variable {cs host address : List Char} {c : Char}

theorem mem_of_host? {fuel : Nat} (h : host? fuel cs = some host) (hc : c ∈ host) : c ∈ cs := by
  have hlabel {cs label rest : List Char} (h : hostLabel? cs = some (label, rest)) :
      label ⊆ cs ∧ rest ⊆ cs := by
    unfold hostLabel? at h
    dsimp only at h
    split at h
    · cases h
    · cases h
      exact ⟨(List.takeWhile_prefix _).subset, (List.drop_suffix _ _).subset⟩
  induction fuel generalizing cs host with
  | zero => cases h
  | succ fuel ih =>
    rw [host?] at h
    split at h
    · rename_i label rest hhost
      obtain ⟨later, hlater, rfl⟩ := Option.map_eq_some_iff.1 h
      obtain ⟨hfirst, hrest⟩ := hlabel hhost
      rcases List.mem_append.1 hc with hc | hc
      · exact hfirst hc
      · rcases List.mem_cons.1 hc with rfl | hc
        · exact hrest List.mem_cons_self
        · exact hrest (List.mem_cons_of_mem _ (ih hlater hc))
    · rename_i label rest hhost
      cases h
      exact (hlabel hhost).1 hc
    · cases h

/-- An address is part of the text that it is read from. -/
theorem mem_of_scan? (h : scan? cs = some address) (hc : c ∈ address) : c ∈ cs := by
  rcases Option.or_eq_some_iff.1 h with huri | ⟨-, hmail⟩
  · unfold uri? at huri
    dsimp only at huri
    split at huri
    · cases huri
      exact (List.takeWhile_prefix _).subset hc
    · cases huri
  · unfold mail? at hmail
    dsimp only at hmail
    split at hmail
    · rename_i rest hrest
      have hsub : '@' :: rest ⊆ cs := hrest ▸ (List.drop_suffix _ _).subset
      split at hmail
      · cases hmail
      · obtain ⟨host, hhost, rfl⟩ := Option.map_eq_some_iff.1 hmail
        rcases List.mem_append.1 hc with hc | hc
        · exact (List.takeWhile_prefix _).subset hc
        · rcases List.mem_cons.1 hc with rfl | hc
          · exact hsub List.mem_cons_self
          · exact hsub (List.mem_cons_of_mem _ (mem_of_host? hhost hc))
    · cases hmail

end Autolink

namespace Reading

open Event (Compositional)

theorem mem_of_mem_codeText {atoms : List Atom} (h : '\n' ∈ codeText atoms) :
    ∃ a ∈ atoms, '\n' ∈ a.source := by
  unfold codeText at h
  dsimp only at h
  have hbody {p : Prop} [Decidable p] {cs : List Char}
      (h : '\n' ∈ if p then cs.tail.dropLast else cs) : '\n' ∈ cs := by
    split at h
    · exact List.mem_of_mem_tail (List.dropLast_subset _ h)
    · exact h
  obtain ⟨a, ha, hfeed⟩ := List.mem_flatMap.1 (hbody h)
  refine ⟨a, ha, ?_⟩
  cases a with
  | char c => exact hfeed
  | newline ending marks lead =>
    rcases List.mem_cons.1 hfeed with hspace | hlead
    · cases hspace
    · exact List.mem_append_right _ hlead

/-- The parts that have been read have the property, those in front of open brackets too. -/
structure Meets (P : List Event → Prop) (r : Reading) : Prop where
  pieces : ∀ p ∈ r.pieces, p.Meets P
  brackets : ∀ b ∈ r.brackets, ∀ p ∈ b.before, p.Meets P

namespace Meets

variable {many : Prop} {P : List Event → Prop} {r : Reading}

theorem add (h : r.Meets P) {p : Piece} (hp : p.Meets P) : (r.add p).Meets P :=
  ⟨List.forall_mem_cons.2 ⟨hp, h.pieces⟩, h.brackets⟩

theorem text (hP : Compositional many P) (h : r.Meets P) {cs : List Char}
    (hcs : '\n' ∈ cs → many) : (r.text cs).Meets P :=
  h.add (show P _ from hP.text hcs)

/-- Text of one character that is no line feed. -/
theorem mark (hP : Compositional many P) (h : r.Meets P) {c : Char} (hc : c ≠ '\n') (n : Nat) :
    (r.text (List.replicate n c)).Meets P :=
  h.text hP fun hmem => absurd (List.eq_of_mem_replicate hmem).symm hc

theorem link (hP : Compositional many P) (h : r.Meets P) {b : Bracket} {rest : List Bracket}
    (hr : r.brackets = b :: rest) (dest : List Char) : (r.link b rest dest).Meets P := by
  obtain ⟨hb, hrest⟩ := List.forall_mem_cons.1 (hr ▸ h.brackets)
  have hinner : P (Delimiter.resolve r.pieces.reverse) :=
    Delimiter.meets_resolve hP fun p hp => h.pieces p (List.mem_reverse.1 hp)
  refine ⟨List.forall_mem_cons.2 ⟨hP.around hinner rfl, hb⟩, ?_⟩
  unfold Reading.link
  dsimp only
  split
  · exact hrest
  · refine List.forall_mem_map.2 fun o ho => ?_
    split <;> exact hrest o ho

theorem giveUp (hP : Compositional many P) (h : r.Meets P) {b : Bracket} {rest : List Bracket}
    (hr : r.brackets = b :: rest) : (r.giveUp b rest).Meets P := by
  obtain ⟨hb, hrest⟩ := List.forall_mem_cons.1 (hr ▸ h.brackets)
  have hbracket : b.text.Meets P := hP.text (by split <;> simp)
  exact ⟨List.forall_mem_append.2 ⟨h.pieces, List.forall_mem_cons.2 ⟨hbracket, hb⟩⟩, hrest⟩

theorem closeBracket (hP : Compositional many P) (h : r.Meets P) (definitions : Definitions)
    (rest : List Atom) : (r.closeBracket definitions rest).1.Meets P := by
  unfold Reading.closeBracket
  split
  · exact h.text hP (by simp)
  · rename_i b bs hr
    dsimp only
    split
    · exact h.link hP hr _
    · exact (h.giveUp hP hr).text hP (by simp)

theorem code (hP : Compositional many P) (h : r.Meets P) (n : Nat) {rest : List Atom}
    (hrest : Lined many rest) : (r.code n rest).1.Meets P := by
  unfold Reading.code
  split
  · rename_i length _
    refine h.add (show P _ from hP.code fun hmem => ?_)
    rw [String.toList_ofList] at hmem
    obtain ⟨a, ha, hfeed⟩ := mem_of_mem_codeText hmem
    exact hrest.of_mem_source (List.mem_of_mem_take ha) hfeed
  · exact h.mark hP (by decide) n

theorem angle (hP : Compositional many P) (h : r.Meets P) {rest : List Atom}
    (hrest : Lined many rest) : (r.angle rest).1.Meets P := by
  unfold Reading.angle
  split
  · rename_i address hscan
    have htext : P [.text address] :=
      hP.text fun hmem => hrest.of_mem_lineChars (Autolink.mem_of_scan? hscan hmem)
    have hlink : P ((Container.link (String.ofList address)).around [.text address]) :=
      hP.around htext rfl
    exact h.add hlink
  · split
    · rename_i after _
      refine h.add (show P _ from hP.html fun hmem => ?_)
      rcases List.mem_cons.1 hmem with hbracket | hmem
      · cases hbracket
      · have hinside (f : Atom → List Char) (hf : ∀ a ∈ rest, '\n' ∈ f a → many)
            (hmem : '\n' ∈ (rest.take (rest.length - after.length)).flatMap f) : many := by
          obtain ⟨a, ha, hfeed⟩ := List.mem_flatMap.1 hmem
          exact hf a (List.mem_of_mem_take ha) hfeed
        split at hmem
        · exact hinside _ (fun _ => hrest.of_mem_source) hmem
        · exact hinside _ (fun _ => hrest.of_mem_source) hmem
        · exact hinside _ (fun _ => hrest.of_mem_text) hmem
    · exact h.text hP (by simp)

theorem blank (hP : Compositional many P) (h : r.Meets P) {first : Char} {rest : List Atom}
    (hrest : Lined many (.char first :: rest)) : (r.blank first rest).1.Meets P := by
  unfold Reading.blank
  dsimp only
  split
  · exact h
  · rename_i hskip
    have hend := (List.dropWhile_suffix (l := rest) (·.is Text.isInlineBlank)).subset
    rw [skipInlineBlanks] at hskip
    rw [hskip] at hend
    have hmany : many := hrest.tail.newline _ (hend List.mem_cons_self) rfl
    refine h.add (show P _ from ?_)
    split
    · exact hP.hardBreak hmany
    · exact hP.softBreak hmany
  · refine h.text hP fun hmem => hrest.of_mem_lineChars ?_
    exact List.cons_subset_cons first (List.takeWhile_prefix _).subset hmem

theorem openBracket (h : r.Meets P) (image : Bool) (inside : List Atom) :
    Meets P { r with
      pieces := [], brackets := { image, before := r.pieces, inside } :: r.brackets } :=
  ⟨by simp, List.forall_mem_cons.2 ⟨h.pieces, h.brackets⟩⟩

theorem character (hP : Compositional many P) (h : r.Meets P) (definitions : Definitions)
    {c : Char} {rest : List Atom} (hrest : Lined many (.char c :: rest)) :
    (r.character definitions c rest).1.Meets P := by
  unfold Reading.character
  split
  · rename_i hmark
    have hc : c ≠ '\n' := by rintro rfl; simp at hmark
    dsimp only
    split
    · refine h.add (show ∀ count, P [Delimiter.marks c count] from fun count => ?_)
      exact hP.text fun hmem => absurd (List.eq_of_mem_replicate hmem).symm hc
    · exact h.mark hP hc _
  split
  · exact h.code hP _ (hrest.tail.drop _)
  split
  · split
    · rename_i next _
      split
      · refine h.text hP fun hmem => hrest.tail.char ?_
        rw [List.mem_singleton.1 hmem]
        exact List.mem_cons_self
      · exact h.mark hP (by decide) 1
    · exact h.add (show P _ from hP.hardBreak (hrest.tail.newline _ List.mem_cons_self rfl))
    · exact h.mark hP (by decide) 1
  split
  · exact h.angle hP hrest.tail
  split
  · exact h.openBracket true rest.tail
  split
  · exact h.openBracket false rest
  split
  · exact h.closeBracket hP definitions rest
  split
  · rename_i hamp
    subst hamp
    split
    · rename_i text n hreference
      exact h.text hP (hrest.reference _ _ _ List.suffix_rfl hreference)
    · exact h.mark hP (by decide) 1
  split
  · exact h.blank hP hrest
  · refine h.text hP fun hmem => hrest.of_mem_lineChars ?_
    exact List.cons_subset_cons c (List.takeWhile_prefix _).subset hmem

theorem run (hP : Compositional many P) (definitions : Definitions) (skip : Nat)
    {atoms : List Atom} (hatoms : Lined many atoms) (h : r.Meets P) :
    (run definitions skip r atoms).Meets P := by
  induction atoms generalizing skip r with
  | nil => simpa only [Reading.run] using h
  | cons a rest ih =>
    cases skip with
    | succ skip =>
      rw [Reading.run]
      exact ih skip hatoms.tail ⟨h.pieces, h.brackets⟩
    | zero =>
      cases a with
      | char c =>
        rw [Reading.run]
        have hnext := h.character hP definitions hatoms
        exact ih _ hatoms.tail ⟨hnext.pieces, hnext.brackets⟩
      | newline ending marks lead =>
        rw [Reading.run]
        have hmany := hatoms.newline _ List.mem_cons_self rfl
        have hnext := h.add (p := .events [.softBreak]) (hP.softBreak hmany)
        exact ih _ hatoms.tail ⟨hnext.pieces, hnext.brackets⟩

theorem finish (hP : Compositional many P) (h : r.Meets P) : ∀ p ∈ r.finish, p.Meets P := by
  have hfold : ∀ (bs : List Bracket) (ps : List Piece), (∀ p ∈ ps, p.Meets P) →
      (∀ b ∈ bs, ∀ p ∈ b.before, p.Meets P) →
      ∀ p ∈ bs.foldl (fun pieces b => pieces ++ b.text :: b.before) ps, p.Meets P := by
    intro bs
    induction bs with
    | nil => exact fun _ hps _ => hps
    | cons b bs ih =>
      intro ps hps hbs
      obtain ⟨hb, hbs⟩ := List.forall_mem_cons.1 hbs
      have hbracket : b.text.Meets P := hP.text (by split <;> simp)
      exact ih _ (List.forall_mem_append.2 ⟨hps, List.forall_mem_cons.2 ⟨hbracket, hb⟩⟩) hbs
  intro p hp
  exact hfold r.brackets r.pieces h.pieces h.brackets p (List.mem_reverse.1 hp)

end Meets

end Reading

theorem meets_content {many : Prop} {P : List Event → Prop} (hP : Event.Compositional many P)
    (definitions : Definitions) {content : Content} (h : Lined many content.atoms) :
    P (content.events definitions) := by
  have hstart : Reading.Meets P { before := content.before } := ⟨by simp, by simp⟩
  exact Delimiter.meets_resolve hP ((hstart.run hP definitions 0 h).finish hP)

theorem areInline_content (definitions : Definitions) (content : Content) :
    Event.AreInline (content.events definitions) :=
  meets_content Event.compositional_areInline definitions
    ⟨fun _ _ _ => trivial, fun _ => trivial, fun _ _ _ _ _ _ => trivial⟩

namespace Block

theorem nested_around {inner : List Event} (h : Event.Nested inner) (c : Container) :
    Event.Nested (around c inner) := by
  have := Event.Nested.container (c := c) h .nil
  rwa [List.append_nil] at this

mutual

theorem nested_events (definitions : Definitions) (tight : Bool) :
    ∀ block : Block, Event.Nested (block.events definitions tight)
  | .paragraph content => by
    have hcontent := (areInline_content definitions content).nested
    rw [events]
    split
    · exact hcontent
    · exact nested_around hcontent _
  | .heading level content => by
    rw [events]
    exact nested_around (areInline_content definitions content).nested _
  | .quote blocks => by
    rw [events]
    exact nested_around (nested_allEvents definitions false blocks) _
  | .list first tight items => by
    rw [events]
    exact nested_around (nested_allEvents definitions tight items) _
  | .item blocks => by
    rw [events]
    exact nested_around (nested_allEvents definitions tight blocks) _
  | .code name text => by
    have hcode : .stopCode ∉ [Event.text text] := by simp
    rw [events]
    exact .code hcode .nil
  | .html text => by
    rw [events]
    exact nested_around (.leaf rfl .nil) _
  | .rule => by
    rw [events]
    exact .leaf rfl .nil

theorem nested_allEvents (definitions : Definitions) (tight : Bool) :
    ∀ blocks : List Block, Event.Nested (allEvents definitions tight blocks)
  | [] => by
    rw [allEvents]
    exact .nil
  | block :: blocks => by
    rw [allEvents]
    exact (nested_events definitions tight block).append
      (nested_allEvents definitions tight blocks)

end

end Block

end Markdown

end RichChat
