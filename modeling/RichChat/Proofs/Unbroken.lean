import RichChat.Proofs.OneLine
import RichChat.Proofs.Tokens

/-!
# Trees without line breaks

The tree of a text without line ends has no line break in it, neither in a text nor after one
(`Node.unbroken_ofSource`), if no character reference in the text stands for a line feed. What the
blocks of one line take from it can then have neither (`Markdown.unbroken_events`).
-/

namespace RichChat

namespace Text

/-- A text is cut at every occurrence of the character. -/
theorem not_mem_of_mem_splitAt {sep : Char} {cs p : List Char} (h : p ∈ splitAt sep cs) :
    sep ∉ p := by
  induction cs generalizing p with
  | nil =>
    rw [splitAt, List.mem_singleton] at h
    subst h
    exact List.not_mem_nil
  | cons c cs ih =>
    rw [splitAt] at h
    split at h
    · rcases List.mem_cons.1 h with rfl | h
      · exact List.not_mem_nil
      · exact ih h
    · rename_i hc
      split at h
      · rename_i hnil
        exact absurd hnil (splitAt_ne_nil sep cs)
      · rename_i q qs hq
        rw [hq] at ih
        rcases List.mem_cons.1 h with rfl | h
        · exact List.not_mem_cons_of_ne_of_not_mem (Ne.symm hc) (ih List.mem_cons_self)
        · exact ih (List.mem_cons_of_mem q h)

end Text

/-- Text and addresses are in the text that they are cut from. -/
theorem Token.subset_of_mem_scan {t : Token} {cs run : List Char} (h : t ∈ scan cs)
    (ht : t = .text run ∨ t = .url run) : run ⊆ cs := by
  obtain ⟨pieces, rfl, hpieces⟩ := exists_pieces cs
  generalize scan pieces.flatten = tokens at h hpieces
  induction hpieces with
  | nil => cases h
  | @cons token piece _ _ hspells _ ih =>
    rw [List.flatten_cons]
    rcases List.mem_cons.1 h with rfl | h
    · rcases ht with rfl | rfl
      · cases hspells
        exact List.subset_append_left _ _
      · cases hspells
        exact List.subset_append_left _ _
    · exact List.Subset.trans (ih h) (List.subset_append_right _ _)

/-- An event that is no line break and has none in its text. -/
def Event.IsUnbroken : Event → Prop
  | text run | html run => '\n' ∉ run
  | code shown => '\n' ∉ shown.toList
  | softBreak | hardBreak => False
  | start _ | stop | startCode _ | stopCode | rule => True

theorem Event.unbroken_around (c : Container) {events : List Event}
    (h : ∀ e ∈ events, e.IsUnbroken) : ∀ e ∈ c.around events, e.IsUnbroken := by
  rw [Container.around, List.cons_append]
  exact List.forall_mem_cons.2 ⟨trivial, List.forall_mem_append.2
    ⟨h, List.forall_mem_singleton.2 trivial⟩⟩

theorem Event.compositional_unbroken :
    Compositional False fun events => ∀ e ∈ events, e.IsUnbroken where
  nil := by simp
  append hx hy := List.forall_mem_append.2 ⟨hx, hy⟩
  around {xs c} hx _ := unbroken_around c hx
  text h := List.forall_mem_singleton.2 h
  html h := List.forall_mem_singleton.2 h
  code h := List.forall_mem_singleton.2 h
  softBreak h := h.elim
  hardBreak h := h.elim

namespace Markdown

/-- Whether no character reference in a text stands for a line feed. -/
def NoFeed (cs : List Char) : Prop :=
  ∀ rest text n, '&' :: rest <:+: cs → reference? rest = some (text, n) → '\n' ∉ text

variable {line : List Char}

theorem lineChars_ofChars (cs : List Char) : lineChars (ofChars cs) = cs := by
  induction cs with
  | nil => rfl
  | cons c cs ih => rw [ofChars, List.map_cons, lineChars, ← ofChars, ih]

theorem lined_part {atoms : List Atom} (hfeed : '\n' ∉ line) (hreference : NoFeed line)
    (h : atoms <:+: ofChars line) : Lined False atoms := by
  obtain ⟨cs, hcs, rfl⟩ := List.infix_map_iff.1 h
  refine ⟨fun a ha hnewline => ?_, fun hchar => ?_, fun rest text n hrest hfound htext => ?_⟩
  · obtain ⟨c, -, rfl⟩ := List.mem_map.1 ha
    cases hnewline
  · obtain ⟨c, hc, heq⟩ := List.mem_map.1 hchar
    cases heq
    exact hfeed (hcs.subset hc)
  · obtain ⟨ds, hds, heq⟩ := List.infix_map_iff.1 hrest.isInfix
    obtain ⟨c, after, rfl, hc, hafter⟩ := List.map_eq_cons_iff.1 heq.symm
    cases hc
    rw [← hafter, show after.map Atom.char = ofChars after from rfl, lineChars_ofChars] at hfound
    exact hreference after text n (hds.trans hcs) hfound htext

namespace Block

theorem unbroken_leaf (hfeed : '\n' ∉ line) (hreference : NoFeed line) {block : Block}
    (h : block.IsLeaf line) (definitions : Definitions) (tight : Bool) :
    ∀ e ∈ block.events definitions tight, e.IsUnbroken := by
  have hcontent {content : Content} (hin : content.atoms <:+: ofChars line) :
      ∀ e ∈ content.events definitions, e.IsUnbroken :=
    meets_content Event.compositional_unbroken definitions (lined_part hfeed hreference hin)
  have htext {text : List Char} (hin : ∀ c ∈ text, c = ' ' ∨ c ∈ line) : '\n' ∉ text := by
    intro hmem
    rcases hin _ hmem with hspace | hline
    · cases hspace
    · exact hfeed hline
  cases block with
  | paragraph content =>
    rw [events]
    split
    · exact hcontent h
    · exact Event.unbroken_around _ (hcontent h)
  | heading level content =>
    rw [events]
    exact Event.unbroken_around _ (hcontent h)
  | code name text =>
    rw [events]
    simpa [Event.IsUnbroken] using htext h
  | html text =>
    rw [events]
    exact Event.unbroken_around _ (List.forall_mem_singleton.2 (htext h))
  | rule =>
    rw [events]
    simp [Event.IsUnbroken]
  | quote | list | item => cases h

/-- Blocks of one line have no line break in them. -/
theorem Alone.unbroken (hfeed : '\n' ∉ line) (hreference : NoFeed line) {blocks : List Block}
    (h : Alone line blocks) (definitions : Definitions) (tight : Bool) :
    ∀ e ∈ allEvents definitions tight blocks, e.IsUnbroken := by
  induction h generalizing tight with
  | none =>
    rw [allEvents]
    simp
  | leaf h =>
    rw [allEvents, allEvents, List.append_nil]
    exact unbroken_leaf hfeed hreference h definitions tight
  | quote _ ih | list _ ih | item _ ih =>
    rw [allEvents, allEvents, List.append_nil, events]
    exact Event.unbroken_around _ (ih _)

end Block

/-- The events of a text without line ends, and without references to one, have no line break. -/
theorem unbroken_events (hfeed : '\n' ∉ line) (hreturn : '\x0d' ∉ line)
    (hreference : NoFeed line) : ∀ e ∈ events line, e.IsUnbroken :=
  (Outline.alone_blocks hfeed hreturn).unbroken hfeed hreference _ _

end Markdown

/-- A kind of nodes without a line break, in a text or after it. -/
def NodeKind.IsUnbroken : NodeKind → Prop
  | text s soft hard => '\n' ∉ s.toList ∧ soft = false ∧ hard = false
  | autolink url => '\n' ∉ url.toList
  | codeBlock _ lines => ∀ l ∈ lines, '\n' ∉ l.toList
  | document | paragraph | heading _ | inline _ | link _ | blockquote | list _ | listItem
  | thematicBreak | mention _ | emoji _ => True

namespace Builder

open NodeKind (IsUnbroken)

/-- Nothing with a line break, and no line break after what is there. -/
def unbrokenRules : Rules where
  fine c := c ≠ '\n'
  good _ n := n.Everywhere IsUnbroken
  breaks := False

theorem everywhere_text {s : String} (h : '\n' ∉ s.toList) :
    (Node.text s).Everywhere IsUnbroken :=
  Node.everywhere_leaf ⟨h, rfl, rfl⟩

theorem unbroken_nodes {link : Bool} {pending : List Char} (hpending : ∀ c ∈ pending, c ≠ '\n')
    {t : Token} (ht : t ∈ Token.scan pending) : ∀ n ∈ t.nodes link, n.Everywhere IsUnbroken := by
  have hfeed {run : List Char} (hrun : t = .text run ∨ t = .url run) :
      '\n' ∉ (String.ofList run).toList := by
    rw [String.toList_ofList]
    exact fun hmem => hpending _ (Token.subset_of_mem_scan ht hrun hmem) rfl
  cases t with
  | text run => simpa [Token.nodes] using everywhere_text (hfeed (.inl rfl))
  | spoiler => simpa [Token.nodes] using everywhere_text (s := "||") (by decide)
  | url address =>
    have haddress := hfeed (.inr rfl)
    cases link with
    | true => simpa [Token.nodes] using everywhere_text haddress
    | false =>
      have hleaf := @Node.everywhere_leaf IsUnbroken (.autolink (String.ofList address)) haddress
      simpa [Token.nodes] using hleaf
  | mention target =>
    have hleaf := @Node.everywhere_leaf IsUnbroken (.mention target) trivial
    simpa [Token.nodes] using hleaf
  | emoji e =>
    have hleaf := @Node.everywhere_leaf IsUnbroken (.emoji e) trivial
    simpa [Token.nodes] using hleaf

theorem spread_unbroken : unbrokenRules.Spread IsUnbroken where
  good _ _ h := h
  tokens _ _ hpending _ ht := unbroken_nodes hpending ht
  breaks h := h.elim
  containers c := by
    cases c with
    | strong underscores => cases underscores <;> trivial
    | _ => trivial
  document := trivial
  spoiler := trivial
  bars := ⟨by decide, rfl, rfl⟩

theorem not_mem_of_mem_codeLines {cs : List Char} {l : String} (h : l ∈ codeLines cs) :
    '\n' ∉ l.toList := by
  have hlines {body : List Char}
      (h : l ∈ if body.isEmpty then [] else (Text.splitAt '\n' body).map String.ofList) :
      '\n' ∉ l.toList := by
    split at h
    · cases h
    · obtain ⟨p, hp, rfl⟩ := List.mem_map.1 h
      rw [String.toList_ofList]
      exact Text.not_mem_of_mem_splitAt hp
  unfold codeLines at h
  dsimp only at h
  split at h
  · exact hlines h
  · exact hlines h

theorem permits_unbroken {e : Event} (h : e.IsUnbroken) : unbrokenRules.Permits e := by
  cases e with
  | text run | html run => exact fun c hc heq => h (heq ▸ hc)
  | code text =>
    exact fun _ => Node.everywhere_mk.2 ⟨trivial, List.forall_mem_singleton.2 (everywhere_text h)⟩
  | rule => exact fun _ => Node.everywhere_leaf trivial
  | softBreak | hardBreak => exact h
  | stopCode =>
    intro language text _ link
    exact Node.everywhere_leaf fun l hl => not_mem_of_mem_codeLines hl
  | start | stop | startCode => trivial

end Builder

/-- The tree of a text without line ends, and without references to one, has no line break. -/
theorem Node.unbroken_ofSource {source : String} (hfeed : '\n' ∉ source.toList)
    (hreturn : '\x0d' ∉ source.toList) (hreference : Markdown.NoFeed source.toList) :
    (ofSource source).Everywhere NodeKind.IsUnbroken :=
  Builder.everywhere_ofEvents Builder.spread_unbroken fun e he =>
    Builder.permits_unbroken (Markdown.unbroken_events hfeed hreturn hreference e he)

end RichChat
