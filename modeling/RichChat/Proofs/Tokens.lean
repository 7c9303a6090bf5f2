import Mathlib.Data.List.Chain
import Mathlib.Data.List.Forall2
import RichChat.Proofs.Spelling

/-!
# Cutting a text into tokens

The tokens of a text spell it in order (`Token.exists_pieces`). Plain text is never empty, never two
runs next to each other, and has no spelling of another token in it. Tokens that are all written in
their source form make a text with the same tokens (`Token.scan_sources`): a spelling ends before
the next opening bracket, and up to there the two texts are the same.
-/

namespace RichChat.Token

variable {token : Token} {piece cs rest : List Char}

theorem Spells.ne_nil (h : Spells token piece) (htext : ¬ token.IsText) : piece ≠ [] := by
  cases h with
  | text => exact absurd ⟨_, rfl⟩ htext
  | url _ hne _ => simp [hne]
  | spoiler => simp
  | mention => simp
  | emoji => simp

/-- A token other than text has no opening bracket but at its start. -/
theorem Spells.not_mem_tail (h : Spells token piece) (htext : ¬ token.IsText) :
    '<' ∉ piece.tail := by
  cases h with
  | text => exact absurd ⟨_, rfl⟩ htext
  | @url scheme run hscheme _ hrun =>
    intro hmem
    rcases List.mem_append.1 (List.mem_of_mem_tail hmem) with hmem | hmem
    · obtain rfl | rfl : scheme = "http://".toList ∨ scheme = "https://".toList := by
        simpa using hscheme
      · exact absurd hmem (by decide)
      · exact absurd hmem (by decide)
    · exact absurd (hrun _ hmem) (by decide)
  | spoiler => decide
  | @mention target mark digits hmark hid =>
    have hmark' : '<' ∉ mark := by
      intro hmem
      cases target <;>
        simp only [Reference.marks, List.mem_cons, List.not_mem_nil, or_false] at hmark
      · rcases hmark with rfl | rfl <;> simp at hmem
      · subst hmark; simp at hmem
      · subst hmark; simp at hmem
    simp [hmark', hid.not_mem]
  | @emoji name digits id animated _ hname hid =>
    have hname' : '<' ∉ name := fun hmem => absurd (hname _ hmem) (by decide)
    cases animated <;> simp [hname', hid.not_mem]

theorem toList_sourceForm_mention (target : Reference) : target.sourceForm.toList
    = '<' :: target.mark ++ (toString target.number.toNat).toList ++ ['>'] := by
  cases target <;> simp [Reference.sourceForm, Reference.mark, Reference.number, Id.toString]

theorem toList_sourceForm_emoji (e : CustomEmoji) : e.sourceForm.toList
    = '<' :: (if e.animated then ['a'] else []) ++ ':' :: e.name.toList
      ++ ':' :: (toString e.id.value.toNat).toList ++ ['>'] := by
  obtain ⟨name, id, animated⟩ := e
  cases animated <;> simp [CustomEmoji.sourceForm, Id.toString]

theorem spells_mention (target : Reference) : Spells (mention target) target.sourceForm.toList := by
  rw [toList_sourceForm_mention]
  exact .mention target.mark_mem (isNumeral_toString _)

theorem spells_emoji {e : CustomEmoji} (hne : e.name ≠ "")
    (hname : ∀ c ∈ e.name.toList, Text.isWord c = true) :
    Spells (emoji e) e.sourceForm.toList := by
  have hspells := Spells.emoji e.animated (by simpa using hne) hname (isNumeral_toString e.id.value)
  rw [String.ofList_toList] at hspells
  rw [toList_sourceForm_emoji]
  exact hspells

theorem Spells.source (h : Spells token piece) : Spells token token.source := by
  cases h with
  | text => exact .text _
  | url hscheme hne hrun => exact .url hscheme hne hrun
  | spoiler => exact .spoiler
  | @mention target => exact spells_mention target
  | emoji animated hne hname => exact spells_emoji (by simpa using hne) (by simpa using hname)

/-- Up to an opening bracket a token is written in one way only. -/
theorem Spells.takeWhile_source (h : Spells token piece) (htext : ¬ token.IsText)
    {other : List Char} (heq : other.takeWhile (· ≠ '<') = rest.takeWhile (· ≠ '<')) :
    (token.source ++ other).takeWhile (· ≠ '<') = (piece ++ rest).takeWhile (· ≠ '<') := by
  have hsame (hmem : '<' ∉ piece) : (piece ++ other).takeWhile (· ≠ '<')
      = (piece ++ rest).takeWhile (· ≠ '<') := by
    have hall : ∀ c ∈ piece, decide (c ≠ '<') = true := fun c hc =>
      decide_eq_true (ne_of_mem_of_not_mem hc hmem)
    rw [List.takeWhile_append_of_pos hall, List.takeWhile_append_of_pos hall, heq]
  have hmem := h.not_mem_tail htext
  cases h with
  | text => exact absurd ⟨_, rfl⟩ htext
  | @url scheme run hscheme _ _ =>
    refine hsame ?_
    obtain rfl | rfl : scheme = "http://".toList ∨ scheme = "https://".toList := by
      simpa using hscheme
    · simpa using hmem
    · simpa using hmem
  | spoiler => exact hsame (by decide)
  | @mention target => cases target <;> simp [Token.source, Reference.sourceForm]
  | @emoji _ _ _ animated => cases animated <;> simp [Token.source, CustomEmoji.sourceForm]

section Scan

theorem scanFrom_eq_scan (skip : Nat) (cs : List Char) :
    scanFrom skip cs = scan (cs.drop skip) := by
  induction cs generalizing skip with
  | nil => cases skip <;> simp [scan, scanFrom]
  | cons c cs ih =>
    cases skip with
    | zero => rfl
    | succ skip => rw [scanFrom, ih, List.drop_succ_cons]

theorem scan_append (h : Spells token piece) (htext : ¬ token.IsText) (hends : token.Ends rest) :
    scan (piece ++ rest) = token :: scan rest := by
  have hspecial := special?_eq_some.2 ⟨htext, hends, piece, h, rfl⟩
  obtain ⟨c, piece, rfl⟩ := List.exists_cons_of_ne_nil (h.ne_nil htext)
  rw [List.cons_append] at hspecial ⊢
  rw [scan, scanFrom, hspecial]
  dsimp only
  rw [scanFrom_eq_scan]
  simp

theorem scan_eq_singleton (h : Spells token piece) (htext : ¬ token.IsText)
    (hends : token.Ends []) : scan piece = [token] := by
  have hscan := scan_append h htext hends
  rwa [List.append_nil] at hscan

theorem scan_cons {c : Char} (h : special? (c :: cs) = none) :
    scan (c :: cs) = prepend c (scan cs) := by
  rw [scan, scanFrom, h]
  rfl

/-- A character of plain text goes on with the run behind it, or is a run of its own. -/
theorem scan_cons_cases {c : Char} (h : special? (c :: cs) = none) :
    (∃ run tokens, scan cs = text run :: tokens ∧ scan (c :: cs) = text (c :: run) :: tokens)
      ∨ (∀ token ∈ (scan cs).head?, ¬ token.IsText) ∧ scan (c :: cs) = text [c] :: scan cs := by
  rw [scan_cons h]
  unfold prepend
  split
  · rename_i run tokens heq
    exact .inl ⟨run, tokens, heq, rfl⟩
  · rename_i hno
    refine .inr ⟨?_, rfl⟩
    rintro _ hhead ⟨run, rfl⟩
    obtain ⟨tokens, heq⟩ := List.head?_eq_some_iff.1 hhead
    exact hno run tokens heq

/-- A text is scanned from its end, by one token or one character of plain text at a time. -/
@[elab_as_elim]
theorem scan_induction {motive : List Char → Prop} (nil : motive [])
    (special : ∀ token piece rest, Spells token piece → ¬ token.IsText → token.Ends rest →
      motive rest → motive (piece ++ rest))
    (plain : ∀ c cs, special? (c :: cs) = none → motive cs → motive (c :: cs))
    (cs : List Char) : motive cs := by
  induction hlen : cs.length using Nat.strong_induction_on generalizing cs with
  | _ n ih =>
    cases cs with
    | nil => exact nil
    | cons c cs =>
      cases hspecial : special? (c :: cs) with
      | none => exact plain c cs hspecial (ih _ (by simp [← hlen]) cs rfl)
      | some found =>
        obtain ⟨token, rest⟩ := found
        obtain ⟨htext, hends, piece, hspells, heq⟩ := special?_eq_some.1 hspecial
        have hshorter : rest.length < n := by
          have := List.length_pos_iff.2 (hspells.ne_nil htext)
          rw [← hlen, heq, List.length_append]
          omega
        rw [heq]
        exact special token piece rest hspells htext hends (ih _ hshorter rest rfl)

/-- The tokens of a text spell it, each its own piece. -/
theorem exists_pieces (cs : List Char) :
    ∃ pieces, pieces.flatten = cs ∧ List.Forall₂ Spells (scan cs) pieces := by
  induction cs using scan_induction with
  | nil => exact ⟨[], rfl, .nil⟩
  | special token piece rest h htext hends ih =>
    obtain ⟨pieces, rfl, hpieces⟩ := ih
    rw [scan_append h htext hends]
    exact ⟨piece :: pieces, rfl, .cons h hpieces⟩
  | plain c cs hplain ih =>
    obtain ⟨pieces, hflatten, hpieces⟩ := ih
    obtain ⟨run, tokens, heq, hscan⟩ | ⟨-, hscan⟩ := scan_cons_cases hplain
    · rw [heq] at hpieces
      obtain ⟨piece, pieces, hrun, hrest, rfl⟩ := List.forall₂_cons_left_iff.1 hpieces
      cases hrun
      rw [hscan]
      exact ⟨(c :: run) :: pieces, by simpa using hflatten, .cons (.text _) hrest⟩
    · rw [hscan]
      exact ⟨[c] :: pieces, by simp [hflatten], .cons (.text _) hpieces⟩

/-- Plain text in front of the other tokens is the start of the text. -/
theorem prefix_of_scan {run : List Char} {tokens : List Token} (h : scan cs = text run :: tokens) :
    run <+: cs := by
  obtain ⟨pieces, rfl, hpieces⟩ := exists_pieces cs
  rw [h] at hpieces
  obtain ⟨piece, pieces, hrun, -, rfl⟩ := List.forall₂_cons_left_iff.1 hpieces
  cases hrun
  exact List.prefix_append ..

theorem text_nil_not_mem_scan (cs : List Char) : text [] ∉ scan cs := by
  induction cs using scan_induction with
  | nil => exact List.not_mem_nil
  | special token piece rest h htext hends ih =>
    rw [scan_append h htext hends]
    have hne : text [] ≠ token := by
      rintro rfl
      exact htext ⟨[], rfl⟩
    simpa [hne] using ih
  | plain c cs hplain ih =>
    obtain ⟨run, tokens, heq, hscan⟩ | ⟨-, hscan⟩ := scan_cons_cases hplain
    · rw [heq] at ih
      rw [hscan]
      simpa using fun hmem => ih (List.mem_cons_of_mem _ hmem)
    · rw [hscan]
      simpa using ih

theorem isChain_scan (cs : List Char) : (scan cs).IsChain fun a b => ¬ (a.IsText ∧ b.IsText) := by
  induction cs using scan_induction with
  | nil => exact .nil
  | special token piece rest h htext hends ih =>
    rw [scan_append h htext hends]
    exact List.isChain_cons.2 ⟨fun _ _ hboth => htext hboth.1, ih⟩
  | plain c cs hplain ih =>
    obtain ⟨run, tokens, heq, hscan⟩ | ⟨hno, hscan⟩ := scan_cons_cases hplain
    · rw [heq] at ih
      rw [hscan]
      obtain ⟨hnext, hrest⟩ := List.isChain_cons.1 ih
      exact List.isChain_cons.2 ⟨fun b hb hboth => hnext b hb ⟨⟨_, rfl⟩, hboth.2⟩, hrest⟩
    · rw [hscan]
      exact List.isChain_cons.2 ⟨fun b hb hboth => hno b hb hboth.2, ih⟩

/-- No other token is spelled in plain text. -/
theorem not_infix_of_mem_scan {run : List Char} (h : text run ∈ scan cs) (htext : ¬ token.IsText)
    (hspells : Spells token piece) : ¬ piece <:+: run := by
  induction cs using scan_induction generalizing run with
  | nil => cases h
  | special other _ rest hother hno hends ih =>
    rw [scan_append hother hno hends] at h
    rcases List.mem_cons.1 h with rfl | h
    · exact absurd ⟨run, rfl⟩ hno
    · exact ih h
  | plain c cs hplain ih =>
    -- A spelling in the run would start at the character, where none does, or behind it.
    have hstart {run : List Char} (hrun : run <+: cs) : ¬ piece <+: c :: run := by
      intro hpiece
      obtain ⟨rest, hrest⟩ := hpiece.trans ((List.prefix_cons_inj c).2 hrun)
      have hsome := isSome_special? htext hspells rest
      rw [hrest, hplain] at hsome
      cases hsome
    obtain ⟨first, tokens, heq, hscan⟩ | ⟨-, hscan⟩ := scan_cons_cases hplain
    · rw [hscan] at h
      rcases List.mem_cons.1 h with hrun | h
      · cases hrun
        intro hpiece
        rcases List.infix_cons_iff.1 hpiece with hpiece | hpiece
        · exact hstart (prefix_of_scan heq) hpiece
        · exact ih (heq ▸ List.mem_cons_self) hpiece
      · exact ih (heq ▸ List.mem_cons_of_mem _ h)
    · rw [hscan] at h
      rcases List.mem_cons.1 h with hrun | h
      · cases hrun
        intro hpiece
        rcases List.infix_cons_iff.1 hpiece with hpiece | hpiece
        · exact hstart List.nil_prefix hpiece
        · exact hspells.ne_nil htext (List.infix_nil.1 hpiece)
      · exact ih h

end Scan

section Source

/-- The tokens of a text in their source form. -/
def sources (cs : List Char) : List Char := (scan cs).flatMap source

theorem sources_append (h : Spells token piece) (htext : ¬ token.IsText) (hends : token.Ends rest) :
    sources (piece ++ rest) = token.source ++ sources rest := by
  rw [sources, scan_append h htext hends, List.flatMap_cons, sources]

theorem sources_cons {c : Char} (h : special? (c :: cs) = none) :
    sources (c :: cs) = c :: sources cs := by
  obtain ⟨run, tokens, heq, hscan⟩ | ⟨-, hscan⟩ := scan_cons_cases h
  · simp [sources, hscan, heq, source]
  · simp [sources, hscan, source]

/-- Up to the first opening bracket, texts and their sources are the same. -/
theorem takeWhile_sources (cs : List Char) :
    (sources cs).takeWhile (· ≠ '<') = cs.takeWhile (· ≠ '<') := by
  induction cs using scan_induction with
  | nil => rfl
  | special token piece rest h htext hends ih =>
    rw [sources_append h htext hends, h.takeWhile_source htext ih]
  | plain c cs hplain ih => rw [sources_cons hplain, List.takeWhile_cons, List.takeWhile_cons, ih]

variable {other : List Char}

theorem ends_of_takeWhile_eq (heq : other.takeWhile (· ≠ '<') = rest.takeWhile (· ≠ '<'))
    (h : token.Ends rest) : token.Ends other := by
  intro address haddress c hc
  by_cases hbracket : c = '<'
  · subst hbracket; decide
  · refine h address haddress c ?_
    obtain ⟨cs, rfl⟩ := List.head?_eq_some_iff.1 hc
    rw [List.takeWhile_cons, if_pos (decide_eq_true hbracket)] at heq
    cases rest with
    | nil => cases heq
    | cons d rest =>
      rw [List.takeWhile_cons] at heq
      split at heq
      · exact congrArg some (List.cons.inj heq).1.symm
      · cases heq

theorem special?_eq_none_of_takeWhile_eq {c : Char}
    (heq : other.takeWhile (· ≠ '<') = rest.takeWhile (· ≠ '<')) (h : special? (c :: rest) = none) :
    special? (c :: other) = none := by
  rw [Option.eq_none_iff_forall_ne_some]
  rintro ⟨token, after⟩ hspecial
  obtain ⟨htext, -, piece, hspells, hpiece⟩ := special?_eq_some.1 hspecial
  have hmem := hspells.not_mem_tail htext
  obtain ⟨d, piece, rfl⟩ := List.exists_cons_of_ne_nil (hspells.ne_nil htext)
  obtain ⟨rfl, rfl⟩ := List.cons.inj hpiece
  change List.takeWhile _ (piece ++ after) = _ at heq
  have hall : ∀ c ∈ piece, decide (c ≠ '<') = true := fun c hc =>
    decide_eq_true (ne_of_mem_of_not_mem hc hmem)
  -- The spelling ends before the next bracket, so it starts the other text too.
  obtain ⟨after', rfl⟩ : piece <+: rest := by
    refine List.IsPrefix.trans ?_ (List.takeWhile_prefix (· ≠ '<'))
    rw [← heq, List.takeWhile_append_of_pos hall]
    exact List.prefix_append ..
  have hsome := isSome_special? htext hspells after'
  rw [List.cons_append, h] at hsome
  cases hsome

theorem scan_sources (cs : List Char) : scan (sources cs) = scan cs := by
  induction cs using scan_induction with
  | nil => rfl
  | special token piece rest h htext hends ih =>
    have hends' := ends_of_takeWhile_eq (takeWhile_sources rest) hends
    rw [sources_append h htext hends, scan_append h.source htext hends', ih,
      scan_append h htext hends]
  | plain c cs hplain ih =>
    have hplain' := special?_eq_none_of_takeWhile_eq (takeWhile_sources cs) hplain
    rw [sources_cons hplain, scan_cons hplain', ih, scan_cons hplain]

end Source

/-- Cutting a text into tokens loses nothing and is canonical: the pieces that the tokens spell make
up the text, plain text is not empty, not cut in two and has no spelling of another token in it, and
the text in which each token is in its source form has the same tokens. -/
theorem scan_canonical (cs : List Char) :
    (∃ pieces, pieces.flatten = cs ∧ List.Forall₂ Spells (scan cs) pieces) ∧
    text [] ∉ scan cs ∧
    ((scan cs).IsChain fun a b => ¬ (a.IsText ∧ b.IsText)) ∧
    (∀ run token piece, text run ∈ scan cs → ¬ token.IsText → Spells token piece →
      ¬ piece <:+: run) ∧
    scan ((scan cs).flatMap source) = scan cs :=
  ⟨exists_pieces cs, text_nil_not_mem_scan cs, isChain_scan cs,
    fun _ _ _ hrun htext h => not_infix_of_mem_scan hrun htext h, scan_sources cs⟩

example : scan "hi <@!007>, <@18446744073709551616>".toList
    = [text "hi ".toList, mention (.user ⟨7⟩), text ", <@18446744073709551616>".toList] := by
  decide

end RichChat.Token
