import Mathlib.Data.List.TakeWhile
import RichChat.Markdown.Token
import RichChat.Render.Mention

/-!
# How tokens are spelled

`Token.Spells` gives the spellings of each kind of token, without regard to how they are found in a
text. `Token.special?_eq_some` says that a token other than text is found at the start of a text
exactly if the text starts with one of its spellings, an address with the longest.
-/

namespace RichChat

/-- Decimal digits with the value of an identifier, maybe with zeros in front. -/
structure IsNumeral (id : UInt64) (digits : List Char) : Prop where
  ne_nil : digits ≠ []
  isDigit : ∀ c ∈ digits, c.isDigit
  value : Nat.ofDigitChars 10 digits 0 = id.toNat

/-- What may stand between the opening bracket of a mention and its digits. -/
def Reference.marks : Reference → List (List Char)
  | user _ => [['@'], ['@', '!']]
  | role _ => [['@', '&']]
  | channel _ => [['#']]

/-- What stands there in the source form. -/
def Reference.mark : Reference → List Char
  | user _ => ['@']
  | role _ => ['@', '&']
  | channel _ => ['#']

theorem Reference.mark_mem (target : Reference) : target.mark ∈ target.marks := by
  cases target <;> simp [mark, marks]

namespace Token

def IsText (token : Token) : Prop := ∃ run, token = text run

/-- The ways to write a token. -/
inductive Spells : Token → List Char → Prop
  | text (run : List Char) : Spells (text run) run
  | url {scheme run : List Char} (hscheme : scheme ∈ ["http://".toList, "https://".toList])
      (hne : run ≠ []) (hrun : ∀ c ∈ run, isUrlChar c) :
      Spells (url (scheme ++ run)) (scheme ++ run)
  | spoiler : Spells spoiler ['|', '|']
  | mention {target : Reference} {mark digits : List Char} (hmark : mark ∈ target.marks)
      (hid : IsNumeral target.number digits) :
      Spells (mention target) ('<' :: mark ++ digits ++ ['>'])
  | emoji {name digits : List Char} {id : UInt64} (animated : Bool) (hne : name ≠ [])
      (hname : ∀ c ∈ name, Text.isWord c) (hid : IsNumeral id digits) :
      Spells (emoji ⟨String.ofList name, ⟨id⟩, animated⟩)
        ('<' :: (if animated then ['a'] else []) ++ ':' :: name ++ ':' :: digits ++ ['>'])

/-- How a token is written if nothing is known of how it was. -/
def source : Token → List Char
  | text run => run
  | mention target => target.sourceForm.toList
  | emoji e => e.sourceForm.toList
  | url address => address
  | spoiler => ['|', '|']

end Token

theorem digitValue?_eq_some {c : Char} {v : Nat} :
    Text.digitValue? 10 c = some v ↔ c.isDigit = true ∧ c.toNat - '0'.toNat = v := by
  have hdigit : c.isDigit = true ↔ 0x30 ≤ c.toNat ∧ c.toNat ≤ 0x39 := by
    simp only [Char.isDigit, Bool.and_eq_true, decide_eq_true_eq, ge_iff_le, UInt32.le_iff_toNat_le]
    rfl
  have hzero : '0'.toNat = 0x30 := rfl
  rw [hdigit, hzero]
  simp only [Text.digitValue?, Bool.and_eq_true, decide_eq_true_eq]
  split_ifs <;> simp only [Option.some.injEq, false_iff, not_and] <;> omega

theorem readDigits?_eq_some {digits : List Char} {acc n : Nat} :
    Text.readDigits? 10 digits acc = some n
      ↔ (∀ c ∈ digits, c.isDigit = true) ∧ Nat.ofDigitChars 10 digits acc = n := by
  induction digits generalizing acc with
  | nil => simp [Text.readDigits?, Nat.ofDigitChars]
  | cons c digits ih =>
    rw [Text.readDigits?, Option.bind_eq_some_iff]
    simp only [digitValue?_eq_some, ih, List.forall_mem_cons, Nat.ofDigitChars, List.foldl_cons]
    constructor
    · rintro ⟨v, ⟨hc, rfl⟩, hdigits, hvalue⟩
      exact ⟨⟨hc, hdigits⟩, by rwa [Nat.mul_comm]⟩
    · rintro ⟨⟨hc, hdigits⟩, hvalue⟩
      exact ⟨_, ⟨hc, rfl⟩, hdigits, by rwa [Nat.mul_comm acc]⟩

theorem readWord64?_eq_some {digits : List Char} {id : UInt64} :
    Text.readWord64? digits = some id ↔ IsNumeral id digits := by
  simp only [Text.readWord64?, Text.readNat?, Option.bind_eq_some_iff, List.isEmpty_iff]
  constructor
  · rintro ⟨n, hn, hid⟩
    split_ifs at hn with hne
    split_ifs at hid with hsize
    obtain ⟨hdigit, hvalue⟩ := readDigits?_eq_some.1 hn
    cases hid
    exact ⟨hne, hdigit, by rw [hvalue, UInt64.toNat_ofNat_of_lt' hsize]⟩
  · rintro ⟨hne, hdigit, hvalue⟩
    refine ⟨id.toNat, ?_, ?_⟩
    · rw [if_neg hne]
      exact readDigits?_eq_some.2 ⟨hdigit, hvalue⟩
    · rw [if_pos id.toNat_lt]
      exact congrArg some (UInt64.ofNat_toNat)

theorem isNumeral_toString (id : UInt64) : IsNumeral id (toString id.toNat).toList := by
  rw [Nat.toString_eq_ofList_toDigits, String.toList_ofList]
  exact ⟨Nat.toDigits_ne_nil, fun _ hc => Nat.isDigit_of_mem_toDigits (by decide) (by decide) hc,
    Nat.ofDigitChars_toDigits (by decide) (by decide)⟩

theorem isDigit_of_isDigit {c : Char} (h : c.isDigit = true) : Text.isDigit c = true := by
  have hascii : c.toNat < 128 := by
    simp only [Char.isDigit, Bool.and_eq_true, decide_eq_true_eq, UInt32.le_iff_toNat_le] at h
    exact Nat.lt_of_le_of_lt h.2 (by decide)
  rw [Text.isDigit, if_pos hascii, h]

theorem IsNumeral.not_mem {id : UInt64} {digits : List Char} (h : IsNumeral id digits) {c : Char}
    (hc : c.isDigit = false) : c ∉ digits :=
  fun hmem => by simpa [hc] using h.isDigit c hmem

namespace Token

theorem head?_dropWhile {p : Char → Bool} (cs : List Char) :
    ∀ c ∈ (cs.dropWhile p).head?, p c = false := by
  intro c hc
  have h := List.head?_dropWhile_not p cs
  rw [hc] at h
  simpa using h

theorem span?_eq_some {p : Char → Bool} {cs run rest : List Char} :
    span? p cs = some (run, rest)
      ↔ run ≠ [] ∧ (∀ c ∈ run, p c) ∧ (∀ c ∈ rest.head?, p c = false) ∧ cs = run ++ rest := by
  constructor
  · intro h
    unfold span? at h
    split at h
    · cases h
    · rename_i hne
      simp only [Option.some.injEq, Prod.mk.injEq] at h
      obtain ⟨hrun, hrest⟩ := h
      refine ⟨?_, ?_, ?_, ?_⟩
      · rintro rfl; exact hne hrun
      · rw [← hrun]; exact fun c hc => List.mem_takeWhile_imp hc
      · rw [← hrest]; exact head?_dropWhile cs
      · rw [← hrun, ← hrest, List.takeWhile_append_dropWhile]
  · rintro ⟨hne, hrun, hrest, rfl⟩
    have hstop : rest.takeWhile p = [] ∧ rest.dropWhile p = rest := by
      cases rest with
      | nil => exact ⟨rfl, rfl⟩
      | cons c rest => simp [hrest c rfl]
    rw [span?, List.takeWhile_append_of_pos hrun, List.dropWhile_append_of_pos hrun, hstop.1,
      hstop.2, List.append_nil]
    cases run with
    | nil => exact absurd rfl hne
    | cons c run => rfl

theorem identifier?_eq_some {cs rest : List Char} {id : UInt64} :
    identifier? cs = some (id, rest)
      ↔ ∃ digits, IsNumeral id digits ∧ cs = digits ++ '>' :: rest := by
  constructor
  · intro h
    simp only [identifier?, Option.bind_eq_bind, Option.bind_eq_some_iff] at h
    obtain ⟨⟨digits, after⟩, hspan, h⟩ := h
    obtain ⟨-, -, -, rfl⟩ := span?_eq_some.1 hspan
    dsimp only at h
    split at h
    · simp only [Option.bind_eq_some_iff, Option.pure_def, Option.some.injEq, Prod.mk.injEq] at h
      obtain ⟨_, hread, rfl, rfl⟩ := h
      exact ⟨digits, readWord64?_eq_some.1 hread, rfl⟩
    · cases h
  · rintro ⟨digits, hid, rfl⟩
    have hspan : span? Text.isDigit (digits ++ '>' :: rest) = some (digits, '>' :: rest) :=
      span?_eq_some.2 ⟨hid.ne_nil, fun c hc => isDigit_of_isDigit (hid.isDigit c hc),
        by rintro _ ⟨⟩; decide, rfl⟩
    simp [identifier?, hspan, readWord64?_eq_some.2 hid]

theorem mention?_eq_some {cs rest : List Char} {target : Reference} :
    mention? cs = some (target, rest)
      ↔ ∃ mark ∈ target.marks, ∃ digits, IsNumeral target.number digits
        ∧ cs = mark ++ digits ++ '>' :: rest := by
  constructor
  · have hread (mark : List Char) (f : UInt64 → Reference)
        (hf : ∀ id, mark ∈ (f id).marks ∧ (f id).number = id) {cs : List Char}
        (h : (identifier? cs).map (fun found => (f found.1, found.2)) = some (target, rest)) :
        ∃ mark' ∈ target.marks, ∃ digits, IsNumeral target.number digits
          ∧ mark ++ cs = mark' ++ digits ++ '>' :: rest := by
      simp only [Option.map_eq_some_iff, Prod.exists, Prod.mk.injEq] at h
      obtain ⟨id, _, hid, rfl, rfl⟩ := h
      obtain ⟨digits, hnumeral, rfl⟩ := identifier?_eq_some.1 hid
      exact ⟨mark, (hf id).1, digits, by rwa [(hf id).2], by simp⟩
    intro h
    unfold mention? at h
    split at h
    · exact hread ['@', '!'] (.user ⟨·⟩) (by simp [Reference.marks, Reference.number]) h
    · exact hread ['@', '&'] (.role ⟨·⟩) (by simp [Reference.marks, Reference.number]) h
    · exact hread ['@'] (.user ⟨·⟩) (by simp [Reference.marks, Reference.number]) h
    · exact hread ['#'] (.channel ⟨·⟩) (by simp [Reference.marks, Reference.number]) h
    · cases h
  · rintro ⟨mark, hmark, digits, hid, rfl⟩
    have hread : identifier? (digits ++ '>' :: rest) = some (target.number, rest) :=
      identifier?_eq_some.2 ⟨digits, hid, rfl⟩
    cases target with
    | user id =>
      obtain rfl | rfl : mark = ['@'] ∨ mark = ['@', '!'] := by simpa [Reference.marks] using hmark
      · -- The digits do not go on as another mark would.
        obtain ⟨d, digits, rfl⟩ := List.exists_cons_of_ne_nil hid.ne_nil
        have hd := hid.isDigit d List.mem_cons_self
        have hbang : d ≠ '!' := by rintro rfl; simp at hd
        have hand : d ≠ '&' := by rintro rfl; simp at hd
        simp only [List.cons_append] at hread
        simp [mention?, hbang, hand, hread, Reference.number]
      · simp [mention?, hread, Reference.number]
    | role id =>
      obtain rfl := List.mem_singleton.1 hmark
      simp [mention?, hread, Reference.number]
    | channel id =>
      obtain rfl := List.mem_singleton.1 hmark
      simp [mention?, hread, Reference.number]

theorem emojiName?_eq_some {animated : Bool} {cs rest : List Char} {e : CustomEmoji} :
    emojiName? animated cs = some (e, rest)
      ↔ ∃ name id digits, name ≠ [] ∧ (∀ c ∈ name, Text.isWord c) ∧ IsNumeral id digits
        ∧ e = ⟨String.ofList name, ⟨id⟩, animated⟩ ∧ cs = name ++ ':' :: digits ++ '>' :: rest := by
  constructor
  · intro h
    simp only [emojiName?, Option.bind_eq_bind, Option.bind_eq_some_iff] at h
    obtain ⟨⟨name, after⟩, hspan, h⟩ := h
    obtain ⟨hne, hname, -, rfl⟩ := span?_eq_some.1 hspan
    dsimp only at h
    split at h
    · simp only [Option.bind_eq_some_iff, Option.pure_def, Option.some.injEq, Prod.mk.injEq] at h
      obtain ⟨⟨id, _⟩, hread, rfl, rfl⟩ := h
      obtain ⟨digits, hid, rfl⟩ := identifier?_eq_some.1 hread
      exact ⟨name, id, digits, hne, hname, hid, rfl, by simp⟩
    · cases h
  · rintro ⟨name, id, digits, hne, hname, hid, rfl, rfl⟩
    have hspan : span? Text.isWord (name ++ ':' :: digits ++ '>' :: rest)
        = some (name, ':' :: digits ++ '>' :: rest) :=
      span?_eq_some.2 ⟨hne, hname, by rintro _ ⟨⟩; decide, by simp⟩
    have hread : identifier? (digits ++ '>' :: rest) = some (id, rest) :=
      identifier?_eq_some.2 ⟨digits, hid, rfl⟩
    simp only [emojiName?, Option.bind_eq_bind, hspan, Option.bind_some, List.cons_append, hread,
      Option.pure_def]

theorem emoji?_eq_some {cs rest : List Char} {e : CustomEmoji} :
    emoji? cs = some (e, rest)
      ↔ ∃ animated name id digits, name ≠ [] ∧ (∀ c ∈ name, Text.isWord c) ∧ IsNumeral id digits
        ∧ e = ⟨String.ofList name, ⟨id⟩, animated⟩
        ∧ cs = (if animated then ['a'] else []) ++ ':' :: name ++ ':' :: digits ++ '>' :: rest := by
  constructor
  · intro h
    unfold emoji? at h
    split at h
    · obtain ⟨name, id, digits, hne, hname, hid, rfl, rfl⟩ := emojiName?_eq_some.1 h
      exact ⟨true, name, id, digits, hne, hname, hid, rfl, by simp⟩
    · obtain ⟨name, id, digits, hne, hname, hid, rfl, rfl⟩ := emojiName?_eq_some.1 h
      exact ⟨false, name, id, digits, hne, hname, hid, rfl, by simp⟩
    · cases h
  · rintro ⟨animated, name, id, digits, hne, hname, hid, rfl, rfl⟩
    have hread : emojiName? animated (name ++ ':' :: digits ++ '>' :: rest)
        = some (⟨String.ofList name, ⟨id⟩, animated⟩, rest) :=
      emojiName?_eq_some.2 ⟨name, id, digits, hne, hname, hid, rfl, rfl⟩
    cases animated with
    | true => exact hread
    | false => exact hread

theorem urlScheme?_eq_some {cs scheme rest : List Char} :
    urlScheme? cs = some (scheme, rest)
      ↔ scheme ∈ ["http://".toList, "https://".toList] ∧ cs = scheme ++ rest := by
  constructor
  · intro h
    unfold urlScheme? at h
    split at h <;> cases h
    · exact ⟨by decide, rfl⟩
    · exact ⟨by decide, rfl⟩
  · rintro ⟨hscheme, rfl⟩
    obtain rfl | rfl : scheme = "http://".toList ∨ scheme = "https://".toList := by
      simpa using hscheme
    · rfl
    · rfl

theorem url?_eq_some {cs address rest : List Char} :
    url? cs = some (address, rest)
      ↔ ∃ scheme ∈ ["http://".toList, "https://".toList], ∃ run, run ≠ [] ∧ (∀ c ∈ run, isUrlChar c)
        ∧ (∀ c ∈ rest.head?, isUrlChar c = false) ∧ address = scheme ++ run
        ∧ cs = scheme ++ (run ++ rest) := by
  simp only [url?, Option.bind_eq_bind, Option.bind_eq_some_iff, Option.pure_def,
    Option.some.injEq, Prod.mk.injEq, Prod.exists, urlScheme?_eq_some, span?_eq_some]
  constructor
  · rintro ⟨scheme, _, ⟨hscheme, rfl⟩, run, _, ⟨hne, hrun, hrest, rfl⟩, rfl, rfl⟩
    exact ⟨scheme, hscheme, run, hne, hrun, hrest, rfl, rfl⟩
  · rintro ⟨scheme, hscheme, run, hne, hrun, hrest, rfl, rfl⟩
    exact ⟨scheme, _, ⟨hscheme, rfl⟩, run, _, ⟨hne, hrun, hrest, rfl⟩, rfl, rfl⟩

/-- Whether a token that is followed by `rest` cannot be longer. -/
def Ends (token : Token) (rest : List Char) : Prop :=
  ∀ address, token = url address → ∀ c ∈ rest.head?, isUrlChar c = false

theorem special?_of_url {cs address rest : List Char} (h : url? cs = some (address, rest)) :
    special? cs = some (url address, rest) := by
  obtain ⟨scheme, hscheme, run, -, -, -, -, rfl⟩ := url?_eq_some.1 h
  obtain rfl | rfl : scheme = "http://".toList ∨ scheme = "https://".toList := by
    simpa using hscheme
  · exact congrArg (Option.map fun found => (url found.1, found.2)) h
  · exact congrArg (Option.map fun found => (url found.1, found.2)) h

/-- What is found at the start of a text is one of the spellings of a token other than text. -/
theorem special?_eq_some {cs rest : List Char} {token : Token} :
    special? cs = some (token, rest)
      ↔ ¬ token.IsText ∧ token.Ends rest ∧ ∃ piece, Spells token piece ∧ cs = piece ++ rest := by
  constructor
  · intro h
    unfold special? at h
    split at h
    · rename_i cs
      split at h
      · rename_i hmention
        cases h
        obtain ⟨mark, hmark, digits, hid, rfl⟩ := mention?_eq_some.1 hmention
        exact ⟨by simp [IsText], by simp [Ends], _, .mention hmark hid, by simp⟩
      · simp only [Option.map_eq_some_iff, Prod.exists, Prod.mk.injEq] at h
        obtain ⟨e, _, hemoji, rfl, rfl⟩ := h
        obtain ⟨animated, name, id, digits, hne, hname, hid, rfl, rfl⟩ := emoji?_eq_some.1 hemoji
        exact ⟨by simp [IsText], by simp [Ends], _, .emoji animated hne hname hid, by simp⟩
    · cases h
      exact ⟨by simp [IsText], by simp [Ends], _, .spoiler, rfl⟩
    · simp only [Option.map_eq_some_iff, Prod.exists, Prod.mk.injEq] at h
      obtain ⟨address, _, hurl, rfl, rfl⟩ := h
      obtain ⟨scheme, hscheme, run, hne, hrun, hrest, rfl, rfl⟩ := url?_eq_some.1 hurl
      exact ⟨by simp [IsText], fun _ _ => hrest, _, .url hscheme hne hrun, by simp⟩
  · rintro ⟨htext, hends, piece, hspells, rfl⟩
    cases hspells with
    | text => exact absurd ⟨_, rfl⟩ htext
    | @url scheme run hscheme hne hrun =>
      refine special?_of_url (url?_eq_some.2 ?_)
      exact ⟨scheme, hscheme, run, hne, hrun, hends _ rfl, rfl, List.append_assoc ..⟩
    | spoiler => rfl
    | @mention target mark digits hmark hid =>
      have hread : mention? (mark ++ digits ++ '>' :: rest) = some (target, rest) :=
        mention?_eq_some.2 ⟨mark, hmark, digits, hid, rfl⟩
      rw [List.append_assoc] at hread
      simp [special?, hread]
    | @emoji name digits id animated hne hname hid =>
      have hread : emoji? ((if animated then ['a'] else []) ++ ':' :: name ++ ':' :: digits
          ++ '>' :: rest) = some (⟨String.ofList name, ⟨id⟩, animated⟩, rest) :=
        emoji?_eq_some.2 ⟨animated, name, id, digits, hne, hname, hid, rfl, rfl⟩
      have hmention : mention? ((if animated then ['a'] else []) ++ ':' :: name ++ ':' :: digits
          ++ '>' :: rest) = none := by
        cases animated <;> simp [mention?]
      rw [List.append_assoc]
      simp only [List.cons_append, List.nil_append, List.append_assoc] at hread hmention ⊢
      rw [special?, hmention, hread]
      rfl

/-- A text that starts with a spelling of a token other than text starts with such a token, though
an address may go on. -/
theorem isSome_special? {token : Token} {piece : List Char} (htext : ¬ token.IsText)
    (h : Spells token piece) (rest : List Char) : (special? (piece ++ rest)).isSome := by
  have hfound {token : Token} {piece rest : List Char} (htext : ¬ token.IsText)
      (hends : token.Ends rest) (h : Spells token piece) : (special? (piece ++ rest)).isSome :=
    Option.isSome_of_eq_some (special?_eq_some.2 ⟨htext, hends, piece, h, rfl⟩)
  cases h with
  | text => exact absurd ⟨_, rfl⟩ htext
  | @url scheme run hscheme hne hrun =>
    have hurl : url? (scheme ++ run ++ rest)
        = some (scheme ++ (run ++ rest.takeWhile isUrlChar), rest.dropWhile isUrlChar) := by
      refine url?_eq_some.2 ⟨scheme, hscheme, _, by simp [hne], ?_, head?_dropWhile rest, rfl, ?_⟩
      · exact List.forall_mem_append.2 ⟨hrun, fun c hc => List.mem_takeWhile_imp hc⟩
      · simp [List.takeWhile_append_dropWhile]
    exact Option.isSome_of_eq_some (special?_of_url hurl)
  | spoiler => exact hfound htext (by simp [Ends]) .spoiler
  | mention hmark hid => exact hfound htext (by simp [Ends]) (.mention hmark hid)
  | emoji animated hne hname hid =>
    exact hfound htext (by simp [Ends]) (.emoji animated hne hname hid)

end Token

end RichChat
