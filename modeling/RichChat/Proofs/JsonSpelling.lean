import Mathlib.Data.List.TakeDrop
import Mathlib.Data.List.TakeWhile
import RichChat.Json.Reader
import RichChat.Json.Writer
import RichChat.Proofs.Digits

/-!
# How JSON is spelled

`Json.Spells` gives the texts of a value, with any blanks between its parts and any way to write the
characters of its strings. The reader takes all of such a text (`readValue?_of_spells`, by induction
on its fuel, the parts of a value being shorter than the value), and both writers write such texts.
So what is written is read back, as long as no number is other than an integer.
-/

namespace RichChat

namespace Json

/-! ## The texts of a value -/

/-- Text that may stand between the parts of a value. -/
def IsGap (cs : List Char) : Prop := ∀ c ∈ cs, isSpace c = true

/-- A character, as it may be written inside a string. -/
inductive SpellsChar : Char → List Char → Prop
  | plain {c : Char} (hquote : c ≠ '"') (hslash : c ≠ '\\') (hcontrol : 0x20 ≤ c.toNat) :
      SpellsChar c [c]
  | escaped {c e : Char} (h : escaped? e = some c) : SpellsChar c ['\\', e]
  | unit {c : Char} {ds : List Char} (hlength : ds.length = 4)
      (h : Text.readNat? 16 ds = some c.toNat) : SpellsChar c ('\\' :: 'u' :: ds)

/-- The texts of a string after its opening quote. -/
inductive SpellsRun : List Char → List Char → Prop
  | nil : SpellsRun [] ['"']
  | cons {c : Char} {s piece cs : List Char} (hc : SpellsChar c piece) (hs : SpellsRun s cs) :
      SpellsRun (c :: s) (piece ++ cs)

mutual

/-- The texts of a value. There is none for a number other than an integer. -/
inductive Spells : Json → List Char → Prop
  | null : Spells null "null".toList
  | bool (b : Bool) : Spells (bool b) (if b then "true" else "false").toList
  | int (n : Int) : Spells (int n) (toString n).toList
  | str {s : String} {cs : List Char} (hs : SpellsRun s.toList cs) : Spells (str s) ('"' :: cs)
  | noItems {b : List Char} (hb : IsGap b) : Spells (arr []) ('[' :: (b ++ [']']))
  | items {item : Json} {items : List Json} {b cs r : List Char} (hb : IsGap b)
      (hitem : Spells item cs) (hitems : SpellsItems items r) :
      Spells (arr (item :: items)) ('[' :: (b ++ (cs ++ r)))
  | noMembers {b : List Char} (hb : IsGap b) : Spells (obj []) ('\x7b' :: (b ++ ['\x7d']))
  | members {member : String × Json} {members : List (String × Json)} {b cs r : List Char}
      (hb : IsGap b) (hmember : SpellsMember member cs) (hmembers : SpellsMembers members r) :
      Spells (obj (member :: members)) ('\x7b' :: (b ++ (cs ++ r)))

/-- The texts of the items after the first, with the closing bracket. -/
inductive SpellsItems : List Json → List Char → Prop
  | nil {b : List Char} (hb : IsGap b) : SpellsItems [] (b ++ [']'])
  | cons {item : Json} {items : List Json} {b b' cs r : List Char} (hb : IsGap b) (hb' : IsGap b')
      (hitem : Spells item cs) (hitems : SpellsItems items r) :
      SpellsItems (item :: items) (b ++ ',' :: (b' ++ (cs ++ r)))

inductive SpellsMember : String × Json → List Char → Prop
  | mk {name : String} {value : Json} {n b b' cs : List Char} (hname : SpellsRun name.toList n)
      (hb : IsGap b) (hb' : IsGap b') (hvalue : Spells value cs) :
      SpellsMember (name, value) ('"' :: (n ++ (b ++ ':' :: (b' ++ cs))))

/-- The texts of the members after the first, with the closing brace. -/
inductive SpellsMembers : List (String × Json) → List Char → Prop
  | nil {b : List Char} (hb : IsGap b) : SpellsMembers [] (b ++ ['\x7d'])
  | cons {member : String × Json} {members : List (String × Json)} {b b' cs r : List Char}
      (hb : IsGap b) (hb' : IsGap b') (hmember : SpellsMember member cs)
      (hmembers : SpellsMembers members r) :
      SpellsMembers (member :: members) (b ++ ',' :: (b' ++ (cs ++ r)))

end

/-! ## Reading the parts -/

theorem skipSpaces_append {b : List Char} (hb : IsGap b) (cs : List Char) :
    skipSpaces (b ++ cs) = skipSpaces cs :=
  List.dropWhile_append_of_pos hb

theorem skipSpaces_cons {c : Char} (hc : isSpace c = false) (cs : List Char) :
    skipSpaces (c :: cs) = c :: cs := by
  simp [skipSpaces, hc]

theorem readUnit?_append {ds : List Char} {n : Nat} (hlength : ds.length = 4)
    (h : Text.readNat? 16 ds = some n) (rest : List Char) :
    readUnit? (ds ++ rest) = some (n, rest) := by
  match ds, hlength with
  | [_, _, _, _], _ => simp [readUnit?, h]

/-- A character is no surrogate. -/
theorem readUnicode?_append {c : Char} {ds : List Char} (hlength : ds.length = 4)
    (h : Text.readNat? 16 ds = some c.toNat) (rest : List Char) :
    readUnicode? (ds ++ rest) = some (c, rest) := by
  have hvalid : c.toNat < 0xD800 ∨ 0xDFFF < c.toNat := by
    rcases c.valid with hlow | hhigh
    · exact .inl hlow
    · exact .inr hhigh.1
  simp only [readUnicode?, readUnit?_append hlength h, Bool.and_eq_true, decide_eq_true_eq]
  rw [if_neg (by omega), if_neg (by omega), Char.ofNat_toNat]

theorem SpellsChar.length_pos {c : Char} {piece : List Char} (h : SpellsChar c piece) :
    0 < piece.length := by
  cases h <;> exact Nat.succ_pos _

theorem readString?_cons {c : Char} {piece : List Char} (hc : SpellsChar c piece) (fuel : Nat)
    (cs : List Char) :
    readString? (fuel + 1) (piece ++ cs)
      = (readString? fuel cs).map fun found => (c :: found.1, found.2) := by
  cases hc with
  | plain hquote hslash hcontrol =>
    simp [readString?, hquote, hslash, Nat.not_lt.2 hcontrol]
  | @escaped e h =>
    have hu : e ≠ 'u' := by rintro rfl; simp [escaped?] at h
    simp [readString?, h]
  | unit hlength h =>
    simp [readString?, readUnicode?_append hlength h]

theorem SpellsRun.length_lt {s cs : List Char} (h : SpellsRun s cs) : s.length < cs.length := by
  induction h with
  | nil => exact Nat.one_pos
  | cons hc _ ih =>
    have hpiece := hc.length_pos
    simp only [List.length_cons, List.length_append]
    omega

theorem readString?_append {s cs : List Char} (h : SpellsRun s cs) {fuel : Nat}
    (hfuel : s.length < fuel) (rest : List Char) :
    readString? fuel (cs ++ rest) = some (s, rest) := by
  induction h generalizing fuel with
  | nil =>
    obtain ⟨fuel, rfl⟩ := Nat.exists_eq_succ_of_ne_zero (Nat.ne_of_gt hfuel)
    rfl
  | cons hc _ ih =>
    obtain ⟨fuel, rfl⟩ := Nat.exists_eq_succ_of_ne_zero (Nat.ne_zero_of_lt hfuel)
    rw [List.append_assoc, readString?_cons hc, ih (Nat.lt_of_succ_lt_succ hfuel), Option.map_some]

/-- What may follow a value: a blank, a comma or a closing bracket. None goes on with a number. -/
def followers : List Char := [' ', '\n', '\r', '\t', ',', ']', '\x7d']

/-- Whether a value may end before this text. -/
def Closed (rest : List Char) : Prop := ∀ c ∈ rest.head?, c ∈ followers

theorem mem_followers_of_isSpace {c : Char} (hc : isSpace c = true) : c ∈ followers := by
  simp only [isSpace, Bool.or_eq_true, beq_iff_eq] at hc
  rcases hc with ((rfl | rfl) | rfl) | rfl <;> decide

theorem closed_append {b : List Char} (hb : IsGap b) {c : Char} (hc : c ∈ followers)
    (rest : List Char) : Closed (b ++ c :: rest) := by
  intro d hd
  cases b with
  | nil =>
    cases hd
    exact hc
  | cons e b =>
    cases hd
    exact mem_followers_of_isSpace (hb _ List.mem_cons_self)

theorem Closed.not_isDigit {rest : List Char} (h : Closed rest) :
    ∀ c ∈ rest.head?, c.isDigit = false := by
  have hall : ∀ c ∈ followers, c.isDigit = false := by simp [followers]
  exact fun c hc => hall c (h c hc)

theorem Closed.readTail? {rest : List Char} (h : Closed rest) :
    Json.readTail? rest = some ([], rest) := by
  have hall : ∀ c ∈ followers, c ≠ '.' ∧ c ≠ 'e' ∧ c ≠ 'E' := by simp [followers]
  cases rest with
  | nil => rfl
  | cons c rest => simp [Json.readTail?, hall c (h c rfl)]

theorem takeDigits_append {ds rest : List Char} (hds : ∀ c ∈ ds, c.isDigit = true)
    (hrest : ∀ c ∈ rest.head?, c.isDigit = false) : takeDigits (ds ++ rest) = (ds, rest) := by
  have hstop : rest.takeWhile Char.isDigit = [] ∧ rest.dropWhile Char.isDigit = rest := by
    cases rest with
    | nil => exact ⟨rfl, rfl⟩
    | cons c rest => simp [hrest c rfl]
  rw [takeDigits, List.span_eq_takeWhile_dropWhile, List.takeWhile_append_of_pos hds,
    List.dropWhile_append_of_pos hds, hstop.1, hstop.2, List.append_nil]

/-- Digits are read as a number, and as its negative after a minus sign. -/
theorem readNumber?_toDigits (n : Nat) {rest : List Char} (hrest : Closed rest) :
    readNumber? (Nat.toDigits 10 n ++ rest) = some (int n, rest)
      ∧ (0 < n → readNumber? ('-' :: (Nat.toDigits 10 n ++ rest)) = some (int (-n), rest)) := by
  have hdigit : ∀ c ∈ Nat.toDigits 10 n, c.isDigit = true :=
    fun c hc => Nat.isDigit_of_mem_toDigits (by decide) (by decide) hc
  have hspan := takeDigits_append hdigit hrest.not_isDigit
  have hread := Text.readNat?_toDigits (show 1 < 10 by decide) (by decide) n
  obtain ⟨d, ds, hds⟩ := List.exists_cons_of_ne_nil (Nat.toDigits_ne_nil (n := n) (b := 10))
  rw [hds] at hdigit hspan hread ⊢
  rw [List.cons_append] at hspan ⊢
  have hminus : d ≠ '-' := by rintro rfl; simpa using hdigit _ List.mem_cons_self
  rcases eq_or_ne d '0' with rfl | hzero
  · obtain rfl : n = 0 := Text.eq_zero_of_toDigits hds
    cases hds
    rw [List.nil_append] at hspan ⊢
    simp [readNumber?, hspan, hrest.readTail?, hread]
  · constructor
    · simp [readNumber?, hspan, hrest.readTail?, hread, hzero, hminus]
    · intro hn
      simp [readNumber?, hspan, hrest.readTail?, hread, hzero, Nat.ne_of_gt hn]

theorem toString_negSucc (n : Nat) :
    (toString (Int.negSucc n)).toList = '-' :: Nat.toDigits 10 (n + 1) := by
  rw [show toString (Int.negSucc n) = "-" ++ (n + 1).repr from rfl, String.toList_append,
    Nat.toList_repr]
  rfl

theorem readNumber?_append (n : Int) {rest : List Char} (hrest : Closed rest) :
    readNumber? ((toString n).toList ++ rest) = some (int n, rest) := by
  cases n with
  | ofNat n =>
    rw [show (toString (Int.ofNat n)).toList = Nat.toDigits 10 n from Nat.toList_repr]
    exact (readNumber?_toDigits n hrest).1
  | negSucc n =>
    rw [toString_negSucc]
    exact (readNumber?_toDigits (n + 1) hrest).2 n.succ_pos

/-! ## Reading a value -/

theorem readValue?_gap {b : List Char} (hb : IsGap b) (fuel : Nat) (cs : List Char) :
    readValue? fuel (b ++ cs) = readValue? fuel cs := by
  cases fuel with
  | zero => rfl
  | succ fuel => rw [readValue?, readValue?, skipSpaces_append hb]

theorem readItems?_gap {b : List Char} (hb : IsGap b) (fuel : Nat) (cs : List Char) :
    readItems? fuel (b ++ cs) = readItems? fuel cs := by
  cases fuel with
  | zero => rfl
  | succ fuel => rw [readItems?, readItems?, readValue?_gap hb]

theorem readMembers?_gap {b : List Char} (hb : IsGap b) (fuel : Nat) (cs : List Char) :
    readMembers? fuel (b ++ cs) = readMembers? fuel cs := by
  cases fuel with
  | zero => rfl
  | succ fuel => rw [readMembers?, readMembers?, skipSpaces_append hb]

/-- What a number starts with. -/
theorem head_toString (n : Int) :
    ∃ c cs, (toString n).toList = c :: cs ∧ (c = '-' ∨ c.isDigit = true) := by
  cases n with
  | ofNat n =>
    obtain ⟨c, cs, hcs⟩ := List.exists_cons_of_ne_nil (Nat.toDigits_ne_nil (n := n) (b := 10))
    have hc : c ∈ Nat.toDigits 10 n := hcs ▸ List.mem_cons_self
    exact ⟨c, cs, Nat.toList_repr.trans hcs,
      .inr (Nat.isDigit_of_mem_toDigits (by decide) (by decide) hc)⟩
  | negSucc n => exact ⟨'-', _, toString_negSucc n, .inl rfl⟩

theorem isSpace_number {c : Char} (hc : c = '-' ∨ c.isDigit = true) :
    isSpace c = false ∧ c ≠ ']' := by
  simp only [isSpace, Bool.or_eq_false_iff, beq_eq_false_iff_ne]
  refine ⟨⟨⟨⟨?_, ?_⟩, ?_⟩, ?_⟩, ?_⟩ <;> rintro rfl <;> simp at hc

theorem readValue?_number {c : Char} (hc : c = '-' ∨ c.isDigit = true) (fuel : Nat)
    (cs : List Char) : readValue? (fuel + 1) (c :: cs) = readNumber? (c :: cs) := by
  have hspace : isSpace c = false := (isSpace_number hc).1
  rw [readValue?, skipSpaces_cons hspace]
  split <;> simp_all

/-- A value starts with a character that is neither a blank nor a closing bracket. -/
theorem Spells.head {j : Json} {cs : List Char} (h : Spells j cs) :
    ∃ c r, cs = c :: r ∧ isSpace c = false ∧ c ≠ ']' := by
  cases h with
  | null => exact ⟨_, _, rfl, by decide⟩
  | bool b => cases b <;> exact ⟨_, _, rfl, by decide⟩
  | int n =>
    obtain ⟨c, r, hcs, hc⟩ := head_toString n
    exact ⟨c, r, hcs, isSpace_number hc⟩
  | str | noItems | items | noMembers | members => exact ⟨_, _, rfl, by decide⟩

theorem SpellsMember.head {member : String × Json} {cs : List Char} (h : SpellsMember member cs) :
    ∃ r, cs = '"' :: r := by
  cases h
  exact ⟨_, rfl⟩

theorem SpellsItems.closed {items : List Json} {r : List Char} (h : SpellsItems items r)
    (rest : List Char) : Closed (r ++ rest) := by
  cases h with
  | nil hb => simpa using closed_append hb (by decide) rest
  | cons hb => simpa using closed_append hb (by decide) _

theorem SpellsMembers.closed {members : List (String × Json)} {r : List Char}
    (h : SpellsMembers members r) (rest : List Char) : Closed (r ++ rest) := by
  cases h with
  | nil hb => simpa using closed_append hb (by decide) rest
  | cons hb => simpa using closed_append hb (by decide) _

theorem SpellsRun.read {s cs : List Char} (h : SpellsRun s cs) (rest : List Char) :
    readString? ((cs ++ rest).length + 1) (cs ++ rest) = some (s, rest) := by
  have hlength := h.length_lt
  exact readString?_append h (by rw [List.length_append]; omega) rest

theorem readValue?_str {s : String} {cs : List Char} (hs : SpellsRun s.toList cs) (fuel : Nat)
    (rest : List Char) : readValue? (fuel + 1) ('"' :: (cs ++ rest)) = some (str s, rest) := by
  rw [readValue?, skipSpaces_cons (by decide)]
  simp only [hs.read, Option.map_some, String.ofList_toList]

theorem readValue?_noItems {b : List Char} (hb : IsGap b) (fuel : Nat) (rest : List Char) :
    readValue? (fuel + 1) ('[' :: (b ++ ']' :: rest)) = some (arr [], rest) := by
  simp [readValue?, skipSpaces_cons, skipSpaces_append hb, isSpace]

theorem readValue?_items {b : List Char} (hb : IsGap b) {c : Char} (hspace : isSpace c = false)
    (hclose : c ≠ ']') (fuel : Nat) (cs : List Char) :
    readValue? (fuel + 1) ('[' :: (b ++ c :: cs))
      = (readItems? fuel (c :: cs)).map fun found => (arr found.1, found.2) := by
  rw [readValue?, skipSpaces_cons (by decide)]
  simp only [skipSpaces_append hb, skipSpaces_cons hspace]
  split
  · exact absurd (List.cons.inj ‹_›).1 hclose
  · rfl

theorem readValue?_noMembers {b : List Char} (hb : IsGap b) (fuel : Nat) (rest : List Char) :
    readValue? (fuel + 1) ('\x7b' :: (b ++ '\x7d' :: rest)) = some (obj [], rest) := by
  simp [readValue?, skipSpaces_cons, skipSpaces_append hb, isSpace]

theorem readValue?_members {b : List Char} (hb : IsGap b) (fuel : Nat) (cs : List Char) :
    readValue? (fuel + 1) ('\x7b' :: (b ++ '"' :: cs))
      = (readMembers? fuel ('"' :: cs)).map fun found => (obj found.1, found.2) := by
  simp [readValue?, skipSpaces_cons, skipSpaces_append hb, isSpace]

theorem SpellsItems.length_pos {items : List Json} {r : List Char} (h : SpellsItems items r) :
    0 < r.length := by
  cases h <;> simp only [List.length_append, List.length_cons] <;> omega

theorem SpellsMembers.length_pos {members : List (String × Json)} {r : List Char}
    (h : SpellsMembers members r) : 0 < r.length := by
  cases h <;> simp only [List.length_append, List.length_cons] <;> omega

-- The fuel is at least the length of the text. A value and what is after it in the same container
-- are both shorter than the two together, which leaves enough for either.
mutual

theorem readValue?_of_spells :
    ∀ (fuel : Nat) {j : Json} {cs rest : List Char}, Spells j cs → Closed rest →
      cs.length ≤ fuel → readValue? fuel (cs ++ rest) = some (j, rest)
  | 0, _, _, _, h, _, hfuel => by
    obtain ⟨_, _, rfl, -⟩ := h.head
    simp at hfuel
  | fuel + 1, _, _, rest, .null, _, _ => by simp [readValue?, skipSpaces, isSpace, afterWord?]
  | fuel + 1, _, _, rest, .bool b, _, _ => by
    cases b <;> simp [readValue?, skipSpaces, isSpace, afterWord?]
  | fuel + 1, _, _, rest, .int n, hrest, _ => by
    obtain ⟨c, cs, hcs, hc⟩ := head_toString n
    have hread := readNumber?_append n hrest
    rw [hcs] at hread ⊢
    exact (readValue?_number hc fuel _).trans hread
  | fuel + 1, _, _, rest, .str hs, _, _ => readValue?_str hs fuel rest
  | fuel + 1, _, _, rest, .noItems hb, _, _ => by
    simpa using readValue?_noItems hb fuel rest
  | fuel + 1, _, _, rest, .items hb hitem hitems, _, hfuel => by
    have hread := readItems?_of_spells fuel hitem hitems rest
      (by simp only [List.length_cons, List.length_append] at hfuel ⊢; omega)
    obtain ⟨c, cs, rfl, hspace, hclose⟩ := hitem.head
    rw [List.cons_append] at hread
    rw [List.cons_append, List.append_assoc, List.append_assoc, List.cons_append,
      readValue?_items hb hspace hclose, hread, Option.map_some]
  | fuel + 1, _, _, rest, .noMembers hb, _, _ => by
    simpa using readValue?_noMembers hb fuel rest
  | fuel + 1, _, _, rest, .members hb hmember hmembers, _, hfuel => by
    have hread := readMembers?_of_spells fuel hmember hmembers rest
      (by simp only [List.length_cons, List.length_append] at hfuel ⊢; omega)
    obtain ⟨cs, rfl⟩ := hmember.head
    rw [List.cons_append] at hread
    rw [List.cons_append, List.append_assoc, List.append_assoc, List.cons_append,
      readValue?_members hb, hread, Option.map_some]

theorem readItems?_of_spells :
    ∀ (fuel : Nat) {item : Json} {items : List Json} {cs r : List Char}, Spells item cs →
      SpellsItems items r → ∀ rest : List Char, (cs ++ r).length ≤ fuel →
      readItems? fuel (cs ++ (r ++ rest)) = some (item :: items, rest)
  | 0, _, _, _, _, h, _, _, hfuel => by
    obtain ⟨_, _, rfl, -⟩ := h.head
    simp at hfuel
  | fuel + 1, _, _, _, _, hitem, hitems, rest, hfuel => by
    have hpos := hitems.length_pos
    rw [List.length_append] at hfuel
    have hread := readValue?_of_spells fuel hitem (hitems.closed rest) (by omega)
    rw [readItems?, hread, Option.bind_some]
    cases hitems with
    | nil hb => simp [skipSpaces_append hb, skipSpaces_cons, isSpace]
    | cons hb hb' hnext hafter =>
      have hread := readItems?_of_spells fuel hnext hafter rest
        (by simp only [List.length_cons, List.length_append] at hfuel ⊢; omega)
      simp [skipSpaces_append hb, skipSpaces_cons, isSpace, readItems?_gap hb', hread]

theorem readMembers?_of_spells :
    ∀ (fuel : Nat) {member : String × Json} {members : List (String × Json)} {cs r : List Char},
      SpellsMember member cs → SpellsMembers members r → ∀ rest : List Char,
      (cs ++ r).length ≤ fuel →
      readMembers? fuel (cs ++ (r ++ rest)) = some (member :: members, rest)
  | 0, _, _, _, _, h, _, _, hfuel => by
    obtain ⟨_, rfl⟩ := h.head
    simp at hfuel
  | fuel + 1, _, _, _, _, .mk hname hb hb' hvalue, hmembers, rest, hfuel => by
    have hpos := hmembers.length_pos
    simp only [List.length_cons, List.length_append] at hfuel
    have hread := readValue?_of_spells fuel hvalue (hmembers.closed rest) (by omega)
    have hcolon : isSpace ':' = false := by decide
    simp only [List.cons_append, List.append_assoc]
    rw [readMembers?, skipSpaces_cons (by decide)]
    simp only [hname.read, Option.bind_some, skipSpaces_append hb, skipSpaces_cons hcolon,
      readValue?_gap hb', hread, String.ofList_toList]
    cases hmembers with
    | nil hb => simp [skipSpaces_append hb, skipSpaces_cons, isSpace]
    | cons hb hb' hnext hafter =>
      have hread := readMembers?_of_spells fuel hnext hafter rest
        (by simp only [List.length_cons, List.length_append] at hfuel ⊢; omega)
      simp [skipSpaces_append hb, skipSpaces_cons, isSpace, readMembers?_gap hb', hread]

end

/-- A text that spells a value, with blanks behind it, is read as the value. -/
theorem parse?_of_spells_append {j : Json} {text : String} {cs b : List Char} (h : Spells j cs)
    (hb : IsGap b) (htext : text.toList = cs ++ b) : parse? text = some j := by
  have hclosed : Closed b := fun c hc => mem_followers_of_isSpace (hb c (List.mem_of_mem_head? hc))
  have hread : readValue? (text.toList.length + 1) (cs ++ b) = some (j, b) :=
    readValue?_of_spells _ h hclosed (by rw [htext, List.length_append]; omega)
  have hskip : skipSpaces b = [] := List.dropWhile_eq_nil_iff.2 hb
  rw [← htext] at hread
  simp [parse?, hread, hskip]

/-- A text that spells a value is read as the value. -/
theorem parse?_of_spells {j : Json} {text : String} (h : Spells j text.toList) :
    parse? text = some j :=
  parse?_of_spells_append h (by simp [IsGap]) (List.append_nil _).symm

/-! ## What the writers write -/

/-- A value in which every number is an integer. -/
inductive Whole : Json → Prop
  | null : Whole null
  | bool (b : Bool) : Whole (bool b)
  | int (n : Int) : Whole (int n)
  | str (s : String) : Whole (str s)
  | arr {items : List Json} (h : ∀ item ∈ items, Whole item) : Whole (arr items)
  | obj {members : List (String × Json)} (h : ∀ m ∈ members, Whole m.2) : Whole (obj members)

theorem isGap_nil : IsGap [] := by simp [IsGap]

theorem isGap_space : IsGap [' '] := by simp [IsGap, isSpace]

theorem isGap_newLine (level : Nat) : IsGap (newLine level) := by
  simp only [IsGap, newLine, List.mem_cons, List.mem_replicate]
  rintro c (rfl | ⟨-, rfl⟩) <;> rfl

theorem spellsChar_escapeChar (c : Char) : SpellsChar c (escapeChar c) := by
  unfold escapeChar
  split_ifs with hquote hslash hn hr ht hb hf hcontrol
  · subst hquote; exact .escaped rfl
  · subst hslash; exact .escaped rfl
  · subst hn; exact .escaped rfl
  · subst hr; exact .escaped rfl
  · subst ht; exact .escaped rfl
  · subst hb; exact .escaped rfl
  · subst hf; exact .escaped rfl
  · have hread := Text.readDigits?_lastDigits (show 0 < 16 by decide) (by decide) 4
      c.toNat 0
    rw [Nat.zero_mul, Nat.zero_add, Nat.mod_eq_of_lt (by omega)] at hread
    exact .unit rfl hread
  · exact .plain hquote hslash (Nat.le_of_not_lt hcontrol)

theorem spellsRun_escapeChar (cs : List Char) :
    SpellsRun cs (cs.flatMap escapeChar ++ ['"']) := by
  induction cs with
  | nil => exact .nil
  | cons c cs ih => simpa using SpellsRun.cons (spellsChar_escapeChar c) ih

mutual

theorem spells_compactChars : ∀ j : Json, Whole j → Spells j (compactChars j)
  | null, _ => .null
  | bool true, _ => .bool true
  | bool false, _ => .bool false
  | int n, _ => .int n
  | str s, _ => .str (spellsRun_escapeChar s.toList)
  | arr [], _ => .noItems isGap_nil
  | arr (item :: items), .arr h => by
    have h := List.forall_mem_cons.1 h
    exact .items isGap_nil (spells_compactChars item h.1) (spells_compactItems items h.2)
  | obj [], _ => .noMembers isGap_nil
  | obj ((name, value) :: members), .obj h => by
    have h := List.forall_mem_cons.1 h
    simpa [compactChars, quote] using Spells.members isGap_nil
      (.mk (spellsRun_escapeChar name.toList) isGap_nil isGap_nil (spells_compactChars value h.1))
      (spells_compactMembers members h.2)

theorem spells_compactItems :
    ∀ items : List Json, (∀ item ∈ items, Whole item) → SpellsItems items (compactItems items)
  | [], _ => .nil isGap_nil
  | item :: items, h => by
    have h := List.forall_mem_cons.1 h
    exact .cons isGap_nil isGap_nil (spells_compactChars item h.1) (spells_compactItems items h.2)

theorem spells_compactMembers :
    ∀ members : List (String × Json), (∀ m ∈ members, Whole m.2) →
      SpellsMembers members (compactMembers members)
  | [], _ => .nil isGap_nil
  | (name, value) :: members, h => by
    have h := List.forall_mem_cons.1 h
    simpa [compactMembers, quote] using SpellsMembers.cons isGap_nil isGap_nil
      (.mk (spellsRun_escapeChar name.toList) isGap_nil isGap_nil (spells_compactChars value h.1))
      (spells_compactMembers members h.2)

end

mutual

theorem spells_prettyChars : ∀ (level : Nat) (j : Json), Whole j → Spells j (prettyChars level j)
  | _, null, _ => .null
  | _, bool true, _ => .bool true
  | _, bool false, _ => .bool false
  | _, int n, _ => .int n
  | _, str s, _ => .str (spellsRun_escapeChar s.toList)
  | _, arr [], _ => .noItems isGap_nil
  | level, arr (item :: items), .arr h => by
    have h := List.forall_mem_cons.1 h
    simpa [prettyChars] using Spells.items (isGap_newLine (level + 1))
      (spells_prettyChars (level + 1) item h.1) (spells_prettyItems level items h.2)
  | _, obj [], _ => .noMembers isGap_nil
  | level, obj ((name, value) :: members), .obj h => by
    have h := List.forall_mem_cons.1 h
    simpa [prettyChars, quote] using Spells.members (isGap_newLine (level + 1))
      (.mk (spellsRun_escapeChar name.toList) isGap_nil isGap_space
        (spells_prettyChars (level + 1) value h.1))
      (spells_prettyMembers level members h.2)

theorem spells_prettyItems :
    ∀ (level : Nat) (items : List Json), (∀ item ∈ items, Whole item) →
      SpellsItems items (prettyItems level items)
  | level, [], _ => .nil (isGap_newLine level)
  | level, item :: items, h => by
    have h := List.forall_mem_cons.1 h
    simpa [prettyItems] using SpellsItems.cons isGap_nil (isGap_newLine (level + 1))
      (spells_prettyChars (level + 1) item h.1) (spells_prettyItems level items h.2)

theorem spells_prettyMembers :
    ∀ (level : Nat) (members : List (String × Json)), (∀ m ∈ members, Whole m.2) →
      SpellsMembers members (prettyMembers level members)
  | level, [], _ => .nil (isGap_newLine level)
  | level, (name, value) :: members, h => by
    have h := List.forall_mem_cons.1 h
    simpa [prettyMembers, quote] using SpellsMembers.cons isGap_nil (isGap_newLine (level + 1))
      (.mk (spellsRun_escapeChar name.toList) isGap_nil isGap_space
        (spells_prettyChars (level + 1) value h.1))
      (spells_prettyMembers level members h.2)

end

/-- Whatever is written without blanks is read back. -/
theorem parse?_compact {j : Json} (h : Whole j) : parse? j.compact = some j :=
  parse?_of_spells (by simpa [compact] using spells_compactChars j h)

theorem parse?_pretty {j : Json} (h : Whole j) : parse? j.pretty = some j :=
  parse?_of_spells (by simpa [pretty] using spells_prettyChars 0 j h)

end Json

end RichChat
