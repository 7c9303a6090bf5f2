import RichChat.Proofs.JsonSpelling

/-!
# Blanks outside of strings

`Json.unblanked` leaves out the blanks of a text that stand outside of its strings. What is left of
either spelling of a value is the one without blanks (`Json.unblanked_line`), so they differ in
nothing else.
-/

namespace RichChat

namespace Json

/-- Where a character of a text stands. -/
inductive Place
  | outside
  | inside
  /-- Behind a backslash in a string. -/
  | escaped
  deriving DecidableEq

/-- Where the next character stands. -/
def Place.next : Place → Char → Place
  | outside, c => if c = '"' then inside else outside
  | inside, c => if c = '"' then outside else if c = '\\' then escaped else inside
  | escaped, _ => inside

/-- A text without the blanks outside of its strings. -/
def unblanked : Place → List Char → List Char
  | _, [] => []
  | place, c :: cs =>
    let rest := unblanked (place.next c) cs
    if place = .outside ∧ isSpace c = true then rest else c :: rest

theorem next_outside {c : Char} (h : isSpace c = true) : Place.next .outside c = .outside :=
  if_neg fun hquote => by simp [hquote, isSpace] at h

theorem unblanked_append (place : Place) (cs ds : List Char) :
    unblanked place (cs ++ ds)
      = unblanked place cs ++ unblanked (cs.foldl Place.next place) ds := by
  induction cs generalizing place with
  | nil => rfl
  | cons c cs ih =>
    rw [List.cons_append, unblanked, unblanked, ih]
    split <;> rfl

/-- What is left has its strings where they were, and no more blanks to leave out. -/
theorem unblanked_unblanked (place : Place) (cs : List Char) :
    unblanked place (unblanked place cs) = unblanked place cs
      ∧ (unblanked place cs).foldl Place.next place = cs.foldl Place.next place := by
  induction cs generalizing place with
  | nil => exact ⟨rfl, rfl⟩
  | cons c cs ih =>
    rw [unblanked, List.foldl_cons]
    split
    · rename_i hblank
      obtain ⟨rfl, hspace⟩ := hblank
      rw [next_outside hspace]
      exact ih .outside
    · rename_i hkeep
      obtain ⟨htext, hplace⟩ := ih (place.next c)
      rw [unblanked, if_neg hkeep, htext, List.foldl_cons, hplace]
      exact ⟨rfl, rfl⟩

/-- Outside of strings at both ends, a text is another one without the blanks. -/
def Shrinks (cs ds : List Char) : Prop :=
  unblanked .outside cs = ds ∧ cs.foldl Place.next .outside = .outside

namespace Shrinks

variable {cs cs' ds ds' : List Char}

theorem nil : Shrinks [] [] := ⟨rfl, rfl⟩

theorem append (h : Shrinks cs ds) (h' : Shrinks cs' ds') : Shrinks (cs ++ cs') (ds ++ ds') :=
  ⟨by rw [unblanked_append, h.1, h.2, h'.1], by rw [List.foldl_append, h.2, h'.2]⟩

/-- A text without such blanks is itself. -/
theorem self (h : Shrinks cs ds) : Shrinks ds ds := by
  obtain ⟨htext, hplace⟩ := unblanked_unblanked .outside cs
  rw [h.1] at htext hplace
  exact ⟨htext, hplace.trans h.2⟩

theorem of_isGap (h : IsGap cs) : Shrinks cs [] := by
  induction cs with
  | nil => exact nil
  | cons c cs ih =>
    obtain ⟨hc, hcs⟩ := List.forall_mem_cons.1 h
    obtain ⟨htext, hplace⟩ := ih hcs
    rw [Shrinks, unblanked, if_pos ⟨rfl, hc⟩, List.foldl_cons, next_outside hc]
    exact ⟨htext, hplace⟩

theorem of_bare (h : ∀ c ∈ cs, isSpace c = false ∧ c ≠ '"') : Shrinks cs cs := by
  induction cs with
  | nil => exact nil
  | cons c cs ih =>
    obtain ⟨⟨hspace, hquote⟩, hcs⟩ := List.forall_mem_cons.1 h
    obtain ⟨htext, hplace⟩ := ih hcs
    have hnext : Place.next .outside c = .outside := if_neg hquote
    rw [Shrinks, unblanked, if_neg (by simp [hspace]), List.foldl_cons, hnext]
    exact ⟨congrArg _ htext, hplace⟩

end Shrinks

/-- Text in a string that neither ends it nor escapes anything. -/
theorem inside_plain {cs : List Char} (h : ∀ c ∈ cs, c ≠ '"' ∧ c ≠ '\\') :
    cs.foldl Place.next .inside = .inside ∧ unblanked .inside cs = cs := by
  induction cs with
  | nil => exact ⟨rfl, rfl⟩
  | cons c cs ih =>
    obtain ⟨⟨hquote, hslash⟩, hcs⟩ := List.forall_mem_cons.1 h
    obtain ⟨hplace, htext⟩ := ih hcs
    have hnext : Place.next .inside c = .inside := by simp [Place.next, hquote, hslash]
    rw [List.foldl_cons, unblanked, hnext, if_neg (by simp)]
    exact ⟨hplace, congrArg _ htext⟩

theorem plain_lastDigits (width n : Nat) :
    ∀ c ∈ Text.lastDigits 16 width n, c ≠ '"' ∧ c ≠ '\\' := by
  induction width generalizing n with
  | zero => exact nofun
  | succ width ih =>
    have hdigit : ∀ v < 16, Text.digitChar v ≠ '"' ∧ Text.digitChar v ≠ '\\' := by decide
    intro c hc
    rcases List.mem_append.1 hc with hc | hc
    · exact ih _ c hc
    · obtain rfl := List.mem_singleton.1 hc
      exact hdigit _ (Nat.mod_lt _ (by decide))

/-- What is written for a character in a string stays in the string. -/
theorem inside_escapeChar (c : Char) :
    (escapeChar c).foldl Place.next .inside = .inside
      ∧ unblanked .inside (escapeChar c) = escapeChar c := by
  unfold escapeChar
  split_ifs with hquote hslash
  · decide
  · decide
  · decide
  · decide
  · decide
  · decide
  · decide
  · obtain ⟨hplace, htext⟩ := inside_plain (plain_lastDigits 4 c.toNat)
    exact ⟨hplace, by simpa [unblanked, Place.next] using htext⟩
  · exact inside_plain (by simp [hquote, hslash])

theorem shrinks_quote (s : String) : Shrinks (quote s) (quote s) := by
  have hinside (cs : List Char) : (cs.flatMap escapeChar).foldl Place.next .inside = .inside
      ∧ unblanked .inside (cs.flatMap escapeChar) = cs.flatMap escapeChar := by
    induction cs with
    | nil => exact ⟨rfl, rfl⟩
    | cons c cs ih =>
      obtain ⟨hplace, htext⟩ := inside_escapeChar c
      rw [List.flatMap_cons, List.foldl_append, unblanked_append, hplace, htext, ih.1, ih.2]
      exact ⟨rfl, rfl⟩
  obtain ⟨hplace, htext⟩ := hinside s.toList
  constructor
  · show '"' :: unblanked .inside (s.toList.flatMap escapeChar ++ ['"']) = _
    rw [unblanked_append, htext, hplace]
    rfl
  · show (s.toList.flatMap escapeChar ++ ['"']).foldl Place.next .inside = _
    rw [List.foldl_append, hplace]
    rfl

theorem shrinks_toString (n : Int) : Shrinks (toString n).toList (toString n).toList := by
  have hbare {c : Char} (h : c = '-' ∨ c.isDigit = true) : isSpace c = false ∧ c ≠ '"' := by
    refine ⟨(isSpace_number h).1, ?_⟩
    rintro rfl
    simp at h
  have hdigits (n : Nat) : ∀ c ∈ Nat.toDigits 10 n, c.isDigit = true :=
    fun c hc => Nat.isDigit_of_mem_toDigits (by decide) (by decide) hc
  refine .of_bare fun c hc => hbare ?_
  cases n with
  | ofNat n =>
    rw [show (toString (Int.ofNat n)).toList = Nat.toDigits 10 n from Nat.toList_repr] at hc
    exact .inr (hdigits n c hc)
  | negSucc n =>
    rw [toString_negSucc, List.mem_cons] at hc
    exact hc.imp_right (hdigits _ c)

theorem Shrinks.char {c : Char} (hspace : isSpace c = false) (hquote : c ≠ '"') :
    Shrinks [c] [c] := .of_bare (by simp [hspace, hquote])

/-- A part of a container on a line of its own. -/
theorem Shrinks.line {cs ds : List Char} (h : Shrinks cs ds) (level : Nat) {c : Char}
    (hspace : isSpace c = false) (hquote : c ≠ '"') :
    Shrinks (c :: newLine level ++ cs) (c :: ds) :=
  (Shrinks.char hspace hquote).append ((Shrinks.of_isGap (isGap_newLine level)).append h)

theorem Shrinks.member {cs ds : List Char} (h : Shrinks cs ds) (name : String) :
    Shrinks (quote name ++ ':' :: ' ' :: cs) (quote name ++ ':' :: ds) :=
  (shrinks_quote name).append
    ((Shrinks.char rfl (by decide)).append ((Shrinks.of_isGap isGap_space).append h))

mutual

/-- The spelling over several lines has the characters of the other one, and blanks. -/
theorem shrinks_prettyChars : ∀ (level : Nat) (j : Json), Whole j →
    Shrinks (prettyChars level j) (compactChars j)
  | _, null, _ => .of_bare (by simp [prettyChars, isSpace])
  | _, bool true, _ => .of_bare (by simp [prettyChars, isSpace])
  | _, bool false, _ => .of_bare (by simp [prettyChars, isSpace])
  | _, int n, _ => shrinks_toString n
  | _, str s, _ => shrinks_quote s
  | _, arr [], _ => .of_bare (by simp [prettyChars, isSpace])
  | level, arr (item :: items), .arr h => by
    have h := List.forall_mem_cons.1 h
    have hitem := (shrinks_prettyChars (level + 1) item h.1).line (level + 1)
      (show isSpace '[' = false from rfl) (by decide)
    exact hitem.append (shrinks_prettyItems level items h.2)
  | _, obj [], _ => .of_bare (by simp [prettyChars, isSpace])
  | level, obj ((name, value) :: members), .obj h => by
    have h := List.forall_mem_cons.1 h
    have hmember := ((shrinks_prettyChars (level + 1) value h.1).member name).line (level + 1)
      (show isSpace '\x7b' = false from rfl) (by decide)
    simpa [prettyChars, compactChars] using hmember.append (shrinks_prettyMembers level members h.2)

theorem shrinks_prettyItems : ∀ (level : Nat) (items : List Json), (∀ item ∈ items, Whole item) →
    Shrinks (prettyItems level items) (compactItems items)
  | level, [], _ => (Shrinks.of_isGap (isGap_newLine level)).append (.char rfl (by decide))
  | level, item :: items, h => by
    have h := List.forall_mem_cons.1 h
    have hitem := (shrinks_prettyChars (level + 1) item h.1).line (level + 1)
      (show isSpace ',' = false from rfl) (by decide)
    exact hitem.append (shrinks_prettyItems level items h.2)

theorem shrinks_prettyMembers : ∀ (level : Nat) (members : List (String × Json)),
    (∀ m ∈ members, Whole m.2) → Shrinks (prettyMembers level members) (compactMembers members)
  | level, [], _ => (Shrinks.of_isGap (isGap_newLine level)).append (.char rfl (by decide))
  | level, (name, value) :: members, h => by
    have h := List.forall_mem_cons.1 h
    have hmember := ((shrinks_prettyChars (level + 1) value h.1).member name).line (level + 1)
      (show isSpace ',' = false from rfl) (by decide)
    simpa [prettyMembers, compactMembers] using
      hmember.append (shrinks_prettyMembers level members h.2)

end

end Json

end RichChat
