/-!
# Lines of a text

A text is cut after each line feed (`pieces`), so that putting the pieces back together gives the
text (`flatten_pieces`). `lines` gives the lines without their ends.
-/

namespace RichChat.Text

/-- The text cut after each line feed. No piece is empty. -/
def pieces : List Char → List (List Char)
  | [] => []
  | c :: cs =>
    if c = '\n' then ['\n'] :: pieces cs
    else match pieces cs with
      | [] => [[c]]
      | p :: ps => (c :: p) :: ps

theorem flatten_pieces (cs : List Char) : (pieces cs).flatten = cs := by
  induction cs with
  | nil => rfl
  | cons c cs ih =>
    rw [pieces]
    split
    · simp [*]
    · split <;> simp_all

theorem ne_nil_of_mem_pieces {cs p : List Char} (h : p ∈ pieces cs) : p ≠ [] := by
  induction cs generalizing p with
  | nil => simp [pieces] at h
  | cons c cs ih =>
    rw [pieces] at h
    split at h
    · rcases List.mem_cons.1 h with rfl | h
      · simp
      · exact ih h
    · split at h
      · simp_all
      · next q qs hq =>
        rcases List.mem_cons.1 h with rfl | h
        · simp
        · exact ih (by simp [hq, h])

/-- A line without its end: one line feed, and one carriage return before it. -/
def withoutEnd (line : List Char) : List Char :=
  match line.reverse with
  | '\n' :: '\r' :: cs => cs.reverse
  | '\n' :: cs => cs.reverse
  | _ => line

def lines (cs : List Char) : List (List Char) :=
  (pieces cs).map withoutEnd

/-- The text cut at each occurrence of a character, which belongs to no part. -/
def splitAt (sep : Char) : List Char → List (List Char)
  | [] => [[]]
  | c :: cs =>
    if c = sep then [] :: splitAt sep cs
    else match splitAt sep cs with
      | [] => [[c]]
      | p :: ps => (c :: p) :: ps

/-- The parts put together with a separator between them. -/
def join (sep : List Char) : List (List Char) → List Char
  | [] => []
  | [p] => p
  | p :: ps => p ++ sep ++ join sep ps

theorem splitAt_ne_nil (sep : Char) (cs : List Char) : splitAt sep cs ≠ [] := by
  cases cs with
  | nil => simp [splitAt]
  | cons c cs =>
    rw [splitAt]
    split
    · simp
    · split <;> simp

end RichChat.Text
